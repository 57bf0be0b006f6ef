import QueryableApi.Proofs.Entries
import QueryableApi.Proofs.OpenApi.Discovery
import QueryableApi.Proofs.OpenApi.ItemSchema
import QueryableApi.Proofs.Schema

/-! # The names of discovered properties

A member of an object schema is kept only if its name is new, at every frame of the walk through the
document, so the properties of a discovered schema have distinct names; and only those that are
appended for parents are marked as carrying the identifier of one
(`isItemSchema_of_collectionAt?`). -/

namespace QueryableApi.OpenApi

variable {root document schema : Json} {path : String} {pathItem : Json} {c : Collection}

/-! ## Members -/

/-- Members with new names keep names distinct. -/
theorem distinct_add {known : Entries Json} (h : Entries.Distinct known)
    (members : List (String × Json)) : Entries.Distinct (Members.add known members) := by
  induction members generalizing known with
  | nil => exact h
  | cons m rest ih =>
      obtain ⟨name, schema⟩ := m
      rw [Members.add]
      split
      · exact ih h
      · next hnew =>
        have hkey : name ∉ Entries.keys known := by
          rw [← Entries.get?_eq_none_iff, ← Option.not_isSome_iff_eq_none]
          exact hnew
        exact ih (Entries.distinct_append_singleton h hkey schema)

/-- **Collecting members keeps their names distinct.** -/
theorem distinct_collect (root : Json) (room : Nat) (active : List (List Char)) {known : Members}
    (h : Entries.Distinct known.properties) (schema : Json) :
    Entries.Distinct (collect root room active known schema).properties := by
  -- on the frames that may still be opened: a reference and each part of a schema take one
  induction room generalizing active known schema with
  | zero => exact h
  | succ room ih =>
      cases hactive : Frames.isActive active (reference? schema) with
      | true =>
          rw [collect_of_active hactive]
          exact h
      | false =>
          cases href : reference? schema with
          | some reference =>
              rw [href] at hactive
              rw [collect_of_reference href hactive]
              cases target? root reference with
              | none => exact h
              | some target => exact ih _ h target
          | none =>
              rw [collect_of_none href]
              refine List.foldlRecOn
                (motive := fun known : Members => Entries.Distinct known.properties) _ _
                (distinct_add h _) fun known hknown part _ => ?_
              exact ih _ hknown part

/-! ## Schemas -/

/-- An **item schema** with some parents: its properties have distinct names in payloads, and those
that are marked as carrying the identifier of a parent have the name for it. -/
structure IsItemSchema (parents : List String) (schema : Schema) : Prop where
  /-- No two properties have one name. -/
  distinct : schema.HasDistinctNames
  /-- A marked property has the name of a parent. -/
  marked : ∀ p ∈ schema, p.ofParent = true → p.name ∈ parents

/-- The type of the elements and what is nested are all that a property has beside its declared type. -/
theorem exists_propertyOf_eq (objectSchema : Json → Schema) (name : String) (required : Bool) :
    ∃ itemsType nested, propertyOf root objectSchema name schema required =
      { plainProperty root name schema required with itemsType, nested } := by
  unfold propertyOf
  dsimp only
  split
  · exact ⟨_, _, rfl⟩
  · split
    · exact ⟨_, _, rfl⟩
    · exact ⟨_, _, rfl⟩
  · exact ⟨_, _, rfl⟩

/-- A property that a member stands for has the name of the member and is not marked. -/
theorem name_propertyOf (objectSchema : Json → Schema) (name : String) (required : Bool) :
    (propertyOf root objectSchema name schema required).name = name ∧
      (propertyOf root objectSchema name schema required).ofParent = false := by
  obtain ⟨_, _, h⟩ := exists_propertyOf_eq objectSchema name required
  rw [h]
  exact ⟨rfl, rfl⟩

/-- It is required as the member is. -/
theorem required_propertyOf (objectSchema : Json → Schema) (name : String) (required : Bool) :
    (propertyOf root objectSchema name schema required).required = required := by
  obtain ⟨_, _, h⟩ := exists_propertyOf_eq objectSchema name required
  rw [h]
  rfl

/-- **Induction on the frames of an object schema.** It is empty, or that of the target of a reference
one frame further in, or it has a property for each of some members with distinct names, and what is
nested in these is read one frame further in. -/
theorem objectWithin_induction {motive : Nat → Schema → Prop} (root : Json)
    (empty : ∀ room, motive room [])
    (target : ∀ room schema, motive room schema → motive (room + 1) schema)
    (members : ∀ room (inner : Json → Schema) (members : Entries Json) (required : List String),
      (∀ schema, motive room (inner schema)) → Entries.Distinct members →
        motive (room + 1) (members.map fun m =>
          propertyOf root inner m.1 m.2 (required.contains m.1)))
    (room : Nat) (active : List (List Char)) (schema : Json) :
    motive room (objectWithin root room active schema) := by
  induction room generalizing active schema with
  | zero => exact empty 0
  | succ room ih =>
      cases hactive : Frames.isActive active (reference? schema) with
      | true =>
          rw [objectWithin_of_active hactive]
          exact empty _
      | false =>
          cases href : reference? schema with
          | some reference =>
              rw [href] at hactive
              rw [objectWithin_of_reference href hactive]
              cases target? root reference with
              | none => exact empty _
              | some found => exact target room _ (ih _ found)
          | none =>
              rw [objectWithin_of_none href]
              have hdistinct : Entries.Distinct ({} : Members).properties := List.nodup_nil
              exact members room _ _ _ (fun inner => ih _ inner) (distinct_collect root room _ hdistinct _)

/-- The properties of members with distinct names have distinct names. -/
theorem hasDistinctNames_propertyOf {members : Entries Json} (h : Entries.Distinct members)
    (inner : Json → Schema) (required : List String) :
    Schema.HasDistinctNames (members.map fun m =>
      propertyOf root inner m.1 m.2 (required.contains m.1)) := by
  rw [Schema.HasDistinctNames, List.map_map]
  refine Eq.mp (congrArg List.Nodup ?_) h
  exact List.map_congr_left fun m _ => (name_propertyOf _ _ _).1.symm

/-- The schema of an object has distinct names, and no property is marked. -/
theorem isItemSchema_objectWithin (parents : List String) (root : Json) (room : Nat)
    (active : List (List Char)) (schema : Json) :
    IsItemSchema parents (objectWithin root room active schema) := by
  refine objectWithin_induction (motive := fun _ schema => IsItemSchema parents schema) root
    (fun _ => ⟨List.nodup_nil, by simp⟩) (fun _ _ h => h) ?_ room active schema
  intro _ inner members required _ hdistinct
  refine ⟨hasDistinctNames_propertyOf hdistinct inner required, fun p hp hmarked => ?_⟩
  obtain ⟨m, -, rfl⟩ := List.mem_map.mp hp
  rw [(name_propertyOf _ _ _).2] at hmarked
  cases hmarked

/-- Properties are appended for parents only under new names. -/
theorem isItemSchema_withParents {schema : Schema} (parents : Option Parents)
    (h : IsItemSchema (parents.elim [] Parents.properties) schema) :
    IsItemSchema (parents.elim [] Parents.properties) (withParents schema parents) := by
  refine List.foldlRecOn _ _ h fun schema hschema name hname => ?_
  split
  · exact hschema
  · next hnew =>
    have hmissing := List.find?_eq_none.mp (Option.not_isSome_iff_eq_none.mp hnew)
    constructor
    · rw [Schema.HasDistinctNames, List.map_append, List.map_singleton, ← List.concat_eq_append,
        List.nodup_concat]
      refine ⟨fun hmem => ?_, hschema.distinct⟩
      obtain ⟨p, hp, hpname⟩ := List.mem_map.mp hmem
      exact hmissing p hp (beq_iff_eq.mpr hpname)
    · intro p hp hmarked
      rcases List.mem_append.mp hp with hp | hp
      · exact hschema.marked p hp hmarked
      · rw [List.mem_singleton.mp hp]
        exact hname

/-- **The schema of a discovered collection is an item schema** with the parents of the collection. -/
theorem isItemSchema_of_collectionAt? (h : collectionAt? document path pathItem = some c) :
    IsItemSchema c.toResource.parentProperties c.schema := by
  obtain ⟨operation, response, items, h⟩ := exists_isListedAt h
  rw [h.schema]
  exact isItemSchema_withParents c.parents (isItemSchema_objectWithin _ _ _ _ _)

end QueryableApi.OpenApi
