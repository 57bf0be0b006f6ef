import QueryableApi.Proofs.OpenApi.Discovery

/-! # Paths that can be listed

A path can be listed under a name if the name is read off it and its `get` operation answers the status
200 with an array of objects, or with an object that wraps one: under a usual name, or as the only such
array (`ListsObjects`). A path contributes a collection iff it can be listed, and then one of that name
(`isListable_iff`). -/

namespace QueryableApi.OpenApi

variable {document schema items response pathItem : Json} {path name : String}
  {properties : Entries Json} {found : List (String × Json)}

/-- A schema is one of **arrays of objects**, whose elements have the schema `items`. -/
structure IsObjectArray (document schema items : Json) : Prop where
  /-- It is a schema of arrays. -/
  isArray : typeOf document schema = "array"
  /-- It says what the elements are. -/
  elements : schema.get? "items" = some items
  /-- They are objects. -/
  areObjects : typeOf document items = "object"

/-- A member of an object schema **wraps objects**: behind its references it is an array of them. -/
def WrapsObjects (document : Json) (member : String × Json) : Prop :=
  ∃ items, IsObjectArray document (dereference document member.2) items

/-- A schema **lists objects**. -/
inductive ListsObjects (document schema : Json) : Prop
  /-- It is one of arrays of objects. -/
  | array {items : Json} (objects : IsObjectArray document schema items)
  /-- It wraps objects under a usual name. -/
  | usual {properties : Entries Json} {member : String × Json}
      (noArray : typeOf document schema ≠ "array")
      (declared : (schema.get? "properties").bind Json.object? = some properties)
      (mem : member ∈ properties) (wraps : WrapsObjects document member)
      (named : member.1 ∈ Listing.wrapperNames)
  /-- It wraps objects under one member only. -/
  | only {properties before after : Entries Json} {member : String × Json}
      (noArray : typeOf document schema ≠ "array")
      (declared : (schema.get? "properties").bind Json.object? = some properties)
      (split : properties = before ++ member :: after) (wraps : WrapsObjects document member)
      (alone : ∀ other ∈ before ++ after, ¬ WrapsObjects document other)

/-- A path **can be listed under a name**. -/
structure IsListable (document : Json) (path : String) (pathItem : Json) (name : String) : Prop where
  /-- The name is read off the path. -/
  named : ∃ parents, collectionName? path = some (name, parents)
  /-- It has a `get` operation, whose answers list objects. -/
  answers : ∃ operation response, pathItem.get? "get" = some operation ∧
    responseSchema? document operation = some response ∧
    ListsObjects document (dereference document response)

/-! ## Schemas that list objects -/

/-- The elements that are found are those of an array of objects. -/
theorem objectElements?_eq_some_iff :
    objectElements? document schema = some items ↔ IsObjectArray document schema items := by
  unfold objectElements?
  constructor
  · intro h
    split at h
    · next harray =>
      split at h
      · next found helements =>
        split at h
        · next hobjects =>
          obtain rfl := Option.some.inj h
          exact ⟨beq_iff_eq.mp harray, helements, beq_iff_eq.mp hobjects⟩
        · cases h
      · cases h
    · cases h
  · intro h
    simp [h.isArray, h.elements, h.areObjects]

/-- A member wraps objects iff it is found to. -/
theorem wrapsObjects_iff {member : String × Json} :
    WrapsObjects document member ↔
      ∃ items, objectElements? document (dereference document member.2) = some items :=
  exists_congr fun _ => objectElements?_eq_some_iff.symm

/-- A member does not wrap objects iff it is not found to. -/
theorem not_wrapsObjects_iff {member : String × Json} :
    ¬ WrapsObjects document member ↔
      objectElements? document (dereference document member.2) = none := by
  rw [wrapsObjects_iff, Option.eq_none_iff_forall_ne_some, not_exists]

/-- The wrappers that are found are the members that wrap objects. -/
theorem exists_mem_wrappers_iff (p : String → Prop) :
    (∃ w ∈ wrappers document properties, p w.1) ↔
      ∃ member ∈ properties, WrapsObjects document member ∧ p member.1 := by
  constructor
  · rintro ⟨w, hw, hp⟩
    obtain ⟨member, hmem, hfound⟩ := List.mem_filterMap.mp hw
    obtain ⟨items, hitems, rfl⟩ := Option.map_eq_some_iff.mp hfound
    exact ⟨member, hmem, wrapsObjects_iff.mpr ⟨items, hitems⟩, hp⟩
  · rintro ⟨member, hmem, hwraps, hp⟩
    obtain ⟨items, hitems⟩ := wrapsObjects_iff.mp hwraps
    exact ⟨(member.1, items), List.mem_filterMap.mpr ⟨member, hmem, by simp [hitems]⟩, hp⟩

/-- One wrapper is found iff one member wraps objects. -/
theorem exists_wrappers_eq_singleton_iff :
    (∃ w, wrappers document properties = [w]) ↔
      ∃ before member after, properties = before ++ member :: after ∧
        WrapsObjects document member ∧
        ∀ other ∈ before ++ after, ¬ WrapsObjects document other := by
  constructor
  · rintro ⟨w, h⟩
    obtain ⟨before, member, after, hsplit, hbefore, hmember, hafter⟩ :=
      List.filterMap_eq_cons_iff.mp h
    obtain ⟨items, hitems, -⟩ := Option.map_eq_some_iff.mp hmember
    refine ⟨before, member, after, hsplit, wrapsObjects_iff.mpr ⟨items, hitems⟩, ?_⟩
    intro other hother
    rw [not_wrapsObjects_iff]
    rcases List.mem_append.mp hother with hother | hother
    · exact Option.map_eq_none_iff.mp (hbefore other hother)
    · exact Option.map_eq_none_iff.mp (List.filterMap_eq_nil_iff.mp hafter other hother)
  · rintro ⟨before, member, after, hsplit, hwraps, halone⟩
    obtain ⟨items, hitems⟩ := wrapsObjects_iff.mp hwraps
    have hnone : ∀ other ∈ before ++ after,
        (objectElements? document (dereference document other.2)).map (fun items => (other.1, items))
          = none := by
      intro other hother
      rw [not_wrapsObjects_iff.mp (halone other hother), Option.map_none]
    refine ⟨(member.1, items), List.filterMap_eq_cons_iff.mpr ?_⟩
    have hsome : (objectElements? document (dereference document member.2)).map
        (fun items => (member.1, items)) = some (member.1, items) := by
      rw [hitems, Option.map_some]
    refine ⟨before, member, after, hsplit, ?_, hsome, ?_⟩
    · exact fun other hother => hnone other (List.mem_append_left _ hother)
    · refine List.filterMap_eq_nil_iff.mpr fun other hother => ?_
      exact hnone other (List.mem_append_right _ hother)

/-- A wrapper is chosen iff one has a usual name, or there is only one. -/
theorem exists_chooseWrapper?_iff :
    (∃ w, chooseWrapper? found = some w) ↔
      (∃ w ∈ found, w.1 ∈ Listing.wrapperNames) ∨ ∃ w, found = [w] := by
  have husual : (∃ w, (Listing.wrapperNames.findSome? fun name =>
      found.find? fun w => w.1 == name) = some w) ↔
      ∃ w ∈ found, w.1 ∈ Listing.wrapperNames := by
    rw [← Option.isSome_iff_exists, List.findSome?_isSome_iff]
    constructor
    · rintro ⟨name, hname, hfound⟩
      obtain ⟨w, hw, heq⟩ := List.find?_isSome.mp hfound
      rw [← beq_iff_eq.mp heq] at hname
      exact ⟨w, hw, hname⟩
    · rintro ⟨w, hw, hname⟩
      exact ⟨w.1, hname, List.find?_isSome.mpr ⟨w, hw, beq_self_eq_true _⟩⟩
  rw [← husual]
  unfold chooseWrapper?
  dsimp only
  -- a usual name, the only wrapper, or none
  split
  · next w hw => exact iff_of_true ⟨w, rfl⟩ (Or.inl ⟨w, hw⟩)
  · next w hnone => exact iff_of_true ⟨w, rfl⟩ (Or.inr ⟨w, rfl⟩)
  · next hmany hnone =>
    refine iff_of_false (fun ⟨_, h⟩ => by cases h) ?_
    rintro (⟨w, hw⟩ | ⟨w, hw⟩)
    · rw [hnone] at hw
      cases hw
    · exact hmany w hw

/-- **Items are found in a response iff its schema lists objects.** -/
theorem exists_itemSchema?_iff :
    (∃ items itemsPath, itemSchema? document response = some (items, itemsPath)) ↔
      ListsObjects document (dereference document response) := by
  unfold itemSchema?
  dsimp only
  split
  · next harray =>
    have harray := beq_iff_eq.mp harray
    constructor
    · rintro ⟨_, _, h⟩
      obtain ⟨items, hitems, -⟩ := Option.map_eq_some_iff.mp h
      exact .array (objectElements?_eq_some_iff.mp hitems)
    · intro h
      cases h with
      | array hobjects =>
          exact ⟨_, _, Option.map_eq_some_iff.mpr ⟨_, objectElements?_eq_some_iff.mpr hobjects, rfl⟩⟩
      | usual hno | only hno => exact absurd harray hno
  · next hno =>
    have hno : typeOf document (dereference document response) ≠ "array" :=
      fun h => hno (beq_iff_eq.mpr h)
    constructor
    · rintro ⟨_, _, h⟩
      obtain ⟨properties, hproperties, h⟩ := Option.bind_eq_some_iff.mp h
      obtain ⟨w, hw, -⟩ := Option.bind_eq_some_iff.mp h
      rcases exists_chooseWrapper?_iff.mp ⟨w, hw⟩ with husual | honly
      · obtain ⟨member, hmem, hwraps, hname⟩ := (exists_mem_wrappers_iff _).mp husual
        exact .usual hno hproperties hmem hwraps hname
      · obtain ⟨_, member, _, hsplit, hwraps, halone⟩ := exists_wrappers_eq_singleton_iff.mp honly
        exact .only hno hproperties hsplit hwraps halone
    · intro h
      obtain ⟨properties, w, hproperties, hw⟩ : ∃ properties w,
          ((dereference document response).get? "properties").bind Json.object? = some properties ∧
            chooseWrapper? (wrappers document properties) = some w := by
        cases h with
        | array hobjects => exact absurd hobjects.isArray hno
        | usual _ hproperties hmem hwraps hname =>
            have husual := (exists_mem_wrappers_iff _).mpr ⟨_, hmem, hwraps, hname⟩
            obtain ⟨w, hw⟩ := exists_chooseWrapper?_iff.mpr (Or.inl husual)
            exact ⟨_, w, hproperties, hw⟩
        | only _ hproperties hsplit hwraps halone =>
            have honly := exists_wrappers_eq_singleton_iff.mpr ⟨_, _, _, hsplit, hwraps, halone⟩
            obtain ⟨w, hw⟩ := exists_chooseWrapper?_iff.mpr (Or.inr honly)
            exact ⟨_, w, hproperties, hw⟩
      refine ⟨w.2, some w.1, Option.bind_eq_some_iff.mpr ⟨properties, hproperties, ?_⟩⟩
      exact Option.bind_eq_some_iff.mpr ⟨w, hw, rfl⟩

/-! ## Paths -/

/-- **A path contributes a collection iff it can be listed**, and then one of that name. -/
theorem isListable_iff :
    IsListable document path pathItem name ↔
      ∃ c, collectionAt? document path pathItem = some c ∧ c.name = name := by
  constructor
  · rintro ⟨⟨parents, hname⟩, operation, response, hoperation, hresponse, hlists⟩
    obtain ⟨items, itemsPath, hitems⟩ := exists_itemSchema?_iff.mpr hlists
    simp [collectionAt?, hoperation, hname, hresponse, hitems]
  · rintro ⟨c, hc, rfl⟩
    obtain ⟨operation, response, items, h⟩ := exists_isListedAt hc
    have hlists := exists_itemSchema?_iff.mp ⟨items, c.itemsPath, h.itemsPath⟩
    exact ⟨⟨c.parents, h.named⟩, operation, response, h.listed, h.answered, hlists⟩

end QueryableApi.OpenApi
