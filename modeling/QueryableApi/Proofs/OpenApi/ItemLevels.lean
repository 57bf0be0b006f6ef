import QueryableApi.Proofs.Checks
import QueryableApi.Proofs.OpenApi.ItemNames
import QueryableApi.Proofs.OpenApi.ObjectWalk
import QueryableApi.Proofs.Schema.Nesting

/-! # The levels of discovered schemas

A property carries a schema if it is an object or a list of objects, whatever the document says it
consists of, and the schema is read one frame further in. So the walk that reads a discovered schema ends
(`IsReadByWalk`), and the schema is sound at every level (`IsSound`), also where the document refers to
itself: it nests no deeper than frames may be opened. Parents are appended where they are missing, so each
parent property is there exactly once (`discovered_schemas_sound`). -/

namespace QueryableApi.OpenApi

open Schema (AtEveryLevel NestsWithin)

variable {root document source : Json} {inner : Json → Schema} {schema nested : Schema}
  {name : String} {required : Bool} {paths : Entries Json} {levels : Nat}

/-- A schema is **sound**: the properties have distinct names in payloads, objects and lists of objects
carry schemas of their own, and these nest at most so many levels deep. -/
structure IsSound (levels : Nat) (schema : Schema) : Prop where
  /-- No two properties have one name. -/
  distinct : schema.HasDistinctNames
  /-- Every object and every list of objects carries a schema. -/
  carries : schema.CarriesNested
  /-- There are no more levels with properties. -/
  nests : schema.NestsWithin levels

/-! ## Nested schemas -/

/-- Only one name is that of objects. -/
theorem eq_of_ofName?_object {type : String} (h : Kind.ofName? type = some .object) :
    type = Kind.object.name := by
  unfold Kind.ofName? at h
  split at h
  all_goals cases h
  rfl

/-- What a property carries is read off a schema of the document. -/
theorem exists_nested_propertyOf
    (h : (propertyOf root inner name source required).nested = some nested) :
    ∃ source, nested = inner source := by
  rw [nested_propertyOf] at h
  obtain ⟨source, -, rfl⟩ := Option.map_eq_some_iff.mp h
  exact ⟨source, rfl⟩

/-- **A property carries a schema if it needs one.** -/
theorem carriesNested_propertyOf (root : Json) (inner : Json → Schema) (name : String) (source : Json)
    (required : Bool) : (propertyOf root inner name source required).CarriesNested := by
  unfold propertyOf
  dsimp only
  split
  · exact fun _ => ⟨_, rfl⟩
  · next harray =>
    have hkind : (plainProperty root name source required).kind = .ok .array :=
      Kind.parse_eq_ok_iff.mpr harray
    split
    · rintro (hobject | ⟨-, hitems⟩)
      · cases hkind.symm.trans hobject
      · cases hitems
    · next items _ =>
      rintro (hobject | ⟨-, hitems⟩)
      · cases hkind.symm.trans hobject
      · -- the type of the elements is the name of objects
        obtain ⟨kind, hparse, hsome⟩ := Checks.map_eq_ok_iff.mp hitems
        obtain rfl := Option.some.inj hsome
        have htype := eq_of_ofName?_object (Kind.parse_eq_ok_iff.mp hparse)
        exact ⟨inner items, if_pos (beq_iff_eq.mpr htype)⟩
  · next hobject harray =>
    rintro (h | ⟨h, -⟩)
    · exact absurd (Kind.parse_eq_ok_iff.mp h) hobject
    · exact absurd (Kind.parse_eq_ok_iff.mp h) harray

/-! ## Schemas of objects -/

/-- The schema of an object has distinct names and carries what it needs at every level, and it nests no
deeper than frames may be opened. -/
theorem isSound_objectWithin (root : Json) (room : Nat) (active : List (List Char)) (source : Json) :
    AtEveryLevel (fun s => s.HasDistinctNames ∧ s.CarriesNested) (objectWithin root room active source) ∧
      NestsWithin room (objectWithin root room active source) := by
  refine objectWithin_induction (motive := fun room schema =>
    AtEveryLevel (fun s => s.HasDistinctNames ∧ s.CarriesNested) schema ∧ NestsWithin room schema) root
    (fun room => ⟨?_, Schema.nestsWithin_nil room⟩) (fun _ _ h => ⟨h.1, h.2.succ⟩)
    (fun room inner members required ih hdistinct => ?_) room active source
  · exact .of_flat ⟨List.nodup_nil, by simp [Schema.CarriesNested]⟩ (by simp)
  · have hbelow : ∀ p ∈ members.map fun m => propertyOf root inner m.1 m.2 (required.contains m.1),
        ∀ nested, p.nested = some nested → ∃ source, nested = inner source := by
      intro p hp nested hnested
      obtain ⟨m, -, rfl⟩ := List.mem_map.mp hp
      exact exists_nested_propertyOf hnested
    refine ⟨.intro ⟨hasDistinctNames_propertyOf hdistinct inner required, ?_⟩ ?_, ?_⟩
    · intro p hp
      obtain ⟨m, -, rfl⟩ := List.mem_map.mp hp
      exact carriesNested_propertyOf root inner m.1 m.2 _
    · intro p hp nested hnested
      obtain ⟨source, rfl⟩ := hbelow p hp nested hnested
      exact (ih source).1
    · intro p hp nested hnested
      obtain ⟨source, rfl⟩ := hbelow p hp nested hnested
      exact (ih source).2

/-! ## Parents -/

/-- A schema with a property for one parent. -/
def withParent (schema : Schema) (name : String) : Schema :=
  if (schema.property? name).isSome then schema
  else schema ++ [{ Property.ofKind .string name with required := true, ofParent := true }]

/-- Parents are appended one by one. -/
theorem withParents_eq (schema : Schema) (parents : Option Parents) :
    withParents schema parents = (parents.elim [] Parents.properties).foldl withParent schema := rfl

/-- The properties with that of a parent are those before, and a text that needs no schema. -/
theorem mem_withParent {p : Property} (h : p ∈ withParent schema name) :
    p ∈ schema ∨ p.nested = none ∧ p.kind = .ok .string := by
  rw [withParent] at h
  split at h
  · exact .inl h
  · rcases List.mem_append.mp h with h | h
    · exact .inl h
    · rw [List.mem_singleton.mp h]
      exact .inr ⟨rfl, Kind.parse_eq_ok_iff.mpr (Kind.ofName?_name .string)⟩

/-- The property of a parent is there afterwards. -/
theorem name_mem_withParent (schema : Schema) (name : String) :
    name ∈ (withParent schema name).map Property.name := by
  rw [withParent]
  split
  · next hsome =>
    obtain ⟨p, hp⟩ := Option.isSome_iff_exists.mp hsome
    have hname := List.find?_some hp
    exact List.mem_map.mpr ⟨p, List.mem_of_find?_eq_some hp, beq_iff_eq.mp hname⟩
  · rw [List.map_append]
    exact List.mem_append_right _ List.mem_cons_self

/-- Names stay. -/
theorem names_subset_withParent (schema : Schema) (name : String) :
    schema.map Property.name ⊆ (withParent schema name).map Property.name := by
  rw [withParent]
  split
  · exact List.Subset.refl _
  · rw [List.map_append]
    exact List.subset_append_left _ _

/-- Every parent is there after all are appended. -/
theorem mem_names_foldl_withParent (names : List String) (schema : Schema) :
    (∀ name ∈ names, name ∈ (names.foldl withParent schema).map Property.name) ∧
      schema.map Property.name ⊆ (names.foldl withParent schema).map Property.name := by
  induction names generalizing schema with
  | nil => exact ⟨by simp, List.Subset.refl _⟩
  | cons first rest ih =>
      obtain ⟨hrest, hstay⟩ := ih (withParent schema first)
      rw [List.foldl_cons]
      refine ⟨fun name hname => ?_, List.Subset.trans (names_subset_withParent schema first) hstay⟩
      rcases List.mem_cons.mp hname with rfl | hname
      · exact hstay (name_mem_withParent schema name)
      · exact hrest name hname

/-- The properties with those of all parents are those before, and texts that need no schema. -/
theorem mem_withParents {parents : Option Parents} {p : Property}
    (h : p ∈ withParents schema parents) : p ∈ schema ∨ p.nested = none ∧ p.kind = .ok .string := by
  rw [withParents_eq] at h
  revert p
  refine List.foldlRecOn (motive := fun found => ∀ {p : Property}, p ∈ found →
    p ∈ schema ∨ p.nested = none ∧ p.kind = .ok .string) _ _ (fun h => .inl h) fun found ih name _ p h => ?_
  exact (mem_withParent h).elim ih .inr

/-- The schema of a discovered collection is sound at every level. -/
theorem isSound_withParents (h : AtEveryLevel (fun s => s.HasDistinctNames ∧ s.CarriesNested) schema)
    (hnests : NestsWithin (levels + 1) schema) (parents : Option Parents)
    (hdistinct : (withParents schema parents).HasDistinctNames) :
    AtEveryLevel (IsSound (levels + 1)) (withParents schema parents) := by
  have hsound : AtEveryLevel (fun s => s.HasDistinctNames ∧ s.CarriesNested)
      (withParents schema parents) := by
    refine .intro ⟨hdistinct, fun p hp => ?_⟩ fun p hp nested hnested => ?_
    · rcases mem_withParents hp with hp | ⟨-, hkind⟩
      · exact h.holds.2 p hp
      · rintro (hobject | ⟨harray, -⟩)
        · cases hkind.symm.trans hobject
        · cases hkind.symm.trans harray
    · rcases mem_withParents hp with hp | ⟨hnone, -⟩
      · exact h.of_nested hp hnested
      · cases hnone.symm.trans hnested
  have hwithin : NestsWithin (levels + 1) (withParents schema parents) := by
    intro p hp nested hnested
    rcases mem_withParents hp with hp | ⟨hnone, -⟩
    · exact hnests p hp nested hnested
    · cases hnone.symm.trans hnested
  exact (hsound.and hwithin.atEveryLevel).imp fun _ h => ⟨h.1.1, h.1.2, h.2⟩

/-- A collection **is read by a walk**: it is listed at a path of the document, and its schema is what a
walk through that of its items reads from no open frame, which ends with none open, and the parents. -/
def IsReadByWalk (document : Json) (c : Collection) : Prop :=
  ∃ path pathItem operation response items objects,
    IsListedAt document path pathItem operation response items c ∧
      ObjectWalk document .fresh items objects .fresh ∧ c.schema = withParents objects c.parents

/-- **Discovered schemas are sound at every level**, whatever a document with paths refers to: what it
lists is found, each schema is read by a walk that ends, the properties have distinct names, objects and
lists of objects carry schemas, and there are at most 128 levels. Each parent property is there exactly
once. -/
theorem discovered_schemas_sound (hpaths : (document.get? "paths").bind Json.object? = some paths) :
    ∃ collections, collections? document = some collections ∧
      ∀ c ∈ collections, IsReadByWalk document c ∧ AtEveryLevel (IsSound 128) c.schema ∧
        ∀ name ∈ c.toResource.parentProperties, (c.schema.map Property.name).count name = 1 := by
  obtain ⟨collections, hfound⟩ : ∃ collections, collections? document = some collections := by
    rw [collections?, hpaths, Option.map_some]
    exact ⟨_, rfl⟩
  refine ⟨collections, hfound, fun c hc => ?_⟩
  obtain ⟨_, _, _, -, -, hat⟩ := collectionAt?_of_mem hfound hc
  have hdistinct := (isItemSchema_of_collectionAt? hat).distinct
  obtain ⟨operation, response, items, hlisted⟩ := exists_isListedAt hat
  have hwalk : IsReadByWalk document c :=
    ⟨_, _, operation, response, items, _, hlisted, objectWalk_iff.mpr ⟨rfl, rfl⟩, hlisted.schema⟩
  rw [hlisted.schema] at hdistinct ⊢
  obtain ⟨hlevels, hnests⟩ := isSound_objectWithin document maxFrames [] items
  refine ⟨hwalk, isSound_withParents hlevels hnests c.parents hdistinct, fun name hname => ?_⟩
  have hmem := (mem_names_foldl_withParent _ (objectSchema document items)).1 name hname
  exact List.count_eq_one_of_mem hdistinct hmem

/-! ## Schemas that refer to themselves -/

/-- A document with the rules of a CDN. A rule has a parent rule, which is a rule again, and a list of
groups, whose members are rules; it also includes itself. -/
def recursiveDocument : Json :=
  let ref (name : String) : Json := .object [("$ref", .string ("#/definitions/" ++ name))]
  let rule := .object [("type", .string "object"),
    ("properties", .object [("id", .object [("type", .string "string")]), ("parent", ref "Rule"),
      ("groups", .object [("type", .string "array"), ("items", ref "Group")])]),
    ("allOf", .array [ref "Rule"])]
  let group := .object [("type", .string "object"),
    ("properties", .object [("members", .object [("type", .string "array"), ("items", ref "Rule")])])]
  let body := .object [("type", .string "array"), ("items", ref "Rule")]
  let operation := .object [("responses", .object [("200", .object [("schema", body)])])]
  .object [("definitions", .object [("Rule", rule), ("Group", group)]),
    ("paths", .object [("/v1/cdns/{id}/rules", .object [("get", operation)])])]

/-- The rules of a CDN that refer to themselves. -/
theorem discovered_schemas_sound_rules :
    ((recursiveDocument.get? "paths").bind Json.object?).isSome ∧
      ∃ c, collections? recursiveDocument = some [c] ∧ IsReadByWalk recursiveDocument c ∧
        AtEveryLevel (IsSound 128) c.schema ∧
        c.schema.map Property.name = ["id", "parent", "groups", "cdns_v1_id"] ∧
        c.toResource.parentProperties = ["cdns_v1_id"] := by
  obtain ⟨paths, hpaths⟩ : ∃ paths, (recursiveDocument.get? "paths").bind Json.object? = some paths :=
    ⟨_, rfl⟩
  obtain ⟨c, hfound, hnames, hparents⟩ : ∃ c, collections? recursiveDocument = some [c] ∧
      c.schema.map Property.name = ["id", "parent", "groups", "cdns_v1_id"] ∧
      c.toResource.parentProperties = ["cdns_v1_id"] := ⟨_, rfl, rfl, rfl⟩
  obtain ⟨collections, hcollections, hsound⟩ := discovered_schemas_sound hpaths
  obtain rfl := Option.some.inj (hfound.symm.trans hcollections)
  obtain ⟨hwalk, hlevels, -⟩ := hsound c List.mem_cons_self
  exact ⟨rfl, c, hfound, hwalk, hlevels, hnames, hparents⟩

end QueryableApi.OpenApi
