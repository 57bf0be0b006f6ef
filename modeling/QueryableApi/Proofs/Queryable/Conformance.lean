import QueryableApi.PathTemplate
import QueryableApi.Proofs.Projection
import QueryableApi.Proofs.Queryable
import QueryableApi.Proofs.Read.Outcome
import QueryableApi.Proofs.Schema.Nesting

/-! # What is handed out conforms to the queryable schema

A queryable schema announces the fields that a read gives. Fields cover entries if each entry stands
under one of them that is computed and not required, and so does, level by level, every entry of a map
under an object and of a map among the elements of a list of objects (`Queryable.Covers`,
`Queryable.Fits`). Fields and projections are two recursions over one schema. Where field names are
distinct and properties carry schemas if they need them, they agree at each level: the fields of a schema
cover the projection of any item (`Queryable.covers_project`), and so everything that a read hands out
(`DataSource.read_conforms`). -/

namespace QueryableApi

namespace Queryable

open Checks

variable {schema : Schema} {parents : List String} {queryable : Queryable} {p : Property}
  {name : String} {field : Field}

/-! ## Values under fields -/

mutual

/-- A value **fits a field**: a map under an object is covered by its fields, and so is every map among
the elements of a list that is made of fields. -/
def Fits : Field → Value → Prop
  | field, .map entries =>
    field.type = .object → ∃ block, field.block? = some block ∧ Covers block entries
  | field, .list items =>
    field.type = .list → ∀ block, field.block? = some block → CoversItems block items
  | _, _ => True

/-- Fields **cover entries**: each entry stands under a field that is computed and not required, and
its value fits the field. -/
def Covers : Entries Field → List (String × Value) → Prop
  | _, [] => True
  | fields, (name, v) :: rest =>
    (∃ field, Entries.get? name fields = some field ∧ field.computed = true ∧
      field.required = false ∧ Fits field v) ∧ Covers fields rest

/-- Fields cover every map among some values. -/
def CoversItems : Entries Field → List Value → Prop
  | _, [] => True
  | fields, .map entries :: rest => Covers fields entries ∧ CoversItems fields rest
  | fields, _ :: rest => CoversItems fields rest

end

/-- Fields cover entries iff each entry stands under a computed field that it fits. -/
theorem covers_iff {fields : Entries Field} {entries : Entries Value} :
    Covers fields entries ↔
      ∀ e ∈ entries, ∃ field, Entries.get? e.1 fields = some field ∧ field.computed = true ∧
        field.required = false ∧ Fits field e.2 := by
  induction entries with
  | nil => simp [Covers]
  | cons e rest ih => rw [Covers, ih, List.forall_mem_cons]

/-- Fields cover some values iff they cover each map among them. -/
theorem coversItems_iff {fields : Entries Field} {items : List Value} :
    CoversItems fields items ↔ ∀ entries, .map entries ∈ items → Covers fields entries := by
  induction items with
  | nil => simp [CoversItems]
  | cons item rest ih =>
      cases item with
      | map entries => simp [CoversItems, ih]
      | _ => simp [CoversItems, ih]

/-- Every value fits a field that is no object and is not made of fields. -/
theorem fits_of_block?_eq_none (htype : field.type ≠ .object) (hblock : field.block? = none)
    (v : Value) : Fits field v := by
  cases v with
  | map entries =>
      rw [Fits]
      exact fun h => absurd h htype
  | list items =>
      rw [Fits]
      rintro - block h
      rw [hblock] at h
      cases h
  | _ => simp [Fits]

/-! ## Blocks -/

/-- The field of a nested property. -/
def blockField (p : Property) : Except Failure (String × Field) := do
  let field ← ofProperty p
  .ok (p.fieldName, { field with computed := true })

/-- The fields of nested properties are those of each. -/
theorem blockFields_eq_mapM (schema : Schema) : blockFields schema = schema.mapM blockField := by
  induction schema with
  | nil => rfl
  | cons p rest ih =>
      rw [blockFields, List.mapM_cons, ih, blockField]
      cases ofProperty p <;> rfl

/-- The field of a nested property stands under its field name. -/
theorem blockField_eq_ok_iff :
    blockField p = .ok (name, field) ↔
      p.fieldName = name ∧ ∃ plain, ofProperty p = .ok plain ∧
        { plain with computed := true } = field := by
  rw [blockField, bind_eq_ok_iff]
  constructor
  · rintro ⟨plain, hplain, h⟩
    obtain ⟨hname, hfield⟩ := Prod.mk.inj (Except.ok.inj h)
    exact ⟨hname, plain, hplain, hfield⟩
  · rintro ⟨hname, plain, hplain, hfield⟩
    exact ⟨plain, hplain, by rw [hname, hfield]⟩

/-- **What is read of a block** under the field name of a property is the field of the property, if
field names are distinct. -/
theorem exists_get?_block (hfields : schema.HasDistinctFields) {fields : List (String × Field)}
    (h : blockFields schema = .ok fields) (hp : p ∈ schema) :
    ∃ plain, ofProperty p = .ok plain ∧
      Entries.get? p.fieldName (Entries.ofList fields) = some { plain with computed := true } := by
  rw [blockFields_eq_mapM] at h
  obtain ⟨⟨name, field⟩, hfield⟩ := exists_mapM_eq_ok_iff.mp ⟨fields, h⟩ p hp
  obtain ⟨rfl, plain, hplain, rfl⟩ := blockField_eq_ok_iff.mp hfield
  refine ⟨plain, hplain, ?_⟩
  rw [eq_filterMap_of_mapM h, Entries.get?_ofList_filterMap_eq_some_iff]
  obtain ⟨before, after, hsplit⟩ := List.append_of_mem hp
  refine ⟨before, p, after, hsplit, by rw [hfield]; rfl, fun q hq other hother => ?_⟩
  -- a later property with a field under this name would repeat it
  have hqfield : blockField q = .ok (p.fieldName, other) := toOption_eq_some_iff.mp hother
  exact hfields.fieldName_ne hsplit hq (blockField_eq_ok_iff.mp hqfield).1

/-- Nested properties **cover what is handed out through them**: their fields cover the entries that any
map gives for them. -/
def CoversNested (schema : Schema) : Prop :=
  ∀ fields, blockFields schema = .ok fields → ∀ entries,
    Covers (Entries.ofList fields) (Entries.ofList (Projection.fields schema entries))

/-- The fields of nested properties cover each map that is handed out through them. -/
theorem covers_of_object {inner : Schema} (hinner : CoversNested inner) {block : Entries Field}
    (h : nestedBlock (some inner) = .ok block) {v : Value} {entries : Entries Value}
    (hentries : Projection.object (some inner) v = .map entries) : Covers block entries := by
  rw [nestedBlock] at h
  obtain ⟨fields, hfields, rfl⟩ := map_eq_ok_iff.mp h
  cases v with
  | map carried =>
      rw [Projection.object] at hentries
      rw [← Value.map.inj hentries]
      exact hinner fields hfields carried
  | _ => cases hentries

/-- **A value that is handed out fits the field of its property**, if nested properties cover what is
handed out through them. -/
theorem Represents.fits_value (h : Represents p field.type field.element) (hcarries : p.CarriesNested)
    (hinner : ∀ inner, p.nested = some inner → CoversNested inner) (v : Value) :
    Fits field (Projection.value p v) := by
  obtain ⟨type, required, isOptional, computed, maxItems, description, element⟩ := field
  cases h with
  | @scalar kind hkind hscalar =>
      refine fits_of_block?_eq_none ?_ rfl _
      cases kind with
      | array | object => cases hscalar
      | string | integer | number | boolean => simp
  | object hkind hblock =>
      obtain ⟨inner, hnested⟩ := hcarries (.inl hkind)
      rw [hnested] at hblock
      rw [Projection.value_of_object hkind, hnested]
      cases hv : Projection.object (some inner) v with
      | map entries =>
          rw [Fits]
          exact fun _ => ⟨_, rfl, covers_of_object (hinner inner hnested) hblock hv⟩
      | _ => simp [Fits]
  | scalars hkind => exact fits_of_block?_eq_none (by simp) rfl _
  | objects hkind hitems hblock =>
      obtain ⟨inner, hnested⟩ := hcarries (.inr ⟨hkind, hitems⟩)
      rw [hnested] at hblock
      cases v with
      | list elements =>
          rw [Projection.value_of_objects hkind hitems, Fits, hnested]
          rintro - block ⟨⟩
          -- the maps among the elements were carried as maps
          refine coversItems_iff.mpr fun entries hentries => ?_
          obtain ⟨element, -, helement⟩ := List.mem_map.mp hentries
          exact covers_of_object (hinner inner hnested) hblock helement
      | map entries =>
          rw [Projection.value_of_array hkind (by simp), Fits]
          intro htype
          cases htype
      | _ =>
          rw [Projection.value_of_array hkind (by simp)]
          simp [Fits]

/-- What is handed out for a property stands under its field, where that is made computed and read
under the field name. -/
theorem exists_fitting_field {fields : Entries Field} {plain : Field} {v : Value}
    (hplain : ofProperty p = .ok plain) (hcarries : p.CarriesNested)
    (hinner : ∀ inner, p.nested = some inner → CoversNested inner)
    (hfound : Entries.get? p.fieldName fields = some { plain with computed := true }) :
    ∃ field, Entries.get? p.fieldName fields = some field ∧ field.computed = true ∧
      field.required = false ∧ Fits field (Projection.value p v) := by
  obtain ⟨hrepresents, hrequired, -⟩ := represents_of_ofProperty hplain
  -- being computed is no matter of the type or of what the field is made of
  have hcomputed : Represents p { plain with computed := true }.type
      { plain with computed := true }.element := hrepresents
  exact ⟨_, hfound, rfl, hrequired, hcomputed.fits_value hcarries hinner v⟩

/-- **Nested properties cover what is handed out through them**, if at every level field names are
distinct and properties carry schemas where they need them. -/
theorem coversNested_of_atEveryLevel
    (h : schema.AtEveryLevel fun s => s.HasDistinctFields ∧ s.CarriesNested) :
    CoversNested schema := by
  induction h with
  | @intro schema here below ih =>
      obtain ⟨hfields, hcarries⟩ := here
      intro fields hblock entries
      refine covers_iff.mpr fun e he => ?_
      -- what is written under a name was given for a property with that field name
      have hread := Entries.get?_of_mem (Entries.distinct_ofList _) he
      obtain ⟨p, hp, hname, carried, -, -, hvalue⟩ :=
        (Projection.get?_fields_eq_some_iff hfields).mp hread
      obtain ⟨plain, hplain, hfound⟩ := exists_get?_block hfields hblock hp
      rw [← hname, ← hvalue]
      exact exists_fitting_field hplain (hcarries p hp) (ih p hp) hfound

/-! ## The top level -/

/-- The field of a property that carries no identifier of a parent is computed. -/
theorem exists_computed_of_topField (h : topField parents p = .ok (name, field))
    (hparent : isParent parents p = false) :
    ∃ plain, ofProperty p = .ok plain ∧ field = { plain with computed := true } := by
  obtain ⟨plain, hplain, h⟩ := bind_eq_ok_iff.mp h
  rw [hparent] at h
  exact ⟨plain, hplain, (Prod.mk.inj (Except.ok.inj h)).2.symm⟩

/-- **The queryable schema covers the projection of every item**, if at every level field names are
distinct and properties carry schemas where they need them. -/
theorem covers_project (h : schema.queryable parents = .ok queryable)
    (hfields : schema.AtEveryLevel Schema.HasDistinctFields)
    (hcarries : schema.AtEveryLevel Schema.CarriesNested) (item : Item) :
    Covers queryable (schema.project (isParent parents) item) := by
  have hlevels := hfields.and hcarries
  refine covers_iff.mpr fun e he => ?_
  have hread := Entries.get?_of_mem (Entries.distinct_ofList _) he
  obtain ⟨before, p, after, hsplit, hp, -⟩ := Schema.get?_project_eq_some_iff.mp hread
  have hmem : p ∈ schema := by rw [hsplit]; simp
  obtain ⟨carried, -, -, hvalue⟩ := hp.carried
  obtain ⟨field, htop⟩ := exists_topField h hmem hp.visible
  have hlast := hfields.holds.isLastShown hmem hp.visible
  have hfound := (get?_queryable_eq_some_iff h (fieldName_ne_filterField hp.visible)).mpr
    ⟨p, hlast, htop⟩
  -- properties that carry the identifiers of parents are skipped, and all others are computed
  obtain ⟨plain, hplain, rfl⟩ := exists_computed_of_topField htop hp.notSkipped
  rw [← hp.named, ← hvalue]
  exact exists_fitting_field hplain (hcarries.holds p hmem)
    (fun inner hinner => coversNested_of_atEveryLevel (hlevels.of_nested hmem hinner)) hfound

end Queryable

namespace DataSource

variable {d : DataSource} {r : Resource} {schema : Schema} {queryable : Queryable}

/-- The queryable schema of a data source is that of the schema of its resource. -/
theorem queryable_eq_ok_iff (hresource : d.resource = some r) (hschema : r.schema = .ok schema) :
    d.queryable = .ok queryable ↔ schema.queryable r.parentProperties = .ok queryable := by
  have hfound : d.resourceOr = .ok r := by
    rw [resourceOr, hresource]
    rfl
  rw [DataSource.queryable, hfound]
  dsimp only [bind, Except.bind]
  rw [hschema]
  rfl

/-- **What a read hands out conforms to the queryable schema.** If at every level field names are
distinct and properties carry schemas where they need them, the queryable schema covers the projection
of every item, and a read that succeeds writes the projection of an item of the listing over the
attributes. -/
theorem read_conforms (hresource : d.resource = some r) (hschema : r.schema = .ok schema)
    (hqueryable : d.queryable = .ok queryable)
    (hfields : schema.AtEveryLevel Schema.HasDistinctFields)
    (hcarries : schema.AtEveryLevel Schema.CarriesNested) :
    (∀ item, Queryable.Covers queryable
        (schema.project (Queryable.isParent r.parentProperties) item)) ∧
      ∀ listing state, (d.read listing state).result = .ok () →
        ∃ request response item, listing request = .ok response ∧ item ∈ response.items ∧
          (d.read listing state).state.attributes = Entries.extend state.attributes
            (schema.project (Queryable.isParent r.parentProperties) item) := by
  constructor
  · have h := (queryable_eq_ok_iff hresource hschema).mp hqueryable
    exact Queryable.covers_project h hfields hcarries
  · intro listing state hok
    obtain ⟨plan, item, id, hreads, hplan⟩ := exists_reads hok hresource hschema
    obtain ⟨response, hanswer, -, honly⟩ := hreads.selects.answered
    refine ⟨plan.request, response, item, hanswer, honly.mem, ?_⟩
    rw [read_eq_of_reads hreads, Plan.project, hplan, hreads.prepares.parents]

/-! ## Sites with an origin and rules -/

/-- The properties of a site: where it is served from, and its rules. -/
def siteSchema : Schema :=
  [Property.ofKind .string "id",
    Property.object "origin" [Property.ofKind .string "hostName", Property.ofKind .integer "port"],
    { Property.list "rules" "object" with
      nested := some [Property.ofKind .boolean "isActive"] }]

/-- The sites of a CDN. -/
def sites : Resource where
  name := "sites"
  schema := .ok siteSchema
  parents := some ⟨["cdns_v1"], "cdns_v1"⟩
  path := fun ids => (PathTemplate.fill "/v1/cdns/{id}/sites" ids).mapError fun m => [m.message]
  itemsPath := none

/-- A condition that holds of the properties of a site, of those of its origin and of those of its
rules holds at every level. -/
theorem atEveryLevel_siteSchema {condition : Schema → Prop} (site : condition siteSchema)
    (origin : condition [Property.ofKind .string "hostName", Property.ofKind .integer "port"])
    (rules : condition [Property.ofKind .boolean "isActive"]) :
    siteSchema.AtEveryLevel condition := by
  refine .intro site fun p hp inner hinner => ?_
  rw [siteSchema, List.mem_cons, List.mem_cons, List.mem_singleton] at hp
  rcases hp with rfl | rfl | rfl
  · cases hinner
  · obtain rfl := Option.some.inj hinner
    exact .of_flat origin (by simp [Property.ofKind])
  · obtain rfl := Option.some.inj hinner
    exact .of_flat rules (by simp [Property.ofKind])

/-- A site with an origin, two rules and something that its schema does not know. -/
def site : Item :=
  [("id", .text "s1"), ("origin", .map [("hostName", .text "example.org"), ("secret", .null)]),
    ("rules", .list [.map [("isActive", .bool true)], .map [("weight", .int 1)]])]

/-- What is handed out of a site is covered, level by level. -/
theorem read_conforms_site :
    ∃ queryable, (DataSource.mk (some sites)).queryable = .ok queryable ∧
      siteSchema.AtEveryLevel Schema.HasDistinctFields ∧
      siteSchema.AtEveryLevel Schema.CarriesNested ∧
      Queryable.Covers queryable (siteSchema.project (Queryable.isParent ["cdns_v1_id"]) site) ∧
      Entries.keys (siteSchema.project (Queryable.isParent ["cdns_v1_id"]) site)
        = ["origin", "rules"] := by
  obtain ⟨queryable, hqueryable⟩ : ∃ queryable,
      (DataSource.mk (some sites)).queryable = .ok queryable := ⟨_, rfl⟩
  have hfields : siteSchema.AtEveryLevel Schema.HasDistinctFields :=
    atEveryLevel_siteSchema (by decide) (by decide) (by decide)
  have hcarries : siteSchema.AtEveryLevel Schema.CarriesNested := by
    refine atEveryLevel_siteSchema ?_ ?_ ?_
    all_goals simp [Schema.CarriesNested, Property.CarriesNested, siteSchema, Property.kind,
      Property.ofKind, Property.object, Property.list, Kind.parse]
  refine ⟨queryable, hqueryable, hfields, hcarries, ?_, by rfl⟩
  exact (read_conforms rfl rfl hqueryable hfields hcarries).1 site

end DataSource

end QueryableApi
