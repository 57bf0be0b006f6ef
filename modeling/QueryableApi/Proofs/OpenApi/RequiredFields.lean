import Mathlib.Data.Finset.Card
import QueryableApi.Proofs.OpenApi.ItemNames
import QueryableApi.Proofs.OpenApi.ItemsPath
import QueryableApi.Proofs.Queryable
import QueryableApi.Proofs.Read.Stages

/-! # The required fields of a discovered collection

A field is required iff the last property shown under its name has the payload name of a parent
(`isRequired_iff_of_isItemSchema`). A read looks parents up by payload name, so the required fields
say what it needs iff each parent's name, taken as a field name, is shown last for a property that
has the name of a parent (`ShowsParents`). That is when the required fields are the parent
properties, and also when giving every required field always identifies the parents
(`required_fields_iff`): there are no more required fields than parents, so none of them can be
missing without another being wrong. -/

namespace QueryableApi.OpenApi

open Queryable

variable {document : Json} {schema : Schema} {parents : List String} {queryable : Queryable}
  {c : Collection} {collections : List Collection} {name : String}

/-- A schema **shows its parents**: under the name of each parent property, the last property that is
shown has the payload name of a parent property. -/
def ShowsParents (parents : List String) (schema : Schema) : Prop :=
  ∀ name ∈ parents, ∃ p, schema.IsLastShown name p ∧ p.name ∈ parents

/-! ## What is required -/

/-- A property of an item schema carries the identifier of a parent iff it has the name for it. -/
theorem isParent_iff_of_isItemSchema (hschema : IsItemSchema parents schema) {p : Property}
    (hp : p ∈ schema) : isParent parents p = true ↔ p.name ∈ parents := by
  rw [isParent, Bool.or_eq_true, List.contains_iff_mem]
  exact or_iff_right_of_imp (hschema.marked p hp)

/-- **A field is required** iff the last property shown under its name has the name of a parent. -/
theorem isRequired_iff_of_isItemSchema (hschema : IsItemSchema parents schema)
    (h : schema.queryable parents = .ok queryable) (name : String) :
    IsRequired queryable name ↔ ∃ p, schema.IsLastShown name p ∧ p.name ∈ parents := by
  rw [isRequired_iff h]
  refine exists_congr fun p => and_congr_right fun hshown => ?_
  exact isParent_iff_of_isItemSchema hschema hshown.mem

/-- **There are no more required fields than parents**: if the name of each parent is required, then
nothing else is. -/
theorem mem_of_isRequired (hschema : IsItemSchema parents schema)
    (h : schema.queryable parents = .ok queryable) (hshows : ShowsParents parents schema)
    (hname : IsRequired queryable name) : name ∈ parents := by
  -- required fields are the field names of carriers, and each parent has at most one carrier
  let carriers := schema.filter fun p => p.name ∈ parents
  let fields := (carriers.map Property.fieldName).toFinset
  have hcarrier : ∀ {field p}, schema.IsLastShown field p → p.name ∈ parents → field ∈ fields := by
    intro field p hshown hp
    refine List.mem_toFinset.mpr (List.mem_map.mpr ⟨p, ?_, hshown.shown.2⟩)
    exact List.mem_filter.mpr ⟨hshown.mem, decide_eq_true hp⟩
  have hsubset : parents.toFinset ⊆ fields := by
    intro parent hparent
    obtain ⟨p, hshown, hp⟩ := hshows parent (List.mem_toFinset.mp hparent)
    exact hcarrier hshown hp
  have hnames : (carriers.map Property.name).toFinset ⊆ parents.toFinset := by
    intro parent hparent
    obtain ⟨p, hp, rfl⟩ := List.mem_map.mp (List.mem_toFinset.mp hparent)
    exact List.mem_toFinset.mpr (of_decide_eq_true (List.mem_filter.mp hp).2)
  have hdistinct : (carriers.map Property.name).Nodup :=
    hschema.distinct.sublist (List.filter_sublist.map Property.name)
  have hcard : fields.card ≤ parents.toFinset.card :=
    calc fields.card
        ≤ (carriers.map Property.fieldName).length := List.toFinset_card_le _
      _ = (carriers.map Property.name).length := by rw [List.length_map, List.length_map]
      _ = (carriers.map Property.name).toFinset.card :=
          (List.toFinset_card_of_nodup hdistinct).symm
      _ ≤ parents.toFinset.card := Finset.card_le_card hnames
  obtain ⟨p, hshown, hp⟩ := (isRequired_iff_of_isItemSchema hschema h name).mp hname
  have hmem := hcarrier hshown hp
  rw [← Finset.eq_of_subset_of_card_le hsubset hcard] at hmem
  exact List.mem_toFinset.mp hmem

/-! ## What a request must give -/

/-- A request **identifies the parents**: each has its identifier. -/
def IdentifiesParents (parents : List String) (attributes : Entries Value) : Prop :=
  ∃ ids, parents.mapM (Plan.parentId attributes) = .ok ids

/-- A request identifies the parents iff it gives a scalar that is not blank under each name. -/
theorem identifiesParents_iff {attributes : Entries Value} :
    IdentifiesParents parents attributes ↔
      ∀ name ∈ parents, ∃ id, Plan.IsParentId attributes name id := by
  rw [IdentifiesParents, Checks.exists_mapM_eq_ok_iff]
  simp only [Plan.parentId_eq_ok_iff]

/-- The request that gives a text under each of some names. -/
def giving (names : List String) : Entries Value := names.map fun name => (name, .text "x")

/-- Each of the names has an identifier in that request. -/
theorem isParentId_giving {names : List String} (h : name ∈ names) :
    Plan.IsParentId (giving names) name "x" := by
  induction names with
  | nil => cases h
  | cons first rest ih =>
      by_cases hfirst : first = name
      · refine ⟨⟨.text "x", ?_, rfl⟩, rfl⟩
        rw [giving, List.map_cons, Entries.get?_cons, if_pos hfirst]
      · obtain ⟨⟨v, hv, htext⟩, hblank⟩ :=
          ih ((List.mem_cons.mp h).resolve_left (Ne.symm hfirst))
        refine ⟨⟨v, ?_, htext⟩, hblank⟩
        rw [giving, List.map_cons, Entries.get?_cons, if_neg hfirst]
        exact hv

/-- No other name has. -/
theorem mem_of_isParentId_giving {names : List String} {id : String}
    (h : Plan.IsParentId (giving names) name id) : name ∈ names := by
  obtain ⟨⟨v, hv, -⟩, -⟩ := h
  by_contra hname
  have hkeys : Entries.keys (giving names) = names := by
    rw [Entries.keys, giving, List.map_map]
    exact List.map_id names
  rw [Entries.get?_eq_none_iff.mpr (by rwa [hkeys])] at hv
  cases hv

/-- If giving every required field always identifies the parents, then each parent is required. -/
theorem isRequired_of_identifies
    (h : ∀ attributes, (∀ field, IsRequired queryable field →
      ∃ id, Plan.IsParentId attributes field id) → IdentifiesParents parents attributes)
    (hname : name ∈ parents) : IsRequired queryable name := by
  by_contra hmissing
  -- the request that gives every field but this one gives all required ones
  let names := (Entries.keys queryable).filter fun field => field ≠ name
  have hgiven : ∀ field, IsRequired queryable field →
      ∃ id, Plan.IsParentId (giving names) field id := by
    rintro field ⟨f, hf, hrequired⟩
    have hkey : field ∈ Entries.keys queryable := by
      by_contra hkey
      rw [Entries.get?_eq_none_iff.mpr hkey] at hf
      cases hf
    have hne : field ≠ name := by
      rintro rfl
      exact hmissing ⟨f, hf, hrequired⟩
    exact ⟨"x", isParentId_giving (List.mem_filter.mpr ⟨hkey, decide_eq_true hne⟩)⟩
  obtain ⟨id, hid⟩ := identifiesParents_iff.mp (h _ hgiven) name hname
  have hmem := List.mem_filter.mp (mem_of_isParentId_giving hid)
  exact of_decide_eq_true hmem.2 rfl

/-! ## Discovered collections -/

/-- **When the required fields are what a read needs.** A field of a discovered collection is
required iff the last property shown under its name has the name of a parent property. The required
fields are the parent properties iff the schema shows its parents, and that is also when every
request that gives a scalar that is not blank under each required field identifies the parents. -/
theorem required_fields_iff (hfound : collections? document = some collections)
    (hc : c ∈ collections)
    (hqueryable : (DataSource.mk (some c.toResource)).queryable = .ok queryable) :
    (∀ name, IsRequired queryable name ↔
      ∃ p, c.schema.IsLastShown name p ∧ p.name ∈ c.toResource.parentProperties) ∧
    ((∀ name, IsRequired queryable name ↔ name ∈ c.toResource.parentProperties) ↔
      ShowsParents c.toResource.parentProperties c.schema) ∧
    ((∀ attributes, (∀ name, IsRequired queryable name →
        ∃ id, Plan.IsParentId attributes name id) →
          IdentifiesParents c.toResource.parentProperties attributes) ↔
      ShowsParents c.toResource.parentProperties c.schema) := by
  obtain ⟨_, _, _, -, -, hat⟩ := collectionAt?_of_mem hfound hc
  have hschema := isItemSchema_of_collectionAt? hat
  have h : c.schema.queryable c.toResource.parentProperties = .ok queryable := hqueryable
  have hrequired := isRequired_iff_of_isItemSchema hschema h
  refine ⟨hrequired, ⟨fun heq name hname => ?_, fun hshows name => ⟨?_, ?_⟩⟩, ?_, ?_⟩
  · exact (hrequired name).mp ((heq name).mpr hname)
  · exact mem_of_isRequired hschema h hshows
  · exact fun hname => (hrequired name).mpr (hshows name hname)
  · exact fun hgiven name hname => (hrequired name).mp (isRequired_of_identifies hgiven hname)
  · intro hshows attributes hgiven
    refine identifiesParents_iff.mpr fun name hname => ?_
    exact hgiven name ((hrequired name).mpr (hshows name hname))

/-! ## A parent under another name -/

/-- A document with the rules of a CDN, which carry its identifier; the members are what the document
says about that property beside its type. -/
def rulesDocument (members : Entries Json) : Json :=
  let parent := .object (("type", .string "string") :: members)
  let properties := .object [("id", .object [("type", .string "string")]), ("cdns_v1_id", parent)]
  let item := .object [("type", .string "object"), ("properties", properties)]
  let body := .object [("type", .string "array"), ("items", item)]
  let content := .object [("application/json", .object [("schema", body)])]
  let responses := .object [("200", .object [("content", content)])]
  .object [("openapi", .string "3.0.0"),
    ("paths", .object [("/v1/cdns/{id}/rules", .object [("get", .object [("responses", responses)])])])]

/-- A parent property under its own name is what must be given. -/
theorem required_fields_rules :
    ∃ c queryable, collections? (rulesDocument []) = some [c] ∧ c ∈ [c] ∧
      (DataSource.mk (some c.toResource)).queryable = .ok queryable ∧
      (∀ name, IsRequired queryable name ↔ name ∈ c.toResource.parentProperties) ∧
      c.toResource.parentProperties = ["cdns_v1_id"] := by
  obtain ⟨c, queryable, hfound, hqueryable, hparents, hschema⟩ : ∃ c queryable,
      collections? (rulesDocument []) = some [c] ∧
        (DataSource.mk (some c.toResource)).queryable = .ok queryable ∧
        c.toResource.parentProperties = ["cdns_v1_id"] ∧
        c.schema = [Property.ofKind .string "id", Property.ofKind .string "cdns_v1_id"] :=
    ⟨_, _, rfl, rfl, rfl, rfl⟩
  refine ⟨c, queryable, hfound, List.mem_cons_self, hqueryable, ?_, hparents⟩
  refine (required_fields_iff hfound List.mem_cons_self hqueryable).2.1.mpr ?_
  rw [hparents, hschema]
  intro name hname
  rw [List.mem_singleton.mp hname]
  exact ⟨_, ⟨[Property.ofKind .string "id"], [], rfl, by decide, by decide, by simp⟩, by decide⟩

/-- **A parent property under a preferred name**: the required field is the preferred name, and a
request that gives it does not identify the parent. -/
theorem required_fields_renamed :
    ∃ c queryable,
      collections? (rulesDocument [("x-field-name", .string "cdn")]) = some [c] ∧
        (DataSource.mk (some c.toResource)).queryable = .ok queryable ∧
        Entries.keys (queryable.filter fun field => field.2.required) = ["cdn"] ∧
        c.toResource.parentProperties = ["cdns_v1_id"] ∧
        c.toResource.parentProperties.mapM (Plan.parentId [("cdn", .text "a")])
          = .error (.missingParent "cdns_v1_id") :=
  ⟨_, _, rfl, rfl, rfl, rfl, rfl⟩

end QueryableApi.OpenApi
