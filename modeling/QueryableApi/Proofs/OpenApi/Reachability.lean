import QueryableApi.Proofs.Checks
import QueryableApi.Proofs.OpenApi.Discovery
import QueryableApi.Proofs.OpenApi.PathName

/-! # Reaching a discovered collection

A discovered collection has a parent for each placeholder of the path that the document lists it at, and
its template is that path behind the base path of the document. The template is filled with the
identifiers of the parents, so it can be filled if the base path adds no placeholders, which the older
specification does not allow there. What is filled are whole segments: braces within a segment are kept
as they are (`collection_reachable`). -/

namespace QueryableApi.OpenApi

open PathTemplate (Fills isPlaceholder segments placeholders)

variable {document : Json} {c : Collection} {collections : List Collection} {ids : List String}

/-- The base path of a document is **no template**: none of its segments starts like a placeholder. -/
def HasPlainBase (document : Json) : Prop :=
  ∀ s ∈ segments (basePath document), s.head? ≠ some '{'

/-- A discovered collection has a parent property for each placeholder of its template. -/
theorem length_parentProperties (hfound : collections? document = some collections)
    (hc : c ∈ collections) (hbase : HasPlainBase document) :
    c.toResource.parentProperties.length = (placeholders c.template).length := by
  obtain ⟨paths, path, pathItem, -, -, hat⟩ := collectionAt?_of_mem hfound hc
  obtain ⟨operation, response, items, h⟩ := exists_isListedAt hat
  have hfirst : ∀ first rest, segments path = first :: rest → isPlaceholder first = false :=
    fun _ _ hpath => isPlaceholder_first h.named hpath
  calc c.toResource.parentProperties.length
      = (placeholders path).length := length_parents_of_collectionName? h.named
    _ = (placeholders (basePath document ++ path)).length :=
        (PathTemplate.length_placeholders_append hbase hfirst).symm
    _ = (placeholders c.template).length := by rw [h.template]

/-- **Every discovered collection can be reached.** With an identifier for each of its parents, its path
is the template with each placeholder filled in, in order, and all other segments as they are. The path
holds no brace iff none of these other segments does. -/
theorem collection_reachable (hfound : collections? document = some collections)
    (hc : c ∈ collections) (hbase : HasPlainBase document)
    (hids : ids.length = c.toResource.parentProperties.length) :
    ∃ path, c.toResource.path ids = .ok path ∧
      Fills (segments c.template) ids (segments path) ∧
      (('{' ∉ path.toList ∧ '}' ∉ path.toList) ↔
        ∀ s ∈ segments c.template, isPlaceholder s = false → '{' ∉ s ∧ '}' ∉ s) := by
  rw [length_parentProperties hfound hc hbase] at hids
  obtain ⟨path, hfill, hfills⟩ := PathTemplate.fill_fills hids.symm
  have hopen := hfills.exists_mem_iff (c := '{') (by decide) (by decide)
  have hclose := hfills.exists_mem_iff (c := '}') (by decide) (by decide)
  refine ⟨path, Checks.mapError_eq_ok_iff.mpr hfill, hfills, ?_⟩
  rw [PathTemplate.mem_toList_iff (by decide), PathTemplate.mem_toList_iff (by decide), hopen, hclose]
  constructor
  · rintro ⟨hnoOpen, hnoClose⟩ s hs hfixed
    exact ⟨fun h => hnoOpen ⟨s, hs, hfixed, h⟩, fun h => hnoClose ⟨s, hs, hfixed, h⟩⟩
  · intro h
    constructor
    · rintro ⟨s, hs, hfixed, hmem⟩
      exact (h s hs hfixed).1 hmem
    · rintro ⟨s, hs, hfixed, hmem⟩
      exact (h s hs hfixed).2 hmem

/-! ## The rules of a CDN -/

/-- A document with one collection, whose listing answers with an array, in terms of both
specifications. -/
def listedAt (head : List (String × Json)) (path : String) : Json :=
  let item := .object [("type", .string "object"),
    ("properties", .object [("id", .object [("type", .string "string")])])]
  let schema := .object [("type", .string "array"), ("items", item)]
  let content := .object [("application/json", .object [("schema", schema)])]
  let responses := .object [("200", .object [("schema", schema), ("content", content)])]
  .object (head ++ [("paths", .object [(path, .object [("get", .object [("responses", responses)])])])])

/-- What a document of the newer specification starts with. -/
def newerHead : List (String × Json) := [("openapi", .string "3.0.0")]

/-- What a document of the older specification with a base path starts with. -/
def olderHead (base : String) : List (String × Json) :=
  [("swagger", .string "2.0"), ("basePath", .string base)]

/-- The rules of a CDN are reached behind a base path, whatever the CDN is called. -/
theorem collection_reachable_rules :
    HasPlainBase (listedAt (olderHead "/api") "/v1/cdns/{id}/rules") ∧
      ∃ c, collections? (listedAt (olderHead "/api") "/v1/cdns/{id}/rules") = some [c] ∧
        c.toResource.parentProperties = ["cdns_v1_id"] ∧
        ∀ id, ∃ path, c.toResource.path [id] = .ok path ∧ '{' ∉ path.toList ∧ '}' ∉ path.toList := by
  have hbase : HasPlainBase (listedAt (olderHead "/api") "/v1/cdns/{id}/rules") := by
    have hall : ∀ s ∈ segments "/api", s.head? ≠ some '{' := by decide
    exact hall
  obtain ⟨c, hfound, htemplate, hparents⟩ : ∃ c,
      collections? (listedAt (olderHead "/api") "/v1/cdns/{id}/rules") = some [c] ∧
        c.template = "/api/v1/cdns/{id}/rules" ∧ c.toResource.parentProperties = ["cdns_v1_id"] :=
    ⟨_, rfl, rfl, rfl⟩
  refine ⟨hbase, c, hfound, hparents, fun id => ?_⟩
  have hids : [id].length = c.toResource.parentProperties.length := by rw [hparents]; rfl
  obtain ⟨path, hpath, -, hbraces⟩ := collection_reachable hfound List.mem_cons_self hbase hids
  have hfixed : ∀ s ∈ segments "/api/v1/cdns/{id}/rules", isPlaceholder s = false →
      '{' ∉ s ∧ '}' ∉ s := by decide
  rw [htemplate] at hbraces
  exact ⟨path, hpath, hbraces.mpr hfixed⟩

/-- **A placeholder within a segment stays**, and a base path with a placeholder asks for one
identifier more than there are parents. -/
theorem collection_keeps_inner_placeholder :
    (violations (listedAt newerHead "/v1/cdns/{id}/rules-{id}") = [] ∧
      ∃ c, collections? (listedAt newerHead "/v1/cdns/{id}/rules-{id}") = some [c] ∧
        c.toResource.parentProperties = ["cdns_v1_id"] ∧
        c.toResource.path ["a"] = .ok "/v1/cdns/a/rules-{id}") ∧
      violations (listedAt (olderHead "/{tenant}") "/v1/cdns") = [] ∧
      ∃ c, collections? (listedAt (olderHead "/{tenant}") "/v1/cdns") = some [c] ∧
        c.toResource.parentProperties = [] ∧ ∃ chain, c.toResource.path [] = .error chain :=
  ⟨⟨rfl, _, rfl, rfl, rfl⟩, rfl, _, rfl, rfl, _, rfl⟩

end QueryableApi.OpenApi
