import QueryableApi.OpenApi.Discovery

/-! # Where discovered collections come from

A discovered collection lies at one of the paths of the document (`collectionAt?_of_mem`), and all that
is known of it is read off that path and its `get` operation (`IsListedAt`). -/

namespace QueryableApi.OpenApi

variable {document pathItem : Json} {path : String} {c : Collection} {collections : List Collection}

/-- What a collection **listed at a path** is made of, given the operation there, the schema of its
responses and that of the items. -/
structure IsListedAt (document : Json) (path : String) (pathItem operation response items : Json)
    (c : Collection) : Prop where
  /-- The operation is the `get` operation of the path. -/
  listed : pathItem.get? "get" = some operation
  /-- The name and the parents are read off the path. -/
  named : collectionName? path = some (c.name, c.parents)
  /-- The operation answers with the responses. -/
  answered : responseSchema? document operation = some response
  /-- The responses hold the items. -/
  itemsPath : itemSchema? document response = some (items, c.itemsPath)
  /-- The template is the path behind the base path. -/
  template : c.template = basePath document ++ path
  /-- The schema is that of the items with the parents. -/
  schema : c.schema = withParents (objectSchema document items) c.parents

/-- Only collections that are there are kept. -/
theorem mem_of_mem_firstOfEachName {taken : List String} {cs : List Collection}
    (h : c ∈ firstOfEachName taken cs) : c ∈ cs := by
  induction cs generalizing taken with
  | nil => exact h
  | cons first rest ih =>
      rw [firstOfEachName] at h
      split at h
      · exact List.mem_cons_of_mem _ (ih h)
      · rcases List.mem_cons.mp h with rfl | h
        · exact List.mem_cons_self
        · exact List.mem_cons_of_mem _ (ih h)

/-- **A discovered collection** is one at a path of the document. -/
theorem collectionAt?_of_mem (hfound : collections? document = some collections)
    (hc : c ∈ collections) :
    ∃ paths path pathItem, (document.get? "paths").bind Json.object? = some paths ∧
      (path, pathItem) ∈ paths ∧ collectionAt? document path pathItem = some c := by
  obtain ⟨paths, hpaths, rfl⟩ := Option.map_eq_some_iff.mp hfound
  obtain ⟨⟨path, pathItem⟩, hmem, hat⟩ := List.mem_filterMap.mp (mem_of_mem_firstOfEachName hc)
  exact ⟨paths, path, pathItem, hpaths, hmem, hat⟩

/-- **What a collection at a path is made of.** -/
theorem exists_isListedAt (h : collectionAt? document path pathItem = some c) :
    ∃ operation response items, IsListedAt document path pathItem operation response items c := by
  obtain ⟨operation, hoperation, h⟩ := Option.bind_eq_some_iff.mp h
  obtain ⟨⟨name, parents⟩, hname, h⟩ := Option.bind_eq_some_iff.mp h
  obtain ⟨response, hresponse, h⟩ := Option.bind_eq_some_iff.mp h
  obtain ⟨⟨items, itemsPath⟩, hitems, h⟩ := Option.bind_eq_some_iff.mp h
  obtain rfl := Option.some.inj h
  exact ⟨operation, response, items, hoperation, hname, hresponse, hitems, rfl, rfl⟩

end QueryableApi.OpenApi
