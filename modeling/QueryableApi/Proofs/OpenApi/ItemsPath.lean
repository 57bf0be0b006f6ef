import QueryableApi.Proofs.Listing.Items
import QueryableApi.Proofs.OpenApi.Discovery

/-! # Where a discovered collection keeps its items

Discovery reads off a document whether a listing answers with an array or wraps it, and under which
member (`Lists`). The listing is later read by that name as a path. The two agree on arrays, and on
wrapped ones iff the name of the member is plain (`itemsPath_agrees_iff`): a name that is empty or
holds a dot leads elsewhere in some bodies. -/

namespace QueryableApi.OpenApi

variable {document response : Json} {key : String} {c : Collection}
  {collections : List Collection}

/-- A document **lists a collection** whose listing answers with bodies of this schema. -/
structure Lists (document response : Json) (c : Collection) : Prop where
  /-- It lies at one of the paths, and the `get` operation there answers with this schema. -/
  answered : ∃ paths path pathItem operation,
    (document.get? "paths").bind Json.object? = some paths ∧ (path, pathItem) ∈ paths ∧
      c.template = basePath document ++ path ∧ pathItem.get? "get" = some operation ∧
      responseSchema? document operation = some response
  /-- The place of its items is read off the schema. -/
  itemsPath : ∃ items, itemSchema? document response = some (items, c.itemsPath)

/-- A member of the response schema **wraps** the items: it is declared as an array of objects. -/
def IsWrapper (document response : Json) (key : String) : Prop :=
  ∃ properties items, ((dereference document response).get? "properties").bind Json.object?
      = some properties ∧ (key, items) ∈ wrappers document properties

/-- Every discovered collection is listed by the document. -/
theorem exists_lists (hfound : collections? document = some collections) (hc : c ∈ collections) :
    ∃ response, Lists document response c := by
  obtain ⟨paths, path, pathItem, hpaths, hmem, hat⟩ := collectionAt?_of_mem hfound hc
  obtain ⟨operation, response, items, h⟩ := exists_isListedAt hat
  refine ⟨response, ⟨paths, path, pathItem, operation, hpaths, hmem, ?_⟩, items, h.itemsPath⟩
  exact ⟨h.template, h.listed, h.answered⟩

/-! ## Where items are -/

/-- The chosen wrapper is one of those found. -/
theorem mem_of_chooseWrapper? {found : List (String × Json)} {w : String × Json}
    (h : chooseWrapper? found = some w) : w ∈ found := by
  dsimp only [chooseWrapper?] at h
  -- a usual name, the only wrapper, or none
  split at h
  · next w' husual =>
    obtain rfl := Option.some.inj h
    obtain ⟨_, -, hfind⟩ := List.exists_of_findSome?_eq_some husual
    exact List.mem_of_find?_eq_some hfind
  · obtain rfl := Option.some.inj h
    exact List.mem_singleton_self _
  · cases h

/-- Items lie in the body itself or under a wrapper. -/
theorem itemsPath_cases (h : Lists document response c) :
    c.itemsPath = none ∨ ∃ key, c.itemsPath = some key ∧ IsWrapper document response key := by
  obtain ⟨items, h⟩ := h.itemsPath
  dsimp only [itemSchema?] at h
  -- the body is an array itself, or an object that wraps one
  split at h
  · obtain ⟨_, -, h⟩ := Option.map_eq_some_iff.mp h
    exact Or.inl (Prod.mk.inj h).2.symm
  · obtain ⟨properties, hproperties, h⟩ := Option.bind_eq_some_iff.mp h
    obtain ⟨⟨key, items'⟩, hchosen, h⟩ := Option.bind_eq_some_iff.mp h
    have hkey := (Prod.mk.inj (Option.some.inj h)).2
    exact Or.inr ⟨key, hkey.symm, properties, items', hproperties, mem_of_chooseWrapper? hchosen⟩

/-- **When discovery and listings agree on where the items are.** A collection whose listing answers
with an array has the items of every such body. One whose listing wraps the array has the items of
every body with an array under the wrapper iff the name of the wrapper is neither empty nor holds a
dot. -/
theorem itemsPath_agrees_iff (hfound : collections? document = some collections)
    (hc : c ∈ collections) :
    ∃ response, Lists document response c ∧
      ((c.itemsPath = none ∧ ∀ items, Listing.itemsOf? c.itemsPath (.array items) = some items) ∨
        ∃ key, c.itemsPath = some key ∧ IsWrapper document response key ∧
          ((∀ members items, Entries.get? key members = some (.array items) →
              Listing.itemsOf? c.itemsPath (.object members) = some items) ↔
            key ≠ "" ∧ '.' ∉ key.toList)) := by
  obtain ⟨response, hlists⟩ := exists_lists hfound hc
  refine ⟨response, hlists, ?_⟩
  rcases itemsPath_cases hlists with hnone | ⟨key, hkey, hwrapper⟩
  · rw [hnone]
    exact Or.inl ⟨rfl, fun items => rfl⟩
  · rw [hkey]
    exact Or.inr ⟨key, rfl, hwrapper, Listing.itemsOf?_key_iff key⟩

/-! ## A wrapper with a dot in its name -/

/-- A document with one collection, whose listing wraps the items under a member of this name. -/
def wrappedUnder (wrapper : String) : Json :=
  let item := .object [("type", .string "object"),
    ("properties", .object [("id", .object [("type", .string "string")])])]
  let body := .object [("type", .string "object"),
    ("properties", .object [(wrapper, .object [("type", .string "array"), ("items", item)])])]
  let content := .object [("application/json", .object [("schema", body)])]
  let responses := .object [("200", .object [("content", content)])]
  .object [("openapi", .string "3.0.0"),
    ("paths", .object [("/v1/cdns", .object [("get", .object [("responses", responses)])])])]

/-- A wrapper with a plain name leads to the items. -/
theorem itemsPath_agrees_cdns :
    ∃ c, collections? (wrappedUnder "cdns") = some [c] ∧ c ∈ [c] ∧
      ∀ members items, Entries.get? "cdns" members = some (.array items) →
        Listing.itemsOf? c.itemsPath (.object members) = some items := by
  obtain ⟨c, hfound, hpath⟩ :
      ∃ c, collections? (wrappedUnder "cdns") = some [c] ∧ c.itemsPath = some "cdns" :=
    ⟨_, rfl, rfl⟩
  refine ⟨c, hfound, List.mem_cons_self, ?_⟩
  obtain ⟨_, _, hcases⟩ := itemsPath_agrees_iff hfound List.mem_cons_self
  rcases hcases with ⟨hnone, -⟩ | ⟨key, hkey, -, hiff⟩
  · rw [hpath] at hnone
    cases hnone
  · rw [hpath] at hkey
    obtain rfl := Option.some.inj hkey
    exact hiff.mpr (by decide)

/-- **A wrapper with a dot in its name leads elsewhere**: the items are taken from another member,
though the wrapper holds an array. -/
theorem itemsPath_misses_dotted :
    ∃ c, collections? (wrappedUnder "page.items") = some [c] ∧ c.itemsPath = some "page.items" ∧
      Listing.itemsOf? c.itemsPath
          (.object [("page.items", .array [.string "a"]), ("items", .array [.string "b"])])
        = some [.string "b"] :=
  ⟨_, rfl, rfl, rfl⟩

end QueryableApi.OpenApi
