import Mathlib.Data.List.Forall2
import QueryableApi.OpenApi.Catalog
import QueryableApi.Proofs.OpenApi.Listable

/-! # What a catalog holds

Of several paths that are listed under one name, the first contributes its collection and the others
are passed over (`IsFirstListed`). Paths that cannot be listed take no name. So a catalog holds the
collections of the paths that are the first under their names, in the order of the paths, each built
from the document and its own path, and no two of them share a name (`catalog_holds_first_listed`). -/

namespace QueryableApi.OpenApi

universe u

variable {document : Json} {catalog : Catalog} {paths : Entries Json} {taken : List String}
  {cs : List Collection}

/-- A path is the **first listed under its name**: no path before it can be listed under that name. -/
def IsFirstListed (document : Json) (paths : Entries Json) (entry : String × Json) : Prop :=
  ∃ before after name, paths = before ++ entry :: after ∧
    IsListable document entry.1 entry.2 name ∧
    ∀ earlier ∈ before, ¬ IsListable document earlier.1 earlier.2 name

/-! ## The first of each name -/

/-- The collections that are kept have names that were not taken. -/
theorem name_not_mem_of_mem_firstOfEachName {c : Collection} (h : c ∈ firstOfEachName taken cs) :
    c.name ∉ taken := by
  induction cs generalizing taken with
  | nil => cases h
  | cons first rest ih =>
      rw [firstOfEachName] at h
      split at h
      · exact ih h
      · next hnew =>
        rcases List.mem_cons.mp h with rfl | h
        · exact fun hmem => hnew (List.contains_iff_mem.mpr hmem)
        · exact fun hmem => ih h (List.mem_cons_of_mem _ hmem)

/-- **No two collections that are kept share a name.** -/
theorem nodup_firstOfEachName (taken : List String) (cs : List Collection) :
    ((firstOfEachName taken cs).map Collection.name).Nodup := by
  induction cs generalizing taken with
  | nil => exact List.nodup_nil
  | cons first rest ih =>
      rw [firstOfEachName]
      split
      · exact ih taken
      · refine List.nodup_cons.mpr ⟨fun hmem => ?_, ih _⟩
        obtain ⟨c, hc, hname⟩ := List.mem_map.mp hmem
        refine name_not_mem_of_mem_firstOfEachName hc ?_
        rw [hname]
        exact List.mem_cons_self

/-- An element is the **first with its name**: it has a collection whose name is neither taken nor
that of an element before it. -/
def IsFirstNamed {α : Type u} (found : α → Option Collection) (taken : List String) (xs : List α)
    (x : α) : Prop :=
  ∃ before after c, xs = before ++ x :: after ∧ found x = some c ∧ c.name ∉ taken ∧
    ∀ y ∈ before, ∀ d, found y = some d → d.name ≠ c.name

section FirstNamed

variable {α : Type u} {found : α → Option Collection} {x y : α} {rest : List α}

/-- The head is the first with its name iff that is not taken. -/
theorem isFirstNamed_head {c : Collection} (hx : found x = some c) (hnew : c.name ∉ taken) :
    IsFirstNamed found taken (x :: rest) x :=
  ⟨[], rest, c, rfl, hx, hnew, by simp⟩

/-- **An element of the rest** is the first with its name iff it is in the rest, where the name of the
head is taken too. -/
theorem isFirstNamed_cons_iff (hy : ∀ c, found x = some c → c.name ∈ taken) :
    IsFirstNamed found taken (x :: rest) y ↔ IsFirstNamed found taken rest y := by
  constructor
  · rintro ⟨before, after, c, hsplit, hfound, hnew, hbefore⟩
    cases before with
    | nil =>
        obtain ⟨rfl, rfl⟩ := List.cons.inj hsplit
        exact absurd (hy c hfound) hnew
    | cons _ before =>
        obtain ⟨rfl, rfl⟩ := List.cons.inj hsplit
        exact ⟨before, after, c, rfl, hfound, hnew, fun z hz => hbefore z (List.mem_cons_of_mem _ hz)⟩
  · rintro ⟨before, after, c, rfl, hfound, hnew, hbefore⟩
    refine ⟨x :: before, after, c, rfl, hfound, hnew, fun z hz d hd hname => ?_⟩
    rcases List.mem_cons.mp hz with rfl | hz
    · exact hnew (hname ▸ hy d hd)
    · exact hbefore z hz d hd hname

/-- Behind a head with a new name, an element is the first with its name iff it is the head itself or
the name of the head is not its own. -/
theorem isFirstNamed_cons_of_new {c : Collection} (hx : found x = some c) (hnew : c.name ∉ taken) :
    IsFirstNamed found taken (x :: rest) y ↔
      y = x ∨ IsFirstNamed found (c.name :: taken) rest y := by
  constructor
  · rintro ⟨before, after, d, hsplit, hfound, hd, hbefore⟩
    cases before with
    | nil =>
        obtain ⟨rfl, rfl⟩ := List.cons.inj hsplit
        exact Or.inl rfl
    | cons _ before =>
        obtain ⟨rfl, rfl⟩ := List.cons.inj hsplit
        have hne : c.name ≠ d.name := hbefore _ List.mem_cons_self c hx
        refine Or.inr ⟨before, after, d, rfl, hfound, ?_, fun z hz => hbefore z (List.mem_cons_of_mem _ hz)⟩
        rw [List.mem_cons, not_or]
        exact ⟨hne.symm, hd⟩
  · rintro (rfl | ⟨before, after, d, rfl, hfound, hd, hbefore⟩)
    · exact isFirstNamed_head hx hnew
    · rw [List.mem_cons, not_or] at hd
      refine ⟨x :: before, after, d, rfl, hfound, hd.2, fun z hz e he => ?_⟩
      rcases List.mem_cons.mp hz with rfl | hz
      · rw [hx] at he
        obtain rfl := Option.some.inj he
        exact Ne.symm hd.1
      · exact hbefore z hz e he

/-- **The elements whose collections are kept** are those that are the first with their names, in
order. -/
theorem exists_kept (found : α → Option Collection) (taken : List String) (xs : List α) :
    ∃ kept : List α, kept.Sublist xs ∧ (∀ x, x ∈ kept ↔ IsFirstNamed found taken xs x) ∧
      List.Forall₂ (fun x c => found x = some c) kept
        (firstOfEachName taken (xs.filterMap found)) := by
  induction xs generalizing taken with
  | nil =>
      refine ⟨[], List.Sublist.slnil, fun x => iff_of_false List.not_mem_nil ?_, .nil⟩
      rintro ⟨before, after, c, hsplit, -⟩
      exact List.cons_ne_nil _ _ (List.append_eq_nil_iff.mp hsplit.symm).2
  | cons x rest ih =>
      cases hx : found x with
      | none =>
          -- the path is passed over, and takes no name
          obtain ⟨kept, hsublist, hkept, hfound⟩ := ih taken
          refine ⟨kept, hsublist.cons x, fun y => ?_, ?_⟩
          · rw [hkept, isFirstNamed_cons_iff fun c hc => by rw [hx] at hc; cases hc]
          · rwa [List.filterMap_cons, hx]
      | some c =>
          rw [List.filterMap_cons, hx, firstOfEachName]
          split
          · next htaken =>
            -- its name is taken, so it is passed over as well
            obtain ⟨kept, hsublist, hkept, hfound⟩ := ih taken
            refine ⟨kept, hsublist.cons x, fun y => ?_, hfound⟩
            rw [hkept, isFirstNamed_cons_iff fun d hd => ?_]
            rw [hx] at hd
            obtain rfl := Option.some.inj hd
            exact List.contains_iff_mem.mp htaken
          · next hnew =>
            have hnew : c.name ∉ taken := fun h => hnew (List.contains_iff_mem.mpr h)
            obtain ⟨kept, hsublist, hkept, hfound⟩ := ih (c.name :: taken)
            refine ⟨x :: kept, hsublist.cons_cons x, fun y => ?_, .cons hx hfound⟩
            rw [List.mem_cons, hkept, isFirstNamed_cons_of_new hx hnew]

end FirstNamed

/-- The first path with a name is the first that is listed under it. -/
theorem isFirstNamed_iff {entry : String × Json} :
    IsFirstNamed (fun e => collectionAt? document e.1 e.2) [] paths entry ↔
      IsFirstListed document paths entry := by
  constructor
  · rintro ⟨before, after, c, hsplit, hc, -, hbefore⟩
    refine ⟨before, after, c.name, hsplit, isListable_iff.mpr ⟨c, hc, rfl⟩, ?_⟩
    intro earlier hearlier hlisted
    obtain ⟨d, hd, hname⟩ := isListable_iff.mp hlisted
    exact hbefore earlier hearlier d hd hname
  · rintro ⟨before, after, name, hsplit, hlisted, hbefore⟩
    obtain ⟨c, hc, rfl⟩ := isListable_iff.mp hlisted
    refine ⟨before, after, c, hsplit, hc, List.not_mem_nil, fun earlier hearlier d hd hname => ?_⟩
    exact hbefore earlier hearlier (isListable_iff.mpr ⟨d, hd, hname⟩)

/-! ## Catalogs -/

/-- A document that passes the preflight has paths. -/
theorem exists_paths_of_violations (h : violations document = []) :
    ∃ paths, document.get? "paths" = some (.object paths) := by
  have hpaths : pathsViolations document = [] := (List.append_eq_nil_iff.mp h).2
  unfold pathsViolations at hpaths
  split at hpaths
  · next paths hget => exact ⟨paths, hget⟩
  · cases hpaths
  · cases hpaths

/-- **There is a catalog** iff the document passes the preflight, and it holds the first collection of
each name. -/
theorem ofDocument_eq_ok_iff :
    Catalog.ofDocument document = .ok catalog ↔
      violations document = [] ∧ ∃ paths, document.get? "paths" = some (.object paths) ∧
        catalog = ⟨firstOfEachName [] (paths.filterMap fun e => collectionAt? document e.1 e.2),
          baseUrl? document⟩ := by
  unfold Catalog.ofDocument
  constructor
  · intro h
    split at h
    · next hnone =>
      obtain ⟨paths, hpaths⟩ := exists_paths_of_violations hnone
      refine ⟨hnone, paths, hpaths, ?_⟩
      rw [OpenApi.collections, collections?, hpaths] at h
      exact (Except.ok.inj h).symm
    · cases h
  · rintro ⟨hnone, paths, hpaths, rfl⟩
    rw [hnone, OpenApi.collections, collections?, hpaths]
    rfl

/-- The collections of a catalog have distinct names. -/
theorem nodup_names (h : Catalog.ofDocument document = .ok catalog) : catalog.names.Nodup := by
  obtain ⟨-, paths, -, rfl⟩ := ofDocument_eq_ok_iff.mp h
  exact nodup_firstOfEachName _ _

/-- **What a catalog holds.** There is one iff the document passes the preflight. Its collections have
distinct names. They are those of the paths that are the first listed under their names, in the order
of the paths, and each is built from the document and its own path. -/
theorem catalog_holds_first_listed (document : Json) :
    ((∃ catalog, Catalog.ofDocument document = .ok catalog) ↔ violations document = []) ∧
      ∀ catalog, Catalog.ofDocument document = .ok catalog →
        catalog.names.Nodup ∧
        ∃ paths kept, document.get? "paths" = some (.object paths) ∧ kept.Sublist paths ∧
          (∀ entry, entry ∈ kept ↔ IsFirstListed document paths entry) ∧
          List.Forall₂ (fun entry c => collectionAt? document entry.1 entry.2 = some c) kept
            catalog.collections := by
  refine ⟨⟨?_, ?_⟩, fun catalog h => ⟨nodup_names h, ?_⟩⟩
  · rintro ⟨catalog, h⟩
    exact (ofDocument_eq_ok_iff.mp h).1
  · intro h
    obtain ⟨paths, hpaths⟩ := exists_paths_of_violations h
    exact ⟨_, ofDocument_eq_ok_iff.mpr ⟨h, paths, hpaths, rfl⟩⟩
  · obtain ⟨-, paths, hpaths, rfl⟩ := ofDocument_eq_ok_iff.mp h
    obtain ⟨kept, hsublist, hkept, hfound⟩ :=
      exists_kept (fun e => collectionAt? document e.1 e.2) [] paths
    exact ⟨paths, kept, hpaths, hsublist, fun entry => (hkept entry).trans isFirstNamed_iff, hfound⟩

/-! ## Paths under one name -/

/-- A document with these paths. -/
def withPaths (paths : Entries Json) : Json :=
  .object [("openapi", .string "3.0.0"), ("paths", .object paths)]

/-- A path whose `get` operation answers with these responses. -/
def answering (responses : Entries Json) : Json :=
  .object [("get", .object [("responses", .object responses)])]

/-- A path whose `get` operation answers with an array of objects. -/
def objectListing : Json :=
  let item := .object [("type", .string "object"),
    ("properties", .object [("id", .object [("type", .string "string")])])]
  let schema := .object [("type", .string "array"), ("items", item)]
  let content := .object [("application/json", .object [("schema", schema)])]
  answering [("200", .object [("content", content)])]

/-- Three paths with one name, of which the first cannot be listed. -/
def sameNamed : Entries Json :=
  [("/v1/cdns", answering []), ("/v1/cdns/", objectListing), ("/v1//cdns", objectListing)]

/-- Of three paths with one name, the first cannot be listed and takes no name, and the second
contributes its collection. -/
theorem catalog_holds_second_path :
    ∃ catalog, Catalog.ofDocument (withPaths sameNamed) = .ok catalog ∧
      catalog.names = ["cdns_v1"] ∧ ∃ kept : Entries Json, kept.map Prod.fst = ["/v1/cdns/"] ∧
        ∀ entry, entry ∈ kept ↔ IsFirstListed (withPaths sameNamed) sameNamed entry := by
  obtain ⟨catalog, c, h, hcollections, hname, htemplate⟩ : ∃ catalog c,
      Catalog.ofDocument (withPaths sameNamed) = .ok catalog ∧ catalog.collections = [c] ∧
        c.name = "cdns_v1" ∧ c.template = "/v1/cdns/" :=
    ⟨_, _, rfl, rfl, rfl, rfl⟩
  obtain ⟨-, paths, kept, hpaths, -, hkept, hfound⟩ :=
    (catalog_holds_first_listed (withPaths sameNamed)).2 catalog h
  obtain rfl : paths = sameNamed := by
    have hget : (withPaths sameNamed).get? "paths" = some (.object sameNamed) := rfl
    rw [hget] at hpaths
    exact (Json.object.inj (Option.some.inj hpaths)).symm
  refine ⟨catalog, h, by rw [Catalog.names, hcollections, List.map_singleton, hname], kept, ?_, hkept⟩
  -- the only path that is kept is the one of the only collection
  rw [hcollections] at hfound
  obtain ⟨entry, rest, hentry, hrest, rfl⟩ := List.forall₂_cons_right_iff.mp hfound
  obtain rfl := List.forall₂_nil_right_iff.mp hrest
  obtain ⟨operation, response, items, hat⟩ := exists_isListedAt hentry
  have hbase : basePath (withPaths sameNamed) = "" := rfl
  rw [hat.template, hbase, String.empty_append] at htemplate
  rw [List.map_singleton, htemplate]

end QueryableApi.OpenApi
