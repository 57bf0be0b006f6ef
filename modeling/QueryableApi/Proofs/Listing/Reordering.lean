import Mathlib.Logic.Relation
import QueryableApi.Proofs.Json
import QueryableApi.Proofs.Listing.Items

/-! # Bodies with their members in another order

The items of a body are one of the arrays in it (`isPart_of_itemsOf?`). Which one does not depend on the
order in which the members of objects are written (`itemsOf?_of_reorders`), as long as their names are
distinct, nor on a further member of the body that the path does not name and that is no array
(`itemsOf?_of_gained`). Array elements are left as they are, since the items are handed out with them. -/

namespace QueryableApi

/-- **One object outside array elements has its members in another order**: the value itself, or one
inside a member. -/
inductive Json.Reorders : Json → Json → Prop
  /-- The members of the value are reordered. -/
  | here {members others : Entries Json} (h : members.Perm others) :
      Reorders (.object members) (.object others)
  /-- A member is reordered inside. -/
  | inside {before after : Entries Json} {key : String} {v w : Json} (h : Reorders v w) :
      Reorders (.object (before ++ (key, v) :: after)) (.object (before ++ (key, w) :: after))

namespace Json

variable {v w : Json} {members : Entries Json}

/-- A value that is reordered is no array, before and after. -/
theorem Reorders.array?_eq_none (h : Reorders v w) : v.array? = none ∧ w.array? = none := by
  cases h with
  | here => exact ⟨rfl, rfl⟩
  | inside => exact ⟨rfl, rfl⟩

/-- Distinct names stay distinct. -/
theorem Reorders.hasDistinctNames (h : Reorders v w) (hnames : v.HasDistinctNames) :
    w.HasDistinctNames := by
  induction h with
  | here h =>
      refine atEveryPart_iff.mpr ⟨(h.map Prod.fst).nodup_iff.mp hnames.distinct, fun inner hinner => ?_⟩
      exact hnames.of_mem_parts ((h.map Prod.snd).mem_iff.mpr hinner)
  | @inside before after key v w h ih =>
      have hkeys : Entries.keys (before ++ (key, w) :: after)
          = Entries.keys (before ++ (key, v) :: after) := by
        simp [Entries.keys]
      have hdistinct := hnames.distinct
      rw [Entries.Distinct, ← hkeys] at hdistinct
      refine atEveryPart_iff.mpr ⟨hdistinct, fun inner hinner => ?_⟩
      -- the inner value is the member that has changed or one that has not
      obtain ⟨m, hm, rfl⟩ := List.mem_map.mp hinner
      rcases Checks.mem_of_replaced hm with rfl | hm
      · exact ih (hnames.of_mem_parts (List.mem_map_of_mem List.mem_append_cons_self))
      · exact hnames.of_mem_parts (List.mem_map_of_mem hm)

/-- **Under every name** a reordered value has what it had before, perhaps reordered itself. -/
theorem Reorders.get?_cases (h : Reorders v w) (hnames : v.HasDistinctNames) (name : String) :
    v.get? name = w.get? name ∨
      ∃ inner other, v.get? name = some inner ∧ w.get? name = some other ∧ Reorders inner other := by
  cases h with
  | here h => exact .inl (Entries.get?_eq_of_perm hnames.distinct h name)
  | @inside before after key v w h =>
      rcases Entries.get?_of_replaced before after key v w name with heq | ⟨hv, hw⟩
      · exact .inl heq
      · exact .inr ⟨v, w, hv, hw, h⟩

end Json

namespace Listing

variable {v w value : Json} {members others before after : Entries Json} {name other : String}
  {items : List Json}

/-! ## Another order -/

/-- Names lead to the same array in a reordered value. -/
theorem follow_of_reorders (h : Json.Reorders v w) (hnames : v.HasDistinctNames)
    (names : List (List Char)) :
    (follow names (some v)).bind Json.array? = (follow names (some w)).bind Json.array? := by
  induction names generalizing v w with
  | nil =>
      obtain ⟨hv, hw⟩ := h.array?_eq_none
      exact hv.trans hw.symm
  | cons name rest ih =>
      show (follow rest (v.get? _)).bind Json.array? = (follow rest (w.get? _)).bind Json.array?
      rcases h.get?_cases hnames (String.ofList name) with heq | ⟨inner, other, hinner, hother, h⟩
      · rw [heq]
      · rw [hinner, hother]
        exact ih h (hnames.of_mem_parts (Json.mem_parts_of_get? hinner))

/-- A path leads to the same array in a reordered value. -/
theorem arrayAt?_of_reorders (h : Json.Reorders v w) (hnames : v.HasDistinctNames) (path : String) :
    arrayAt? path v = arrayAt? path w := by
  by_cases hself : path = "." ∨ path = ""
  · obtain ⟨hv, hw⟩ := h.array?_eq_none
    rcases hself with rfl | rfl
    · exact hv.trans hw.symm
    · exact hv.trans hw.symm
  · rw [not_or] at hself
    rw [arrayAt?_eq_follow hself.1 hself.2, arrayAt?_eq_follow hself.1 hself.2,
      follow_of_reorders h hnames]

/-- The only array does not depend on the order in which the arrays are met. -/
theorem onlyArray?_congr
    (h : (members.filterMap fun m => m.2.array?).Perm (others.filterMap fun m => m.2.array?)) :
    onlyArray? members = onlyArray? others := by
  rw [onlyArray?, onlyArray?]
  generalize members.filterMap (fun m => m.2.array?) = found at h ⊢
  generalize others.filterMap (fun m => m.2.array?) = found' at h ⊢
  -- one list has a single element iff the other has, and then it is the same
  match found, found', h with
  | [items], _, h => rw [List.perm_singleton.mp h.symm]
  | _, [items], h => rw [List.perm_singleton.mp h]
  | [], [], _ => rfl
  | _ :: _ :: _, _ :: _ :: _, _ => rfl
  | [], _ :: _ :: _, h => cases h.length_eq
  | _ :: _ :: _, [], h => cases h.length_eq

/-- **Objects with the same items**: a path leads to the same array in both, under the usual names are
the same arrays, and the arrays among the members are the same, in any order. -/
theorem itemsOf?_congr {path : Option String}
    (hpath : ∀ p, path = some p → arrayAt? p (.object members) = arrayAt? p (.object others))
    (hwrapped : ∀ name ∈ wrapperNames,
      (Entries.get? name members).bind Json.array? = (Entries.get? name others).bind Json.array?)
    (harrays : (members.filterMap fun m => m.2.array?).Perm (others.filterMap fun m => m.2.array?)) :
    itemsOf? path (.object members) = itemsOf? path (.object others) := by
  have hbind : path.bind (arrayAt? · (.object members)) = path.bind (arrayAt? · (.object others)) := by
    cases path with
    | none => rfl
    | some p => exact hpath p rfl
  have hfirst : wrapped? members = wrapped? others := by
    rw [wrapped?, wrapped?]
    exact Checks.findSome?_congr hwrapped
  rw [itemsOf?, itemsOf?, hbind, hfirst, onlyArray?_congr harrays]

/-- **Reordering one object leaves the items as they are.** -/
theorem itemsOf?_of_reorders (h : Json.Reorders v w) (hnames : v.HasDistinctNames)
    (path : Option String) : itemsOf? path v = itemsOf? path w := by
  have hpath := arrayAt?_of_reorders h hnames
  have hmember : ∀ name, (v.get? name).bind Json.array? = (w.get? name).bind Json.array? := fun name => by
    rcases h.get?_cases hnames name with heq | ⟨inner, other, hinner, hother, h⟩
    · rw [heq]
    · rw [hinner, hother]
      exact h.array?_eq_none.1.trans h.array?_eq_none.2.symm
  cases h with
  | here h =>
      exact itemsOf?_congr (fun p _ => hpath p) (fun name _ => hmember name) (h.filterMap _)
  | inside h =>
      refine itemsOf?_congr (fun p _ => hpath p) (fun name _ => hmember name) (List.Perm.of_eq ?_)
      rw [List.filterMap_append, List.filterMap_append, List.filterMap_cons, List.filterMap_cons,
        h.array?_eq_none.1, h.array?_eq_none.2]

/-- Reordering objects one after the other leaves the items as they are. -/
theorem itemsOf?_of_reordered (h : Relation.ReflTransGen Json.Reorders v w) (hnames : v.HasDistinctNames)
    (path : Option String) : itemsOf? path w = itemsOf? path v := by
  have hall : w.HasDistinctNames ∧ itemsOf? path w = itemsOf? path v := by
    induction h with
    | refl => exact ⟨hnames, rfl⟩
    | tail _ hstep ih =>
        exact ⟨hstep.hasDistinctNames ih.1, (itemsOf?_of_reorders hstep ih.1 path).symm.trans ih.2⟩
  exact hall.2

/-! ## A further member -/

/-- A further member is read under its own name only. -/
theorem get?_of_gained (hother : name ≠ other) (before after : Entries Json) (value : Json) :
    Entries.get? other (before ++ (name, value) :: after) = Entries.get? other (before ++ after) := by
  rw [Entries.get?_append, Entries.get?_append, Entries.get?_cons, if_neg hother]

/-- A path that does not start with the name of a further member leads to the same array. -/
theorem arrayAt?_of_gained {path : String} (hpath : (pathNames path).head? ≠ some name.toList)
    (before after : Entries Json) (value : Json) :
    arrayAt? path (.object (before ++ (name, value) :: after))
      = arrayAt? path (.object (before ++ after)) := by
  by_cases hself : path = "." ∨ path = ""
  · rcases hself with rfl | rfl <;> rfl
  rw [not_or] at hself
  rw [arrayAt?_eq_follow hself.1 hself.2, arrayAt?_eq_follow hself.1 hself.2]
  cases hnames : pathNames path with
  | nil => rfl
  | cons first rest =>
      have hne : name ≠ String.ofList first := by
        rintro rfl
        rw [hnames, String.toList_ofList] at hpath
        exact hpath rfl
      show (follow rest (Entries.get? (String.ofList first) _)).bind Json.array?
        = (follow rest (Entries.get? (String.ofList first) _)).bind Json.array?
      rw [get?_of_gained hne]

/-- **A further member that is no array leaves the items as they are**, unless the path starts with its
name. -/
theorem itemsOf?_of_gained {path : Option String} (hfresh : name ∉ Entries.keys (before ++ after))
    (hpath : ∀ p, path = some p → (pathNames p).head? ≠ some name.toList)
    (hvalue : value.array? = none) :
    itemsOf? path (.object (before ++ (name, value) :: after))
      = itemsOf? path (.object (before ++ after)) := by
  refine itemsOf?_congr (fun p hp => arrayAt?_of_gained (hpath p hp) before after value) (fun other _ => ?_)
    (List.Perm.of_eq ?_)
  · by_cases hother : name = other
    · -- neither the new member nor any other one has an array under the new name
      subst hother
      have hbefore : Entries.get? name before = none :=
        Entries.get?_eq_none_iff.mpr fun hmem => hfresh (by simp [Entries.keys] at hmem ⊢; tauto)
      rw [Entries.get?_append, hbefore, Entries.get?_cons, if_pos rfl, Entries.get?_eq_none_iff.mpr hfresh]
      exact hvalue
    · rw [get?_of_gained hother]
  · rw [List.filterMap_append, List.filterMap_append, List.filterMap_cons, hvalue]

/-! ## Where the items come from -/

/-- What names lead to is part of the value. -/
theorem isPart_of_follow {names : List (List Char)} (h : follow names (some v) = some w) :
    Json.IsPart w v := by
  induction names generalizing v with
  | nil =>
      obtain rfl := Option.some.inj h
      exact .self
  | cons name rest ih =>
      replace h : follow rest (v.get? (String.ofList name)) = some w := h
      cases hget : v.get? (String.ofList name) with
      | none =>
          rw [hget, follow_none] at h
          cases h
      | some inner =>
          rw [hget] at h
          exact .inside (Json.mem_parts_of_get? hget) (ih h)

/-- The array that a path leads to is part of the value. -/
theorem isPart_of_arrayAt? {path : String} (h : arrayAt? path v = some items) :
    Json.IsPart (.array items) v := by
  by_cases hself : path = "." ∨ path = ""
  · have harray : v.array? = some items := by rcases hself with rfl | rfl <;> exact h
    rw [Json.eq_array_of_array? harray]
    exact .self
  · rw [not_or] at hself
    rw [arrayAt?_eq_follow hself.1 hself.2] at h
    obtain ⟨w, hw, hitems⟩ := Option.bind_eq_some_iff.mp h
    rw [← Json.eq_array_of_array? hitems]
    exact isPart_of_follow hw

/-- **The items of a body are one of the arrays in it**, with all their elements in order. -/
theorem isPart_of_itemsOf? {path : Option String} (h : itemsOf? path v = some items) :
    Json.IsPart (.array items) v := by
  unfold itemsOf? at h
  split at h
  · next found hpath =>
    obtain rfl := Option.some.inj h
    obtain ⟨p, -, hp⟩ := Option.bind_eq_some_iff.mp hpath
    exact isPart_of_arrayAt? hp
  · cases v with
    | array found =>
        obtain rfl := Option.some.inj h
        exact .self
    | object members =>
        have hmember : ∀ {m : String × Json}, m ∈ members → m.2.array? = some items →
            Json.IsPart (.array items) (.object members) := fun hm hitems => by
          rw [← Json.eq_array_of_array? hitems]
          exact .inside (List.mem_map_of_mem hm) .self
        -- a member under a usual name, or the only array among the members
        rcases Option.or_eq_some_iff.mp h with h | ⟨-, h⟩
        · obtain ⟨name, -, hname⟩ := List.exists_of_findSome?_eq_some h
          obtain ⟨w, hw, hitems⟩ := Option.bind_eq_some_iff.mp hname
          exact hmember (Entries.mem_of_get? hw) hitems
        · rw [onlyArray?] at h
          split at h
          · next found hfound =>
            obtain rfl := Option.some.inj h
            have hmem : found ∈ members.filterMap fun m => m.2.array? := by
              rw [hfound]
              exact List.mem_singleton_self found
            obtain ⟨m, hm, hitems⟩ := List.mem_filterMap.mp hmem
            exact hmember hm hitems
          · cases h
    | _ => cases h

/-! ## All of it -/

/-- **The items of a body depend on its arrays and their names only.** Reordering objects outside array
elements leaves them as they are if names are distinct, as they are in every body that is read
(`Json.hasDistinctNames_of_read`); a further member with a new name does, if it is no array and the path
does not start with its name; and they are one of the arrays in the body, with all its elements in
order. -/
theorem itemsOf?_stable (path : Option String) (body : Json) :
    (body.HasDistinctNames → ∀ other, Relation.ReflTransGen Json.Reorders body other →
      itemsOf? path other = itemsOf? path body) ∧
    (∀ (before after : Entries Json) (name : String) (value : Json), body = .object (before ++ after) →
      name ∉ Entries.keys (before ++ after) →
      (∀ p, path = some p → (pathNames p).head? ≠ some name.toList) → value.array? = none →
      itemsOf? path (.object (before ++ (name, value) :: after)) = itemsOf? path body) ∧
    ∀ items, itemsOf? path body = some items → Json.IsPart (.array items) body := by
  refine ⟨fun hnames other h => itemsOf?_of_reordered h hnames path, ?_,
    fun items h => isPart_of_itemsOf? h⟩
  rintro before after name value rfl hfresh hpath hvalue
  exact itemsOf?_of_gained hfresh hpath hvalue

/-- A body with its items on a page. -/
def pagedBody : Json :=
  .object [("tags", .array [.null]),
    ("page", .object [("total", .null), ("cdns", .array [.string "a", .string "b"])])]

/-- The same body with the members of both objects the other way round. -/
def turnedBody : Json :=
  .object [("page", .object [("cdns", .array [.string "a", .string "b"]), ("total", .null)]),
    ("tags", .array [.null])]

/-- The page is found behind other members as well, and beside a further one. -/
theorem itemsOf?_stable_page :
    pagedBody.HasDistinctNames ∧ Relation.ReflTransGen Json.Reorders pagedBody turnedBody ∧
      itemsOf? (some "page.cdns") turnedBody = some [.string "a", .string "b"] ∧
      itemsOf? (some "page.cdns")
          (.object [("page", .object [("cdns", .array [.string "a", .string "b"]), ("total", .null)]),
            ("items", .null), ("tags", .array [.null])])
        = some [.string "a", .string "b"] ∧
      Json.IsPart (.array [.string "a", .string "b"]) pagedBody := by
  have hitems : itemsOf? (some "page.cdns") pagedBody = some [.string "a", .string "b"] := rfl
  have hleaf : ∀ v : Json, v.parts = [] → Json.IsDistinct v → v.HasDistinctNames := fun v hparts hv =>
    Json.atEveryPart_iff.mpr ⟨hv, by rw [hparts]; exact List.forall_mem_nil _⟩
  have hnames : pagedBody.HasDistinctNames := by
    refine Json.atEveryPart_iff.mpr ⟨show List.Nodup ["tags", "page"] by decide, ?_⟩
    refine List.forall_mem_cons.mpr ⟨?_, List.forall_mem_singleton.mpr ?_⟩
    · refine Json.atEveryPart_iff.mpr ⟨trivial, List.forall_mem_singleton.mpr ?_⟩
      exact hleaf .null rfl trivial
    · refine Json.atEveryPart_iff.mpr ⟨show List.Nodup ["total", "cdns"] by decide, ?_⟩
      refine List.forall_mem_cons.mpr ⟨hleaf .null rfl trivial, List.forall_mem_singleton.mpr ?_⟩
      refine Json.atEveryPart_iff.mpr ⟨trivial, List.forall_mem_cons.mpr ⟨?_, ?_⟩⟩
      · exact hleaf (.string "a") rfl trivial
      · exact List.forall_mem_singleton.mpr (hleaf (.string "b") rfl trivial)
  have hturned : Relation.ReflTransGen Json.Reorders pagedBody turnedBody := by
    refine .tail (.single (.here (List.Perm.swap _ _ []))) ?_
    exact @Json.Reorders.inside [] [("tags", .array [.null])] "page" _ _ (.here (List.Perm.swap _ _ []))
  obtain ⟨hreordered, -, hpart⟩ := itemsOf?_stable (some "page.cdns") pagedBody
  obtain ⟨-, hgained, -⟩ := itemsOf?_stable (some "page.cdns") turnedBody
  have hsame := hreordered hnames turnedBody hturned
  refine ⟨hnames, hturned, hsame.trans hitems, ?_, hpart _ hitems⟩
  refine (hgained [_] [_] "items" .null rfl (by decide) ?_ rfl).trans (hsame.trans hitems)
  intro p hp
  rw [← Option.some.inj hp]
  decide

end Listing

end QueryableApi
