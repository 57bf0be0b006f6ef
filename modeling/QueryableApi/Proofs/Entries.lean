import QueryableApi.Entries
import Mathlib.Data.List.Nodup

/-! # Writing entries over entries

`Entries.extend` writes one mapping over another. Read by key it is an overriding union in which the
last entry written under a key wins (`get?_extend`); in order it keeps the keys that were there and
appends the new ones (`keys_extend`), and doing it twice changes nothing more (`extend_extend`).
`IsExtension` states the first two at once for added entries with distinct keys, and
`isExtension_extend` proves them of `extend`. -/

namespace QueryableApi.Entries

universe u v w

variable {α : Type u}

/-! ## Reading by key -/

/-- Writing an entry changes what is read under its key and nothing else. -/
theorem get?_insert (key other : String) (value : α) (es : Entries α) :
    get? other (insert key value es) = if key = other then some value else get? other es := by
  by_cases h : key = other
  · rw [if_pos h, ← h, get?_insert_self]
  · rw [if_neg h, get?_insert_of_ne (Ne.symm h)]

/-- Removing a key changes what is read under it and nothing else. -/
theorem get?_erase (key other : String) (es : Entries α) :
    get? other (erase key es) = if key = other then none else get? other es := by
  induction es with
  | nil => rw [erase, List.filter_nil, get?_nil, ite_self]
  | cons e rest ih =>
      obtain ⟨k, v⟩ := e
      rw [erase] at ih
      by_cases hkey : k = key
      · rw [erase, List.filter_cons_of_neg (by simpa using hkey), ih, get?_cons, hkey]
        split <;> rfl
      · rw [erase, List.filter_cons_of_pos (by simpa using hkey), get?_cons, get?_cons, ih]
        by_cases hother : k = other
        · rw [if_pos hother, if_pos hother, if_neg fun h => hkey (hother.trans h.symm)]
        · rw [if_neg hother, if_neg hother]

/-- The first of two runs of entries that has a key is the one that is read. -/
theorem get?_append (key : String) (es fs : Entries α) :
    get? key (es ++ fs) = (get? key es).or (get? key fs) := by
  induction es with
  | nil => rfl
  | cons e rest ih =>
      obtain ⟨k, v⟩ := e
      rw [List.cons_append, get?_cons, get?_cons, ih]
      split <;> rfl

/-- **Extending is an overriding union.** What is read under a key is the last value written under
it, and what was there before if none was. -/
theorem get?_extend (key : String) (es added : Entries α) :
    get? key (extend es added) = (get? key added.reverse).or (get? key es) := by
  induction added generalizing es with
  | nil => rfl
  | cons e rest ih =>
      obtain ⟨k, v⟩ := e
      -- the head is written before the rest, so it is read only if the rest leaves its key alone
      rw [extend_cons, ih, List.reverse_cons, get?_append, get?_insert, get?_cons]
      cases get? key rest.reverse with
      | some w => rfl
      | none => split <;> rfl

/-- What is read under a key of a sequence of writes is the last value written under it. -/
theorem get?_ofList (key : String) (es : List (String × α)) :
    get? key (ofList es) = get? key es.reverse := by
  rw [ofList, get?_extend, get?_nil, Option.or_none]

/-- **The entry that is read** stands behind entries with other keys. -/
theorem get?_eq_some_iff {key : String} {value : α} {es : Entries α} :
    get? key es = some value ↔
      ∃ before after, es = before ++ (key, value) :: after ∧ key ∉ keys before := by
  constructor
  · induction es with
    | nil => intro h; cases h
    | cons e rest ih =>
        obtain ⟨k, v⟩ := e
        intro h
        rw [get?_cons] at h
        split at h
        · next hk =>
          obtain rfl := Option.some.inj h
          exact ⟨[], rest, by rw [hk]; rfl, by simp⟩
        · next hk =>
          obtain ⟨before, after, rfl, hbefore⟩ := ih h
          refine ⟨(k, v) :: before, after, rfl, ?_⟩
          rw [keys_cons, List.mem_cons, not_or]
          exact ⟨Ne.symm hk, hbefore⟩
  · rintro ⟨before, after, rfl, hbefore⟩
    rw [get?_append, get?_eq_none_iff.mpr hbefore, get?_cons, if_pos rfl]
    rfl

/-- **The last write wins**: what is read after a sequence of writes is the value that is written
with no later write under its key. -/
theorem get?_ofList_eq_some_iff {key : String} {value : α} {es : List (String × α)} :
    get? key (ofList es) = some value ↔
      ∃ before after, es = before ++ (key, value) :: after ∧ key ∉ keys after := by
  have hkeys : ∀ fs : Entries α, key ∈ keys fs.reverse ↔ key ∈ keys fs := fun fs => by
    rw [keys, keys, List.map_reverse, List.mem_reverse]
  rw [get?_ofList, get?_eq_some_iff]
  constructor
  · rintro ⟨after, before, h, hafter⟩
    refine ⟨before.reverse, after.reverse, ?_, (hkeys after).not.mpr hafter⟩
    rw [← List.reverse_reverse es, h, List.reverse_append, List.reverse_cons, List.append_assoc]
    rfl
  · rintro ⟨before, after, rfl, hafter⟩
    refine ⟨after.reverse, before.reverse, ?_, (hkeys after).not.mpr hafter⟩
    rw [List.reverse_append, List.reverse_cons, List.append_assoc]
    rfl

/-- **The last contribution wins**: where the elements of a list contribute entries, what is read is
the value that one of them contributes and none behind it writes over. -/
theorem get?_ofList_filterMap_eq_some_iff {β : Type v} {f : β → Option (String × α)} {xs : List β}
    {key : String} {value : α} :
    get? key (ofList (xs.filterMap f)) = some value ↔
      ∃ before x after, xs = before ++ x :: after ∧ f x = some (key, value) ∧
        ∀ y ∈ after, ∀ w, f y ≠ some (key, w) := by
  have hlast : ∀ ys : List β,
      key ∉ keys (ys.filterMap f) ↔ ∀ y ∈ ys, ∀ w, f y ≠ some (key, w) := fun ys => by
    rw [keys, List.mem_map]
    constructor
    · intro h y hy w hw
      exact h ⟨(key, w), List.mem_filterMap.mpr ⟨y, hy, hw⟩, rfl⟩
    · rintro h ⟨⟨k, w⟩, hmem, rfl⟩
      obtain ⟨y, hy, hw⟩ := List.mem_filterMap.mp hmem
      exact h y hy w hw
  rw [get?_ofList_eq_some_iff]
  -- a split of the contributions is one of the list: contributing nothing leaves no entry
  constructor
  · rintro ⟨es, fs, h, hfs⟩
    obtain ⟨before, rest, hsplit, -, h⟩ := List.filterMap_eq_append_iff.mp h
    obtain ⟨passed, x, after, rfl, -, hx, rfl⟩ := List.filterMap_eq_cons_iff.mp h
    refine ⟨before ++ passed, x, after, ?_, hx, (hlast after).mp hfs⟩
    rw [hsplit, List.append_assoc]
  · rintro ⟨before, x, after, rfl, hx, hafter⟩
    refine ⟨before.filterMap f, after.filterMap f, ?_, (hlast after).mpr hafter⟩
    rw [List.filterMap_append, List.filterMap_cons, hx]

/-- With distinct keys, what is read does not depend on the direction of reading. -/
theorem get?_reverse {es : Entries α} (h : Distinct es) (key : String) :
    get? key es.reverse = get? key es := by
  induction es with
  | nil => rfl
  | cons e rest ih =>
      obtain ⟨k, v⟩ := e
      obtain ⟨hk, hrest⟩ := List.nodup_cons.mp h
      rw [List.reverse_cons, get?_append, ih hrest, get?_cons, get?_cons, get?_nil]
      split
      · next hkey =>
        rw [← hkey, get?_eq_none_iff.mpr hk]
        rfl
      · rw [Option.or_none]

/-- Extending by entries with distinct keys writes each of them. -/
theorem get?_extend_of_distinct {added : Entries α} (h : Distinct added) (key : String)
    (es : Entries α) : get? key (extend es added) = (get? key added).or (get? key es) := by
  rw [get?_extend, get?_reverse h]

/-- A new key at the end keeps keys distinct. -/
theorem distinct_append_singleton {es : Entries α} (h : Distinct es) {key : String}
    (hkey : key ∉ keys es) (value : α) : Distinct (es ++ [(key, value)]) := by
  have hkeys : keys (es ++ [(key, value)]) = keys es ++ [key] := List.map_append
  rw [Distinct, hkeys, ← List.concat_eq_append, List.nodup_concat]
  exact ⟨hkey, h⟩

/-! ## The order of keys -/

/-- **Where an entry is written**: in place of the first one with its key, or at the end if the key is
new. -/
theorem insert_cases (key : String) (value : α) (es : Entries α) :
    (∃ before old after, es = before ++ (key, old) :: after ∧
        insert key value es = before ++ (key, value) :: after) ∨
      key ∉ keys es ∧ insert key value es = es ++ [(key, value)] := by
  induction es with
  | nil => exact .inr ⟨List.not_mem_nil, rfl⟩
  | cons e rest ih =>
      obtain ⟨k, v⟩ := e
      rw [insert]
      by_cases hk : k = key
      · rw [if_pos hk, hk]
        exact .inl ⟨[], v, rest, rfl, rfl⟩
      · rw [if_neg hk]
        rcases ih with ⟨before, old, after, rfl, hrest⟩ | ⟨hnew, hrest⟩
        · exact .inl ⟨(k, v) :: before, old, after, rfl, by rw [hrest]; rfl⟩
        · refine .inr ⟨?_, by rw [hrest]; rfl⟩
          rw [keys_cons, List.mem_cons, not_or]
          exact ⟨Ne.symm hk, hnew⟩

/-- **Extending keeps the order of the keys** that were there and appends those that are new, in the
order in which they are written. -/
theorem keys_extend (es : Entries α) {added : Entries α} (h : Distinct added) :
    keys (extend es added) = keys es ++ (keys added).filter (fun key => key ∉ keys es) := by
  induction added generalizing es with
  | nil => simp
  | cons e rest ih =>
      obtain ⟨k, v⟩ := e
      obtain ⟨hk, hrest⟩ := List.nodup_cons.mp h
      rw [extend_cons, ih _ hrest, keys_insert, keys_cons, List.filter_cons]
      by_cases hmem : k ∈ keys es
      · simp [hmem]
      · -- the key appended here is not written again, so it filters nothing out of the rest
        have hfilter : (keys rest).filter (fun key => key ∉ keys es ++ [k])
            = (keys rest).filter (fun key => key ∉ keys es) := by
          refine List.filter_congr fun key hkey => ?_
          have hne : key ≠ k := fun heq => hk (heq ▸ hkey)
          simp [hne]
        rw [if_neg hmem, hfilter]
        simp [hmem]

/-- **The order of keys that are written more than once** is that in which they are first written, behind
the keys that were there. -/
theorem keys_extend_eq_append_eraseDups (es added : Entries α) :
    keys (extend es added) = keys es ++ ((keys added).removeAll (keys es)).eraseDups := by
  induction added generalizing es with
  | nil => rw [extend_nil, keys_nil, List.nil_removeAll, List.eraseDups_nil, List.append_nil]
  | cons e rest ih =>
      obtain ⟨k, v⟩ := e
      rw [extend_cons, ih, keys_insert, keys_cons, List.cons_removeAll]
      by_cases hmem : k ∈ keys es
      · rw [if_pos hmem, if_neg (by simpa using hmem)]
      · -- the key that is appended here is not a new one for the rest
        have hrest : (keys rest).removeAll (keys es ++ [k])
            = ((keys rest).removeAll (keys es)).filter fun other => !other == k := by
          simp only [List.removeAll, List.filter_filter]
          refine List.filter_congr fun other _ => ?_
          rw [Bool.eq_iff_iff]
          simp [and_comm]
        rw [if_neg hmem, if_pos (by simpa using hmem), hrest, List.eraseDups_cons, List.append_assoc]
        rfl

/-- The keys of a sequence of writes are in the order in which they are first written. -/
theorem keys_ofList (es : List (String × α)) : keys (ofList es) = (keys es).eraseDups := by
  rw [ofList, keys_extend_eq_append_eraseDups, keys_nil, List.removeAll_nil, List.nil_append]

/-- **Where entries are written**: the keys that were there keep their places in front, and the new ones
among those that are written follow. -/
theorem extend_split (es added : Entries α) :
    ∃ front back, extend es added = front ++ back ∧ keys front = keys es ∧
      ∀ key, key ∈ keys back ↔ key ∈ keys added ∧ key ∉ keys es := by
  induction added generalizing es with
  | nil => exact ⟨es, [], by simp⟩
  | cons e rest ih =>
      obtain ⟨k, v⟩ := e
      obtain ⟨front, back, hsplit, hfront, hback⟩ := ih (insert k v es)
      rw [extend_cons, hsplit]
      by_cases hmem : k ∈ keys es
      · have hkeys : keys (insert k v es) = keys es := by rw [keys_insert, if_pos hmem]
        refine ⟨front, back, rfl, hfront.trans hkeys, fun key => ?_⟩
        rw [hback, hkeys, keys_cons, List.mem_cons]
        constructor
        · rintro ⟨hkey, hnew⟩
          exact ⟨.inr hkey, hnew⟩
        · rintro ⟨rfl | hkey, hnew⟩
          exacts [absurd hmem hnew, ⟨hkey, hnew⟩]
      · -- the key that is written at the end is the first of the new ones
        have hkeys : keys (insert k v es) = keys es ++ [k] := by rw [keys_insert, if_neg hmem]
        obtain ⟨old, new, rfl, hold, hnew⟩ := List.map_eq_append_iff.mp (hfront.trans hkeys)
        obtain ⟨w, rfl, hw⟩ := List.map_eq_singleton_iff.mp hnew
        refine ⟨old, w :: back, by simp, hold, fun key => ?_⟩
        rw [keys_cons, List.mem_cons, hback, hw, hkeys, keys_cons, List.mem_cons, List.mem_append,
          List.mem_singleton]
        constructor
        · rintro (rfl | ⟨hkey, hfresh⟩)
          · exact ⟨.inl rfl, hmem⟩
          · exact ⟨.inr hkey, fun h => hfresh (.inl h)⟩
        · rintro ⟨rfl | hkey, hfresh⟩
          · exact .inl rfl
          · by_cases heq : key = k
            exacts [.inl heq, .inr ⟨hkey, fun h => h.elim hfresh heq⟩]

/-! ## Writing again -/

/-- Writing what is there changes nothing. -/
theorem insert_eq_self {key : String} {value : α} {es : Entries α} (h : get? key es = some value) :
    insert key value es = es := by
  induction es with
  | nil => cases h
  | cons e rest ih =>
      obtain ⟨k, v⟩ := e
      rw [get?_cons] at h
      rw [insert]
      split
      · next hk =>
        rw [if_pos hk] at h
        rw [Option.some.inj h]
      · next hk =>
        rw [if_neg hk] at h
        rw [ih h]

/-- Extending by entries that are there changes nothing. -/
theorem extend_eq_self {es added : Entries α} (h : ∀ e ∈ added, get? e.1 es = some e.2) :
    extend es added = es := by
  induction added with
  | nil => rfl
  | cons e rest ih =>
      rw [extend_cons, insert_eq_self (h e List.mem_cons_self)]
      exact ih fun f hf => h f (List.mem_cons_of_mem _ hf)

/-- With distinct keys, every entry is read under its key. -/
theorem get?_of_mem {es : Entries α} (h : Distinct es) {e : String × α} (he : e ∈ es) :
    get? e.1 es = some e.2 := by
  obtain ⟨before, after, rfl⟩ := List.append_of_mem he
  refine get?_eq_some_iff.mpr ⟨before, after, rfl, fun hkey => ?_⟩
  have hsplit : keys (before ++ e :: after) = keys before ++ e.1 :: keys after := by
    rw [keys, List.map_append]
    rfl
  rw [Distinct, hsplit] at h
  exact List.disjoint_of_nodup_append h hkey List.mem_cons_self

/-- An entry that is read under a key is there. -/
theorem mem_of_get? {key : String} {value : α} {es : Entries α} (h : get? key es = some value) :
    (key, value) ∈ es := by
  obtain ⟨before, after, rfl, -⟩ := get?_eq_some_iff.mp h
  exact List.mem_append_right _ List.mem_cons_self

/-- **An entry after writing** is one of those that were written, or one that was there and was not
written over. -/
theorem mem_extend {es added : Entries α} (h : Distinct es) {e : String × α}
    (he : e ∈ extend es added) : e ∈ added ∨ e ∈ es ∧ e.1 ∉ keys added := by
  have hget := get?_of_mem (distinct_extend h added) he
  rw [get?_extend] at hget
  cases hadded : get? e.1 added.reverse with
  | some value =>
      rw [hadded] at hget
      obtain rfl : value = e.2 := Option.some.inj hget
      exact .inl (List.mem_reverse.mp (mem_of_get? hadded))
  | none =>
      rw [hadded] at hget
      refine .inr ⟨mem_of_get? hget, fun hkey => get?_eq_none_iff.mp hadded ?_⟩
      rw [keys, List.map_reverse, List.mem_reverse]
      exact hkey

/-- **Extending twice by the same entries is extending once.** -/
theorem extend_extend (es : Entries α) {added : Entries α} (h : Distinct added) :
    extend (extend es added) added = extend es added := by
  refine extend_eq_self fun e he => ?_
  rw [get?_extend_of_distinct h, get?_of_mem h he]
  rfl

/-! ## Other orders and other values -/

/-- With distinct keys, what is read does not depend on the order of the entries. -/
theorem get?_eq_of_perm {es fs : Entries α} (hdistinct : Distinct es) (h : es.Perm fs) (key : String) :
    get? key es = get? key fs := by
  have hfs : Distinct fs := (h.map Prod.fst).nodup_iff.mp hdistinct
  cases hget : get? key es with
  | none =>
      rw [get?_eq_none_iff] at hget
      exact (get?_eq_none_iff.mpr fun hmem => hget ((h.map Prod.fst).mem_iff.mpr hmem)).symm
  | some value => exact (get?_of_mem hfs (h.mem_iff.mp (mem_of_get? hget))).symm

/-- Another value in one entry changes what is read from that value to the other one, or not at all. -/
theorem get?_of_replaced (before after : Entries α) (name : String) (value other : α) (key : String) :
    get? key (before ++ (name, value) :: after) = get? key (before ++ (name, other) :: after) ∨
      get? key (before ++ (name, value) :: after) = some value ∧
        get? key (before ++ (name, other) :: after) = some other := by
  simp only [get?_append, get?_cons]
  cases get? key before with
  | some found => exact .inl rfl
  | none =>
      by_cases hname : name = key
      · simp [hname]
      · simp [hname]

/-! ## Changing values -/

/-- Values that are changed twice are changed at once by both. -/
theorem mapValues_mapValues {β : Type v} {γ : Type w} (g : β → γ) (f : α → β) (es : Entries α) :
    mapValues g (mapValues f es) = mapValues (g ∘ f) es := by
  rw [mapValues, mapValues, mapValues, List.map_map]
  rfl

/-- Two changes of the values agree iff they agree on each. -/
theorem mapValues_inj_left {β : Type v} {f g : α → β} {es : Entries α} :
    mapValues f es = mapValues g es ↔ ∀ value ∈ es.map Prod.snd, f value = g value := by
  rw [mapValues, mapValues, List.map_inj_left, List.forall_mem_map]
  simp only [Prod.mk.injEq, true_and]

/-- Values that are left as they are leave the entries as they are. -/
theorem mapValues_id (es : Entries α) : mapValues id es = es := List.map_id es

/-! ## Extensions -/

/-- A mapping with entries written over it: what was added is read under the added keys, every other
key is read as before, and the keys that were there come first, in their order. -/
structure IsExtension (old added new : Entries α) : Prop where
  /-- What was added is there. -/
  written : ∀ key value, get? key added = some value → get? key new = some value
  /-- Every other key is as it was. -/
  kept : ∀ key, key ∉ keys added → get? key new = get? key old
  /-- The keys that were there keep their order, and the new ones follow. -/
  order : keys new = keys old ++ (keys added).filter (fun key => key ∉ keys old)

/-- Extending by entries with distinct keys is an extension. -/
theorem isExtension_extend (es : Entries α) {added : Entries α} (h : Distinct added) :
    IsExtension es added (extend es added) where
  written key value hvalue := by
    rw [get?_extend_of_distinct h, hvalue]
    rfl
  kept key hkey := by
    rw [get?_extend_of_distinct h, get?_eq_none_iff.mpr hkey]
    rfl
  order := keys_extend es h

end QueryableApi.Entries
