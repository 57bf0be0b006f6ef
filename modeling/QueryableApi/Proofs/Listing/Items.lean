import QueryableApi.Listing
import QueryableApi.Proofs.Text.Split

/-! # The items of a body

A body that is an array is its own list of items. In an object, a path finds the array under a
member's name whenever the name is plain: not empty and without dots, which separate the names of a
path. Any other name is taken for something else, and the search for the usual wrapper names may
then find another array (`decoy`); so `itemsOf?_key_iff` says that plain names are those that always
lead to the member. -/

namespace QueryableApi.Listing

/-- A name that a path reads as one name. -/
def IsPlainKey (key : String) : Prop := key ≠ "" ∧ '.' ∉ key.toList

instance (key : String) : Decidable (IsPlainKey key) :=
  inferInstanceAs (Decidable (_ ∧ _))

/-- The value under names in turn. -/
def follow (names : List (List Char)) (found : Option Json) : Option Json :=
  names.foldl (fun found name => found.bind (Json.get? (String.ofList name))) found

/-- The names of a path: its pieces between dots, without the empty ones. -/
def pathNames (path : String) : List (List Char) :=
  (path.toList.splitOn '.').filter fun name => !name.isEmpty

/-- A path other than the empty one and the dot is followed name by name. -/
theorem arrayAt?_eq_follow {path : String} (hdot : path ≠ ".") (hempty : path ≠ "") (body : Json) :
    arrayAt? path body = (follow (pathNames path) (some body)).bind Json.array? := by
  have hguard : (path == "." || path.isEmpty) = false := by
    rw [Bool.or_eq_false_iff, beq_eq_false_iff_ne, String.isEmpty_eq_false_iff]
    exact ⟨hdot, hempty⟩
  rw [arrayAt?, hguard]
  rfl

/-- Names lead nowhere from nowhere. -/
theorem follow_none (names : List (List Char)) : follow names none = none := by
  induction names with
  | nil => rfl
  | cons name rest ih => exact ih

/-- A name on the way holds no dot. -/
theorem not_mem_of_mem_pathNames {path : String} {name : List Char} (h : name ∈ pathNames path) :
    '.' ∉ name :=
  Text.not_mem_of_mem_splitOn (List.mem_filter.mp h).1

/-! ## Plain names -/

/-- **A plain name leads to the member under it.** -/
theorem arrayAt?_of_isPlainKey {key : String} (h : IsPlainKey key) (body : Json) :
    arrayAt? key body = (Json.get? key body).bind Json.array? := by
  obtain ⟨hempty, hdot⟩ := h
  have hne : key ≠ "." := by
    rintro rfl
    exact hdot (by decide)
  have hnames : pathNames key = [key.toList] := by
    have hchars : key.toList.isEmpty = false := by
      rw [List.isEmpty_eq_false_iff]
      exact fun hnil => hempty (String.toList_eq_nil_iff.mp hnil)
    rw [pathNames, List.splitOn_eq_singleton hdot, List.filter_cons, hchars]
    rfl
  rw [arrayAt?_eq_follow hne hempty, hnames]
  show ((some body).bind (Json.get? (String.ofList key.toList))).bind Json.array? = _
  rw [String.ofList_toList]
  rfl

/-! ## Other names -/

/-- An object in which a name leads to an empty array, beside other items under a usual name. -/
def decoy (key : String) : Entries Json := [(key, .array []), ("items", .array [.null])]

/-- Names other than that of a decoy lead to its other items or to no array. -/
theorem follow_decoy {key : String} {names : List (List Char)}
    (h : ∀ name ∈ names, key ≠ String.ofList name) :
    (follow names (some (.object (decoy key)))).bind Json.array? = none ∨
      (follow names (some (.object (decoy key)))).bind Json.array? = some [.null] := by
  cases names with
  | nil => exact Or.inl rfl
  | cons name rest =>
      have hfound : Entries.get? (String.ofList name) (decoy key)
          = if "items" = String.ofList name then some (.array [.null]) else none := by
        rw [decoy, Entries.get?_cons, if_neg (h name List.mem_cons_self), Entries.get?_cons]
        rfl
      show (follow rest (Entries.get? _ _)).bind Json.array? = none ∨
        (follow rest (Entries.get? _ _)).bind Json.array? = some [.null]
      rw [hfound]
      split
      · -- the name is that of the other items, and nothing lies below an array
        cases rest with
        | nil => exact Or.inr rfl
        | cons next rest =>
            refine Or.inl ?_
            show (follow rest none).bind Json.array? = none
            rw [follow_none]
            rfl
      · rw [follow_none]
        exact Or.inl rfl

/-- A name that is not plain does not lead to its member of the decoy. -/
theorem arrayAt?_decoy {key : String} (h : ¬ IsPlainKey key) :
    arrayAt? key (.object (decoy key)) = none ∨
      arrayAt? key (.object (decoy key)) = some [.null] := by
  by_cases hdot : key = "."
  · rw [hdot]
    exact Or.inl rfl
  by_cases hempty : key = ""
  · rw [hempty]
    exact Or.inl rfl
  have hmem : '.' ∈ key.toList := by
    by_contra hmem
    exact h ⟨hempty, hmem⟩
  rw [arrayAt?_eq_follow hdot hempty]
  -- the names on the way hold no dot, and so the key is none of them
  refine follow_decoy fun name hname heq => ?_
  rw [heq, String.toList_ofList] at hmem
  exact not_mem_of_mem_pathNames hname hmem

/-- The decoy of a name that is not plain gives the other items. -/
theorem itemsOf?_decoy {key : String} (h : ¬ IsPlainKey key) :
    itemsOf? (some key) (.object (decoy key)) = some [.null] := by
  have hne : key ≠ "items" := by
    rintro rfl
    exact h (by decide)
  have hother : Entries.get? "items" (decoy key) = some (.array [.null]) := by
    rw [decoy, Entries.get?_cons, if_neg hne]
    rfl
  have hwrapped : wrapped? (decoy key) = some [.null] := by
    rw [wrapped?, wrapperNames, List.findSome?_cons, hother]
    rfl
  rw [itemsOf?, Option.bind_some]
  rcases arrayAt?_decoy h with hat | hat
  · rw [hat]
    show (wrapped? (decoy key)).or (onlyArray? (decoy key)) = _
    rw [hwrapped]
    rfl
  · rw [hat]

/-! ## Both -/

/-- **A path leads to the member of that name in every object iff the name is plain.** -/
theorem itemsOf?_key_iff (key : String) :
    (∀ members items, Entries.get? key members = some (.array items) →
      itemsOf? (some key) (.object members) = some items) ↔ IsPlainKey key := by
  constructor
  · intro h
    by_contra hkey
    have hitems := h (decoy key) [] (by rw [decoy, Entries.get?_cons, if_pos rfl])
    rw [itemsOf?_decoy hkey] at hitems
    cases hitems
  · intro h members items hget
    have hat : arrayAt? key (.object members) = some items := by
      rw [arrayAt?_of_isPlainKey h]
      show (Entries.get? key members).bind Json.array? = some items
      rw [hget]
      rfl
    rw [itemsOf?, Option.bind_some, hat]

end QueryableApi.Listing
