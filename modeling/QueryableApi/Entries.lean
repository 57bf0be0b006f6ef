/-! # Entries in insertion order

A mapping whose answers show the order of its keys is kept as the list of its entries. Writing a key
that is already present changes the value and leaves the key where it is; a new key goes to the end.
The operations keep keys distinct (`distinct_insert`, `distinct_extend`), and reading
back what was written is `get?_insert_self` and `get?_insert_of_ne`.
-/

namespace QueryableApi

universe u v

/-- The entries of a mapping, in the order in which their keys were first written. -/
abbrev Entries (α : Type u) := List (String × α)

namespace Entries

variable {α : Type u} {β : Type v}

/-- The keys, in order. -/
def keys (es : Entries α) : List String := es.map Prod.fst

@[simp] theorem keys_nil : keys ([] : Entries α) = [] := rfl

@[simp] theorem keys_cons (e : String × α) (es : Entries α) : keys (e :: es) = e.1 :: keys es := rfl

/-- No key is written twice. -/
def Distinct (es : Entries α) : Prop := (keys es).Nodup

/-- The value under a key. -/
def get? (key : String) : Entries α → Option α
  | [] => none
  | (k, v) :: rest => if k = key then some v else get? key rest

@[simp] theorem get?_nil (key : String) : get? key ([] : Entries α) = none := rfl

theorem get?_cons (key k : String) (v : α) (rest : Entries α) :
    get? key ((k, v) :: rest) = if k = key then some v else get? key rest := rfl

/-- Whether a key is present. -/
def contains (key : String) (es : Entries α) : Bool := (get? key es).isSome

theorem get?_eq_none_iff {key : String} {es : Entries α} : get? key es = none ↔ key ∉ keys es := by
  induction es with
  | nil => simp
  | cons e rest ih =>
    obtain ⟨k, v⟩ := e
    by_cases h : k = key
    · simp [get?_cons, h]
    · simp [get?_cons, h, ih, Ne.symm h]

/-- Writes a value: in place if the key is present, at the end otherwise. -/
def insert (key : String) (value : α) : Entries α → Entries α
  | [] => [(key, value)]
  | (k, v) :: rest => if k = key then (k, value) :: rest else (k, v) :: insert key value rest

theorem get?_insert_self (key : String) (value : α) (es : Entries α) :
    get? key (insert key value es) = some value := by
  induction es with
  | nil => simp [insert, get?]
  | cons e rest ih =>
    obtain ⟨k, v⟩ := e
    by_cases h : k = key
    · simp [insert, get?_cons, h]
    · simp [insert, get?_cons, h, ih]

theorem get?_insert_of_ne {key other : String} (h : other ≠ key) (value : α) (es : Entries α) :
    get? other (insert key value es) = get? other es := by
  induction es with
  | nil => simp [insert, get?, Ne.symm h]
  | cons e rest ih =>
    obtain ⟨k, v⟩ := e
    by_cases hk : k = key
    · subst hk; simp [insert, get?_cons, Ne.symm h]
    · simp [insert, get?_cons, hk, ih]

/-- A present key keeps its place, a new one goes to the end. -/
theorem keys_insert (key : String) (value : α) (es : Entries α) :
    keys (insert key value es) = if key ∈ keys es then keys es else keys es ++ [key] := by
  induction es with
  | nil => simp [insert]
  | cons e rest ih =>
    obtain ⟨k, v⟩ := e
    by_cases h : k = key
    · simp [insert, h]
    · by_cases hm : key ∈ keys rest <;> simp [insert, h, ih, hm, Ne.symm h]

theorem distinct_insert {es : Entries α} (h : Distinct es) (key : String) (value : α) :
    Distinct (insert key value es) := by
  unfold Distinct at *
  rw [keys_insert]
  split
  · exact h
  · next hm =>
    refine List.nodup_append.2 ⟨h, by simp, ?_⟩
    intro a ha b hb hab
    exact hm (List.mem_singleton.1 hb ▸ hab ▸ ha)

/-- Removes a key and keeps the order of the rest. -/
def erase (key : String) (es : Entries α) : Entries α := es.filter (fun e => e.1 ≠ key)

/-- Writes every entry of the second mapping into the first, in order. -/
def extend (es added : Entries α) : Entries α := added.foldl (fun acc e => insert e.1 e.2 acc) es

@[simp] theorem extend_nil (es : Entries α) : extend es [] = es := rfl

@[simp] theorem extend_cons (es : Entries α) (e : String × α) (added : Entries α) :
    extend es (e :: added) = extend (insert e.1 e.2 es) added := rfl

theorem distinct_extend {es : Entries α} (h : Distinct es) (added : Entries α) :
    Distinct (extend es added) := by
  induction added generalizing es with
  | nil => simpa using h
  | cons e rest ih => simpa using ih (distinct_insert h e.1 e.2)

/-- The mapping that a sequence of writes leaves. -/
def ofList (es : List (String × α)) : Entries α := extend [] es

theorem distinct_ofList (es : List (String × α)) : Distinct (ofList es) :=
  distinct_extend (by simp [Distinct]) es

/-- The same keys with each value changed. -/
def mapValues (f : α → β) (es : Entries α) : Entries β := es.map (fun e => (e.1, f e.2))

@[simp] theorem keys_mapValues (f : α → β) (es : Entries α) : keys (mapValues f es) = keys es := by
  simp [keys, mapValues, Function.comp_def]

end Entries

end QueryableApi
