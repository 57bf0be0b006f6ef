import Mathlib.Data.List.Forall2

/-! # Checks in a row

A computation that may fail runs checks one after the other and ends at the first that fails. This
file reads such a row from both ends: `*_eq_ok_iff` says that every check passes, `*_eq_error_iff`
says which check fails and that those before it pass. Where only the failure counts, it is read by
`failure?`. -/

namespace QueryableApi.Checks

universe u v w

variable {ε ε' : Type u} {α β : Type v}

/-! ## Two checks -/

/-- Two checks pass iff the first does and the second does on what the first found. -/
theorem bind_eq_ok_iff {x : Except ε α} {f : α → Except ε β} {b : β} :
    x >>= f = .ok b ↔ ∃ a, x = .ok a ∧ f a = .ok b := by
  cases x with
  | error e => simp [bind, Except.bind]
  | ok a => simp [bind, Except.bind]

/-- Two checks fail iff the first does, or it passes and the second fails. -/
theorem bind_eq_error_iff {x : Except ε α} {f : α → Except ε β} {e : ε} :
    x >>= f = .error e ↔ x = .error e ∨ ∃ a, x = .ok a ∧ f a = .error e := by
  cases x with
  | error e' => simp [bind, Except.bind]
  | ok a => simp [bind, Except.bind]

/-- A check that passes leaves the failure to the next. -/
theorem bind_error_of_ok {x : Except ε α} {f : α → Except ε β} {a : α} {e : ε} (hx : x = .ok a)
    (hf : f a = .error e) : x >>= f = .error e :=
  bind_eq_error_iff.mpr (Or.inr ⟨a, hx, hf⟩)

/-- A check that fails ends the row. -/
theorem bind_error_of_error {x : Except ε α} {f : α → Except ε β} {e : ε} (hx : x = .error e) :
    x >>= f = .error e :=
  bind_eq_error_iff.mpr (Or.inl hx)

/-- What is made of the result of a check is made of what it found. -/
theorem map_eq_ok_iff {x : Except ε α} {g : α → β} {b : β} :
    x.map g = .ok b ↔ ∃ a, x = .ok a ∧ g a = b := by
  cases x with
  | error e => simp [Except.map]
  | ok a => simp [Except.map]

/-- What a check finds, if it passes. -/
theorem toOption_eq_some_iff {x : Except ε α} {a : α} : x.toOption = some a ↔ x = .ok a := by
  cases x with
  | error e => simp [Except.toOption]
  | ok a' => simp [Except.toOption]

/-- Rewording a failure does not make a check pass. -/
theorem mapError_eq_ok_iff {x : Except ε α} {g : ε → ε'} {a : α} :
    x.mapError g = .ok a ↔ x = .ok a := by
  cases x with
  | error e => simp [Except.mapError]
  | ok a' => simp [Except.mapError]

/-- A reworded failure is that of the check. -/
theorem mapError_eq_error_iff {x : Except ε α} {g : ε → ε'} {e' : ε'} :
    x.mapError g = .error e' ↔ ∃ e, x = .error e ∧ g e = e' := by
  cases x with
  | error e => simp [Except.mapError]
  | ok a => simp [Except.mapError]

/-! ## Failures -/

/-- How a check fails, if it does. -/
def failure? : Except ε α → Option ε
  | .error e => some e
  | .ok _ => none

@[simp] theorem failure?_error (e : ε) : failure? (.error e : Except ε α) = some e := rfl

@[simp] theorem failure?_ok (a : α) : failure? (.ok a : Except ε α) = none := rfl

/-- A check fails with its failure. -/
theorem failure?_eq_some_iff {x : Except ε α} {e : ε} : failure? x = some e ↔ x = .error e := by
  cases x <;> simp

/-- What is made of the result of a check does not make it fail. -/
theorem failure?_bind_ok (x : Except ε α) (g : α → β) :
    failure? (x >>= fun a => Except.ok (g a)) = failure? x := by
  cases x <;> rfl

/-- Nor does what is made of it by a map. -/
theorem failure?_map (x : Except ε α) (g : α → β) : failure? (x.map g) = failure? x := by
  cases x <;> rfl

/-! ## A check for every element -/

/-- **A row of checks passes** iff every check does, and it finds what they find, in order. -/
theorem mapM_eq_ok_iff {f : α → Except ε β} {xs : List α} {ys : List β} :
    xs.mapM f = .ok ys ↔ List.Forall₂ (fun x y => f x = .ok y) xs ys := by
  induction xs generalizing ys with
  | nil =>
      rw [List.mapM_nil, List.forall₂_nil_left_iff]
      exact ⟨fun h => (Except.ok.inj h).symm, fun h => by rw [h]; rfl⟩
  | cons x rest ih =>
      rw [List.mapM_cons, bind_eq_ok_iff]
      constructor
      · rintro ⟨y, hy, h⟩
        obtain ⟨found, hfound, h⟩ := bind_eq_ok_iff.mp h
        obtain rfl := Except.ok.inj h
        exact .cons hy (ih.mp hfound)
      · rintro (_ | ⟨hy, hrest⟩)
        exact ⟨_, hy, bind_eq_ok_iff.mpr ⟨_, ih.mpr hrest, rfl⟩⟩

/-- A row of checks passes iff each of them does. -/
theorem exists_mapM_eq_ok_iff {f : α → Except ε β} {xs : List α} :
    (∃ ys, xs.mapM f = .ok ys) ↔ ∀ x ∈ xs, ∃ y, f x = .ok y := by
  simp only [mapM_eq_ok_iff]
  induction xs with
  | nil => exact iff_of_true ⟨[], .nil⟩ (by simp)
  | cons x rest ih =>
      rw [List.forall_mem_cons, ← ih]
      constructor
      · rintro ⟨_, _ | ⟨hy, hrest⟩⟩
        exact ⟨⟨_, hy⟩, _, hrest⟩
      · rintro ⟨⟨y, hy⟩, ys, hrest⟩
        exact ⟨y :: ys, .cons hy hrest⟩

/-- Two rows of checks, one on what the other found, are one row of both. -/
theorem exists_forall₂_and_iff {γ : Type w} {R : α → β → Prop} {S : β → γ → Prop} {xs : List α}
    {zs : List γ} :
    (∃ ys, List.Forall₂ R xs ys ∧ List.Forall₂ S ys zs) ↔
      List.Forall₂ (fun x z => ∃ y, R x y ∧ S y z) xs zs := by
  constructor
  · rintro ⟨ys, hxs, hys⟩
    induction hxs generalizing zs with
    | nil =>
        rw [List.forall₂_nil_left_iff.mp hys]
        exact .nil
    | cons hx _ ih =>
        obtain _ | ⟨hz, hrest⟩ := hys
        exact .cons ⟨_, hx, hz⟩ (ih hrest)
  · intro h
    induction h with
    | nil => exact ⟨[], .nil, .nil⟩
    | cons hxz _ ih =>
        obtain ⟨y, hx, hz⟩ := hxz
        obtain ⟨ys, hxs, hys⟩ := ih
        exact ⟨y :: ys, .cons hx hxs, .cons hz hys⟩

/-- What a row of checks finds is what each of them finds. -/
theorem eq_filterMap_of_mapM {f : α → Except ε β} {xs : List α} {ys : List β}
    (h : xs.mapM f = .ok ys) : ys = xs.filterMap fun x => (f x).toOption := by
  have hrow := mapM_eq_ok_iff.mp h
  clear h
  induction hrow with
  | nil => rfl
  | cons hy _ ih =>
      rw [List.filterMap_cons, hy, ih]
      rfl

/-- **A row of checks fails** iff there is a first check that fails, and with its failure. -/
theorem mapM_eq_error_iff {f : α → Except ε β} {xs : List α} {e : ε} :
    xs.mapM f = .error e ↔
      ∃ before x after, xs = before ++ x :: after ∧ (∀ y ∈ before, ∃ z, f y = .ok z) ∧
        f x = .error e := by
  induction xs with
  | nil =>
      rw [List.mapM_nil]
      constructor
      · intro h; cases h
      · rintro ⟨before, x, after, h, -⟩
        exact absurd h (by simp)
  | cons x rest ih =>
      rw [List.mapM_cons, bind_eq_error_iff]
      constructor
      · rintro (hx | ⟨y, hy, h⟩)
        · exact ⟨[], x, rest, rfl, by simp, hx⟩
        · rcases bind_eq_error_iff.mp h with hrest | ⟨found, -, h⟩
          · obtain ⟨before, z, after, rfl, hbefore, hz⟩ := ih.mp hrest
            refine ⟨x :: before, z, after, rfl, ?_, hz⟩
            rintro w (_ | ⟨_, hw⟩)
            exacts [⟨y, hy⟩, hbefore w hw]
          · cases h
      · rintro ⟨before, z, after, h, hbefore, hz⟩
        -- the failing check is the head, or it lies in the rest behind a head that passes
        cases before with
        | nil =>
            obtain ⟨rfl, rfl⟩ := List.cons.inj h
            exact Or.inl hz
        | cons w before =>
            obtain ⟨rfl, rfl⟩ := List.cons.inj h
            obtain ⟨y, hy⟩ := hbefore x (by simp)
            have hrest := ih.mpr ⟨before, z, after, rfl, fun v hv => hbefore v (by simp [hv]), hz⟩
            exact Or.inr ⟨y, hy, bind_eq_error_iff.mpr (Or.inl hrest)⟩

/-- A row of checks fails as the first of them that does. -/
theorem failure?_mapM (f : α → Except ε β) (xs : List α) :
    failure? (xs.mapM f) = xs.findSome? fun x => failure? (f x) := by
  induction xs with
  | nil => rfl
  | cons x rest ih =>
      rw [List.mapM_cons, List.findSome?_cons]
      cases f x with
      | error e => rfl
      | ok y =>
          rw [failure?_ok, ← ih]
          exact failure?_bind_ok (rest.mapM f) (y :: ·)

/-! ## Lists -/

/-- What is in a list is still there when one element is replaced, unless it is that element. -/
theorem mem_of_replaced {before after : List α} {x y z : α} (h : z ∈ before ++ x :: after) :
    z = x ∨ z ∈ before ++ y :: after := by
  rcases List.mem_append.mp h with hbefore | h
  · exact .inr (List.mem_append_left _ hbefore)
  · rcases List.mem_cons.mp h with rfl | hafter
    · exact .inl rfl
    · exact .inr (List.mem_append_right _ (List.mem_cons_of_mem _ hafter))

/-- Searches that find the same in every element of a list find the same in the list. -/
theorem findSome?_congr {f g : α → Option β} {xs : List α} (h : ∀ x ∈ xs, f x = g x) :
    xs.findSome? f = xs.findSome? g := by
  induction xs with
  | nil => rfl
  | cons x rest ih =>
      obtain ⟨hx, hrest⟩ := List.forall_mem_cons.mp h
      rw [List.findSome?_cons, List.findSome?_cons, hx, ih hrest]

end QueryableApi.Checks
