import Mathlib.Data.List.Chain
import Mathlib.Data.List.Nodup
import Mathlib.Logic.Relation
import QueryableApi.Proofs.OpenApi.ItemSchema

/-! # Expanding schemas

A schema that is a reference expands to its target, and any other one to the parts it combines with
`allOf`. What is reached that way from a schema is seen on its paths (`Expands`). A walk opens a frame for
each schema of a path, so it is never refused one if no path is longer than frames may be opened and no
reference occurs twice on one, and this can be computed (`fitsWithin_iff`). -/

namespace QueryableApi.OpenApi

variable {root schema next : Json} {room : Nat} {active : List (List Char)}

/-- What a schema expands to: the target of a reference, if it is there, or the parts. -/
def expansions (root schema : Json) : List Json :=
  match reference? schema with
  | some reference => (target? root reference).toList
  | none => partsOf schema

/-- A schema **expands** to another one. -/
def Expands (root schema next : Json) : Prop := next ∈ expansions root schema

/-- A reference expands to its target. -/
theorem expands_of_target {reference : String} (href : reference? schema = some reference)
    (hfound : target? root reference = some next) : Expands root schema next := by
  simp only [Expands, expansions, href, hfound, Option.toList_some, List.mem_singleton]

/-- Any other schema expands to its parts. -/
theorem expands_iff_of_none (href : reference? schema = none) :
    Expands root schema next ↔ next ∈ partsOf schema := by
  rw [Expands, expansions, href]

/-! ## Paths -/

/-- The references on a path, as they are compared. -/
def references (path : List Json) : List (List Char) :=
  path.filterMap fun schema => (reference? schema).map normalized

/-- The reference of the first schema of a path is one of those that are active behind it. -/
theorem nodup_references_cons_iff {path : List Json} :
    (references (schema :: path) ++ active).Nodup ↔
      (references path ++ Frames.activate active (reference? schema)).Nodup := by
  rw [references, List.filterMap_cons]
  cases reference? schema with
  | none => rfl
  | some reference => exact List.nodup_middle.symm

/-- Active references stay distinct iff the new one is not active. -/
theorem nodup_activate_iff {reference : Option String} :
    (Frames.activate active reference).Nodup ↔
      Frames.isActive active reference = false ∧ active.Nodup := by
  cases reference with
  | none => simp [Frames.activate, Frames.isActive]
  | some reference => simp [Frames.activate, Frames.isActive]

/-- Every path from a schema **fits** into the frames that may still be opened: it is no longer than
that, and no reference on it is active or met twice. -/
def FitsWithin (root : Json) (room : Nat) (active : List (List Char)) (schema : Json) : Prop :=
  ∀ path, (schema :: path).IsChain (Expands root) →
    (schema :: path).length ≤ room ∧ (references (schema :: path) ++ active).Nodup

/-- Whether every path from a schema fits into the frames that may still be opened. -/
def fitsWithin (root : Json) : Nat → List (List Char) → Json → Bool
  | 0, _, _ => false
  | room + 1, active, schema =>
    !Frames.isActive active (reference? schema) &&
      (expansions root schema).all
        (fitsWithin root room (Frames.activate active (reference? schema)))

/-- **Paths fit** if the reference of the schema is not active, and those from what it expands to fit one
frame further in. -/
theorem fitsWithin_succ_iff :
    fitsWithin root (room + 1) active schema = true ↔
      Frames.isActive active (reference? schema) = false ∧
        ∀ next, Expands root schema next →
          fitsWithin root room (Frames.activate active (reference? schema)) next = true := by
  rw [fitsWithin, Bool.and_eq_true, Bool.not_eq_true', List.all_eq_true]
  rfl

/-- The reference of a schema whose paths fit is not active. -/
theorem isActive_of_fitsWithin (h : fitsWithin root room active schema = true) :
    Frames.isActive active (reference? schema) = false := by
  cases room with
  | zero => cases h
  | succ room => exact (fitsWithin_succ_iff.mp h).1

/-- **Whether paths fit is computed** along the expansion. -/
theorem fitsWithin_iff (hactive : active.Nodup) :
    fitsWithin root room active schema = true ↔ FitsWithin root room active schema := by
  induction room generalizing active schema with
  | zero =>
      refine iff_of_false (fun h => ?_) fun h => ?_
      · cases h
      · cases (h [] (List.isChain_singleton schema)).1
  | succ room ih =>
      rw [fitsWithin_succ_iff]
      constructor
      · rintro ⟨hnew, hnext⟩ path hchain
        have hactivated := nodup_activate_iff.mpr ⟨hnew, hactive⟩
        rw [nodup_references_cons_iff]
        cases path with
        | nil => exact ⟨Nat.succ_pos room, hactivated⟩
        | cons next path =>
            obtain ⟨hexpands, hrest⟩ := List.isChain_cons_cons.mp hchain
            obtain ⟨hlength, hnodup⟩ := (ih hactivated).mp (hnext next hexpands) path hrest
            exact ⟨Nat.succ_le_succ hlength, hnodup⟩
      · intro h
        have hactivated := nodup_references_cons_iff.mp (h [] (List.isChain_singleton schema)).2
        refine ⟨(nodup_activate_iff.mp hactivated).1, fun next hexpands => ?_⟩
        refine (ih hactivated).mpr fun path hchain => ?_
        obtain ⟨hlength, hnodup⟩ := h (next :: path) (List.isChain_cons_cons.mpr ⟨hexpands, hchain⟩)
        exact ⟨Nat.le_of_succ_le_succ hlength, nodup_references_cons_iff.mp hnodup⟩

/-- Before any frame is open, only the paths themselves count. -/
theorem fitsWithin_nil_iff :
    fitsWithin root room [] schema = true ↔
      ∀ path, (schema :: path).IsChain (Expands root) →
        (schema :: path).length < room + 1 ∧ (references (schema :: path)).Nodup := by
  rw [fitsWithin_iff List.nodup_nil, FitsWithin]
  simp only [List.append_nil, Nat.lt_succ_iff]

end QueryableApi.OpenApi
