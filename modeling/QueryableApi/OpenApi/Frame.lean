/-! # Resolution frames

A walk through a document opens a frame for every schema it enters, and closes it on leaving. Frames may
be open at most `maxFrames` deep, and a reference that an open frame already carries is refused, which is
how walks through self-referential schemas end. References are compared without one leading number sign.

`Frames.enter?` opens a frame and `Frames.leave` closes it. `Call.run` runs a tree of nested and
consecutive calls through one set of frames and tells which of them were entered.
-/

namespace QueryableApi.OpenApi

/-- How many frames may be open at once. -/
def maxFrames : Nat := 128

/-- A reference without one leading number sign. -/
def normalized (reference : String) : List Char :=
  match reference.toList with
  | '#' :: rest => rest
  | cs => cs

/-- The frames that are open. -/
structure Frames where
  /-- How many more may be opened. -/
  room : Nat
  /-- The references that the open ones carry, the innermost first. -/
  active : List (List Char)
deriving DecidableEq, Repr

namespace Frames

/-- No frame is open. -/
def fresh : Frames := ⟨maxFrames, []⟩

/-- The references with that of a new frame. -/
def activate (active : List (List Char)) (reference : Option String) : List (List Char) :=
  reference.elim active fun r => normalized r :: active

/-- Whether an open frame carries a reference. -/
def isActive (active : List (List Char)) (reference : Option String) : Bool :=
  reference.any fun r => active.contains (normalized r)

/-- Opens a frame, unless too many are open or one of them carries the reference. -/
def enter? (f : Frames) (reference : Option String) : Option Frames :=
  match f.room with
  | 0 => none
  | room + 1 =>
    if isActive f.active reference then none else some ⟨room, activate f.active reference⟩

/-- Closes the innermost frame, which carries the given reference. -/
def leave (f : Frames) (reference : Option String) : Frames :=
  ⟨f.room + 1, reference.elim f.active fun r => f.active.erase (normalized r)⟩

/-- Leaving a frame restores what was open before it was entered. -/
theorem leave_of_enter? {f g : Frames} {reference : Option String}
    (h : f.enter? reference = some g) : g.leave reference = f := by
  obtain ⟨room, active⟩ := f
  cases room with
  | zero => simp [enter?] at h
  | succ room =>
    simp only [enter?] at h
    split at h
    · simp at h
    · simp only [Option.some.injEq] at h
      subst h
      cases reference <;> simp [leave, activate]

end Frames

/-- A frame to be opened, and what runs inside it. -/
inductive Call
  /-- The reference the frame carries and the calls inside it. -/
  | frame (reference : Option String) (inside : List Call)

mutual

/-- Runs one call: the outcomes of the calls inside it, then its own; and the frames left open. -/
def Call.run (f : Frames) : Call → List Bool × Frames
  | .frame reference inside =>
    match f.enter? reference with
    | none => ([false], f)
    | some inner =>
      let (outcomes, left) := Call.runAll inner inside
      (outcomes ++ [true], left.leave reference)

/-- Runs calls one after the other. -/
def Call.runAll (f : Frames) : List Call → List Bool × Frames
  | [] => ([], f)
  | c :: rest =>
    let (outcomes, left) := Call.run f c
    let (more, last) := Call.runAll left rest
    (outcomes ++ more, last)

end

end QueryableApi.OpenApi
