import QueryableApi.OpenApi.Frame

/-! # The frames that are open at a call

At every call that a run comes to (`Call.ComesTo`), the open frames are those of the calls around it
(`Call.ComesTo.isOf`). So these alone decide whether the call is entered: it is iff fewer than the bound
are around it and none of them carries its reference. A call leaves the frames as it found them, entered or
not, which is why calls beside it that have returned do not count (`Call.runs_iff`). -/

namespace QueryableApi.OpenApi

variable {f g inner : Frames} {reference : Option String} {stack outer : List (Option String)}

/-- A call with a reference **is admitted** inside calls with these references, the innermost first: they
are fewer than frames may be opened, and none carries the same reference, up to one leading number
sign. -/
def IsAdmitted (stack : List (Option String)) (reference : Option String) : Prop :=
  stack.length < maxFrames ∧
    ∀ r, reference = some r → ∀ s, some s ∈ stack → normalized s ≠ normalized r

namespace Frames

/-- The open frames **are those of** calls with these references, the innermost first. -/
structure IsOf (f : Frames) (stack : List (Option String)) : Prop where
  /-- Each call has taken the room of one frame. -/
  room : f.room + stack.length = maxFrames
  /-- The references are those that the calls carry. -/
  active : f.active = stack.filterMap fun r => r.map normalized

/-- No call is open at first. -/
theorem isOf_fresh : fresh.IsOf [] := ⟨rfl, rfl⟩

/-- A frame is opened iff there is room for it and its reference is not active. -/
theorem enter?_eq_some_iff :
    f.enter? reference = some inner ↔
      0 < f.room ∧ isActive f.active reference = false ∧
        inner = ⟨f.room - 1, activate f.active reference⟩ := by
  obtain ⟨room, active⟩ := f
  cases room with
  | zero => simp [enter?]
  | succ room =>
      rw [enter?]
      cases isActive active reference with
      | true => simp
      | false => simp [eq_comm]

/-- While there is room, a frame is opened iff its reference is not active. -/
theorem enter?_succ_eq_some_iff {room : Nat} {active : List (List Char)} :
    enter? ⟨room + 1, active⟩ reference = some inner ↔
      isActive active reference = false ∧ inner = ⟨room, activate active reference⟩ := by
  rw [enter?_eq_some_iff, and_iff_right room.succ_pos]
  rfl

/-- While there is room, no frame is opened iff the reference is active. -/
theorem enter?_succ_eq_none_iff {room : Nat} {active : List (List Char)} :
    enter? ⟨room + 1, active⟩ reference = none ↔ isActive active reference = true := by
  rw [enter?]
  cases isActive active reference with
  | true => simp
  | false => simp

/-- Closing the frame of a reference that was not active leaves the frames as they were. -/
theorem leave_activate {room : Nat} {active : List (List Char)}
    (h : isActive active reference = false) :
    leave ⟨room, activate active reference⟩ reference = ⟨room + 1, active⟩ :=
  leave_of_enter? (enter?_succ_eq_some_iff.mpr ⟨h, rfl⟩)

/-- **A call is admitted** inside the calls that the frames are those of iff there is room for a frame and
its reference is not active. -/
theorem IsOf.isAdmitted_iff (hf : f.IsOf stack) :
    IsAdmitted stack reference ↔ 0 < f.room ∧ isActive f.active reference = false := by
  have hroom := hf.room
  have hlength : stack.length < maxFrames ↔ 0 < f.room := by omega
  -- a reference is active iff a call carries it, up to the number sign
  have hcarried : isActive f.active reference = false ↔
      ∀ r, reference = some r → ∀ s, some s ∈ stack → normalized s ≠ normalized r := by
    rw [isActive, hf.active, Option.any_eq_false]
    refine forall₂_congr fun r _ => ?_
    rw [List.contains_eq_mem, decide_eq_false_iff_not, List.mem_filterMap]
    constructor
    · intro h s hs heq
      exact h ⟨some s, hs, congrArg some heq⟩
    · rintro h ⟨e, he, heq⟩
      obtain ⟨s, rfl, hs⟩ := Option.map_eq_some_iff.mp heq
      exact h s he hs
  rw [IsAdmitted, hlength, hcarried]

/-- **A frame is opened** exactly for the calls that are admitted. -/
theorem IsOf.isAdmitted_iff_exists (hf : f.IsOf stack) :
    IsAdmitted stack reference ↔ ∃ inner, f.enter? reference = some inner := by
  rw [hf.isAdmitted_iff]
  constructor
  · rintro ⟨hroom, hactive⟩
    exact ⟨_, enter?_eq_some_iff.mpr ⟨hroom, hactive, rfl⟩⟩
  · rintro ⟨inner, h⟩
    obtain ⟨hroom, hactive, -⟩ := enter?_eq_some_iff.mp h
    exact ⟨hroom, hactive⟩

/-- Behind an opened frame, the stack has one more call. -/
theorem IsOf.of_enter? (hf : f.IsOf stack) (h : f.enter? reference = some inner) :
    inner.IsOf (reference :: stack) := by
  obtain ⟨hpos, -, rfl⟩ := enter?_eq_some_iff.mp h
  have hroom := hf.room
  constructor
  · simp only [List.length_cons]
    omega
  · rw [List.filterMap_cons, activate, hf.active]
    cases reference <;> rfl

end Frames

namespace Call

/-! ## What a call leaves -/

mutual

/-- A call leaves the frames as it found them. -/
theorem run_snd (f : Frames) : ∀ c : Call, (run f c).2 = f
  | .frame reference inside => by
      rw [run]
      cases hentered : f.enter? reference with
      | none => rfl
      | some inner =>
          show (runAll inner inside).2.leave reference = f
          rw [runAll_snd inner inside]
          exact Frames.leave_of_enter? hentered

/-- Calls one after the other leave the frames as they found them. -/
theorem runAll_snd (f : Frames) : ∀ calls : List Call, (runAll f calls).2 = f
  | [] => rfl
  | c :: rest => by
      rw [runAll]
      show (runAll (run f c).2 rest).2 = f
      rw [run_snd f c, runAll_snd f rest]

end

/-- A call that is not entered has no other outcome. -/
theorem run_of_none (h : f.enter? reference = none) (inside : List Call) :
    run f (.frame reference inside) = ([false], f) := by
  rw [run, h]

/-- A call that is entered has the outcomes of the calls inside it, and its own. -/
theorem run_of_some (h : f.enter? reference = some inner) (inside : List Call) :
    run f (.frame reference inside) = ((runAll inner inside).1 ++ [true], f) := by
  have hleft := run_snd f (.frame reference inside)
  rw [run, h] at hleft ⊢
  exact Prod.ext rfl hleft

/-- Calls one after the other have the outcomes of each, all of them from the same frames. -/
theorem runAll_cons (f : Frames) (c : Call) (rest : List Call) :
    runAll f (c :: rest) = ((run f c).1 ++ (runAll f rest).1, f) := by
  have hleft := runAll_snd f (c :: rest)
  rw [runAll] at hleft ⊢
  refine Prod.ext ?_ hleft
  show (run f c).1 ++ (runAll (run f c).2 rest).1 = _
  rw [run_snd]

/-- **Calls beside each other** do not count for each other. -/
theorem runAll_append_cons (f : Frames) (before : List Call) (c : Call) (after : List Call) :
    runAll f (before ++ c :: after)
      = ((runAll f before).1 ++ (run f c).1 ++ (runAll f after).1, f) := by
  induction before with
  | nil => rw [List.nil_append, runAll_cons, runAll, List.nil_append]
  | cons first rest ih =>
      rw [List.cons_append, runAll_cons, ih, runAll_cons]
      simp only [List.append_assoc]

/-! ## Calls that a run comes to -/

/-- A run of calls **comes to** a call: with these frames open, inside calls with these references, the
innermost first. -/
inductive ComesTo : Frames → List Call → List (Option String) → Frames → Call → Prop
  /-- To one of the calls, when those before it have returned. -/
  | here (f : Frames) (before : List Call) (c : Call) (after : List Call) :
      ComesTo f (before ++ c :: after) [] (runAll f before).2 c
  /-- To one inside, when a call has been entered. -/
  | inside {f inner g : Frames} {before calls after : List Call} {reference : Option String}
      {stack : List (Option String)} {c : Call}
      (hentered : (runAll f before).2.enter? reference = some inner)
      (h : ComesTo inner calls stack g c) :
      ComesTo f (before ++ .frame reference calls :: after) (stack ++ [reference]) g c

/-- **The open frames are those of the calls around it**, at every call that a run comes to. -/
theorem ComesTo.isOf {calls : List Call} {c : Call} (h : ComesTo f calls stack g c)
    (hf : f.IsOf outer) : g.IsOf (stack ++ outer) := by
  induction h generalizing outer with
  | here f before c after =>
      rw [runAll_snd]
      exact hf
  | inside hentered _ ih =>
      -- the calls before have returned, so only the one entered is added to the stack
      rw [runAll_snd] at hentered
      rw [List.append_assoc]
      exact ih (hf.of_enter? hentered)

/-- **Which calls run.** In every run from fresh frames, a call that it comes to is entered iff the calls
around it admit it: then the calls inside run, one frame further in, and it succeeds; else it falls back
and nothing inside runs. Either way the frames are left as they were, so calls beside each other do not
count for each other, and after the run the frames are fresh again. -/
theorem runs_iff (calls : List Call) :
    (runAll .fresh calls).2 = .fresh ∧
      (∀ stack g reference inside, ComesTo .fresh calls stack g (.frame reference inside) →
        (IsAdmitted stack reference → ∃ inner, inner.IsOf (reference :: stack) ∧
          run g (.frame reference inside) = ((runAll inner inside).1 ++ [true], g)) ∧
        (¬IsAdmitted stack reference → run g (.frame reference inside) = ([false], g))) ∧
      ∀ f before c after, runAll f (before ++ c :: after)
        = ((runAll f before).1 ++ (run f c).1 ++ (runAll f after).1, f) := by
  refine ⟨runAll_snd .fresh calls, fun stack g reference inside h => ?_, runAll_append_cons⟩
  have hg : g.IsOf stack := by
    have := h.isOf Frames.isOf_fresh
    rwa [List.append_nil] at this
  constructor
  · intro hadmitted
    obtain ⟨inner, hentered⟩ := hg.isAdmitted_iff_exists.mp hadmitted
    exact ⟨inner, hg.of_enter? hentered, run_of_some hentered inside⟩
  · intro hrefused
    refine run_of_none ?_ inside
    rw [hg.isAdmitted_iff_exists, not_exists] at hrefused
    exact Option.eq_none_iff_forall_ne_some.mpr hrefused

/-- A call inside one with the same reference falls back, one beside it does not, and neither keeps a later
one from running. -/
theorem runs_iff_siblings :
    let calls : List Call := [.frame (some "#/a") [.frame (some "/a") [], .frame (some "/b") []],
      .frame (some "/a") []]
    (runAll .fresh calls).2 = .fresh ∧ (runAll .fresh calls).1 = [false, true, true, true] ∧
      ∃ g, ComesTo .fresh calls [some "#/a"] g (.frame (some "/a") []) ∧
        run g (.frame (some "/a") []) = ([false], g) ∧
        ComesTo .fresh calls [some "#/a"] g (.frame (some "/b") []) ∧
        run g (.frame (some "/b") []) = ([true], g) := by
  intro calls
  obtain ⟨hfresh, hruns, -⟩ := runs_iff calls
  obtain ⟨g, hentered⟩ : ∃ g, Frames.fresh.enter? (some "#/a") = some g := ⟨_, rfl⟩
  have hrefused : ComesTo .fresh calls [some "#/a"] g (.frame (some "/a") []) :=
    @ComesTo.inside _ _ _ [] _ _ _ _ _ hentered (.here g [] _ _)
  have hadmitted : ComesTo .fresh calls [some "#/a"] g (.frame (some "/b") []) := by
    have hbefore := ComesTo.here g [.frame (some "/a") []] (.frame (some "/b") []) []
    rw [runAll_snd] at hbefore
    exact @ComesTo.inside _ _ _ [] _ _ _ _ _ hentered hbefore
  have hfirst := (hruns _ g _ _ hrefused).2 (by simp [IsAdmitted, normalized])
  obtain ⟨inner, -, hsecond⟩ := (hruns _ g _ _ hadmitted).1 (by simp [IsAdmitted, normalized, maxFrames])
  exact ⟨hfresh, rfl, g, hrefused, hfirst, hadmitted, hsecond⟩

end Call

end QueryableApi.OpenApi
