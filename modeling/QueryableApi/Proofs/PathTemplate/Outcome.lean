import QueryableApi.Proofs.PathTemplate

/-! # The values in a filled template

A placeholder is a whole segment in braces (`isPlaceholder_iff`). A path that a template is filled to
carries the values (`Carries`): it has the segments of the template, those in braces replaced by texts
that spell the bytes of the values, in order. A template cannot be filled exactly if the number of
values is not that of its placeholders, no placeholder is left over, and a path is filled from one list
of values only (`fill_outcome`). -/

namespace QueryableApi.PathTemplate

open Percent (encodeChars Spells)

variable {template path : String} {segment : List Char} {filled rest : List (List Char)}
  {values others : List String}

/-- An encoded value is no placeholder. -/
theorem isPlaceholder_encodeChars (cs : List Char) : isPlaceholder (encodeChars cs) = false := by
  refine isPlaceholder_of_head? fun hhead => ?_
  exact Percent.not_mem_encodeChars (by decide) (by decide) cs (List.mem_of_head? hhead)

/-! ## Segments by position -/

namespace Fills

/-- A segment that is no placeholder stays in its place. -/
theorem getElem?_of_fixed (h : Fills rest values filled) {i : Nat} (hi : rest[i]? = some segment)
    (hfixed : isPlaceholder segment = false) : filled[i]? = some segment := by
  induction h generalizing i with
  | nil => cases hi
  | value hplaceholder _ ih =>
      cases i with
      | zero =>
          obtain rfl := Option.some.inj hi
          rw [hplaceholder] at hfixed
          cases hfixed
      | succ i => exact ih hi
  | keep _ _ ih =>
      cases i with
      | zero => exact hi
      | succ i => exact ih hi

/-- **A placeholder takes the value whose turn it is**: as many values as there are placeholders before
it are taken already. -/
theorem getElem?_of_placeholder (h : Fills rest values filled) {i : Nat}
    (hi : rest[i]? = some segment) (hplaceholder : isPlaceholder segment = true) :
    ∃ v, values[(rest.take i).countP isPlaceholder]? = some v ∧
      filled[i]? = some (encodeChars v.toList) := by
  induction h generalizing i with
  | nil => cases hi
  | @value _ _ _ v _ hfirst _ ih =>
      cases i with
      | zero => exact ⟨v, rfl, rfl⟩
      | succ i =>
          obtain ⟨later, hlater, hfilled⟩ := ih hi
          rw [List.take_succ_cons, List.countP_cons_of_pos hfirst]
          exact ⟨later, hlater, hfilled⟩
  | keep hfirst _ ih =>
      cases i with
      | zero =>
          obtain rfl := Option.some.inj hi
          rw [hfirst] at hplaceholder
          cases hplaceholder
      | succ i =>
          obtain ⟨later, hlater, hfilled⟩ := ih hi
          rw [List.take_succ_cons, List.countP_cons_of_neg (Bool.eq_false_iff.mp hfirst)]
          exact ⟨later, hlater, hfilled⟩

/-- No filled segment is a placeholder. -/
theorem not_isPlaceholder_of_mem (h : Fills rest values filled) (hmem : segment ∈ filled) :
    isPlaceholder segment = false := by
  refine (h.forall_iff fun s => isPlaceholder s = false).mpr ⟨?_, ?_⟩ segment hmem
  · exact fun s _ hfixed => hfixed
  · exact fun v _ => isPlaceholder_encodeChars v.toList

/-- **Segments are filled from one list of values only.** -/
theorem values_unique (h : Fills rest values filled) (h' : Fills rest others filled) :
    values = others := by
  induction h generalizing others with
  | nil =>
      cases h'
      rfl
  | @value _ _ _ v _ hplaceholder _ ih =>
      -- the first filled segment is the encoding of the first value of both lists
      generalize hfirst : encodeChars v.toList = first at h'
      cases h' with
      | value _ hrest => rw [Percent.encodeChars_injective hfirst, ih hrest]
      | keep hfixed _ =>
          rw [hplaceholder] at hfixed
          cases hfixed
  | @keep segment _ _ _ hfixed _ ih =>
      generalize hfirst : segment = first at h'
      cases h' with
      | value hplaceholder _ =>
          rw [hfirst, hplaceholder] at hfixed
          cases hfixed
      | keep _ hrest => exact ih hrest

end Fills

/-! ## Paths -/

/-- A path **carries values** in the places of the placeholders of a template. -/
structure Carries (template : String) (values : List String) (path : String) : Prop where
  /-- It has as many segments as the template. -/
  length_eq : (segments path).length = (segments template).length
  /-- A segment that is not a name in braces is unchanged. -/
  keeps : ∀ (i : Nat) (segment : List Char), (segments template)[i]? = some segment →
    (∀ name, segment ≠ braced name) → (segments path)[i]? = some segment
  /-- The segment in place of a name in braces spells the bytes of the value whose turn it is. -/
  spells : ∀ (i : Nat) (name : List Char), (segments template)[i]? = some (braced name) →
    ∃ v text, values[((segments template).take i).countP isPlaceholder]? = some v ∧
      (segments path)[i]? = some text ∧ Spells text (Text.utf8 v)

/-- A path that is filled segment by segment carries the values. -/
theorem Fills.carries (h : Fills (segments template) values (segments path)) :
    Carries template values path := by
  refine ⟨h.length_eq, fun i segment hi hbraces => ?_, fun i name hi => ?_⟩
  · refine h.getElem?_of_fixed hi (Bool.eq_false_iff.mpr fun hplaceholder => ?_)
    obtain ⟨name, hname⟩ := isPlaceholder_iff.mp hplaceholder
    exact hbraces name hname
  · obtain ⟨v, hv, hfilled⟩ := h.getElem?_of_placeholder hi (isPlaceholder_iff.mpr ⟨name, rfl⟩)
    exact ⟨v, _, hv, hfilled, Percent.spells_encodeChars v.toList⟩

/-- A path that a template is filled to is filled segment by segment. -/
theorem fills_of_fill (h : fill template values = .ok path) :
    Fills (segments template) values (segments path) := by
  have hlength : (placeholders template).length = values.length := by
    by_contra hne
    rw [fill, if_neg hne] at h
    cases h
  obtain ⟨found, hfound, hfills⟩ := fill_fills hlength
  obtain rfl := Except.ok.inj (hfound.symm.trans h)
  exact hfills

/-- **What filling a template gives.** It fails iff the number of values is not that of the
placeholders. Otherwise the path carries the values, holds no placeholder any more, and is not that of
other values. -/
theorem fill_outcome (template : String) (values : List String) :
    (∀ m, fill template values = .error m ↔
      m = ⟨template, (placeholders template).length, values⟩ ∧
        values.length ≠ (placeholders template).length) ∧
    (values.length = (placeholders template).length →
      ∃ path, fill template values = .ok path ∧ Carries template values path ∧
        (∀ name, braced name ∉ segments path) ∧
        ∀ others, fill template others = .ok path → others = values) := by
  refine ⟨fun m => ?_, fun hlength => ?_⟩
  · rw [fill]
    split
    · next heq => simp [heq]
    · next hne =>
      rw [Except.error.injEq, eq_comm, iff_self_and]
      exact fun _ => Ne.symm hne
  · obtain ⟨path, hpath, hfills⟩ := fill_fills hlength.symm
    refine ⟨path, hpath, hfills.carries, fun name hmem => ?_, fun others hothers => ?_⟩
    · have hnone := hfills.not_isPlaceholder_of_mem hmem
      rw [isPlaceholder_iff.mpr ⟨name, rfl⟩] at hnone
      cases hnone
    · exact (fills_of_fill hothers).values_unique hfills

/-- A file of a project, whose names hold a slash, a blank and a character of two bytes. -/
theorem fill_outcome_file :
    ["team/app name", "é"].length
        = (placeholders "/v1/projects/{project}/files-{n}/{name}").length ∧
      fill "/v1/projects/{project}/files-{n}/{name}" ["team/app name", "é"]
        = .ok "/v1/projects/team%2Fapp%20name/files-{n}/%C3%A9" ∧
      Carries "/v1/projects/{project}/files-{n}/{name}" ["team/app name", "é"]
        "/v1/projects/team%2Fapp%20name/files-{n}/%C3%A9" := by
  have hlength : ["team/app name", "é"].length
      = (placeholders "/v1/projects/{project}/files-{n}/{name}").length := by decide
  have hfill : fill "/v1/projects/{project}/files-{n}/{name}" ["team/app name", "é"]
      = .ok "/v1/projects/team%2Fapp%20name/files-{n}/%C3%A9" := by decide
  obtain ⟨path, hpath, hcarries, -, -⟩ := (fill_outcome _ _).2 hlength
  obtain rfl := Except.ok.inj (hpath.symm.trans hfill)
  exact ⟨hlength, hfill, hcarries⟩

end QueryableApi.PathTemplate
