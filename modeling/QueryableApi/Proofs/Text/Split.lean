import Mathlib.Data.List.Basic

/-! # The pieces of a text

A text that is split at a character falls into pieces that do not hold it. Every other character stands
in the text iff it stands in one of the pieces, and where two texts are put together, the last piece of
the one and the first piece of the other become one piece. -/

namespace QueryableApi.Text

/-- **No piece holds the separator.** -/
theorem not_mem_of_mem_splitOn {text piece : List Char} {sep : Char}
    (h : piece ∈ text.splitOn sep) : sep ∉ piece := by
  induction text generalizing piece with
  | nil =>
      rw [List.splitOn_nil, List.mem_singleton] at h
      rw [h]
      exact List.not_mem_nil
  | cons c rest ih =>
      rw [List.splitOn_cons_eq_if_modifyHead] at h
      split at h
      · rcases List.mem_cons.mp h with rfl | h
        exacts [List.not_mem_nil, ih h]
      · next hc =>
        -- the character goes to the front of the first piece of the rest
        obtain ⟨first, others, hsplit⟩ :=
          List.exists_cons_of_ne_nil (List.splitOn_ne_nil sep rest)
        rw [hsplit, List.modifyHead_cons] at h
        rw [hsplit] at ih
        rcases List.mem_cons.mp h with rfl | h
        · rw [List.mem_cons, not_or]
          exact ⟨fun hsep => hc (beq_iff_eq.mpr hsep.symm), ih List.mem_cons_self⟩
        · exact ih (List.mem_cons_of_mem _ h)

/-- **Every other character is kept.** -/
theorem mem_iff_exists_mem_splitOn {text : List Char} {sep c : Char} (hc : c ≠ sep) :
    c ∈ text ↔ ∃ piece ∈ text.splitOn sep, c ∈ piece := by
  induction text with
  | nil => simp
  | cons d rest ih =>
      rw [List.mem_cons, ih, List.splitOn_cons_eq_if_modifyHead]
      split
      · next hd =>
        have hne : c ≠ d := fun h => hc (h.trans (beq_iff_eq.mp hd))
        rw [List.exists_mem_cons_iff]
        simp [hne]
      · obtain ⟨first, others, hsplit⟩ :=
          List.exists_cons_of_ne_nil (List.splitOn_ne_nil sep rest)
        rw [hsplit, List.modifyHead_cons, List.exists_mem_cons_iff, List.exists_mem_cons_iff,
          List.mem_cons, or_assoc]

/-- **Two texts put together** have the pieces of both, but for those that meet. -/
theorem exists_splitOn_append (sep : Char) (xs ys : List Char) :
    ∃ before last first after, xs.splitOn sep = before ++ [last] ∧
      ys.splitOn sep = first :: after ∧
      (xs ++ ys).splitOn sep = before ++ (last ++ first) :: after := by
  induction xs with
  | nil =>
      obtain ⟨first, after, hsplit⟩ := List.exists_cons_of_ne_nil (List.splitOn_ne_nil sep ys)
      exact ⟨[], [], first, after, List.splitOn_nil sep, hsplit, hsplit⟩
  | cons c rest ih =>
      obtain ⟨before, last, first, after, hxs, hys, hboth⟩ := ih
      rw [List.cons_append, List.splitOn_cons_eq_if_modifyHead, List.splitOn_cons_eq_if_modifyHead,
        hxs, hboth]
      split
      · exact ⟨[] :: before, last, first, after, rfl, hys, rfl⟩
      · -- the character goes to the front of the first piece, which may be the one that is joined
        cases before with
        | nil => exact ⟨[], c :: last, first, after, rfl, hys, rfl⟩
        | cons piece before => exact ⟨(c :: piece) :: before, last, first, after, rfl, hys, rfl⟩

end QueryableApi.Text
