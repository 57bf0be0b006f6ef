import QueryableApi.Proofs.Percent
import QueryableApi.Url

/-! # Segments of dots

A URL takes a segment of one or two dots, written as such or escaped, for a step within its path
(`Url.IsDotSegment`). Those steps are removed, and nothing else is: segments are left as they are iff
none of them is such a step (`Url.resolve_eq_self_iff`). An encoded text is one only if it was one
before, because dots are kept and no escape that is written stands for a dot
(`Percent.isDotSegment_encodeChars_iff`). -/

namespace QueryableApi

namespace Url

variable {segment : List Char} {segments kept : List (List Char)}

/-- A **dot segment**: one or two dots, each written as such or escaped. -/
def IsDotSegment (segment : List Char) : Prop :=
  plainDots segment = ['.'] ∨ plainDots segment = ['.', '.']

instance (segment : List Char) : Decidable (IsDotSegment segment) :=
  inferInstanceAs (Decidable (_ ∨ _))

/-! ## Undoing the escapes of dots -/

/-- A character that starts no escape is kept. -/
theorem plainDots_cons_of_ne {c : Char} (hc : c ≠ '%') (rest : List Char) :
    plainDots (c :: rest) = c :: plainDots rest := by
  rw [plainDots.eq_def]
  split
  · next h => exact absurd (List.cons.inj h).1 hc
  · next h => exact absurd (List.cons.inj h).1 hc
  · next h =>
    obtain ⟨rfl, rfl⟩ := List.cons.inj h
    rfl
  · next h => cases h

/-- A segment that starts with another character is no dot segment. -/
theorem not_isDotSegment_of_head {c : Char} (hc : c ≠ '%') (hdot : c ≠ '.') (rest : List Char) :
    ¬ IsDotSegment (c :: rest) := by
  rw [IsDotSegment, plainDots_cons_of_ne hc]
  rintro (h | h)
  · exact hdot (List.cons.inj h).1
  · exact hdot (List.cons.inj h).1

/-! ## Removing dot segments -/

/-- A step within a path keeps segments from before, and leaves an empty one at the end. -/
theorem not_isDotSegment_of_mem_ended (hkept : ∀ s ∈ kept, ¬ IsDotSegment s)
    (h : segment ∈ if segments.isEmpty then [] :: kept else kept) : ¬ IsDotSegment segment := by
  split at h
  · rcases List.mem_cons.mp h with rfl | h
    · decide
    · exact hkept segment h
  · exact hkept segment h

/-- The segments without the last one are among them. -/
theorem mem_of_mem_withoutLast (h : segment ∈ withoutLast kept) : segment ∈ kept := by
  rw [withoutLast] at h
  split at h
  · exact h
  · exact List.mem_of_mem_tail h

/-- **No dot segment is left**, if none was kept before. -/
theorem not_isDotSegment_of_mem_resolve (hkept : ∀ s ∈ kept, ¬ IsDotSegment s)
    (h : segment ∈ resolve kept segments) : ¬ IsDotSegment segment := by
  -- what is kept stays free of dot segments at every segment that is read
  induction segments generalizing kept with
  | nil => exact hkept segment (List.mem_reverse.mp h)
  | cons first rest ih =>
      rw [resolve] at h
      split at h
      · have hbefore : ∀ s ∈ withoutLast kept, ¬ IsDotSegment s :=
          fun s hs => hkept s (mem_of_mem_withoutLast hs)
        exact ih (fun s => not_isDotSegment_of_mem_ended hbefore) h
      · next htwo =>
        split at h
        · exact ih (fun s => not_isDotSegment_of_mem_ended hkept) h
        · next hone =>
          refine ih (List.forall_mem_cons.mpr ⟨?_, hkept⟩) h
          rintro (hdots | hdots)
          · exact hone (beq_iff_eq.mpr hdots)
          · exact htwo (beq_iff_eq.mpr hdots)

/-- Without dot segments, all segments are kept, in order. -/
theorem resolve_of_forall (h : ∀ s ∈ segments, ¬ IsDotSegment s) :
    resolve kept segments = kept.reverse ++ segments := by
  induction segments generalizing kept with
  | nil => rw [resolve, List.append_nil]
  | cons first rest ih =>
      obtain ⟨hfirst, hrest⟩ := List.forall_mem_cons.mp h
      rw [IsDotSegment, not_or] at hfirst
      rw [resolve, if_neg (by simpa using hfirst.2), if_neg (by simpa using hfirst.1), ih hrest,
        List.reverse_cons, List.append_assoc]
      rfl

/-- **Segments are left as they are** iff none of them is a dot segment. -/
theorem resolve_eq_self_iff :
    resolve [] segments = segments ↔ ∀ s ∈ segments, ¬ IsDotSegment s := by
  constructor
  · intro h s hs
    rw [← h] at hs
    exact not_isDotSegment_of_mem_resolve (fun _ hkept => absurd hkept List.not_mem_nil) hs
  · intro h
    exact resolve_of_forall h

end Url

namespace Percent

open Url (plainDots IsDotSegment plainDots_cons_of_ne)

/-- An escape that is written is kept, unless its byte is that of a dot. -/
theorem exists_plainDots_escape_append {b : UInt8} (hb : b.toNat ≠ 0x2E) (rest : List Char) :
    ∃ others, plainDots (escape b ++ rest) = '%' :: others := by
  have hbound : b.toNat < 256 := b.toNat_lt
  have htwo := (eq_of_hexChar (n := b.toNat / 16) (by omega)).1
  have hfourteen := (eq_of_hexChar (n := b.toNat % 16) (by omega)).2
  rw [escape, List.cons_append, List.cons_append, List.cons_append, List.nil_append,
    Url.plainDots.eq_def]
  -- the digits of an escape that is undone are those of the byte of a dot
  split
  · next h =>
    simp only [List.cons.injEq] at h
    have hhigh := htwo h.2.1
    have hlow := hfourteen (Or.inl h.2.2.1)
    omega
  · next h =>
    simp only [List.cons.injEq] at h
    have hhigh := htwo h.2.1
    have hlow := hfourteen (Or.inr h.2.2.1)
    omega
  · next h =>
    obtain ⟨rfl, rfl⟩ := List.cons.inj h
    exact ⟨_, rfl⟩
  · next h => cases h

/-- **Dots are what only dots are encoded as**: what is left of an encoding when the escapes of dots are
undone is a row of dots iff that was encoded. -/
theorem plainDots_encodeChars_eq_replicate_iff {cs : List Char} {n : Nat} :
    plainDots (encodeChars cs) = List.replicate n '.' ↔ cs = List.replicate n '.' := by
  induction cs generalizing n with
  | nil => cases n <;> simp [encodeChars, Url.plainDots]
  | cons c rest ih =>
      have hencode : encodeChars (c :: rest) = encodeChar isUnreserved c ++ encodeChars rest :=
        List.flatMap_cons
      rw [hencode, encodeChar]
      split
      · next hkept =>
        have hpercent : c ≠ '%' := by
          rintro rfl
          cases hkept
        rw [List.singleton_append, plainDots_cons_of_ne hpercent]
        cases n with
        | zero => simp
        | succ n => rw [List.replicate_succ, List.cons.injEq, List.cons.injEq, ih]
      · next hreserved =>
        -- neither the first escape nor the character it stands for is a dot
        have hdot : c ≠ '.' := by
          rintro rfl
          exact hreserved rfl
        obtain ⟨b, others, hbytes, hb⟩ := exists_utf8OfChar_eq_cons hdot
        rw [hbytes, List.flatMap_cons, List.append_assoc]
        obtain ⟨plain, hplain⟩ := exists_plainDots_escape_append hb
          (others.flatMap escape ++ encodeChars rest)
        rw [hplain]
        cases n with
        | zero => simp
        | succ n => simp [List.replicate_succ, hdot]

/-- **An encoded text is a dot segment** iff it was one or two dots before. -/
theorem isDotSegment_encodeChars_iff (s : String) :
    IsDotSegment (encodeChars s.toList) ↔ s = "." ∨ s = ".." := by
  have hdots : ∀ n, plainDots (encodeChars s.toList) = List.replicate n '.' ↔
      s.toList = List.replicate n '.' := fun _ => plainDots_encodeChars_eq_replicate_iff
  rw [IsDotSegment, String.ext_iff, String.ext_iff]
  exact or_congr (hdots 1) (hdots 2)

end Percent

end QueryableApi
