import QueryableApi.PathTemplate
import QueryableApi.Proofs.Percent
import QueryableApi.Proofs.Text.Split

/-! # Filling a template

A path is filled from a template segment by segment (`Fills`): a placeholder becomes the encoding of the
next value, and every other segment is kept. Placeholders are counted by one test and replaced by another
one, and both find the names in braces (`isBraced_eq`). Encoded values hold no slash, so the filled
segments are those of the path (`fill_fills`), and no brace, so the braces of a path are those of the
segments that are kept (`Fills.exists_mem_iff`). -/

namespace QueryableApi.PathTemplate

open Percent (encodeChars)

variable {template path base : String} {segment : List Char} {filled rest : List (List Char)}
  {values : List String} {c : Char}

/-! ## Placeholders -/

/-- A name in braces. -/
def braced (name : List Char) : List Char := '{' :: (name ++ ['}'])

/-- **A placeholder is a name in braces.** -/
theorem isPlaceholder_iff : isPlaceholder segment = true ↔ ∃ name, segment = braced name := by
  rw [isPlaceholder]
  constructor
  · intro h
    cases segment with
    | nil => cases h
    | cons c rest =>
        unfold placeholder? at h
        split at h
        · next inner heq =>
          obtain ⟨rfl, rfl⟩ := List.cons.inj heq
          split at h
          · next hlast =>
            exact ⟨rest.dropLast, congrArg _ (List.dropLast_append_getLast? '}' hlast).symm⟩
          · cases h
        · cases h
  · rintro ⟨name, rfl⟩
    have hlast : (name ++ ['}']).getLast? = some '}' := List.getLast?_concat
    rw [braced, placeholder?, if_pos hlast]
    rfl

/-- A placeholder starts with a brace. -/
theorem isPlaceholder_of_head? (h : segment.head? ≠ some '{') : isPlaceholder segment = false := by
  refine Bool.eq_false_iff.mpr fun hplaceholder => ?_
  obtain ⟨name, rfl⟩ := isPlaceholder_iff.mp hplaceholder
  exact h rfl

/-- An empty segment is no placeholder. -/
theorem isPlaceholder_nil : isPlaceholder [] = false := rfl

/-- A segment that starts and ends with a brace is a name in braces. -/
theorem isBraced_iff : isBraced segment = true ↔ ∃ name, segment = braced name := by
  rw [isBraced, Bool.and_eq_true, beq_iff_eq, beq_iff_eq]
  constructor
  · rintro ⟨hhead, hlast⟩
    obtain ⟨inner, rfl⟩ := List.getLast?_eq_some_iff.mp hlast
    cases inner with
    | nil => cases hhead
    | cons c name =>
        obtain rfl := Option.some.inj hhead
        exact ⟨name, rfl⟩
  · rintro ⟨name, rfl⟩
    have hlast : ('{' :: name ++ ['}']).getLast? = some '}' := List.getLast?_concat
    exact ⟨rfl, hlast⟩

/-- **What is counted as a placeholder is what is replaced**: the two tests agree. -/
theorem isBraced_eq (segment : List Char) : isBraced segment = isPlaceholder segment :=
  Bool.eq_iff_iff.mpr (isBraced_iff.trans isPlaceholder_iff.symm)

/-- A template has as many names of placeholders as it has placeholders. -/
theorem length_placeholders (template : String) :
    (placeholders template).length = (segments template).countP isPlaceholder := by
  rw [placeholders, List.length_filterMap_eq_countP]
  refine List.countP_congr fun s _ => ?_
  rw [Option.isSome_map, isPlaceholder]

/-- **A base without placeholders adds none**: no segment of it starts like one, so neither does the
segment in which it meets the path, unless that is the first one of the path itself. -/
theorem length_placeholders_append (hbase : ∀ s ∈ segments base, s.head? ≠ some '{')
    (hpath : ∀ first rest, segments path = first :: rest → isPlaceholder first = false) :
    (placeholders (base ++ path)).length = (placeholders path).length := by
  rw [length_placeholders, length_placeholders]
  obtain ⟨before, last, first, after, hb, hp, hboth⟩ :=
    Text.exists_splitOn_append '/' base.toList path.toList
  have hfirst := hpath first after hp
  have hbefore : before.countP isPlaceholder = 0 := by
    refine List.countP_eq_zero.mpr fun s hs => ?_
    have hmem : s ∈ segments base := by
      rw [segments, hb]
      exact List.mem_append_left _ hs
    rw [isPlaceholder_of_head? (hbase s hmem)]
    exact Bool.false_ne_true
  have hjoined : isPlaceholder (last ++ first) = false := by
    cases last with
    | nil => exact hfirst
    | cons c rest =>
        have hmem : c :: rest ∈ segments base := by
          rw [segments, hb]
          exact List.mem_append_right _ List.mem_cons_self
        exact isPlaceholder_of_head? (hbase (c :: rest) hmem)
  have hsegments : segments (base ++ path) = before ++ (last ++ first) :: after := by
    rw [segments, String.toList_append, hboth]
  rw [hsegments, segments, hp, List.countP_append, hbefore, List.countP_cons, List.countP_cons,
    hjoined, hfirst, Nat.zero_add]

/-! ## Segments -/

/-- Every path has a segment. -/
theorem segments_ne_nil (path : String) : segments path ≠ [] := List.splitOn_ne_nil '/' path.toList

/-- Segments hold no slash. -/
theorem slash_not_mem (h : segment ∈ segments path) : '/' ∉ segment :=
  Text.not_mem_of_mem_splitOn h

/-- A path has the characters of its segments, and slashes. -/
theorem mem_toList_iff (hc : c ≠ '/') : c ∈ path.toList ↔ ∃ s ∈ segments path, c ∈ s :=
  Text.mem_iff_exists_mem_splitOn hc

/-- **Segments that hold no slash are those of the path that joins them.** -/
theorem segments_join (hne : filled ≠ []) (h : ∀ s ∈ filled, '/' ∉ s) :
    segments (String.ofList (['/'].intercalate filled)) = filled := by
  rw [segments, String.toList_ofList]
  exact List.splitOn_intercalate '/' h hne

/-- A path starts with a slash iff its first segment is empty and not the only one. -/
theorem head?_toList_eq_slash_iff :
    path.toList.head? = some '/' ↔ ∃ rest, rest ≠ [] ∧ segments path = [] :: rest := by
  rw [segments]
  cases path.toList with
  | nil => simp
  | cons c cs =>
      rw [List.splitOn_cons_eq_if_modifyHead, List.head?_cons, Option.some.injEq]
      obtain ⟨first, others, hsplit⟩ := List.exists_cons_of_ne_nil (List.splitOn_ne_nil '/' cs)
      split
      · next hc => exact iff_of_true (beq_iff_eq.mp hc) ⟨_, List.splitOn_ne_nil '/' cs, rfl⟩
      · next hc =>
        rw [hsplit, List.modifyHead_cons]
        refine iff_of_false (fun h => hc (beq_iff_eq.mpr h)) ?_
        rintro ⟨rest, -, h⟩
        cases h

/-- **A rooted path behind another** adds its segments to those before. -/
theorem segments_append (h : path.toList.head? = some '/') :
    segments (base ++ path) = segments base ++ (segments path).tail := by
  obtain ⟨rest, -, hrest⟩ := head?_toList_eq_slash_iff.mp h
  obtain ⟨before, last, first, after, hb, hp, hboth⟩ :=
    Text.exists_splitOn_append '/' base.toList path.toList
  rw [segments, hp] at hrest
  obtain ⟨rfl, -⟩ := List.cons.inj hrest
  rw [segments, String.toList_append, hboth, segments, hb, segments, hp]
  simp

/-- **A path behind a slash** adds all its segments to those before. -/
theorem segments_append_slash (base path : String) :
    segments (base ++ "/" ++ path) = segments base ++ segments path := by
  have hslash : ("/" ++ path).toList = '/' :: path.toList := by
    rw [String.toList_append]
    rfl
  have hrooted : ("/" ++ path).toList.head? = some '/' := by rw [hslash, List.head?_cons]
  rw [String.append_assoc, segments_append hrooted]
  refine congrArg (segments base ++ ·) ?_
  rw [segments, segments, hslash, List.splitOn_cons_eq_if_modifyHead, if_pos (beq_self_eq_true '/'),
    List.tail_cons]

/-- A path is given by its segments. -/
theorem segments_injective : Function.Injective segments := by
  intro path other h
  have hjoin := congrArg (['/'].intercalate ·) h
  simp only [segments, List.intercalate_splitOn] at hjoin
  exact String.toList_inj.mp hjoin

/-! ## Filling -/

/-- **How segments are filled** with values: each placeholder takes the next value, encoded, and every
other segment is kept. All values are taken. -/
inductive Fills : List (List Char) → List String → List (List Char) → Prop
  /-- There is nothing to fill. -/
  | nil : Fills [] [] []
  /-- A placeholder takes a value. -/
  | value {segment : List Char} {rest filled : List (List Char)} {v : String} {values : List String}
      (placeholder : isPlaceholder segment = true) (fills : Fills rest values filled) :
      Fills (segment :: rest) (v :: values) (encodeChars v.toList :: filled)
  /-- Another segment is kept. -/
  | keep {segment : List Char} {rest filled : List (List Char)} {values : List String}
      (fixed : isPlaceholder segment = false) (fills : Fills rest values filled) :
      Fills (segment :: rest) values (segment :: filled)

/-- A placeholder is filled with the next value. -/
theorem fillSegments_of_placeholder (h : isPlaceholder segment = true) (v : String)
    (values : List String) :
    fillSegments (segment :: rest) (v :: values)
      = encodeChars v.toList :: fillSegments rest values := by
  rw [fillSegments, isBraced_eq, if_pos h]

/-- Another segment is kept. -/
theorem fillSegments_of_fixed (h : isPlaceholder segment = false) (values : List String) :
    fillSegments (segment :: rest) values = segment :: fillSegments rest values := by
  rw [fillSegments.eq_def]
  dsimp only
  rw [isBraced_eq]
  exact if_neg (Bool.eq_false_iff.mp h)

/-- Segments are filled with as many values as they have placeholders. -/
theorem fills_fillSegments (h : rest.countP isPlaceholder = values.length) :
    Fills rest values (fillSegments rest values) := by
  induction rest generalizing values with
  | nil =>
      obtain rfl := List.eq_nil_of_length_eq_zero h.symm
      exact .nil
  | cons segment rest ih =>
      rw [List.countP_cons] at h
      cases hplaceholder : isPlaceholder segment with
      | true =>
          rw [hplaceholder, if_pos rfl] at h
          cases values with
          | nil => cases h
          | cons v values =>
              rw [fillSegments_of_placeholder hplaceholder]
              exact .value hplaceholder (ih (Nat.succ.inj h))
      | false =>
          rw [hplaceholder, if_neg Bool.false_ne_true] at h
          rw [fillSegments_of_fixed hplaceholder]
          exact .keep hplaceholder (ih h)

/-- There is a filled segment for each segment. -/
theorem Fills.length_eq (h : Fills rest values filled) : filled.length = rest.length := by
  induction h with
  | nil => rfl
  | value _ _ ih | keep _ _ ih => rw [List.length_cons, List.length_cons, ih]

/-- **What holds of filled segments** holds of those that are kept and of the encoded values. -/
theorem Fills.forall_iff (h : Fills rest values filled) (P : List Char → Prop) :
    (∀ s ∈ filled, P s) ↔
      (∀ s ∈ rest, isPlaceholder s = false → P s) ∧ ∀ v ∈ values, P (encodeChars v.toList) := by
  induction h with
  | nil => simp
  | value hplaceholder _ ih =>
      rw [List.forall_mem_cons, ih, List.forall_mem_cons, List.forall_mem_cons, hplaceholder]
      simp [and_left_comm]
  | keep hfixed _ ih =>
      rw [List.forall_mem_cons, ih, List.forall_mem_cons, hfixed]
      simp [and_assoc]

/-- **A reserved character** stands in filled segments iff it stands in one that is kept. -/
theorem Fills.exists_mem_iff (h : Fills rest values filled) (hpercent : c ≠ '%')
    (hreserved : Percent.isUnreserved c = false) :
    (∃ s ∈ filled, c ∈ s) ↔ ∃ s ∈ rest, isPlaceholder s = false ∧ c ∈ s := by
  have hvalues : ∀ v ∈ values, c ∉ encodeChars v.toList :=
    fun v _ => Percent.not_mem_encodeChars hpercent hreserved v.toList
  have hnone := h.forall_iff (c ∉ ·)
  rw [and_iff_left hvalues] at hnone
  rw [← not_iff_not]
  simpa using hnone

/-- A template that starts with a slash is filled to a path that does. -/
theorem Fills.head?_eq_slash (h : Fills (segments template) values (segments path))
    (hslash : template.toList.head? = some '/') : path.toList.head? = some '/' := by
  obtain ⟨rest, hne, hrest⟩ := head?_toList_eq_slash_iff.mp hslash
  rw [hrest] at h
  generalize hfilled : segments path = filled at h
  cases h with
  | value hplaceholder _ => cases hplaceholder
  | @keep _ _ others _ _ hfills =>
      refine head?_toList_eq_slash_iff.mpr ⟨others, ?_, hfilled⟩
      rw [← List.length_pos_iff, hfills.length_eq]
      exact List.length_pos_iff.mpr hne

/-- **A template is filled** with as many values as it has placeholders, and the segments of the path
are the filled ones. -/
theorem fill_fills (h : (placeholders template).length = values.length) :
    ∃ path, fill template values = .ok path ∧
      Fills (segments template) values (segments path) := by
  have hfills : Fills (segments template) values (fillSegments (segments template) values) :=
    fills_fillSegments ((length_placeholders template).symm.trans h)
  have hslash : ∀ s ∈ fillSegments (segments template) values, '/' ∉ s := by
    intro s hs hmem
    -- a slash would stand in a segment of the template
    obtain ⟨original, horiginal, -, hmem⟩ :=
      (hfills.exists_mem_iff (by decide) (by decide)).mp ⟨s, hs, hmem⟩
    exact slash_not_mem horiginal hmem
  have hne : fillSegments (segments template) values ≠ [] := by
    rw [← List.length_pos_iff, hfills.length_eq, List.length_pos_iff]
    exact segments_ne_nil template
  refine ⟨_, if_pos h, ?_⟩
  rw [segments_join hne hslash]
  exact hfills

end QueryableApi.PathTemplate
