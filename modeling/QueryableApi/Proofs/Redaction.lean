import Mathlib.Data.List.TakeWhile
import QueryableApi.Redaction

/-! # Redaction in the parts of a text

A pattern is replaced in two parts of a text one by one if no match that starts in the first goes beyond
it (`replaceFrom_append`). Credentials and assignments do not cross the end of a line (`breaks_credentials`,
`breaks_assignment`), so the first two patterns are replaced line by line. A quoted secret may cross it. -/

namespace QueryableApi.Redaction

variable {p : Pattern} {text before after rest word : List Char} {c : Char} {f : Found}

/-! ## Parts of a text -/

/-- A pattern **stays in a text**: its matches have no more characters than the text, and there is none in
an empty one. -/
structure IsBounded (p : Pattern) : Prop where
  /-- No match is longer than the text. -/
  length_le : ∀ text f, p text = some f → f.length ≤ text.length
  /-- Nothing is matched by an empty text. -/
  nil : p [] = none

/-- A text is replaced in behind what a match covers. -/
theorem replaceFrom_length_append (p : Pattern) (before after : List Char) :
    replaceFrom p before.length (before ++ after) = replaceFrom p 0 after := by
  induction before with
  | nil => rfl
  | cons c rest ih => exact ih

/-- A character at which no match starts stays. -/
theorem replaceFrom_cons_of_none (h : p (c :: rest) = none) :
    replaceFrom p 0 (c :: rest) = c :: replaceFrom p 0 rest := by
  rw [replaceFrom, h]

/-- A match is replaced, and the rest of it passed over. -/
theorem replaceFrom_cons_of_some (h : p (c :: rest) = some f) :
    replaceFrom p 0 (c :: rest)
      = f.kept ++ placeholder ++ replaceFrom p (f.length - 1) rest := by
  rw [replaceFrom, h]

/-- A match is replaced with what it keeps and the placeholder. -/
theorem replaceFrom_append_of_some (hfound : p (before ++ after) = some f)
    (hlength : f.length = before.length) (hne : before ≠ []) :
    replaceFrom p 0 (before ++ after) = f.kept ++ placeholder ++ replaceFrom p 0 after := by
  cases before with
  | nil => exact absurd rfl hne
  | cons c rest =>
      rw [List.cons_append] at hfound ⊢
      rw [replaceFrom_cons_of_some hfound, hlength, List.length_cons, Nat.add_sub_cancel,
        replaceFrom_length_append]

/-- **Replacing in two parts**: where matches that start in the first part do not depend on the second,
each part is replaced in by itself. -/
theorem replaceFrom_append (hbounded : IsBounded p) {covered : Nat}
    (hcovered : covered ≤ before.length)
    (h : ∀ x c y, before = x ++ c :: y → p (c :: y ++ after) = p (c :: y)) :
    replaceFrom p covered (before ++ after)
      = replaceFrom p covered before ++ replaceFrom p 0 after := by
  induction before generalizing covered with
  | nil =>
      obtain rfl : covered = 0 := Nat.le_zero.mp hcovered
      rfl
  | cons c rest ih =>
      have hrest : ∀ x d y, rest = x ++ d :: y → p (d :: y ++ after) = p (d :: y) :=
        fun x d y heq => h (c :: x) d y (by rw [heq]; rfl)
      cases covered with
      | succ n => exact ih (Nat.le_of_succ_le_succ hcovered) hrest
      | zero =>
          have hhead : p (c :: (rest ++ after)) = p (c :: rest) := h [] c rest rfl
          cases hfound : p (c :: rest) with
          | none =>
              rw [List.cons_append, replaceFrom_cons_of_none (hhead.trans hfound),
                replaceFrom_cons_of_none hfound, ih (Nat.zero_le _) hrest]
              rfl
          | some f =>
              have hlength : f.length - 1 ≤ rest.length := by
                have := hbounded.length_le _ _ hfound
                rw [List.length_cons] at this
                omega
              rw [List.cons_append, replaceFrom_cons_of_some (hhead.trans hfound),
                replaceFrom_cons_of_some hfound, ih hlength hrest]
              simp only [List.append_assoc]

/-- A text without matches stays. -/
theorem replaceFrom_eq_self (h : ∀ x c y, text = x ++ c :: y → p (c :: y) = none) :
    replaceFrom p 0 text = text := by
  induction text with
  | nil => rfl
  | cons c rest ih =>
      rw [replaceFrom_cons_of_none (h [] c rest rfl),
        ih fun x d y heq => h (c :: x) d y (by rw [heq]; rfl)]

/-- Replacing brings in no character but those of the placeholder. -/
theorem not_mem_replaceFrom (hkept : ∀ text f, p text = some f → f.kept ⊆ text) (hc : c ∉ placeholder)
    (htext : c ∉ text) (covered : Nat) : c ∉ replaceFrom p covered text := by
  induction text generalizing covered with
  | nil =>
      rw [replaceFrom.eq_def]
      exact List.not_mem_nil
  | cons d rest ih =>
      have hrest : c ∉ rest := fun h => htext (List.mem_cons_of_mem _ h)
      cases covered with
      | succ n => exact ih hrest n
      | zero =>
          cases hfound : p (d :: rest) with
          | none =>
              rw [replaceFrom_cons_of_none hfound, List.mem_cons, not_or]
              exact ⟨fun h => htext (h ▸ List.mem_cons_self), ih hrest 0⟩
          | some f =>
              rw [replaceFrom_cons_of_some hfound, List.mem_append, List.mem_append, not_or, not_or]
              exact ⟨⟨fun h => htext (hkept _ _ hfound h), hc⟩, ih hrest _⟩

/-- A character **breaks a pattern**: matches in front of it do not depend on it or what follows. -/
def Breaks (p : Pattern) (c : Char) : Prop := ∀ text rest, p (text ++ c :: rest) = p text

/-- **A text is replaced in on both sides of a break.** -/
theorem replaceFrom_append_break (hbounded : IsBounded p) (hbreak : Breaks p c)
    (before after : List Char) :
    replaceFrom p 0 (before ++ c :: after)
      = replaceFrom p 0 before ++ c :: replaceFrom p 0 after := by
  have hstart : p (c :: after) = none := (hbreak [] after).trans hbounded.nil
  rw [replaceFrom_append hbounded (Nat.zero_le _) fun x d y _ => hbreak (d :: y) after,
    replaceFrom_cons_of_none hstart]

/-! ## Words without regard to case -/

/-- What follows a word stands behind it. -/
theorem after?_eq_some_iff :
    after? word text = some rest ↔ ∃ spelled, text = spelled ++ rest ∧ spelled.map fold = word := by
  rw [after?]
  constructor
  · -- the spelling is what was taken from the text
    intro h
    split at h
    · next hword =>
      obtain rfl := Option.some.inj h
      exact ⟨_, (List.take_append_drop word.length text).symm, beq_iff_eq.mp hword⟩
    · cases h
  · rintro ⟨spelled, rfl, rfl⟩
    rw [List.length_map, List.take_left, List.drop_left, if_pos (beq_self_eq_true _)]

/-- A character that is in no spelling of a word does not take part in finding it. -/
theorem after?_append_of_not_mem (hc : fold c ∉ word) (text rest : List Char) :
    after? word (text ++ c :: rest) = (after? word text).map (· ++ c :: rest) := by
  cases hfound : after? word text with
  | some found =>
      obtain ⟨spelled, rfl, hword⟩ := after?_eq_some_iff.mp hfound
      exact after?_eq_some_iff.mpr ⟨spelled, by rw [List.append_assoc], hword⟩
  | none =>
      refine Option.eq_none_iff_forall_ne_some.mpr fun found hsome => ?_
      obtain ⟨spelled, hsplit, hword⟩ := after?_eq_some_iff.mp hsome
      rcases List.append_eq_append_iff.mp hsplit with ⟨between, hspelled, hrest⟩ | ⟨between, rfl, -⟩
      · -- the character would be spelled in the word, or the word ends where the text does
        rcases List.cons_eq_append_iff.mp hrest with ⟨rfl, -⟩ | ⟨tail, rfl, -⟩
        · rw [List.append_nil] at hspelled
          have : after? word text = some [] :=
            after?_eq_some_iff.mpr ⟨spelled, by rw [hspelled, List.append_nil], hword⟩
          rw [hfound] at this
          cases this
        · refine hc ?_
          rw [← hword, hspelled]
          exact List.mem_map_of_mem (List.mem_append_right _ List.mem_cons_self)
      · -- the word is spelled in front of the character, where it is not found
        have : after? word (spelled ++ between) = some between :=
          after?_eq_some_iff.mpr ⟨spelled, rfl, hword⟩
        rw [hfound] at this
        cases this

/-! ## Credentials -/

/-- Taking characters while they count stops at one that does not. -/
theorem takeWhile_append_stop {count : Char → Bool} (hc : count c = false) (text rest : List Char) :
    (text ++ c :: rest).takeWhile count = text.takeWhile count := by
  induction text with
  | nil => exact List.takeWhile_cons_of_neg (by rw [hc]; exact Bool.false_ne_true)
  | cons d text ih => rw [List.cons_append, List.takeWhile_cons, List.takeWhile_cons, ih]

/-- The second word of credentials, behind a space. -/
def secondWord : List Char → List Char
  | ' ' :: rest => rest.takeWhile isCredential
  | _ => []

/-- The length of the credentials at the start of a text, if it starts with any: a word, and a second one
behind a space. -/
def credentialLength? (value : List Char) : Option Nat :=
  let first := value.takeWhile isCredential
  let second := secondWord (value.drop first.length)
  if first.isEmpty then none
  else some (if second.isEmpty then first.length else first.length + 1 + second.length)

/-- Credentials are found behind the start of their header. -/
theorem credentials_eq (text : List Char) :
    credentials text = (after? headerLead text).bind fun value =>
      (credentialLength? value).map fun length =>
        ⟨text.take headerLead.length, headerLead.length + length⟩ := by
  show (after? headerLead text).bind _ = _
  congr 1
  funext value
  rw [credentialLength?]
  change (if (value.takeWhile isCredential).isEmpty then none
    else some (Found.mk (text.take headerLead.length)
      (if (secondWord (value.drop (value.takeWhile isCredential).length)).isEmpty then _ else _))) = _
  by_cases hfirst : (value.takeWhile isCredential).isEmpty = true
  · rw [if_pos hfirst, if_pos hfirst]
    rfl
  · rw [if_neg hfirst, if_neg hfirst]
    rw [Option.map_some, apply_ite (headerLead.length + ·), ← Nat.add_assoc, ← Nat.add_assoc]
    rfl

/-- The second word of credentials does not go beyond a character that is in none. -/
theorem secondWord_append (hspace : c ≠ ' ') (hc : isCredential c = false) (text rest : List Char) :
    secondWord (text ++ c :: rest) = secondWord text := by
  cases text with
  | nil =>
      rw [List.nil_append, secondWord, secondWord] <;> simp_all
  | cons d text =>
      by_cases hd : d = ' '
      · subst hd
        exact takeWhile_append_stop hc text rest
      · rw [List.cons_append, secondWord, secondWord] <;> simp_all

/-- A second word and the space in front of it are part of the text. -/
theorem length_secondWord_lt (h : secondWord text ≠ []) : 1 + (secondWord text).length ≤ text.length := by
  cases text with
  | nil => exact absurd rfl h
  | cons d text =>
      by_cases hd : d = ' '
      · subst hd
        have : (secondWord (' ' :: text)).length ≤ text.length := (List.takeWhile_prefix _).length_le
        rw [List.length_cons]
        omega
      · refine absurd ?_ h
        rw [secondWord]
        simp_all

/-- Credentials are part of the text. -/
theorem credentialLength?_le {n : Nat} (h : credentialLength? text = some n) : n ≤ text.length := by
  have hfirst : (text.takeWhile isCredential).length ≤ text.length := (List.takeWhile_prefix _).length_le
  have hdrop := List.length_drop (i := (text.takeWhile isCredential).length) (l := text)
  simp only [credentialLength?] at h
  split at h
  · cases h
  · obtain rfl := Option.some.inj h
    split
    · exact hfirst
    · next hsecond =>
      have := length_secondWord_lt (by simpa using hsecond)
      omega

/-- The length of credentials does not depend on a character that is in none, or on what follows it. -/
theorem credentialLength?_append (hspace : c ≠ ' ') (hc : isCredential c = false)
    (text rest : List Char) : credentialLength? (text ++ c :: rest) = credentialLength? text := by
  simp only [credentialLength?]
  rw [takeWhile_append_stop hc,
    List.drop_append_of_le_length ((List.takeWhile_prefix _).length_le),
    secondWord_append hspace hc]

/-- Credentials stay in a text. -/
theorem isBounded_credentials : IsBounded credentials where
  length_le text f h := by
    rw [credentials_eq] at h
    obtain ⟨value, hvalue, hlength⟩ := Option.bind_eq_some_iff.mp h
    obtain ⟨n, hn, rfl⟩ := Option.map_eq_some_iff.mp hlength
    obtain ⟨spelled, rfl, hword⟩ := after?_eq_some_iff.mp hvalue
    show headerLead.length + n ≤ _
    rw [List.length_append, ← hword, List.length_map]
    exact Nat.add_le_add_left (credentialLength?_le hn) _
  nil := rfl

/-- **Credentials end** at a character that is neither in the start of their header nor in a
credential. -/
theorem breaks_credentials (hlead : fold c ∉ headerLead) (hc : isCredential c = false) :
    Breaks credentials c := by
  intro text rest
  have hspace : c ≠ ' ' := by
    rintro rfl
    exact hlead (by decide)
  rw [credentials_eq, credentials_eq, after?_append_of_not_mem hlead]
  cases hfound : after? headerLead text with
  | none => rfl
  | some value =>
      obtain ⟨spelled, rfl, hword⟩ := after?_eq_some_iff.mp hfound
      have hlength : headerLead.length = spelled.length := by rw [← hword, List.length_map]
      show (credentialLength? (value ++ c :: rest)).map _ = (credentialLength? value).map _
      rw [credentialLength?_append hspace hc, List.append_assoc, hlength, List.take_left,
        List.take_left]

/-- What stays of credentials is part of the text. -/
theorem kept_credentials_subset (text : List Char) (f : Found) (h : credentials text = some f) :
    f.kept ⊆ text := by
  rw [credentials_eq] at h
  obtain ⟨value, -, hlength⟩ := Option.bind_eq_some_iff.mp h
  obtain ⟨n, -, rfl⟩ := Option.map_eq_some_iff.mp hlength
  exact List.take_subset _ _

/-! ## Assignments -/

/-- The value of an assignment, behind the name. -/
def assigned : List Char → List Char
  | '=' :: rest => rest.takeWhile fun c => !Text.isBlank c
  | _ => []

/-- An assignment is a name with a word for a secret at its end and a value that is not empty. -/
theorem assignment_eq (text : List Char) :
    assignment text =
      let name := text.takeWhile isName
      let value := assigned (text.drop name.length)
      if value.isEmpty || !secretNames.any (endsWith · name) then none
      else some ⟨name, name.length + 1 + value.length⟩ := by
  rw [assignment]
  dsimp only
  split
  · next rest hdrop =>
    rw [hdrop]
    rfl
  · next hdrop =>
    rw [assigned]
    · rfl
    · exact hdrop

/-- The value of an assignment and the equals sign are part of the text. -/
theorem length_assigned_lt (h : assigned text ≠ []) : 1 + (assigned text).length ≤ text.length := by
  cases text with
  | nil => exact absurd rfl h
  | cons d text =>
      by_cases hd : d = '='
      · subst hd
        have : (assigned ('=' :: text)).length ≤ text.length := (List.takeWhile_prefix _).length_le
        rw [List.length_cons]
        omega
      · refine absurd ?_ h
        rw [assigned]
        simp_all

/-- Assignments stay in a text. -/
theorem isBounded_assignment : IsBounded assignment where
  length_le text f h := by
    rw [assignment_eq] at h
    have hname : (text.takeWhile isName).length ≤ text.length := (List.takeWhile_prefix _).length_le
    have hdrop := List.length_drop (i := (text.takeWhile isName).length) (l := text)
    dsimp only at h
    split at h
    · cases h
    · next hvalue =>
      obtain rfl := Option.some.inj h
      have hassigned : assigned (text.drop (text.takeWhile isName).length) ≠ [] := by
        intro hnil
        rw [hnil] at hvalue
        exact hvalue rfl
      have := length_assigned_lt hassigned
      dsimp only
      omega
  nil := rfl

/-- The value of an assignment ends at a blank. -/
theorem assigned_append (heq : c ≠ '=') (hc : Text.isBlank c = true) (text rest : List Char) :
    assigned (text ++ c :: rest) = assigned text := by
  cases text with
  | nil =>
      rw [List.nil_append, assigned, assigned] <;> simp_all
  | cons d text =>
      by_cases hd : d = '='
      · subst hd
        exact takeWhile_append_stop (by rw [hc]; rfl) text rest
      · rw [List.cons_append, assigned, assigned] <;> simp_all

/-- **Assignments end** at a blank that is not in a name. -/
theorem breaks_assignment (hname : isName c = false) (heq : c ≠ '=') (hc : Text.isBlank c = true) :
    Breaks assignment c := by
  intro text rest
  rw [assignment_eq, assignment_eq]
  dsimp only
  rw [takeWhile_append_stop hname, List.drop_append_of_le_length (List.takeWhile_prefix _).length_le,
    assigned_append heq hc]

/-- No assignment starts in front of a character that is neither in a name nor an equals sign. -/
theorem assignment_append_eq_none (hname : isName c = false) (heq : c ≠ '=') (htext : '=' ∉ text)
    (rest : List Char) : assignment (text ++ c :: rest) = none := by
  -- the name ends at a character of the text or at the one behind it, and neither is an equals sign
  have hvalue : assigned (text.drop (text.takeWhile isName).length ++ c :: rest) = [] := by
    cases hdrop : text.drop (text.takeWhile isName).length with
    | nil =>
        rw [List.nil_append, assigned]
        simp_all
    | cons d tail =>
        have hd : d ≠ '=' := by
          rintro rfl
          exact htext (List.mem_of_mem_drop (hdrop ▸ List.mem_cons_self))
        rw [List.cons_append, assigned]
        simp_all
  rw [assignment_eq]
  dsimp only
  rw [takeWhile_append_stop hname, List.drop_append_of_le_length (List.takeWhile_prefix _).length_le,
    hvalue]
  rfl

/-- **A text without an equals sign stays** up to a character that is not in a name. -/
theorem replaceFrom_assignment_append (hname : isName c = false) (heq : c ≠ '=')
    (hbefore : '=' ∉ before) (after : List Char) :
    replaceFrom assignment 0 (before ++ c :: after)
      = before ++ c :: replaceFrom assignment 0 after := by
  induction before with
  | nil => exact replaceFrom_cons_of_none (assignment_append_eq_none hname heq hbefore after)
  | cons d rest ih =>
      have hnone : assignment (d :: (rest ++ c :: after)) = none :=
        assignment_append_eq_none hname heq hbefore after
      rw [List.cons_append, replaceFrom_cons_of_none hnone,
        ih fun hmem => hbefore (List.mem_cons_of_mem _ hmem)]
      rfl

end QueryableApi.Redaction
