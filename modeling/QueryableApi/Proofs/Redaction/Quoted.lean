import QueryableApi.Proofs.Redaction

/-! # Quoted secrets

What the pattern for quoted secrets matches (`member_eq_some_iff`): a quoted word for a secret, a colon,
and a value that goes on to the next quotation mark, be it in another line. So what it replaces in a line
depends on the lines in front of it, and on nothing but whether these leave a secret open
(`replaceFrom_member_brace`). -/

namespace QueryableApi.Redaction

variable {text before after rest lead value name : List Char} {c : Char} {f : Found}

/-! ## Matches -/

/-- What stands in front of the value of a quoted secret: a quoted word for a secret and a colon. -/
def IsLead (lead : List Char) : Prop :=
  ∃ name blanks space, name.map fold ∈ secretMembers ∧ blanks.all Text.isBlank = true ∧
    space.all Text.isBlank = true ∧ lead = '"' :: (name ++ '"' :: (blanks ++ ':' :: space))

/-- No word for a secret starts another one. -/
theorem eq_of_prefix_of_mem_secretMembers :
    ∀ word ∈ secretMembers, ∀ other ∈ secretMembers, word <+: other → word = other := by
  decide

/-- A text starts with at most one word for a secret. -/
theorem findSome?_after?_of_mem (hname : name.map fold ∈ secretMembers) :
    secretMembers.findSome? (after? · (name ++ rest)) = some rest := by
  have hfound : ∀ word ∈ secretMembers, ∀ found, after? word (name ++ rest) = some found →
      found = rest := by
    intro word hword found hafter
    obtain ⟨spelled, hsplit, rfl⟩ := after?_eq_some_iff.mp hafter
    -- both stand at the start of the text, so one starts the other
    have hprefix : spelled <+: name ∨ name <+: spelled :=
      List.prefix_or_prefix_of_prefix ⟨found, hsplit.symm⟩ (List.prefix_append name rest)
    have hlength : spelled.length = name.length := by
      have hmap : spelled.map fold = name.map fold := by
        rcases hprefix with h | h
        · exact eq_of_prefix_of_mem_secretMembers _ hword _ hname (h.map fold)
        · exact (eq_of_prefix_of_mem_secretMembers _ hname _ hword (h.map fold)).symm
      simpa using congrArg List.length hmap
    exact (List.append_inj_right hsplit hlength.symm).symm
  cases hsome : secretMembers.findSome? (after? · (name ++ rest)) with
  | some found =>
      obtain ⟨word, hword, hafter⟩ := List.exists_of_findSome?_eq_some hsome
      rw [hfound word hword found hafter]
  | none =>
      have := List.findSome?_eq_none_iff.mp hsome _ hname
      rw [after?_eq_some_iff.mpr ⟨name, rfl, rfl⟩] at this
      cases this

/-- Blanks are dropped up to a character that is none. -/
theorem dropBlanks_append {blanks : List Char} (hblanks : blanks.all Text.isBlank = true)
    (hc : Text.isBlank c = false) (rest : List Char) :
    Text.dropBlanks (blanks ++ c :: rest) = c :: rest := by
  rw [Text.dropBlanks, List.dropWhile_append_of_pos (List.all_eq_true.mp hblanks),
    List.dropWhile_cons_of_neg (by rw [hc]; exact Bool.false_ne_true)]

/-- What is behind a character follows it. -/
theorem behind?_eq_some_iff : behind? c text = some rest ↔ text = c :: rest := by
  cases text with
  | nil => exact ⟨fun h => (by cases h), fun h => (by cases h)⟩
  | cons x tail =>
      rw [behind?, List.cons.injEq]
      constructor
      · intro h
        split at h
        · next hx => exact ⟨beq_iff_eq.mp hx, Option.some.inj h⟩
        · cases h
      · rintro ⟨rfl, rfl⟩
        exact if_pos (beq_self_eq_true _)

/-- What a match keeps and covers, from what stands behind it. -/
theorem found_eq (lead value rest : List Char) :
    (⟨(lead ++ '"' :: (value ++ '"' :: rest)).take
        ((lead ++ '"' :: (value ++ '"' :: rest)).length - ('"' :: (value ++ '"' :: rest)).length),
      (lead ++ '"' :: (value ++ '"' :: rest)).length - rest.length⟩ : Found)
      = ⟨lead, lead.length + value.length + 2⟩ := by
  rw [List.length_append, Nat.add_sub_cancel, List.take_left, Found.mk.injEq]
  simp only [List.length_append, List.length_cons, true_and]
  omega

/-- A quoted word for a secret, a colon, and a text between quotation marks are a quoted secret. -/
theorem member_lead (hlead : IsLead lead) (hvalue : '"' ∉ value) (rest : List Char) :
    member (lead ++ '"' :: (value ++ '"' :: rest)) = some ⟨lead, lead.length + value.length + 2⟩ := by
  obtain ⟨name, blanks, space, hname, hblanks, hspace, rfl⟩ := hlead
  have hopened : behind? '"'
      ('"' :: (name ++ '"' :: (blanks ++ ':' :: space)) ++ '"' :: (value ++ '"' :: rest))
      = some (name ++ '"' :: (blanks ++ ':' :: (space ++ '"' :: (value ++ '"' :: rest)))) := by
    rw [behind?_eq_some_iff]
    simp only [List.cons_append, List.append_assoc]
  have hending : (value ++ '"' :: rest).dropWhile (· != '"') = '"' :: rest := by
    rw [List.dropWhile_append_of_pos fun d hd => bne_iff_ne.mpr fun (h : d = '"') => hvalue (h ▸ hd)]
    rfl
  rw [member]
  simp only [hopened, findSome?_after?_of_mem hname, behind?_eq_some_iff.mpr rfl,
    dropBlanks_append hblanks (by decide : Text.isBlank ':' = false),
    dropBlanks_append hspace (by decide : Text.isBlank '"' = false), hending, Option.bind_eq_bind,
    Option.bind_some]
  rw [found_eq]

/-- What is matched is such a quoted secret. -/
theorem exists_lead_of_member (h : member text = some f) :
    ∃ lead value rest, text = lead ++ '"' :: (value ++ '"' :: rest) ∧ IsLead lead ∧ '"' ∉ value ∧
      f = ⟨lead, lead.length + value.length + 2⟩ := by
  obtain ⟨opened, hopened, h⟩ := Option.bind_eq_some_iff.mp h
  obtain ⟨named, hnamed, h⟩ := Option.bind_eq_some_iff.mp h
  obtain ⟨closed, hclosed, h⟩ := Option.bind_eq_some_iff.mp h
  obtain ⟨colon, hcolon, h⟩ := Option.bind_eq_some_iff.mp h
  obtain ⟨value, hvalue, h⟩ := Option.bind_eq_some_iff.mp h
  obtain ⟨ending, hending, h⟩ := Option.bind_eq_some_iff.mp h
  obtain rfl := behind?_eq_some_iff.mp hopened
  obtain ⟨word, hword, hafter⟩ := List.exists_of_findSome?_eq_some hnamed
  obtain ⟨name, rfl, rfl⟩ := after?_eq_some_iff.mp hafter
  obtain rfl := behind?_eq_some_iff.mp hclosed
  -- what was passed over between the parts, put back
  have hclosed : closed.takeWhile Text.isBlank ++ ':' :: colon = closed := by
    rw [← behind?_eq_some_iff.mp hcolon]
    exact List.takeWhile_append_dropWhile
  have hspace : colon.takeWhile Text.isBlank ++ '"' :: value = colon := by
    rw [← behind?_eq_some_iff.mp hvalue]
    exact List.takeWhile_append_dropWhile
  have hending : value.takeWhile (· != '"') ++ '"' :: ending = value := by
    rw [← behind?_eq_some_iff.mp hending]
    exact List.takeWhile_append_dropWhile
  have hquoted := behind?_eq_some_iff.mp hvalue
  have htext : '"' :: (name ++ '"' :: closed)
      = '"' :: (name ++ '"' :: (closed.takeWhile Text.isBlank ++ ':' :: colon.takeWhile Text.isBlank))
        ++ '"' :: (value.takeWhile (· != '"') ++ '"' :: ending) := by
    simp only [List.cons_append, List.append_assoc, hending, hspace, hclosed]
  refine ⟨_, value.takeWhile (· != '"'), ending, htext,
    ⟨name, _, _, hword, List.all_takeWhile, List.all_takeWhile, rfl⟩, ?_, ?_⟩
  · intro hmem
    simpa using List.mem_takeWhile_imp hmem
  · rw [← Option.some.inj h, hquoted, htext]
    simpa only [hending] using found_eq _ (value.takeWhile (· != '"')) ending

/-- **A quoted secret** is a quoted word for a secret, a colon, and a text without a quotation mark between
two of them. -/
theorem member_eq_some_iff :
    member text = some f ↔
      ∃ lead value rest, text = lead ++ '"' :: (value ++ '"' :: rest) ∧ IsLead lead ∧ '"' ∉ value ∧
        f = ⟨lead, lead.length + value.length + 2⟩ := by
  refine ⟨exists_lead_of_member, ?_⟩
  rintro ⟨lead, value, rest, rfl, hlead, hvalue, rfl⟩
  exact member_lead hlead hvalue rest

/-- A quoted secret is replaced, with what stands in front of its value kept. -/
theorem replaceFrom_member_lead (hlead : IsLead lead) (hvalue : '"' ∉ value) (rest : List Char) :
    replaceFrom member 0 (lead ++ '"' :: (value ++ '"' :: rest))
      = lead ++ placeholder ++ replaceFrom member 0 rest := by
  have htext : lead ++ '"' :: (value ++ '"' :: rest) = lead ++ '"' :: (value ++ ['"']) ++ rest := by
    simp only [List.append_assoc, List.cons_append, List.nil_append]
  have hfound : member (lead ++ '"' :: (value ++ ['"']) ++ rest)
      = some ⟨lead, lead.length + value.length + 2⟩ := htext ▸ member_lead hlead hvalue rest
  rw [htext, replaceFrom_append_of_some hfound (by simp +arith) (by simp)]

/-- No quoted secret starts at a character that is no quotation mark. -/
theorem member_cons_of_ne (hc : c ≠ '"') (rest : List Char) : member (c :: rest) = none := by
  have hnone : behind? '"' (c :: rest) = none := if_neg (by simpa using hc)
  rw [member, hnone]
  rfl

/-- A text without quotation marks stays in front of whatever follows. -/
theorem replaceFrom_member_append (hbefore : '"' ∉ before) (after : List Char) :
    replaceFrom member 0 (before ++ after) = before ++ replaceFrom member 0 after := by
  induction before with
  | nil => rfl
  | cons c rest ih =>
      have hc : c ≠ '"' := fun h => hbefore (h ▸ List.mem_cons_self)
      rw [List.cons_append, replaceFrom_cons_of_none (member_cons_of_ne hc _),
        ih fun hmem => hbefore (List.mem_cons_of_mem _ hmem), List.cons_append]

/-- No quoted secret starts with a quoted text that is no word for a secret, or has no colon behind it. -/
theorem member_quoted_eq_none (hname : '"' ∉ name)
    (h : name.map fold ∉ secretMembers ∨ (Text.dropBlanks rest).head? ≠ some ':') :
    member ('"' :: (name ++ '"' :: rest)) = none := by
  refine Option.eq_none_iff_forall_ne_some.mpr fun f hfound => ?_
  obtain ⟨lead, value, more, hsplit, ⟨word, blanks, space, hword, hblanks, hspace, rfl⟩, -, -⟩ :=
    exists_lead_of_member hfound
  have hwords : ∀ word ∈ secretMembers, fold '"' ∉ word := by decide
  have hquote : '"' ∉ word := fun hmem => hwords _ hword (List.mem_map_of_mem hmem)
  simp only [List.cons_append, List.append_assoc, List.cons.injEq, true_and] at hsplit
  have htaken : ∀ {cs : List Char}, '"' ∉ cs → cs.takeWhile (· != '"') = cs := fun hcs =>
    List.takeWhile_eq_self_iff.mpr fun d hd => bne_iff_ne.mpr fun (heq : d = '"') => hcs (heq ▸ hd)
  -- both go on to the first quotation mark
  have hnames : name = word := by
    have := congrArg (List.takeWhile (· != '"')) hsplit
    rwa [takeWhile_append_stop rfl, takeWhile_append_stop rfl, htaken hname, htaken hquote] at this
  subst hnames
  obtain rfl : rest = blanks ++ ':' :: (space ++ '"' :: (value ++ '"' :: more)) := by
    simpa using hsplit
  rcases h with h | h
  · exact h hword
  · rw [dropBlanks_append hblanks (by decide)] at h
    exact h rfl

/-- A quoted secret has four quotation marks. -/
theorem four_le_count_of_member (h : member text = some f) : 4 ≤ text.count '"' := by
  obtain ⟨lead, value, rest, rfl, ⟨name, blanks, space, -, -, -, rfl⟩, -, -⟩ := member_eq_some_iff.mp h
  simp only [List.cons_append, List.append_assoc, List.count_cons, List.count_append, beq_self_eq_true,
    if_true]
  omega

/-- A text with fewer than four quotation marks has no quoted secret. -/
theorem replaceFrom_member_of_count (h : text.count '"' < 4) : replaceFrom member 0 text = text := by
  refine replaceFrom_eq_self fun x c y heq => ?_
  cases hfound : member (c :: y) with
  | none => rfl
  | some f =>
      have := four_le_count_of_member hfound
      rw [heq, List.count_append] at h
      omega

/-- A text is a single character if what it is replaced with is. -/
theorem eq_singleton_of_replaceFrom {p : Pattern} (h : replaceFrom p 0 text = [c]) : text = [c] := by
  -- a placeholder has more than one character
  have hfound : ∀ d rest f, p (d :: rest) = some f → 2 ≤ (replaceFrom p 0 (d :: rest)).length := by
    intro d rest f hf
    rw [replaceFrom_cons_of_some hf, List.length_append, List.length_append]
    have : placeholder.length = 10 := rfl
    omega
  cases text with
  | nil => cases h
  | cons d rest =>
      cases hd : p (d :: rest) with
      | some f =>
          have := hfound d rest f hd
          rw [h, List.length_singleton] at this
          exact absurd this (by decide)
      | none =>
          rw [replaceFrom_cons_of_none hd] at h
          obtain ⟨rfl, hrest⟩ := List.cons.inj h
          cases rest with
          | nil => rfl
          | cons e tail =>
              cases he : p (e :: tail) with
              | some f =>
                  have := hfound e tail f he
                  rw [hrest] at this
                  exact absurd this (by decide)
              | none =>
                  rw [replaceFrom_cons_of_none he] at hrest
                  cases hrest

/-! ## Open secrets -/

/-- A text **leaves a secret open**: it has started a quoted secret and not ended its value. -/
def IsOpen (text : List Char) : Prop :=
  ∃ lead value, text = lead ++ '"' :: value ∧ IsLead lead ∧ '"' ∉ value

/-- What precedes the value of a quoted secret has no brace. -/
theorem brace_not_mem_of_isLead (h : IsLead lead) : '\x7b' ∉ lead := by
  obtain ⟨name, blanks, space, hname, hblanks, hspace, rfl⟩ := h
  have hwords : ∀ word ∈ secretMembers, fold '\x7b' ∉ word := by decide
  have hbrace : ∀ {cs : List Char}, cs.all Text.isBlank = true → '\x7b' ∉ cs := by
    intro cs hcs hmem
    exact absurd (List.all_eq_true.mp hcs _ hmem) (by decide)
  simp only [List.mem_cons, List.mem_append, not_or]
  exact ⟨by decide, fun h => hwords _ hname (List.mem_map_of_mem h), by decide, hbrace hblanks, by decide,
    hbrace hspace⟩

/-- A quoted secret in front of which a brace is put is in the text, or the text leaves it open. -/
theorem member_append_brace (h : member (text ++ '\x7b' :: rest) = some f) :
    member text = some f ∨ IsOpen text := by
  obtain ⟨lead, value, tail, hsplit, hlead, hvalue, rfl⟩ := member_eq_some_iff.mp h
  rcases List.append_eq_append_iff.mp hsplit with ⟨between, hin, hbrace⟩ | ⟨between, hout, hquote⟩
  · -- the brace would stand in front of the value
    rcases List.cons_eq_append_iff.mp hbrace with ⟨-, hhead⟩ | ⟨more, rfl, -⟩
    · cases hhead
    · subst hin
      exact absurd (List.mem_append_right _ List.mem_cons_self) (brace_not_mem_of_isLead hlead)
  · rcases List.cons_eq_append_iff.mp hquote with ⟨-, hhead⟩ | ⟨opened, rfl, hvalues⟩
    · cases hhead
    · subst hout
      rcases List.append_eq_append_iff.mp hvalues with ⟨more, rfl, hend⟩ | ⟨more, rfl, -⟩
      · rcases List.cons_eq_append_iff.mp hend with ⟨-, hhead⟩ | ⟨closed, rfl, -⟩
        · cases hhead
        · exact .inl (member_eq_some_iff.mpr ⟨lead, value, closed, rfl, hlead, hvalue, rfl⟩)
      · -- the value goes on behind the brace
        exact .inr ⟨lead, opened, rfl, hlead, fun hmem => hvalue (List.mem_append_left _ hmem)⟩

/-- A quoted secret in front of which a quotation mark is put is in the text, or the text leaves it
open. -/
theorem member_append_quote (h : member (text ++ ['"']) = some f) :
    member text = some f ∨ IsOpen text := by
  obtain ⟨lead, value, tail, hsplit, hlead, hvalue, rfl⟩ := member_eq_some_iff.mp h
  rcases List.eq_nil_or_concat tail with rfl | ⟨closed, d, rfl⟩
  · -- the quotation mark ends the value
    refine .inr ⟨lead, value, ?_, hlead, hvalue⟩
    rw [← List.cons_append, ← List.append_assoc] at hsplit
    exact List.append_cancel_right hsplit
  · have hends : text ++ ['"'] = (lead ++ '"' :: (value ++ '"' :: closed)) ++ [d] := by
      rw [hsplit]
      simp only [List.concat_eq_append, List.append_assoc, List.cons_append]
    exact .inl (member_eq_some_iff.mpr
      ⟨lead, value, closed, List.append_inj_left' hends rfl, hlead, hvalue, rfl⟩)

/-- A quoted secret does not depend on what follows it. -/
theorem member_append (h : member text = some f) (rest : List Char) : member (text ++ rest) = some f := by
  obtain ⟨lead, value, tail, rfl, hlead, hvalue, rfl⟩ := member_eq_some_iff.mp h
  refine member_eq_some_iff.mpr ⟨lead, value, tail ++ rest, ?_, hlead, hvalue, rfl⟩
  simp only [List.append_assoc, List.cons_append]

/-- Quoted secrets stay in a text. -/
theorem isBounded_member : IsBounded member where
  length_le text f h := by
    obtain ⟨lead, value, rest, rfl, -, -, rfl⟩ := member_eq_some_iff.mp h
    simp only [List.length_append, List.length_cons]
    omega
  nil := rfl

/-- The first quotation mark behind an open text ends its secret; a brace in front of it is part of the
value. -/
theorem replaceFrom_member_of_isOpen (h : IsOpen text) :
    replaceFrom member 0 (text ++ ['"']) ≠ replaceFrom member 0 text ++ ['"'] ∧
      ∀ rest, replaceFrom member 0 (text ++ '\x7b' :: '"' :: rest)
        = replaceFrom member 0 (text ++ ['"']) ++ replaceFrom member 0 rest := by
  obtain ⟨lead, value, rfl, hlead, hvalue⟩ := h
  have hquote : replaceFrom member 0 (lead ++ '"' :: value ++ ['"']) = lead ++ placeholder := by
    rw [List.append_assoc, List.cons_append, replaceFrom_member_lead hlead hvalue, replaceFrom,
      List.append_nil]
  constructor
  · -- the placeholder does not end in a quotation mark
    intro h
    rw [hquote] at h
    have hlast := congrArg List.getLast? h
    rw [List.getLast?_concat, List.getLast?_append] at hlast
    exact absurd (Option.some.inj hlast) (by decide)
  · intro rest
    have hbrace : '"' ∉ value ++ ['\x7b'] := by
      simpa using hvalue
    rw [hquote, ← replaceFrom_member_lead hlead hbrace]
    simp only [List.append_assoc, List.cons_append, List.nil_append]

/-- No quoted secret starts where there is none and none is left open, if a brace or a quotation mark
follows. -/
theorem member_append_eq_none (hnone : member text = none) (hopen : ¬IsOpen text) :
    member (text ++ ['"']) = none ∧ ∀ rest, member (text ++ '\x7b' :: rest) = none := by
  have hnot : ∀ {f}, ¬(member text = some f ∨ IsOpen text) := by
    rintro f (h | h)
    · rw [hnone] at h
      cases h
    · exact hopen h
  exact ⟨Option.eq_none_iff_forall_ne_some.mpr fun f h => hnot (member_append_quote h),
    fun rest => Option.eq_none_iff_forall_ne_some.mpr fun f h => hnot (member_append_brace h)⟩

/-- **Quoted secrets around a brace**: either the text in front of the brace leaves no secret open and is
replaced in by itself, or it does, and the value goes on to the first quotation mark. Whether it does shows
when a quotation mark is put behind it. -/
theorem replaceFrom_member_brace {covered : Nat} (hcovered : covered ≤ text.length) :
    replaceFrom member covered (text ++ ['"']) = replaceFrom member covered text ++ ['"']
        ∧ (∀ rest, replaceFrom member covered (text ++ '\x7b' :: rest)
            = replaceFrom member covered text ++ '\x7b' :: replaceFrom member 0 rest)
      ∨ replaceFrom member covered (text ++ ['"']) ≠ replaceFrom member covered text ++ ['"']
        ∧ ∀ rest, replaceFrom member covered (text ++ '\x7b' :: '"' :: rest)
            = replaceFrom member covered (text ++ ['"']) ++ replaceFrom member 0 rest := by
  induction text generalizing covered with
  | nil =>
      obtain rfl : covered = 0 := Nat.le_zero.mp hcovered
      exact .inl ⟨rfl, fun rest => replaceFrom_cons_of_none (member_cons_of_ne (by decide) rest)⟩
  | cons c tail ih =>
      cases covered with
      | succ n => exact ih (Nat.le_of_succ_le_succ hcovered)
      | zero =>
          cases hfound : member (c :: tail) with
          | some f =>
              -- the match is in the text, so what is put behind it does not matter
              have hlength : f.length - 1 ≤ tail.length := by
                have := isBounded_member.length_le _ _ hfound
                rw [List.length_cons] at this
                omega
              have hreplaced : ∀ more, replaceFrom member 0 (c :: tail ++ more)
                  = f.kept ++ placeholder ++ replaceFrom member (f.length - 1) (tail ++ more) :=
                fun more => replaceFrom_cons_of_some (member_append hfound more)
              rw [hreplaced, replaceFrom_cons_of_some hfound, List.append_assoc, List.append_assoc]
              simp only [hreplaced, List.append_assoc, ne_eq, List.append_cancel_left_eq]
              simpa only [List.append_assoc] using ih hlength
          | none =>
              by_cases hopen : IsOpen (c :: tail)
              · exact .inr (replaceFrom_member_of_isOpen hopen)
              · obtain ⟨hquote, hbrace⟩ := member_append_eq_none hfound hopen
                have hstay : ∀ more, member (c :: tail ++ more) = none →
                    replaceFrom member 0 (c :: tail ++ more) = c :: replaceFrom member 0 (tail ++ more) :=
                  fun more h => replaceFrom_cons_of_none h
                rw [hstay _ hquote, replaceFrom_cons_of_none hfound]
                rcases ih (Nat.zero_le _) with ⟨hclosed, hrest⟩ | ⟨hopened, hrest⟩
                · exact .inl ⟨congrArg (c :: ·) hclosed,
                    fun rest => (hstay _ (hbrace rest)).trans (congrArg (c :: ·) (hrest rest))⟩
                · exact .inr ⟨fun h => hopened (List.cons.inj h).2,
                    fun rest => (hstay _ (hbrace _)).trans (congrArg (c :: ·) (hrest rest))⟩

end QueryableApi.Redaction
