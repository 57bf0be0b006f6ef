import QueryableApi.Json.Writer
import QueryableApi.Proofs.Redaction.Quoted
import QueryableApi.Proofs.Text.Utf8

/-! # Secrets in a line of a redacted text

Whether a redacted text shows anything of a secret in one of its lines. The bearer token of a header line
is hidden exactly if no tilde stands in it, and the password of a one-line JSON object exactly if its
encoding, once headers and assignments in it are replaced, holds no quotation mark and still ends in front
of the closing one (`redact_secretLine_iff`). -/

namespace QueryableApi.Redaction

variable {before value rest : List Char} {c : Char}

/-! ## Lines -/

/-- The characters at which a line ends. -/
def lineBreaks : List Char := ['\n', '\x0b', '\x0c', '\r', '\u0085', '\u2028', '\u2029']

/-- Whether a line ends at a character. -/
def isLineBreak (c : Char) : Bool := lineBreaks.contains c

/-- A text **ends a line**: it is empty, or has a line break at its end. -/
def EndsLine (text : String) : Prop := ∀ c ∈ text.toList.getLast?, isLineBreak c = true

/-- A text **starts a line**: it is empty, or has a line break at its start. -/
def StartsLine (text : String) : Prop := ∀ c ∈ text.toList.head?, isLineBreak c = true

/-- The empty text ends a line. -/
theorem endsLine_empty : EndsLine "" := nofun

/-- The empty text starts a line. -/
theorem startsLine_empty : StartsLine "" := nofun

/-- A text with the credentials and the assignments replaced. -/
def scrub (text : List Char) : List Char :=
  replaceFrom assignment 0 (replaceFrom credentials 0 text)

/-- Quoted secrets are replaced last. -/
theorem toList_redact (text : String) :
    (redact text).toList = replaceFrom member 0 (scrub text.toList) :=
  String.toList_ofList

/-- Neither credentials nor assignments go on behind a line break. -/
theorem breaks_of_isLineBreak (hc : isLineBreak c = true) :
    Breaks credentials c ∧ Breaks assignment c := by
  have hall : lineBreaks.all (fun d => decide (fold d ∉ headerLead ∧ isCredential d = false ∧
      isName d = false ∧ d ≠ '=' ∧ Text.isBlank d = true)) = true := by
    decide +kernel
  obtain ⟨hlead, hcredential, hname, heq, hblank⟩ :=
    of_decide_eq_true (List.all_eq_true.mp hall c (List.contains_iff_mem.mp hc))
  exact ⟨breaks_credentials hlead hcredential, breaks_assignment hname heq hblank⟩

/-- **Headers and assignments are replaced line by line.** -/
theorem scrub_append_break (hc : isLineBreak c = true) (before after : List Char) :
    scrub (before ++ c :: after) = scrub before ++ c :: scrub after := by
  obtain ⟨hcredentials, hassignment⟩ := breaks_of_isLineBreak hc
  rw [scrub, replaceFrom_append_break isBounded_credentials hcredentials,
    replaceFrom_append_break isBounded_assignment hassignment]
  rfl

/-- What follows the end of a line is scrubbed by itself. -/
theorem scrub_append_of_endsLine {p : String} (hp : EndsLine p) (text : List Char) :
    scrub (p.toList ++ text) = scrub p.toList ++ scrub text := by
  rcases List.eq_nil_or_concat p.toList with hnil | ⟨before, c, hconcat⟩
  · rw [hnil]
    rfl
  · have hc : isLineBreak c = true :=
      hp c (by rw [hconcat, List.concat_eq_append, List.getLast?_concat]; rfl)
    rw [hconcat, List.concat_eq_append, List.append_assoc, List.singleton_append,
      scrub_append_break hc, scrub_append_break hc, List.append_assoc]
    rfl

/-- What precedes the start of a line is scrubbed by itself. -/
theorem scrub_append_of_startsLine {q : String} (hq : StartsLine q) (text : List Char) :
    scrub (text ++ q.toList) = scrub text ++ scrub q.toList := by
  cases hcons : q.toList with
  | nil =>
      rw [List.append_nil]
      exact (List.append_nil _).symm
  | cons c rest =>
      have hc : isLineBreak c = true := hq c (by rw [hcons]; rfl)
      have hrest : scrub (c :: rest) = c :: scrub rest := scrub_append_break hc [] rest
      rw [scrub_append_break hc, hrest]

/-- A line and what stands around it are scrubbed by themselves. -/
theorem toList_redact_line {p q : String} (hp : EndsLine p) (hq : StartsLine q) (line : String) :
    (redact (p ++ line ++ q)).toList
      = replaceFrom member 0 (scrub p.toList ++ (scrub line.toList ++ scrub q.toList)) := by
  rw [toList_redact, String.toList_append, String.toList_append, List.append_assoc,
    scrub_append_of_endsLine hp, scrub_append_of_startsLine hq]

/-! ## Bearer tokens -/

/-- Whether a character may stand in a bearer token in front of its padding. -/
def isTokenChar (c : Char) : Bool := c.isAlphanum || "-._~+/".toList.contains c

/-- A text **is a bearer token**: letters, digits and marks, then any number of equals signs. -/
def IsToken (t : String) : Prop :=
  ∃ marks padding, t.toList = marks ++ List.replicate padding '=' ∧ marks ≠ [] ∧
    marks.all isTokenChar = true

/-- The header line with a bearer token. -/
def bearerLine (t : String) : String := "Authorization: Bearer " ++ t

/-- The header line up to the token. -/
def bearerLead : List Char := "Authorization: Bearer ".toList

/-- The length of a header line up to the token. -/
theorem length_bearerLead : bearerLead.length = 22 := by decide

/-- A header line up to the token has the start of the header, one word, and a space. -/
theorem bearerLead_eq : bearerLead = "Authorization: ".toList ++ "Bearer".toList ++ [' '] := by
  decide

/-- The header line is its start and the token. -/
theorem toList_bearerLine (t : String) : (bearerLine t).toList = bearerLead ++ t.toList :=
  String.toList_append

/-- A header line without its credentials. -/
def hiddenBearer : List Char := "Authorization: ".toList ++ placeholder

/-- Every character of a bearer token but the tilde may stand in a credential. -/
theorem isCredential_of_isTokenChar (hc : isTokenChar c = true) (hne : c ≠ '~') :
    isCredential c = true := by
  rw [isCredential, Bool.or_eq_true]
  rcases Bool.or_eq_true_iff.mp hc with h | h
  · left
    have hascii : c.toNat ≤ Text.asciiLast := Nat.le_of_lt_succ (Text.toNat_lt_of_isAlphanum h)
    rw [Text.isWord, if_pos hascii, h]
    rfl
  · have hmarks : "-._~+/".toList.all (fun d => decide (d ≠ '~' →
        Text.isWord d = true ∨ "-.=:/+".toList.contains d = true)) = true := by
      decide
    exact of_decide_eq_true (List.all_eq_true.mp hmarks c (List.contains_iff_mem.mp h)) hne

/-- A bearer token is not empty, and every character of it but the tilde may stand in a credential. -/
theorem IsToken.characters {t : String} (h : IsToken t) :
    t.toList ≠ [] ∧ ∀ c ∈ t.toList, c ≠ '~' → isCredential c = true := by
  obtain ⟨marks, padding, htoList, hmarks, hall⟩ := h
  rw [htoList]
  refine ⟨fun hnil => hmarks (List.append_eq_nil_iff.mp hnil).1, fun c hc hne => ?_⟩
  rcases List.mem_append.mp hc with hc | hc
  · exact isCredential_of_isTokenChar (List.all_eq_true.mp hall c hc) hne
  · rw [List.eq_of_mem_replicate hc]
    decide

/-- The credentials of a header line with a bearer token go on as long as its characters may stand in
them. -/
theorem credentials_bearer (t : List Char) :
    credentials (bearerLead ++ t)
      = some ⟨"Authorization: ".toList,
          if (t.takeWhile isCredential).isEmpty then 21
          else 22 + (t.takeWhile isCredential).length⟩ := by
  have hlead : after? headerLead ("Authorization: ".toList ++ ("Bearer".toList ++ ' ' :: t))
      = some ("Bearer".toList ++ ' ' :: t) :=
    after?_eq_some_iff.mpr ⟨_, rfl, by decide⟩
  have hfirst : ("Bearer".toList ++ ' ' :: t).takeWhile isCredential = "Bearer".toList := by
    rw [takeWhile_append_stop (by decide)]
    decide
  have hlength : credentialLength? ("Bearer".toList ++ ' ' :: t)
      = some (if (t.takeWhile isCredential).isEmpty then 6
          else 7 + (t.takeWhile isCredential).length) := by
    simp only [credentialLength?, hfirst]
    rfl
  rw [bearerLead_eq, List.append_assoc, List.append_assoc, List.singleton_append, credentials_eq, hlead,
    Option.bind_some, hlength, Option.map_some]
  congr 2
  rw [apply_ite (headerLead.length + ·), ← Nat.add_assoc]
  rfl

/-- **A bearer token without a tilde is hidden.** -/
theorem scrub_bearerLine {t : String} (ht : IsToken t) (htilde : '~' ∉ t.toList) :
    scrub (bearerLine t).toList = hiddenBearer := by
  obtain ⟨hne, hall⟩ := ht.characters
  have htaken : t.toList.takeWhile isCredential = t.toList :=
    List.takeWhile_eq_self_iff.mpr fun c hc => hall c hc fun h => htilde (h ▸ hc)
  have hfound := credentials_bearer t.toList
  rw [htaken, if_neg (by simpa using hne), ← List.append_nil (bearerLead ++ _)] at hfound
  have hcredentials := replaceFrom_append_of_some hfound (by rw [List.length_append, length_bearerLead])
    (fun h => hne (List.append_eq_nil_iff.mp h).2)
  rw [List.append_nil] at hcredentials
  rw [scrub, toList_bearerLine, hcredentials]
  exact (by decide : replaceFrom assignment 0 hiddenBearer = hiddenBearer)

/-- The credentials in front of a tilde are replaced; if the tilde starts the token, the space in front of
it stays as well. -/
theorem replaceFrom_credentials_tilde (hbefore : before.all isCredential = true) (after : List Char) :
    ∃ space, '=' ∉ space ∧ '"' ∉ space ∧
      replaceFrom credentials 0 (bearerLead ++ (before ++ '~' :: after))
        = hiddenBearer ++ space ++ '~' :: replaceFrom credentials 0 after := by
  have htaken : (before ++ '~' :: after).takeWhile isCredential = before := by
    rw [takeWhile_append_stop (by decide), List.takeWhile_eq_self_iff.mpr (List.all_eq_true.mp hbefore)]
  have hbreak : Breaks credentials '~' := breaks_credentials (by decide) (by decide)
  have htilde : ∀ space, replaceFrom credentials 0 (space ++ '~' :: after)
      = replaceFrom credentials 0 space ++ '~' :: replaceFrom credentials 0 after :=
    fun space => replaceFrom_append_break isBounded_credentials hbreak space after
  have hfound := credentials_bearer (before ++ '~' :: after)
  rw [htaken] at hfound
  by_cases hnil : before = []
  · -- the match ends with the first word
    subst hnil
    refine ⟨[' '], by decide, by decide, ?_⟩
    rw [List.nil_append, bearerLead_eq, List.append_assoc _ [' ']] at hfound ⊢
    rw [replaceFrom_append_of_some hfound (by decide) (by decide), htilde,
      List.append_assoc]
    rfl
  · refine ⟨[], by decide, by decide, ?_⟩
    rw [← List.append_assoc, if_neg (by simpa using hnil)] at hfound
    rw [← List.append_assoc, replaceFrom_append_of_some hfound
      (by rw [List.length_append, length_bearerLead]) (fun h => hnil (List.append_eq_nil_iff.mp h).2),
      ← List.nil_append ('~' :: after), htilde]
    rfl

/-- **A tilde in a bearer token shows**. -/
theorem tilde_mem_redact_bearerLine {t : String} (ht : IsToken t) (htilde : '~' ∈ t.toList) :
    '~' ∈ (redact (bearerLine t)).toList := by
  obtain ⟨before, after, hsplit, hbefore⟩ := List.eq_append_cons_of_mem htilde
  have hall : before.all isCredential = true := List.all_eq_true.mpr fun c hc =>
    ht.characters.2 c (by rw [hsplit]; exact List.mem_append_left _ hc) fun h => hbefore (h ▸ hc)
  obtain ⟨space, hequals, hquote, hcredentials⟩ := replaceFrom_credentials_tilde hall after
  have hnoEquals : '=' ∉ hiddenBearer ++ space := by
    rw [List.mem_append, not_or]
    exact ⟨by decide, hequals⟩
  have hnoQuote : '"' ∉ hiddenBearer ++ space := by
    rw [List.mem_append, not_or]
    exact ⟨by decide, hquote⟩
  rw [toList_redact, toList_bearerLine, hsplit, scrub, hcredentials,
    replaceFrom_assignment_append (by decide) (by decide) hnoEquals, replaceFrom_member_append hnoQuote,
    replaceFrom_cons_of_none (member_cons_of_ne (by decide) _)]
  exact List.mem_append_right _ List.mem_cons_self

/-! ## Passwords -/

/-- The object with a password, from what its encoding has between the quotation marks. -/
def passwordLine (body : String) : String := "\x7b\"password\": " ++ ("\"" ++ body ++ "\"") ++ "\x7d"

/-- The object up to the password. -/
def passwordLead : List Char := "\"password\": ".toList

/-- The end of the object. -/
def passwordEnd : List Char := ['"', '\x7d']

/-- The object is a brace, what stands in front of the password, the password and the end. -/
theorem toList_passwordLine (body : String) :
    (passwordLine body).toList = '\x7b' :: (passwordLead ++ '"' :: (body.toList ++ passwordEnd)) := by
  have hlead : "\x7b\"password\": ".toList = '\x7b' :: passwordLead := by decide
  have hquote : "\"".toList = ['"'] := by decide
  have hend : "\x7d".toList = ['\x7d'] := by decide
  simp only [passwordLine, String.toList_append, hlead, hquote, hend, passwordEnd, List.append_assoc,
    List.cons_append, List.nil_append]

/-- The object of a written string has the escaped characters between the quotation marks. -/
theorem passwordLine_quote (s : String) :
    "\x7b\"password\": " ++ Json.quote s ++ "\x7d"
      = passwordLine (String.ofList (s.toList.flatMap Json.escapeChar)) := by
  rw [passwordLine, Json.quote]

/-- A password **is covered**: with headers and assignments in it replaced, no quotation mark stands in it
and the object still ends behind it. -/
def IsCovered (body : String) : Prop :=
  ∃ shown, '"' ∉ shown ∧ scrub (body.toList ++ passwordEnd) = shown ++ passwordEnd

/-- A text **is closed**: it leaves no quoted secret open, which a quotation mark behind it would end. -/
def IsClosed (p : String) : Prop := redact (p ++ "\"") = redact p ++ "\""

/-- The empty text leaves no secret open. -/
theorem isClosed_empty : IsClosed "" := by
  rw [IsClosed, ← String.toList_inj, String.toList_append, toList_redact, toList_redact]
  decide

/-- The object is scrubbed in the password. -/
theorem scrub_passwordLine (body : String) :
    scrub (passwordLine body).toList
      = '\x7b' :: (passwordLead ++ '"' :: scrub (body.toList ++ passwordEnd)) := by
  have hquote : Breaks credentials '"' := breaks_credentials (by decide) (by decide)
  have hlead : replaceFrom credentials 0 ('\x7b' :: passwordLead) = '\x7b' :: passwordLead := by
    decide
  rw [toList_passwordLine, ← List.cons_append, scrub,
    replaceFrom_append_break isBounded_credentials hquote, hlead,
    replaceFrom_assignment_append (by decide) (by decide) (by decide)]
  rfl

/-- What stands in front of the password makes it a quoted secret. -/
theorem isLead_passwordLead : IsLead passwordLead :=
  ⟨"password".toList, [], [' '], by decide, by decide, by decide, by decide⟩

/-- A covered password is replaced. -/
theorem replaceFrom_passwordLead (hvalue : '"' ∉ value) (rest : List Char) :
    replaceFrom member 0 (passwordLead ++ '"' :: (value ++ passwordEnd ++ rest))
      = passwordLead ++ placeholder ++ '\x7d' :: replaceFrom member 0 rest := by
  have hbrace : member ('\x7d' :: rest) = none := member_cons_of_ne (by decide) rest
  rw [List.append_assoc, passwordEnd, List.cons_append, List.singleton_append,
    replaceFrom_member_lead isLead_passwordLead hvalue, replaceFrom_cons_of_none hbrace]

/-- The redacted object of a covered password. -/
def hiddenPassword : List Char := '\x7b' :: (passwordLead ++ placeholder ++ ['\x7d'])

/-- **A password is covered** iff nothing of it shows in its redacted object. -/
theorem isCovered_iff (body : String) :
    IsCovered body ↔ (redact (passwordLine body)).toList = hiddenPassword := by
  have hbrace : ∀ rest, member ('\x7b' :: rest) = none := member_cons_of_ne (by decide)
  rw [toList_redact, scrub_passwordLine, replaceFrom_cons_of_none (hbrace _), hiddenPassword]
  constructor
  · rintro ⟨shown, hshown, hscrub⟩
    rw [hscrub, ← List.append_nil (shown ++ _), replaceFrom_passwordLead hshown]
    rfl
  · intro h
    have h := (List.cons.inj h).2
    by_cases hquote : '"' ∈ scrub (body.toList ++ passwordEnd)
    · -- the secret ends at the first quotation mark, and what follows is replaced to a brace
      obtain ⟨shown, after, hsplit, hshown⟩ := List.eq_append_cons_of_mem hquote
      rw [hsplit, replaceFrom_member_lead isLead_passwordLead hshown, List.append_cancel_left_eq] at h
      exact ⟨shown, hshown, by rw [hsplit, eq_singleton_of_replaceFrom h]; rfl⟩
    · -- with three quotation marks nothing is replaced, and the third one stays
      have hcount : (passwordLead ++ '"' :: scrub (body.toList ++ passwordEnd)).count '"' < 4 := by
        rw [List.count_append, List.count_cons_self, List.count_eq_zero.mpr hquote]
        decide
      rw [replaceFrom_member_of_count hcount, List.append_assoc, List.append_cancel_left_eq] at h
      exact absurd (List.cons.inj h).1 (by decide)

/-- **A password without an equals sign is covered** iff it has no quotation mark. -/
theorem isCovered_iff_of_not_mem {body : String} (h : '=' ∉ body.toList) :
    IsCovered body ↔ '"' ∉ body.toList := by
  have hbreak : Breaks credentials '"' := breaks_credentials (by decide) (by decide)
  have hequals : '=' ∉ replaceFrom credentials 0 body.toList :=
    not_mem_replaceFrom kept_credentials_subset (by decide) h 0
  have hscrub : scrub (body.toList ++ passwordEnd)
      = replaceFrom credentials 0 body.toList ++ passwordEnd := by
    rw [scrub, passwordEnd, replaceFrom_append_break isBounded_credentials hbreak,
      replaceFrom_assignment_append (by decide) (by decide) hequals]
    rfl
  have hquote : '"' ∈ replaceFrom credentials 0 body.toList ↔ '"' ∈ body.toList := by
    constructor
    · intro hmem
      by_contra hnot
      exact not_mem_replaceFrom kept_credentials_subset (by decide) hnot 0 hmem
    · intro hmem
      obtain ⟨before, after, hsplit⟩ := List.append_of_mem hmem
      rw [hsplit, replaceFrom_append_break isBounded_credentials hbreak]
      exact List.mem_append_right _ List.mem_cons_self
  rw [IsCovered, hscrub, ← hquote]
  constructor
  · rintro ⟨shown, hshown, heq⟩
    rwa [List.append_cancel_right heq]
  · intro hnot
    exact ⟨_, hnot, rfl⟩

/-- A closed text is replaced in by itself, an open one goes on to the first quotation mark behind it. -/
theorem replaceFrom_of_isClosed {p : String} (hp : EndsLine p) :
    IsClosed p ∧ (∀ rest, replaceFrom member 0 (scrub p.toList ++ '\x7b' :: rest)
        = replaceFrom member 0 (scrub p.toList) ++ '\x7b' :: replaceFrom member 0 rest)
      ∨ ¬IsClosed p ∧ ∀ rest, replaceFrom member 0 (scrub p.toList ++ '\x7b' :: '"' :: rest)
        = replaceFrom member 0 (scrub p.toList ++ ['"']) ++ replaceFrom member 0 rest := by
  have hclosed : IsClosed p ↔ replaceFrom member 0 (scrub p.toList ++ ['"'])
      = replaceFrom member 0 (scrub p.toList) ++ ['"'] := by
    have hquote : "\"".toList = ['"'] := by decide
    have hscrub : scrub ['"'] = ['"'] := by decide
    rw [IsClosed, ← String.toList_inj, toList_redact, String.toList_append, String.toList_append,
      toList_redact, hquote, scrub_append_of_endsLine hp, hscrub]
  rw [hclosed]
  exact replaceFrom_member_brace (Nat.zero_le _)

/-- Where the first quotation mark of the object ends an earlier secret, the rest of it stays: no quoted
secret starts in it any more. -/
theorem passwordLead_opened :
    ∃ opened, passwordLead = '"' :: opened ∧ ∀ {shown rest : List Char}, '"' ∉ shown →
      replaceFrom member 0 (opened ++ '"' :: (shown ++ passwordEnd ++ rest))
        = opened ++ '"' :: (shown ++ passwordEnd ++ replaceFrom member 0 rest) := by
  refine ⟨"password".toList ++ '"' :: ": ".toList, by decide, fun {shown rest} hshown => ?_⟩
  have hcolon : member ('"' :: (": ".toList ++ '"' :: (shown ++ passwordEnd ++ rest))) = none :=
    member_quoted_eq_none (by decide) (.inl (by decide))
  have hvalue : member ('"' :: (shown ++ '"' :: '\x7d' :: rest)) = none :=
    member_quoted_eq_none hshown (.inr (by
      rw [Text.dropBlanks, List.dropWhile_cons_of_neg (by decide), List.head?_cons]
      decide))
  have hend : member ('"' :: '\x7d' :: rest) = none := rfl
  have hbrace : member ('\x7d' :: rest) = none := member_cons_of_ne (by decide) rest
  have htail : replaceFrom member 0 ('"' :: (shown ++ passwordEnd ++ rest))
      = '"' :: (shown ++ passwordEnd ++ replaceFrom member 0 rest) := by
    simp only [passwordEnd, List.append_assoc, List.cons_append, List.nil_append]
    rw [replaceFrom_cons_of_none hvalue, replaceFrom_member_append hshown, replaceFrom_cons_of_none hend,
      replaceFrom_cons_of_none hbrace]
  rw [List.append_assoc, replaceFrom_member_append (by decide), List.cons_append,
    replaceFrom_cons_of_none hcolon, replaceFrom_member_append (by decide), htail]
  simp only [List.append_assoc, List.cons_append]

/-- **Behind a closed text a covered password is hidden.** -/
theorem redact_passwordLine_of_isClosed {p q body : String} (hp : EndsLine p) (hq : StartsLine q)
    (hclosed : IsClosed p) (hbody : IsCovered body) :
    (redact (p ++ passwordLine body ++ q)).toList
      = replaceFrom member 0 (scrub p.toList) ++ hiddenPassword
        ++ replaceFrom member 0 (scrub q.toList) := by
  obtain ⟨shown, hshown, hscrub⟩ := hbody
  rcases replaceFrom_of_isClosed hp with ⟨-, hrest⟩ | ⟨hopen, -⟩
  · rw [toList_redact_line hp hq, scrub_passwordLine, hscrub, List.cons_append, hrest, List.append_assoc,
      List.cons_append, replaceFrom_passwordLead hshown]
    simp only [hiddenPassword, List.append_assoc, List.cons_append, List.nil_append]
  · exact absurd hclosed hopen

/-- **Behind an open text a covered password shows**, but for the headers and assignments in it. -/
theorem redact_passwordLine_of_not_isClosed {p q : String} (hp : EndsLine p) (hq : StartsLine q)
    (hopen : ¬IsClosed p) :
    ∃ before after, ∀ body, IsCovered body → (redact (p ++ passwordLine body ++ q)).toList
      = before ++ scrub (body.toList ++ passwordEnd) ++ after := by
  rcases replaceFrom_of_isClosed hp with ⟨hclosed, -⟩ | ⟨-, hrest⟩
  · exact absurd hclosed hopen
  · -- the first quotation mark of the object ends the open secret, and no other one starts in the rest
    obtain ⟨opened, hlead, hstay⟩ := passwordLead_opened
    refine ⟨replaceFrom member 0 (scrub p.toList ++ ['"']) ++ (opened ++ ['"']),
      replaceFrom member 0 (scrub q.toList), fun body hbody => ?_⟩
    obtain ⟨shown, hshown, hscrub⟩ := hbody
    rw [toList_redact_line hp hq, scrub_passwordLine, hscrub, hlead, List.cons_append, List.cons_append,
      List.cons_append, hrest, List.append_assoc, List.cons_append, hstay hshown]
    simp only [List.append_assoc, List.cons_append, List.nil_append]

/-- **Secrets in a line**: what a text is redacted to is the same for a bearer token as for one without a
tilde, in the same line of every text, iff it has no tilde either. It is the same for the encoding of a
password (`passwordLine_quote`) as for that of one that is covered, in the same line of every text that
leaves no quoted secret open in front of it, iff it is covered as well; behind an open one, what stays of
the two has to be the same. -/
theorem redact_secretLine_iff {t₁ t₂ e₁ e₂ : String} (ht₁ : IsToken t₁) (ht₂ : IsToken t₂)
    (htilde : '~' ∉ t₂.toList) (he₂ : IsCovered e₂) :
    ((∀ p q, EndsLine p → StartsLine q →
        redact (p ++ bearerLine t₁ ++ q) = redact (p ++ bearerLine t₂ ++ q))
      ↔ '~' ∉ t₁.toList) ∧
    ((∀ p q, EndsLine p → StartsLine q → IsClosed p →
        redact (p ++ passwordLine e₁ ++ q) = redact (p ++ passwordLine e₂ ++ q))
      ↔ IsCovered e₁) ∧
    (IsCovered e₁ → ∀ p q, EndsLine p → StartsLine q →
      (redact (p ++ passwordLine e₁ ++ q) = redact (p ++ passwordLine e₂ ++ q)
        ↔ IsClosed p ∨ scrub (e₁.toList ++ passwordEnd) = scrub (e₂.toList ++ passwordEnd))) := by
  have haround : ∀ line : String, "" ++ line ++ "" = line := fun line => by
    rw [String.empty_append, String.append_empty]
  refine ⟨⟨fun h htilde₁ => ?_, fun htilde₁ p q hp hq => ?_⟩,
    ⟨fun h => ?_, fun he₁ p q hp hq hclosed => ?_⟩, fun he₁ p q hp hq => ?_⟩
  · -- in a line of its own, the tilde shows
    have hline := h "" "" endsLine_empty startsLine_empty
    rw [haround, haround] at hline
    have hmem := tilde_mem_redact_bearerLine ht₁ htilde₁
    rw [hline, toList_redact, scrub_bearerLine ht₂ htilde] at hmem
    exact absurd hmem (by decide)
  · refine String.toList_injective ?_
    rw [toList_redact_line hp hq, toList_redact_line hp hq, scrub_bearerLine ht₁ htilde₁,
      scrub_bearerLine ht₂ htilde]
  · have hline := h "" "" endsLine_empty startsLine_empty isClosed_empty
    rw [haround, haround] at hline
    rw [isCovered_iff, hline]
    exact (isCovered_iff e₂).mp he₂
  · refine String.toList_injective ?_
    rw [redact_passwordLine_of_isClosed hp hq hclosed he₁,
      redact_passwordLine_of_isClosed hp hq hclosed he₂]
  · by_cases hclosed : IsClosed p
    · refine iff_of_true (String.toList_injective ?_) (.inl hclosed)
      rw [redact_passwordLine_of_isClosed hp hq hclosed he₁,
        redact_passwordLine_of_isClosed hp hq hclosed he₂]
    · obtain ⟨before, after, hshown⟩ := redact_passwordLine_of_not_isClosed hp hq hclosed
      rw [or_iff_right hclosed, ← String.toList_inj, hshown e₁ he₁, hshown e₂ he₂,
        List.append_cancel_right_eq, List.append_cancel_left_eq]

/-- Two tokens, and two passwords, behind a line that leaves no secret open and behind one that does. -/
theorem redact_secretLine_requests :
    redact ("GET /v1/cdns\n" ++ bearerLine "abc.def" ++ "\nAccept: */*")
        = redact ("GET /v1/cdns\n" ++ bearerLine "x-1==" ++ "\nAccept: */*") ∧
      redact ("POST /v1/login\n" ++ passwordLine "hunter2" ++ "")
        = redact ("POST /v1/login\n" ++ passwordLine "s3cret" ++ "") ∧
      redact ("\"token\": \"abc\n" ++ passwordLine "hunter2" ++ "")
        ≠ redact ("\"token\": \"abc\n" ++ passwordLine "s3cret" ++ "") := by
  have hends : ∀ p : String, p.toList.getLast? = some '\n' → EndsLine p := by
    intro p hp c hc
    rw [hp] at hc
    cases hc
    rfl
  have hstarts : StartsLine "\nAccept: */*" := by
    have hhead : "\nAccept: */*".toList.head? = some '\n' := by decide
    intro c hc
    rw [hhead] at hc
    cases hc
    rfl
  have hcovered : ∀ e ∈ ["hunter2", "s3cret"], IsCovered e := by
    intro e he
    have hmarks : ∀ e ∈ ["hunter2", "s3cret"], '=' ∉ e.toList ∧ '"' ∉ e.toList := by decide
    exact (isCovered_iff_of_not_mem (hmarks e he).1).mpr (hmarks e he).2
  have hclosed : IsClosed "POST /v1/login\n" := by
    rw [IsClosed]
    decide
  have hopen : ¬IsClosed "\"token\": \"abc\n" := by
    rw [IsClosed]
    decide
  have htoken₁ : IsToken "abc.def" := ⟨"abc.def".toList, 0, by decide, by decide, by decide⟩
  have htoken₂ : IsToken "x-1==" := ⟨"x-1".toList, 2, by decide, by decide, by decide⟩
  obtain ⟨htokens, hpasswords, hopened⟩ := redact_secretLine_iff htoken₁ htoken₂ (by decide)
    (hcovered "s3cret" (by decide))
  refine ⟨htokens.mpr (by decide) _ _ (hends _ (by decide)) hstarts,
    hpasswords.mpr (hcovered "hunter2" (by decide)) _ _ (hends _ (by decide)) startsLine_empty hclosed, ?_⟩
  rw [Ne, hopened (hcovered "hunter2" (by decide)) _ _ (hends _ (by decide)) startsLine_empty, not_or]
  exact ⟨hopen, by decide⟩

/-- Texts that show part of a secret: of a bearer token behind a tilde, of a password behind an escaped
quotation mark, and all of a password behind a line that leaves a secret open. An assignment in a password
takes the end of the object along. -/
theorem redact_shows_secret :
    redact (bearerLine "abc~def") = "Authorization: <redacted>~def" ∧
      redact (bearerLine "abc.def") = "Authorization: <redacted>" ∧
      redact ("\x7b\"password\": " ++ Json.quote "a\"b" ++ "\x7d")
        = "\x7b\"password\": <redacted>b\"\x7d" ∧
      redact ("\x7b\"password\": " ++ Json.quote "a" ++ "\x7d") = "\x7b\"password\": <redacted>\x7d" ∧
      redact ("\x7b\"password\": " ++ Json.quote "key=a" ++ "\x7d")
        = "\x7b\"password\": \"key<redacted>" ∧
      redact ("\"token\": \"abc\n" ++ passwordLine "hunter2")
        = "\"token\": <redacted>password\": \"hunter2\"\x7d" := by
  decide

end QueryableApi.Redaction
