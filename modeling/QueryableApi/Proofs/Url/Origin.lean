import Mathlib.Data.List.TakeWhile
import QueryableApi.Url

/-! # Addresses below an origin

The origin of an address is its scheme, `http` or `https`, and its authority. A path behind an origin,
free of what would end it or be left out of a URL, decides the path of the address and nothing else
(`Url.parse_origin_append`): the rest is what the origin says alone. -/

namespace QueryableApi.Url

variable {scheme : String} {authority path text : List Char} {c : Char}

/-- Whether a character stands for itself in front of a query: it is no blank, no control and no
backslash, and does not start a query or a fragment. -/
def isOrdinary (c : Char) : Bool := !isMargin c && !startsTail c && c != '\\'

/-- An **origin**: the scheme `http` or `https` and an authority. -/
structure IsOrigin (scheme : String) (authority : List Char) : Prop where
  /-- The scheme is one of the web. -/
  web : scheme = "http" ∨ scheme = "https"
  /-- There is an authority. -/
  nonempty : authority ≠ []
  /-- The characters of the authority stand for themselves. -/
  ordinary : ∀ c ∈ authority, isOrdinary c = true
  /-- None of them ends it. -/
  noSlash : '/' ∉ authority

/-- The address of an origin. -/
def originText (scheme : String) (authority : List Char) : String :=
  String.ofList (scheme.toList ++ ':' :: '/' :: '/' :: authority)

/-- A **rooted path**: it starts with a slash, and all its characters stand for themselves. -/
structure IsRooted (path : List Char) : Prop where
  /-- It starts with a slash. -/
  slash : path.head? = some '/'
  /-- Its characters stand for themselves. -/
  ordinary : ∀ c ∈ path, isOrdinary c = true

/-! ## Ordinary characters -/

/-- What an ordinary character is not. -/
theorem isOrdinary_iff :
    isOrdinary c = true ↔ isMargin c = false ∧ startsTail c = false ∧ c ≠ '\\' := by
  simp [isOrdinary, and_assoc]

/-- All characters of a text count if none of them is a blank or a control. -/
theorem relevant_eq_self (h : ∀ c ∈ text, isMargin c = false) : relevant text = text := by
  have hkeep : ∀ cs : List Char, (∀ c ∈ cs, isMargin c = false) → cs.dropWhile isMargin = cs := by
    rintro (_ | ⟨c, rest⟩) hcs
    · rfl
    · exact List.dropWhile_cons_of_neg (by rw [hcs c List.mem_cons_self]; exact Bool.false_ne_true)
  rw [relevant, hkeep text h, hkeep text.reverse fun c hc => h c (List.mem_reverse.mp hc),
    List.reverse_reverse]
  refine List.filter_eq_self.mpr fun c hc => ?_
  -- tabs and line breaks are controls
  have hmargin := h c hc
  have hne : ∀ d, isMargin d = true → c ≠ d := by
    rintro d hd rfl
    rw [hd] at hmargin
    cases hmargin
  simp [hne '\t' rfl, hne '\n' rfl, hne '\r' rfl]

/-! ## Ports -/

/-- The port stands in the authority. -/
theorem mem_of_mem_splitPort {inBrackets : Bool} {port : List Char}
    (hport : (splitPort inBrackets text).2 = some port) (hc : c ∈ port) : c ∈ text := by
  induction text generalizing inBrackets with
  | nil => cases hport
  | cons first rest ih =>
      rw [splitPort] at hport
      split at hport
      · obtain rfl := Option.some.inj hport
        exact List.mem_cons_of_mem _ hc
      · exact List.mem_cons_of_mem _ (ih hport)

/-- So does what stands behind the user. -/
theorem mem_of_mem_afterUser (hc : c ∈ afterUser authority) : c ∈ authority := by
  rw [afterUser, List.mem_reverse] at hc
  exact List.mem_reverse.mp (List.takeWhile_subset _ hc)

/-- What stands behind the digits of a port. -/
theorem drop_length_digits (text : List Char) :
    text.drop (text.takeWhile Char.isDigit).length = afterPort text :=
  calc text.drop (text.takeWhile Char.isDigit).length
      = (text.takeWhile Char.isDigit ++ text.dropWhile Char.isDigit).drop
          (text.takeWhile Char.isDigit).length := by rw [List.takeWhile_append_dropWhile]
    _ = afterPort text := List.drop_left

/-- Nothing follows a port that can be read, unless there is a backslash. -/
theorem afterPort_eq_nil {port : Option Nat} (h : portOf scheme text = .ok port)
    (hslash : '\\' ∉ text) : afterPort text = [] := by
  rw [portOf, drop_length_digits] at h
  cases hafter : afterPort text with
  | nil => rfl
  | cons first rest =>
      have hmem : first ∈ text := (List.dropWhile_sublist _).subset (by
        rw [afterPort] at hafter
        rw [hafter]
        exact List.mem_cons_self)
      have hfirst : (first == '\\') = false := beq_eq_false_iff_ne.mpr fun heq => hslash (heq ▸ hmem)
      simp [hafter, hfirst] at h

/-! ## Authorities -/

/-- A path behind an authority starts where the authority ends. -/
theorem takeWhile_authority (horigin : IsOrigin scheme authority)
    (hpath : path.head? = none ∨ path.head? = some '/') :
    (authority ++ path).takeWhile (fun c => !(isSlash true c || startsTail c)) = authority := by
  have hauthority : ∀ c ∈ authority, (!(isSlash true c || startsTail c)) = true := by
    intro c hc
    obtain ⟨-, htail, hback⟩ := isOrdinary_iff.mp (horigin.ordinary c hc)
    have hslash : c ≠ '/' := fun heq => horigin.noSlash (heq ▸ hc)
    simp [isSlash, htail, hslash, hback]
  rw [List.takeWhile_append_of_pos hauthority]
  rcases path with _ | ⟨c, rest⟩
  · simp
  · obtain rfl : c = '/' := by simpa using hpath
    simp [isSlash]

/-- **The path of an address** is all that a path behind an authority decides. -/
theorem ofAuthority_append (horigin : IsOrigin scheme authority) (hpath : IsRooted path) :
    ofAuthority scheme .network (authority ++ path)
      = (ofAuthority scheme .network authority).map fun u =>
          { u with path := pathAfterHost true path } := by
  have htake := takeWhile_authority horigin (.inr hpath.slash)
  have hwhole : authority.takeWhile (fun c => !(isSlash true c || startsTail c)) = authority := by
    simpa using takeWhile_authority horigin (.inl (List.head?_nil (α := Char)))
  have hspecial : Rules.isSpecial .network = true := rfl
  have hplain : path.takeWhile (fun c => !startsTail c) = path :=
    List.takeWhile_eq_self_iff.mpr fun c hc => by
      rw [(isOrdinary_iff.mp (hpath.ordinary c hc)).2.1]
      rfl
  have hnone : path.dropWhile (fun c => !startsTail c) = [] :=
    List.dropWhile_eq_nil_iff.mpr fun c hc => by
      rw [(isOrdinary_iff.mp (hpath.ordinary c hc)).2.1]
      rfl
  simp only [ofAuthority, hspecial, htake, hwhole, List.drop_left, List.drop_length]
  cases hparts : splitPort false (afterUser authority) with
  | mk hostText portText =>
    simp only [Bool.true_or, Bool.and_true]
    split
    · rfl
    cases hostOf hostText with
    | error fault => rfl
    | ok host =>
      cases portText with
      | none =>
        simp only [Option.elim_none, hplain, hnone]
        rfl
      | some port =>
        cases hport : portOf scheme port with
        | error fault =>
          simp only [Option.elim_some, hport]
          rfl
        | ok number =>
          -- a backslash would stand in the authority, and there is none
          have hslash : '\\' ∉ port := by
            intro hmem
            have hauthority := mem_of_mem_afterUser (mem_of_mem_splitPort (by rw [hparts]) hmem)
            exact (isOrdinary_iff.mp (horigin.ordinary _ hauthority)).2.2 rfl
          simp only [Option.elim_some, hport, afterPort_eq_nil hport hslash, List.nil_append, hplain,
            hnone]
          rfl

/-! ## Addresses -/

/-- What a scheme of the web is: it is read as such, has hosts, and none of its characters is left
out. -/
theorem IsOrigin.scheme_spec (horigin : IsOrigin scheme authority) :
    (∀ rest, scheme? (scheme.toList ++ ':' :: rest) = some (scheme, rest)) ∧
      Rules.ofScheme scheme = .network ∧ ∀ c ∈ scheme.toList, isMargin c = false := by
  have hlower : ∀ name : String, name.toList.map Char.toLower = name.toList → name.toLower = name := by
    intro name hname
    rw [← String.toList_inj]
    exact String.toList_map.trans hname
  have hcounts : ∀ name : String, (name.toList.all fun c => !isMargin c) = true →
      ∀ c ∈ name.toList, isMargin c = false := by
    intro name hname c hc
    simpa using List.all_eq_true.mp hname c hc
  rcases horigin.web with rfl | rfl
  · exact ⟨fun _ => by simp [scheme?, hlower "http" (by decide)], by decide,
      hcounts "http" (by decide)⟩
  · exact ⟨fun _ => by simp [scheme?, hlower "https" (by decide)], by decide,
      hcounts "https" (by decide)⟩

/-- An address with a path behind the authority is read by what stands behind the scheme. -/
theorem parse_originText_append (horigin : IsOrigin scheme authority)
    (hpath : ∀ c ∈ path, isMargin c = false) :
    parse (originText scheme (authority ++ path)) = ofAuthority scheme .network (authority ++ path) := by
  obtain ⟨hscheme, hrules, hmargin⟩ := horigin.scheme_spec
  have hauthority : ∀ c ∈ authority, isMargin c = false :=
    fun c hc => (isOrdinary_iff.mp (horigin.ordinary c hc)).1
  have hcounts : ∀ c ∈ scheme.toList ++ ':' :: '/' :: '/' :: (authority ++ path),
      isMargin c = false := by
    intro c hc
    simp only [List.mem_append, List.mem_cons] at hc
    rcases hc with hc | rfl | rfl | rfl | hc | hc
    exacts [hmargin c hc, rfl, rfl, rfl, hauthority c hc, hpath c hc]
  -- the slashes behind the scheme are passed over, and the authority starts with none
  have hslashes : ('/' :: '/' :: (authority ++ path)).dropWhile (isSlash true)
      = authority ++ path := by
    rw [List.dropWhile_cons_of_pos rfl, List.dropWhile_cons_of_pos rfl]
    obtain ⟨first, rest, hfirst⟩ := List.exists_cons_of_ne_nil horigin.nonempty
    have hmem : first ∈ authority := by rw [hfirst]; exact List.mem_cons_self
    have hne : first ≠ '/' := fun heq => horigin.noSlash (heq ▸ hmem)
    have hback := (isOrdinary_iff.mp (horigin.ordinary first hmem)).2.2
    rw [hfirst, List.cons_append]
    refine List.dropWhile_cons_of_neg ?_
    simp [isSlash, hne, hback]
  rw [parse, originText, String.toList_ofList, relevant_eq_self hcounts, hscheme]
  dsimp only
  rw [hrules]
  dsimp only
  rw [hslashes]

/-- The address of an origin is read by its authority. -/
theorem parse_originText (horigin : IsOrigin scheme authority) :
    parse (originText scheme authority) = ofAuthority scheme .network authority := by
  have hnone : ∀ c ∈ ([] : List Char), isMargin c = false := by simp
  simpa using parse_originText_append horigin hnone

/-- **A path behind an origin** decides the path of the address and nothing else. -/
theorem parse_origin_append (horigin : IsOrigin scheme authority) (hpath : IsRooted path) :
    parse (originText scheme authority ++ String.ofList path)
      = (parse (originText scheme authority)).map fun u =>
          { u with path := pathAfterHost true path } := by
  have hmargin : ∀ c ∈ path, isMargin c = false :=
    fun c hc => (isOrdinary_iff.mp (hpath.ordinary c hc)).1
  have happend : originText scheme authority ++ String.ofList path
      = originText scheme (authority ++ path) := by
    rw [← String.toList_inj]
    simp [originText]
  rw [happend, parse_originText_append horigin hmargin, ofAuthority_append horigin hpath,
    parse_originText horigin]

/-- Only slashes separate the segments of a text without backslashes. -/
theorem splitOnP_isSlash (h : '\\' ∉ text) : text.splitOnP (isSlash true) = text.splitOn '/' := by
  induction text with
  | nil => simp
  | cons c rest ih =>
      rw [List.mem_cons, not_or] at h
      have hslash : isSlash true c = (c == '/') := by simp [isSlash, Ne.symm h.1]
      rw [List.splitOnP_cons_eq_if_modifyHead, List.splitOn_cons_eq_if_modifyHead, hslash, ih h.2]

/-- The path of an address is that of the segments behind its first slash. -/
theorem pathAfterHost_eq (hpath : IsRooted path) :
    pathAfterHost true path = pathText (resolve [] (path.splitOn '/').tail) := by
  rcases path with _ | ⟨c, rest⟩
  · cases hpath.slash
  · obtain rfl : c = '/' := Option.some.inj hpath.slash
    have hback : '\\' ∉ rest := fun hmem =>
      (isOrdinary_iff.mp (hpath.ordinary _ (List.mem_cons_of_mem _ hmem))).2.2 rfl
    have hslash : isSlash true '/' = true := rfl
    rw [pathAfterHost, if_pos hslash, rootedPath, splitOnP_isSlash hback,
      List.splitOn_cons_eq_if_modifyHead]
    rfl

end QueryableApi.Url
