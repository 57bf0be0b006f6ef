import QueryableApi.Program
import QueryableApi.Proofs.Checks
import QueryableApi.Proofs.Client
import QueryableApi.Proofs.Entries

/-! # Headers of a read

The headers that a command line gives are written over those of the settings by name as it is spelled,
and the result is written in order over the usual ones by name without regard to case. So of a name the
header is sent that stands last in the settings with the command line written over them
(`Headers.get?_setAll`). It is the last one that the command line gives iff no other spelling of the name
came later among the settings and the command line, with another value (`Program.clientOf_sends`). A token
is sent iff neither gives credentials. -/

namespace QueryableApi

open Settings (sameHeader authorization)

/-! ## Headers in a row -/

namespace Headers

variable {name key value : String} {h w : String × String}
  {headers before after given : List (String × String)} {base out : Headers}

/-- The last header with a name, compared without regard to case. -/
def last? (name : String) (headers : List (String × String)) : Option (String × String) :=
  headers.reverse.find? fun h => sameHeader h.1 name

/-- A header is **well-formed**: its name and its value may be sent. -/
structure IsWellFormed (h : String × String) : Prop where
  /-- The name may be sent. -/
  name : isHeaderName h.1 = true
  /-- The value may be sent. -/
  value : isHeaderValue h.2 = true

instance (h : String × String) : Decidable (IsWellFormed h) :=
  decidable_of_iff (isHeaderName h.1 = true ∧ isHeaderValue h.2 = true)
    ⟨fun ⟨hname, hvalue⟩ => ⟨hname, hvalue⟩, fun ⟨hname, hvalue⟩ => ⟨hname, hvalue⟩⟩

/-- Names are the same without regard to case iff they agree in lower case. -/
theorem sameHeader_iff {a b : String} : sameHeader a b = true ↔ a.toLower = b.toLower := beq_iff_eq

/-- Lower case is taken letter by letter. -/
theorem toList_toLower (s : String) : s.toLower.toList = s.toList.map Char.toLower := String.toList_map

/-- Names are the same without regard to case iff their letters are. -/
theorem sameHeader_iff_map {a b : String} :
    sameHeader a b = true ↔ a.toList.map Char.toLower = b.toList.map Char.toLower := by
  rw [sameHeader_iff, ← String.toList_inj, toList_toLower, toList_toLower]

/-- The last header with a name, letter by letter. -/
theorem last?_eq_find? (name : String) (headers : List (String × String)) :
    last? name headers = headers.reverse.find? fun h =>
      h.1.toList.map Char.toLower == name.toList.map Char.toLower := by
  rw [last?]
  congr 1
  funext h
  rw [Bool.eq_iff_iff, sameHeader_iff_map, beq_iff_eq]

/-- Of two rows of headers, the second has the last header with a name if it has one at all. -/
theorem last?_append (name : String) (before after : List (String × String)) :
    last? name (before ++ after) = (last? name after).or (last? name before) := by
  rw [last?, List.reverse_append, List.find?_append, last?, last?]

/-- A single header is the last one with its name. -/
theorem last?_singleton (name : String) (h : String × String) :
    last? name [h] = if sameHeader h.1 name then some h else none := by
  rw [last?, List.reverse_singleton, List.find?_singleton]

/-- A header is the last one with its name unless one follows. -/
theorem last?_cons (name : String) (h : String × String) (rest : List (String × String)) :
    last? name (h :: rest)
      = (last? name rest).or (if sameHeader h.1 name then some h else none) := by
  rw [← last?_singleton, ← last?_append]
  rfl

/-- There is no last header with a name iff there is none. -/
theorem last?_eq_none_iff :
    last? name headers = none ↔ ∀ h ∈ headers, sameHeader h.1 name = false := by
  rw [last?, List.find?_eq_none]
  simp only [List.mem_reverse, Bool.not_eq_true]

/-- The last header with a name depends on the name without regard to case. -/
theorem last?_congr {other : String} (h : name.toLower = other.toLower)
    (headers : List (String × String)) : last? name headers = last? other headers := by
  simp only [last?, sameHeader, h]

/-- The last header with a name is one of the headers. -/
theorem mem_of_last? (hlast : last? name headers = some h) : h ∈ headers :=
  List.mem_reverse.mp (List.mem_of_find?_eq_some hlast)

/-- The last header with a name has the name. -/
theorem sameHeader_of_last? (hlast : last? name headers = some h) : sameHeader h.1 name = true := by
  have hfound := List.find?_some hlast
  exact hfound

/-! ## Writing headers -/

/-- Well-formed headers can be written. -/
theorem exists_setAll (hheaders : ∀ h ∈ headers, IsWellFormed h) :
    ∃ out, base.setAll headers = .ok out := by
  induction headers generalizing base with
  | nil => exact ⟨base, rfl⟩
  | cons h rest ih =>
      obtain ⟨hname, hvalue⟩ := hheaders h List.mem_cons_self
      obtain ⟨out, hout⟩ := @ih (base.set h.1 h.2) fun w hw => hheaders w (List.mem_cons_of_mem _ hw)
      refine ⟨out, ?_⟩
      rw [setAll, hname, hvalue]
      exact hout

/-- **The last header with a name is read** after headers are written in order. -/
theorem get?_setAll (hout : base.setAll headers = .ok out) (name : String) :
    Entries.get? name.toLower out
      = ((last? name headers).map Prod.snd).or (Entries.get? name.toLower base) := by
  induction headers generalizing base with
  | nil =>
      obtain rfl := Except.ok.inj hout
      rfl
  | cons h rest ih =>
      rw [setAll] at hout
      split at hout
      · cases hout
      · split at hout
        · cases hout
        · -- the header is written before the rest, and so is read only if the rest has none
          rw [ih hout, set, Entries.get?_insert, last?_cons]
          cases last? name rest with
          | some w => rfl
          | none =>
              by_cases hsame : h.1.toLower = name.toLower
              · rw [if_pos hsame, if_pos (sameHeader_iff.mpr hsame)]
                rfl
              · rw [if_neg hsame, if_neg (sameHeader_iff.not.mpr hsame)]
                rfl

/-! ## Headers over headers -/

/-- A header with another name changes nothing for a name. -/
theorem last?_insert_of_not_same (hkey : sameHeader key name = false) (value : String)
    (headers : Entries String) : last? name (Entries.insert key value headers) = last? name headers := by
  -- a value takes the place of the old one with its spelling, or stands behind all others
  rcases Entries.insert_cases key value headers with ⟨before, old, after, rfl, hinsert⟩ | ⟨-, hinsert⟩
  · rw [hinsert, last?_append, last?_append, last?_cons, last?_cons]
    simp only [hkey, Bool.false_eq_true, if_false]
  · rw [hinsert, last?_append, last?_singleton]
    simp only [hkey, Bool.false_eq_true, if_false, Option.none_or]

/-- Headers with other names change nothing for a name. -/
theorem last?_extend_of_none (hnone : last? name given = none) (headers : Entries String) :
    last? name (Entries.extend headers given) = last? name headers := by
  induction given generalizing headers with
  | nil => rfl
  | cons h rest ih =>
      obtain ⟨hhead, hrest⟩ := List.forall_mem_cons.mp (last?_eq_none_iff.mp hnone)
      rw [Entries.extend_cons, ih (last?_eq_none_iff.mpr hrest), last?_insert_of_not_same hhead]

/-- The last header given under a name is read by its spelling once all are written. -/
theorem get?_extend_of_last? (hlast : last? name given = some h) (headers : Entries String) :
    Entries.get? h.1 (Entries.extend headers given) = some h.2 := by
  obtain ⟨hsame, after, before, hsplit, hafter⟩ := List.find?_eq_some_iff_append.mp hlast
  -- behind it the name is not given, so neither is its spelling
  have hspelling : h.1 ∉ Entries.keys after := fun hmem => by
    obtain ⟨w, hw, heq⟩ := List.mem_map.mp hmem
    have hother := hafter w hw
    rw [heq, hsame] at hother
    cases hother
  rw [Entries.get?_extend, Entries.get?_eq_some_iff.mpr ⟨after, before, hsplit, hspelling⟩]
  rfl

/-- A name that is given has a last header once all are written. -/
theorem exists_last?_extend (hgiven : last? name given = some h) (headers : Entries String) :
    ∃ w, last? name (Entries.extend headers given) = some w := by
  refine Option.ne_none_iff_exists'.mp fun hnone => ?_
  have hmem := Entries.mem_of_get? (get?_extend_of_last? hgiven headers)
  have hother := last?_eq_none_iff.mp hnone _ hmem
  rw [sameHeader_of_last? hgiven] at hother
  cases hother

/-- **Which of the headers that are left is the last one given** under a name: the last one of all iff
it is spelled like it, or has the same value anyway. -/
theorem snd_eq_iff_of_last? {headers : Entries String} (hdistinct : Entries.Distinct headers)
    (hgiven : last? name given = some h)
    (hlast : last? name (Entries.extend headers given) = some w) :
    w.2 = h.2 ↔ w.1 = h.1 ∨ w.2 = h.2 := by
  refine ⟨.inr, ?_⟩
  rintro (hspelling | hvalue)
  · -- a spelling stands there once, so the two are read alike
    have hread := Entries.get?_of_mem (Entries.distinct_extend hdistinct given) (mem_of_last? hlast)
    rw [hspelling, get?_extend_of_last? hgiven] at hread
    exact (Option.some.inj hread).symm
  · exact hvalue

/-- **The last header under a name that is given** is given too, or there were two spellings of the name
before. -/
theorem mem_of_last?_extend {headers : Entries String} (hdistinct : Entries.Distinct headers)
    (hgiven : last? name given = some h)
    (hlast : last? name (Entries.extend headers given) = some w) :
    w ∈ given ∨ w ∈ headers ∧ ∃ v ∈ headers, v.1 = h.1 ∧ v.1 ≠ w.1 := by
  have hkey : h.1 ∈ Entries.keys given := List.mem_map_of_mem (mem_of_last? hgiven)
  rcases Entries.mem_extend hdistinct (mem_of_last? hlast) with hw | ⟨hw, hfresh⟩
  · exact .inl hw
  have hold : h.1 ∈ Entries.keys headers → ∃ v ∈ headers, v.1 = h.1 ∧ v.1 ≠ w.1 := fun hmem => by
    obtain ⟨v, hv, hspelling⟩ := List.mem_map.mp hmem
    exact ⟨v, hv, hspelling, fun heq => hfresh (by rw [← heq, hspelling]; exact hkey)⟩
  refine .inr ⟨hw, hold ?_⟩
  -- a new spelling would stand behind all that were there
  by_contra hnew
  obtain ⟨front, back, hsplit, -, hback⟩ := Entries.extend_split headers given
  obtain ⟨v, hv, hspelling⟩ := List.mem_map.mp ((hback h.1).mpr ⟨hkey, hnew⟩)
  rw [hsplit, last?_append] at hlast
  cases hnone : last? name back with
  | none =>
      have hother := last?_eq_none_iff.mp hnone v hv
      rw [hspelling, sameHeader_of_last? hgiven] at hother
      cases hother
  | some u =>
      rw [hnone] at hlast
      obtain rfl : u = w := Option.some.inj hlast
      have hu := (hback u.1).mp (List.mem_map_of_mem (mem_of_last? hnone))
      exact hfresh hu.1

end Headers

/-! ## Clients -/

namespace Client

variable {address path name : String} {headers : List (String × String)} {client : Client}
  {request : GetRequest}

/-- There is a client if the address is in order and the headers are well-formed. -/
theorem exists_make (hcheck : checkAddress address = .ok ())
    (hheaders : ∀ h ∈ headers, Headers.IsWellFormed h) :
    ∃ client, make address headers = .ok client := by
  obtain ⟨out, hout⟩ := @Headers.exists_setAll headers usualHeaders hheaders
  rw [make, hcheck]
  show ∃ client, ((usualHeaders.setAll headers).mapError _ >>= _) = .ok client
  rw [hout]
  exact ⟨_, rfl⟩

/-- The headers of a client are written over the usual ones, and its address loses the slashes at its
end. -/
theorem of_make (h : make address headers = .ok client) :
    usualHeaders.setAll headers = .ok client.headers ∧
      client.baseUrl = String.ofList (address.toList.reverse.dropWhile (· == '/')).reverse := by
  rw [make] at h
  obtain ⟨-, -, h⟩ := Checks.bind_eq_ok_iff.mp h
  obtain ⟨out, hout, h⟩ := Checks.bind_eq_ok_iff.mp h
  rw [← Except.ok.inj h]
  exact ⟨Checks.mapError_eq_ok_iff.mp hout, rfl⟩

/-- A request carries the headers of its client and the name of the program. -/
theorem headers_of_get (h : client.get path = .ok request) :
    request.headers = client.headers.set "user-agent" userAgent := by
  rw [get] at h
  obtain ⟨url, -, h⟩ := Checks.bind_eq_ok_iff.mp h
  split at h
  · cases h
  · rw [← Except.ok.inj h]

/-- The name of the header that carries the name of the program is in lower case. -/
theorem toLower_userAgent : "user-agent".toLower = "user-agent" := by
  rw [← String.toList_inj, Headers.toList_toLower]
  decide

/-- A request carries the name of the program. -/
theorem get?_userAgent (h : client.get path = .ok request) :
    Entries.get? "user-agent" request.headers = some userAgent := by
  rw [headers_of_get h, Headers.set, toLower_userAgent, Entries.get?_insert_self]

/-- **What a request carries under any other name**: the last of the headers that its client was made
with, else the usual one. -/
theorem get?_headers_of_make (hmake : make address headers = .ok client)
    (hget : client.get path = .ok request) (hname : sameHeader name "user-agent" = false) :
    Entries.get? name.toLower request.headers
      = ((Headers.last? name headers).map Prod.snd).or (Entries.get? name.toLower usualHeaders) := by
  have hne : name.toLower ≠ "user-agent" := fun heq =>
    Bool.eq_false_iff.mp hname (Headers.sameHeader_iff.mpr (heq.trans toLower_userAgent.symm))
  rw [headers_of_get hget, Headers.set, toLower_userAgent, Entries.get?_insert_of_ne hne,
    Headers.get?_setAll (of_make hmake).1]

end Client

/-! ## The token -/

namespace Settings

variable {s : Settings} {e : Environment}

/-- The header that a token is sent in. -/
def tokenHeader? (e : Environment) : Option (String × String) :=
  (Environment.present e.token).map fun token => (authorization, "Bearer " ++ token)

/-- Credentials in the settings go before the token. -/
theorem headers_within_of_credentials (h : Headers.last? authorization s.headers ≠ none) :
    (s.within e).headers = s.headers := by
  obtain ⟨w, hw⟩ := Option.ne_none_iff_exists'.mp h
  have hany : (s.headers.any fun h => sameHeader h.1 authorization) = true :=
    List.any_eq_true.mpr ⟨w, Headers.mem_of_last? hw, Headers.sameHeader_of_last? hw⟩
  have hkeep : ∀ token, withToken s.headers token = s.headers := fun token => by
    rw [withToken, hany]
    rfl
  rw [within]
  dsimp only
  cases Environment.present e.token with
  | none => rfl
  | some token => exact hkeep token

/-- Without credentials in the settings, the token follows their headers. -/
theorem headers_within_of_none (h : Headers.last? authorization s.headers = none) :
    (s.within e).headers = s.headers ++ (tokenHeader? e).toList := by
  have hnone := Headers.last?_eq_none_iff.mp h
  have hany : (s.headers.any fun h => sameHeader h.1 authorization) = false :=
    List.any_eq_false.mpr fun w hw => by rw [hnone w hw]; exact Bool.false_ne_true
  -- no spelling of the name is there, so neither is the one that the token is written under
  have hnew : authorization ∉ Entries.keys s.headers := fun hmem => by
    obtain ⟨w, hw, heq⟩ := List.mem_map.mp hmem
    have hother := hnone w hw
    rw [heq, Headers.sameHeader_iff.mpr rfl] at hother
    cases hother
  rw [within, tokenHeader?]
  dsimp only
  cases Environment.present e.token with
  | none => exact (List.append_nil _).symm
  | some token =>
      show withToken s.headers token = _
      rw [withToken, hany, if_neg Bool.false_ne_true]
      rcases Entries.insert_cases authorization ("Bearer " ++ token) s.headers with
        ⟨before, old, after, hsplit, -⟩ | ⟨-, hinsert⟩
      · refine absurd ?_ hnew
        rw [hsplit]
        exact List.mem_map_of_mem (List.mem_append_right _ List.mem_cons_self)
      · exact hinsert

/-- The headers of settings in an environment are those of the settings and that of the token. -/
theorem mem_headers_within {h : String × String} (hh : h ∈ (s.within e).headers) :
    h ∈ s.headers ∨ h ∈ tokenHeader? e ∧ Headers.last? authorization s.headers = none := by
  cases hcredentials : Headers.last? authorization s.headers with
  | none =>
      rw [headers_within_of_none hcredentials, List.mem_append, Option.mem_toList] at hh
      exact hh.imp_right fun htoken => ⟨htoken, rfl⟩
  | some w =>
      rw [headers_within_of_credentials (by rw [hcredentials]; exact Option.some_ne_none w)] at hh
      exact .inl hh

/-- Two spellings of a name are both those of the settings: the token is added to neither. -/
theorem mem_of_two_spellings {v w : String × String} (hv : v ∈ (s.within e).headers)
    (hw : w ∈ (s.within e).headers) (hsame : v.1.toLower = w.1.toLower) (hne : v.1 ≠ w.1) :
    v ∈ s.headers ∧ w ∈ s.headers := by
  -- there is no header under the name of the token where the token is added
  have halone : ∀ {a b : String × String}, a ∈ s.headers → b ∈ tokenHeader? e →
      Headers.last? authorization s.headers = none → a.1.toLower ≠ b.1.toLower := by
    intro a b ha hb hnone heq
    obtain ⟨token, -, rfl⟩ := Option.map_eq_some_iff.mp hb
    have hother := Headers.last?_eq_none_iff.mp hnone a ha
    rw [Headers.sameHeader_iff.mpr heq] at hother
    cases hother
  rcases mem_headers_within hv with hv | ⟨hv, hnone⟩
  · rcases mem_headers_within hw with hw | ⟨hw, hnone⟩
    · exact ⟨hv, hw⟩
    · exact absurd hsame (halone hv hw hnone)
  · rcases mem_headers_within hw with hw | ⟨hw, -⟩
    · exact absurd hsame.symm (halone hw hv hnone)
    · -- there is one token, in one spelling
      obtain ⟨_, -, rfl⟩ := Option.map_eq_some_iff.mp hv
      obtain ⟨_, -, rfl⟩ := Option.map_eq_some_iff.mp hw
      exact absurd rfl hne

/-- The headers of settings keep distinct names in any environment. -/
theorem distinct_headers_within (h : Entries.Distinct s.headers) :
    Entries.Distinct (s.within e).headers := by
  rw [within]
  dsimp only
  cases Environment.present e.token with
  | none => exact h
  | some token =>
      show Entries.Distinct (withToken s.headers token)
      rw [withToken]
      split
      · exact h
      · exact Entries.distinct_insert h _ _

/-- The headers of settings that were loaded have distinct names. -/
theorem distinct_headers_load (file : Except FileFault String) :
    Entries.Distinct (load file).headers := by
  have hraw : ∀ {raw : Json.Raw} {s : Settings}, ofRaw? raw = some s → Entries.Distinct s.headers := by
    intro raw s h
    obtain ⟨record, -, h⟩ := Option.bind_eq_some_iff.mp h
    obtain ⟨document, -, h⟩ := Option.bind_eq_some_iff.mp h
    obtain ⟨baseUrl, -, h⟩ := Option.bind_eq_some_iff.mp h
    obtain ⟨headers, hheaders, h⟩ := Option.bind_eq_some_iff.mp h
    obtain ⟨timeout, -, h⟩ := Option.bind_eq_some_iff.mp h
    obtain ⟨telemetry, -, h⟩ := Option.bind_eq_some_iff.mp h
    obtain rfl := Option.some.inj h
    show Entries.Distinct headers
    rw [Json.Record.withDefault] at hheaders
    split at hheaders
    · obtain rfl := Option.some.inj hheaders
      exact List.nodup_nil
    · rw [texts?.eq_def] at hheaders
      split at hheaders
      · obtain ⟨entries, -, rfl⟩ := Option.map_eq_some_iff.mp hheaders
        exact Entries.distinct_ofList entries
      · cases hheaders
  rw [load]
  cases hloaded : file.toOption.bind ofText? with
  | none => exact List.nodup_nil
  | some s =>
      obtain ⟨text, -, htext⟩ := Option.bind_eq_some_iff.mp hloaded
      obtain ⟨raw, -, h⟩ := Option.bind_eq_some_iff.mp htext
      exact hraw h

/-- **The configured header with a name**, else that of the token. -/
theorem last?_headers_within (s : Settings) (e : Environment) (name : String) :
    Headers.last? name (s.within e).headers
      = (Headers.last? name s.headers).or (Headers.last? name (tokenHeader? e).toList) := by
  cases hname : sameHeader authorization name with
  | false =>
      -- the token is sent under another name
      have htoken : Headers.last? name (tokenHeader? e).toList = none := by
        refine Headers.last?_eq_none_iff.mpr fun h hh => ?_
        obtain ⟨token, -, rfl⟩ := Option.map_eq_some_iff.mp (Option.mem_toList.mp hh)
        exact hname
      rw [htoken, Option.or_none]
      cases hcredentials : Headers.last? authorization s.headers with
      | none => rw [headers_within_of_none hcredentials, Headers.last?_append, htoken, Option.none_or]
      | some h =>
          rw [headers_within_of_credentials (by rw [hcredentials]; exact Option.some_ne_none h)]
  | true =>
      have hcongr := Headers.last?_congr (Headers.sameHeader_iff.mp hname)
      rw [← hcongr, ← hcongr, ← hcongr]
      cases hcredentials : Headers.last? authorization s.headers with
      | none =>
          rw [headers_within_of_none hcredentials, Headers.last?_append, hcredentials, Option.or_none,
            Option.none_or]
      | some h =>
          rw [headers_within_of_credentials (by rw [hcredentials]; exact Option.some_ne_none h),
            hcredentials, Option.some_or]

end Settings

/-! ## Reads -/

namespace Program

variable {s : Settings} {e : Environment} {catalog : OpenApi.Catalog} {r : ReadRequest}
  {name address : String}

/-- **What a read sends under a name**, given the settings, the environment and the headers of the command
line. -/
structure Sends (s : Settings) (e : Environment) (r : ReadRequest) (name : String)
    (value : Option String) : Prop where
  /-- The last header that the command line gives is sent iff the spelling that was written last is its
  own, or has its value. -/
  given : ∀ h, Headers.last? name r.headers = some h →
    (value = some h.2 ↔
      ∀ w, Headers.last? name (requestHeaders (s.within e) r) = some w → w.1 = h.1 ∨ w.2 = h.2)
  /-- So it is sent if the settings spell the name in one way, and the command line in one way. -/
  spelled : ∀ h, Headers.last? name r.headers = some h →
    (∀ v ∈ s.headers, ∀ w ∈ s.headers, sameHeader v.1 name = true → sameHeader w.1 name = true →
      v.1 = w.1) →
    (∀ w ∈ r.headers, sameHeader w.1 name = true → w.1 = h.1) → value = some h.2
  /-- Where the command line gives none, it is the configured one, or the token where there are no
  credentials, or what is usual. -/
  kept : Headers.last? name r.headers = none →
    value = (((Headers.last? name s.headers).or
      (Headers.last? name (Settings.tokenHeader? e).toList)).map Prod.snd).or
        (Entries.get? name.toLower Client.usualHeaders)
  /-- Where there is a configured or a given one, it is one of these, and not the token. -/
  chosen : Headers.last? name (s.headers ++ r.headers) ≠ none →
    ∃ h ∈ s.headers ++ r.headers, sameHeader h.1 name = true ∧ value = some h.2

/-- The headers of a read are well-formed if those it is made of are. -/
theorem isWellFormed_of_mem_requestHeaders (hdistinct : Entries.Distinct s.headers)
    (hheaders : ∀ h ∈ s.headers ++ r.headers, Headers.IsWellFormed h)
    (htoken : ∀ h ∈ Settings.tokenHeader? e, Headers.IsWellFormed h) :
    ∀ h ∈ requestHeaders (s.within e) r, Headers.IsWellFormed h := by
  intro h hh
  rcases Entries.mem_extend (Settings.distinct_headers_within hdistinct) hh with hgiven | ⟨hh, -⟩
  · exact hheaders h (List.mem_append_right _ hgiven)
  · rcases Settings.mem_headers_within hh with hconfigured | ⟨hh, -⟩
    exacts [hheaders h (List.mem_append_left _ hconfigured), htoken h hh]

/-- **The last header under a name** that is given is given too, or the settings spell the name in two
ways. -/
theorem mem_of_given (hdistinct : Entries.Distinct s.headers) {h w : String × String}
    (hgiven : Headers.last? name r.headers = some h)
    (hlast : Headers.last? name (requestHeaders (s.within e) r) = some w) :
    w ∈ r.headers ∨ w ∈ s.headers ∧ ∃ v ∈ s.headers, sameHeader v.1 name = true ∧ v.1 ≠ w.1 := by
  have hname := Headers.sameHeader_of_last? hgiven
  have hdistinct' := Settings.distinct_headers_within (e := e) hdistinct
  refine (Headers.mem_of_last?_extend hdistinct' hgiven hlast).imp_right ?_
  rintro ⟨hw, v, hv, hspelling, hne⟩
  rw [← hspelling] at hname
  have hsame : v.1.toLower = w.1.toLower :=
    (Headers.sameHeader_iff.mp hname).trans
      (Headers.sameHeader_iff.mp (Headers.sameHeader_of_last? hlast)).symm
  obtain ⟨hv, hw⟩ := Settings.mem_of_two_spellings hv hw hsame hne
  exact ⟨hw, v, hv, hname, hne⟩

/-- The last header under a name that is configured or given is one of these. -/
theorem exists_last?_requestHeaders (hdistinct : Entries.Distinct s.headers)
    (hsome : Headers.last? name (s.headers ++ r.headers) ≠ none) :
    ∃ w ∈ s.headers ++ r.headers,
      Headers.last? name (requestHeaders (s.within e) r) = some w := by
  cases hgiven : Headers.last? name r.headers with
  | some h =>
      obtain ⟨w, hlast⟩ := Headers.exists_last?_extend hgiven (s.within e).headers
      refine ⟨w, ?_, hlast⟩
      rcases mem_of_given hdistinct hgiven hlast with hw | ⟨hw, -⟩
      exacts [List.mem_append_right _ hw, List.mem_append_left _ hw]
  | none =>
      rw [Headers.last?_append, hgiven, Option.none_or] at hsome
      obtain ⟨w, hw⟩ := Option.ne_none_iff_exists'.mp hsome
      refine ⟨w, List.mem_append_left _ (Headers.mem_of_last? hw), ?_⟩
      rw [requestHeaders, Headers.last?_extend_of_none hgiven, Settings.last?_headers_within, hw]
      rfl

/-- What stands last under a name after all headers were written is what a read sends. -/
theorem sends_last? (hdistinct : Entries.Distinct s.headers) (name : String) :
    Sends s e r name (((Headers.last? name (requestHeaders (s.within e) r)).map Prod.snd).or
      (Entries.get? name.toLower Client.usualHeaders)) := by
  have hwithin : Entries.Distinct (s.within e).headers := Settings.distinct_headers_within hdistinct
  have hgiven : ∀ h, Headers.last? name r.headers = some h →
      ∃ w, Headers.last? name (requestHeaders (s.within e) r) = some w ∧
        (w.2 = h.2 ↔ w.1 = h.1 ∨ w.2 = h.2) := fun h hgiven => by
    obtain ⟨w, hlast⟩ := Headers.exists_last?_extend hgiven (s.within e).headers
    exact ⟨w, hlast, Headers.snd_eq_iff_of_last? hwithin hgiven hlast⟩
  constructor
  · intro h hh
    obtain ⟨w, hlast, hiff⟩ := hgiven h hh
    rw [hlast, Option.map_some, Option.some_or, Option.some_inj, hiff]
    constructor
    · rintro hsent _ ⟨⟩
      exact hsent
    · intro hsent
      exact hsent w rfl
  · intro h hh hsettings hline
    obtain ⟨w, hlast, hiff⟩ := hgiven h hh
    rw [hlast, Option.map_some, Option.some_or, Option.some_inj, hiff]
    rcases mem_of_given hdistinct hh hlast with hw | ⟨hw, v, hv, hname, hne⟩
    · exact .inl (hline w hw (Headers.sameHeader_of_last? hlast))
    · exact absurd (hsettings v hv w hw hname (Headers.sameHeader_of_last? hlast)) hne
  · intro hnone
    rw [requestHeaders, Headers.last?_extend_of_none hnone, Settings.last?_headers_within]
  · intro hsome
    obtain ⟨w, hw, hlast⟩ := exists_last?_requestHeaders (e := e) hdistinct hsome
    rw [hlast]
    exact ⟨w, hw, Headers.sameHeader_of_last? hlast, rfl⟩

/-- The client of a read is made of the address that comes first and of all headers. -/
theorem clientOf_eq_make {s : Settings}
    (haddress : r.baseUrl.or (s.baseUrl.or catalog.baseUrl) = some address) :
    clientOf s catalog r = Client.make address (requestHeaders s r) := by
  rw [clientOf, haddress]
  rfl

/-- **What the client of a read sends.** If the base address and all headers are in order there is a
client (the names of settings that were loaded are distinct: `Settings.distinct_headers_load`), and each of
its requests carries under every name but that of the program itself what `Sends` says: the last header of
the command line unless another spelling of its name was written later with another value, else the
configured header, and a token only where there are no other credentials. -/
theorem clientOf_sends
    (haddress : r.baseUrl.or ((s.within e).baseUrl.or catalog.baseUrl) = some address)
    (hcheck : checkAddress address = .ok ()) (hdistinct : Entries.Distinct s.headers)
    (hheaders : ∀ h ∈ s.headers ++ r.headers, Headers.IsWellFormed h)
    (htoken : ∀ h ∈ Settings.tokenHeader? e, Headers.IsWellFormed h) :
    ∃ client, clientOf (s.within e) catalog r = .ok client ∧
      ∀ path request, client.get path = .ok request →
        Entries.get? "user-agent" request.headers = some Client.userAgent ∧
        ∀ name, sameHeader name "user-agent" = false →
          Sends s e r name (Entries.get? name.toLower request.headers) := by
  obtain ⟨client, hclient⟩ := Client.exists_make hcheck
    (isWellFormed_of_mem_requestHeaders hdistinct hheaders htoken)
  refine ⟨client, (clientOf_eq_make haddress).trans hclient, fun path request hget => ⟨?_, ?_⟩⟩
  · exact Client.get?_userAgent hget
  · intro name hname
    rw [Client.get?_headers_of_make hclient hget hname]
    exact sends_last? hdistinct name

/-! ## Spellings of a name -/

/-- The address of this machine is in order. -/
theorem checkAddress_loopback : checkAddress Client.loopback.baseUrl = .ok () := by
  obtain ⟨scheme, authority, -, hbase, hparse⟩ := Client.loopback_isBelow.address
  rw [String.append_empty] at hbase
  have hencrypted : (isLocalHost "[::1]" || "https" == "https") = true := by decide +kernel
  rw [checkAddress, hbase, hparse]
  show (if isLocalHost "[::1]" || "https" == "https" then _ else _) = _
  rw [hencrypted]
  rfl

/-- A client of this machine can ask for the CDNs. -/
theorem exists_get_loopback {headers : List (String × String)} {client : Client}
    (h : Client.make Client.loopback.baseUrl headers = .ok client) :
    ∃ request, client.get "/v1/cdns" = .ok request := by
  have hbase : client.baseUrl = Client.loopback.baseUrl := (Client.of_make h).2.trans (by rfl)
  have hbelow : client.IsBelow Client.loopbackOrigin "" :=
    ⟨hbase ▸ Client.loopback_isBelow.address, rfl, .inl rfl⟩
  have hpath : Url.IsRooted "/v1/cdns".toList := ⟨by decide, List.all_eq_true.mp (by decide)⟩
  exact ⟨_, Client.get_eq hbelow hpath⟩

/-- A header of the command line is sent for that of the settings, and the token beside it. -/
theorem clientOf_sends_team :
    ∃ client request,
      clientOf (Settings.within { headers := [("X-Team", "edge")] } { token := some " s3cr3t " })
          ⟨[], none⟩ { baseUrl := some Client.loopback.baseUrl, headers := [("x-team", "ops")] }
        = .ok client ∧
      client.get "/v1/cdns" = .ok request ∧
      Entries.get? "x-team".toLower request.headers = some "ops" ∧
      Entries.get? "authorization".toLower request.headers = some "Bearer s3cr3t" := by
  have htoken : Settings.tokenHeader? { token := some " s3cr3t " }
      = some ("Authorization", "Bearer s3cr3t") := by rfl
  have hnone : Headers.last? authorization [("X-Team", "edge")] = none := by
    rw [Headers.last?_eq_find?]
    decide
  obtain ⟨client, hclient, hsends⟩ := @clientOf_sends { headers := [("X-Team", "edge")] }
    { token := some " s3cr3t " } ⟨[], none⟩
    { baseUrl := some Client.loopback.baseUrl, headers := [("x-team", "ops")] } _
    rfl checkAddress_loopback (List.nodup_singleton _) (by decide) (by rw [htoken]; decide)
  have hmake := hclient
  rw [@clientOf_eq_make _ _ Client.loopback.baseUrl _ rfl] at hmake
  obtain ⟨request, hget⟩ := exists_get_loopback hmake
  have hname : ∀ name, name.toList.map Char.toLower ≠ "user-agent".toList.map Char.toLower →
      sameHeader name "user-agent" = false := fun name hne => by
    rw [← Bool.not_eq_true, Headers.sameHeader_iff_map]
    exact hne
  obtain ⟨-, hsends⟩ := hsends _ request hget
  refine ⟨client, request, hclient, hget, ?_, ?_⟩
  · -- the spelling of the command line is new, so it was written last
    refine ((hsends "x-team" (hname _ (by decide))).given ("x-team", "ops") ?_).mpr ?_
    · rw [Headers.last?_eq_find?]
      decide
    · rw [requestHeaders, Settings.headers_within_of_none hnone, htoken, Headers.last?_eq_find?]
      decide
  · refine ((hsends "authorization" (hname _ (by decide))).kept ?_).trans ?_
    · rw [Headers.last?_eq_find?]
      decide
    · rw [htoken, Headers.last?_eq_find?, Headers.last?_eq_find?]
      decide

/-- **A header of the settings is sent for that of the command line** if the settings spell its name in
two ways and the command line in the first of them. -/
theorem clientOf_sends_other_spelling :
    ∃ client request,
      clientOf (Settings.within { headers := [("X-Team", "edge"), ("x-team", "core")] } {})
          ⟨[], none⟩ { baseUrl := some Client.loopback.baseUrl, headers := [("X-Team", "ops")] }
        = .ok client ∧
      client.get "/v1/cdns" = .ok request ∧
      Headers.last? "x-team" [("X-Team", "ops")] = some ("X-Team", "ops") ∧
      Entries.get? "x-team".toLower request.headers = some "core" := by
  have hheaders : ∀ h ∈ [("X-Team", "ops"), ("x-team", "core")], Headers.IsWellFormed h := by
    decide
  have hagent : sameHeader "x-team" "user-agent" = false := by
    rw [← Bool.not_eq_true, Headers.sameHeader_iff_map]
    decide
  obtain ⟨client, hmake⟩ := Client.exists_make checkAddress_loopback hheaders
  obtain ⟨request, hget⟩ := exists_get_loopback hmake
  refine ⟨client, request, ?_, hget, ?_, ?_⟩
  · rw [@clientOf_eq_make _ _ Client.loopback.baseUrl _ rfl]
    exact hmake
  · rw [Headers.last?_eq_find?]
    decide
  · have hlast : Headers.last? "x-team" [("X-Team", "ops"), ("x-team", "core")]
        = some ("x-team", "core") := by
      rw [Headers.last?_eq_find?]
      decide
    rw [Client.get?_headers_of_make hmake hget hagent, hlast]
    rfl

end Program

end QueryableApi
