import QueryableApi.DataSource
import QueryableApi.Client
import QueryableApi.Proofs.PathTemplate
import QueryableApi.Proofs.Url.DotSegments
import QueryableApi.Proofs.Url.Origin

/-! # Where a request for a filled path goes

A client puts a path behind its base address and asks for what is at the URL. A URL takes segments of
one and two dots for steps within its path, and an identifier of one or two dots is filled into a
template as it stands. So a request goes to the segments of the template with the identifiers in place
iff no identifier is one of the two (`Client.get_filled_iff`); `Client.get_leaves_collection` is a request
that leaves its collection. -/

namespace QueryableApi

open PathTemplate Percent Url

variable {template path root : String} {values : List String} {c : Char}

/-! ## Filled paths -/

/-- The characters that encoding writes stand for themselves. -/
theorem Percent.isOrdinary_of_isUnreserved (h : isUnreserved c = true) : isOrdinary c = true := by
  have hcontrol : ∀ n ∈ List.range 0x21, isUnreserved (Char.ofNat n) = false := by decide
  refine isOrdinary_iff.mpr ⟨?_, ?_, ?_⟩
  · refine Bool.eq_false_iff.mpr fun hmargin => ?_
    have hbound : c.toNat < 0x21 := Nat.lt_succ_of_le (of_decide_eq_true hmargin)
    have hnot := hcontrol c.toNat (List.mem_range.mpr hbound)
    rw [Char.ofNat_toNat, h] at hnot
    cases hnot
  · refine Bool.eq_false_iff.mpr fun htail => ?_
    rw [startsTail, Bool.or_eq_true, beq_iff_eq, beq_iff_eq] at htail
    rcases htail with rfl | rfl
    · cases h
    · cases h
  · rintro rfl
    cases h

/-- A rooted template is filled to a rooted path. -/
theorem PathTemplate.Fills.isRooted (h : Fills (segments template) values (segments path))
    (htemplate : IsRooted template.toList) : IsRooted path.toList := by
  refine ⟨h.head?_eq_slash htemplate.slash, fun c hc => ?_⟩
  by_contra hordinary
  -- a character that does not stand for itself is not written by encoding, so the template has it
  have hreserved : isUnreserved c = false :=
    Bool.eq_false_iff.mpr fun hun => hordinary (isOrdinary_of_isUnreserved hun)
  have hslash : c ≠ '/' := by
    rintro rfl
    exact hordinary (by decide)
  have hpercent : c ≠ '%' := by
    rintro rfl
    exact hordinary (by decide)
  obtain ⟨s, hs, -, hmem⟩ :=
    (h.exists_mem_iff hpercent hreserved).mp ((mem_toList_iff hslash).mp hc)
  exact hordinary (htemplate.ordinary c ((mem_toList_iff hslash).mpr ⟨s, hs, hmem⟩))

/-- A placeholder is no dot segment. -/
theorem PathTemplate.not_isDotSegment_of_isPlaceholder {segment : List Char}
    (h : isPlaceholder segment = true) : ¬ IsDotSegment segment := by
  cases segment with
  | nil => cases h
  | cons c rest =>
      have hhead : c = '{' := by
        by_contra hne
        rw [isPlaceholder_of_head? (by simpa using hne)] at h
        cases h
      rw [hhead]
      exact not_isDotSegment_of_head (by decide) (by decide) rest

/-- **No segment of a filled path is a dot segment** iff none of the template is and no value is one or
two dots. -/
theorem PathTemplate.Fills.forall_not_isDotSegment_iff {segments filled : List (List Char)}
    (h : Fills segments values filled) :
    (∀ s ∈ filled, ¬ IsDotSegment s) ↔
      (∀ s ∈ segments, ¬ IsDotSegment s) ∧ ∀ v ∈ values, v ≠ "." ∧ v ≠ ".." := by
  rw [h.forall_iff]
  refine and_congr (forall₂_congr fun s _ => ?_) (forall₂_congr fun v _ => ?_)
  · cases hplaceholder : isPlaceholder s with
    | true => simp [not_isDotSegment_of_isPlaceholder hplaceholder]
    | false => simp
  · rw [isDotSegment_encodeChars_iff, not_or]

/-! ## Requests -/

namespace Client

/-- A client **asks below an origin**: its base address is the origin, which has a host, with a path
behind it or none. -/
structure IsBelow (client : Client) (origin : Url) (root : String) : Prop where
  /-- The base address is that of the origin with the path behind it. -/
  address : ∃ scheme authority, IsOrigin scheme authority ∧
    client.baseUrl = originText scheme authority ++ root ∧
    Url.parse (originText scheme authority) = .ok origin
  /-- The origin has a host. -/
  host : origin.host.isSome = true
  /-- The path starts with a slash, if there is one. -/
  rooted : root = "" ∨ IsRooted root.toList

/-- A path behind another is rooted if both are. -/
theorem isRooted_append (hroot : root = "" ∨ IsRooted root.toList) (hpath : IsRooted path.toList) :
    IsRooted (root ++ path).toList := by
  rcases hroot with rfl | hroot
  · simpa using hpath
  · rw [String.toList_append]
    refine ⟨?_, fun c hc => ?_⟩
    · rw [List.head?_append, hroot.slash]
      rfl
    · rcases List.mem_append.mp hc with hc | hc
      exacts [hroot.ordinary c hc, hpath.ordinary c hc]

/-- **The request for a rooted path** goes to the segments of the base address and of the path, without
those of dots. -/
theorem get_eq {client : Client} {origin : Url} (h : client.IsBelow origin root)
    (hpath : IsRooted path.toList) :
    client.get path = .ok
      ⟨{ origin with path := pathText (resolve [] ((segments root).tail ++ (segments path).tail)) },
        client.headers.set "user-agent" userAgent⟩ := by
  obtain ⟨scheme, authority, horigin, hbase, hparse⟩ := h.address
  have hboth := isRooted_append h.rooted hpath
  have haddress : client.addressOf path
      = originText scheme authority ++ String.ofList (root ++ path).toList := by
    rw [addressOf, hpath.slash, if_pos (by rfl), hbase, String.append_assoc, String.ofList_toList]
  have hsegments : ((root ++ path).toList.splitOn '/').tail
      = (segments root).tail ++ (segments path).tail := by
    rw [← segments, segments_append hpath.slash, List.tail_append_of_ne_nil (segments_ne_nil root)]
  have hurl : Url.parse (client.addressOf path) = .ok { origin with
      path := pathText (resolve [] ((segments root).tail ++ (segments path).tail)) } := by
    rw [haddress, parse_origin_append horigin hboth, hparse, pathAfterHost_eq hboth, hsegments]
    rfl
  have hsome : origin.host.isNone = false := by
    rw [← Option.not_isSome, h.host]
    rfl
  rw [get, hurl]
  simp only [Except.mapError, bind, Except.bind, hsome, Bool.false_eq_true, if_false]

/-- **Where a request for a filled path goes.** A template is filled with as many values as it has
placeholders; the segments of the path are those of the template with the values in place, encoded. An
encoded value is a dot segment iff the value is one or two dots, and the segments of the path are left as
they are iff no segment of the template is a dot segment and no value is one or two dots. Then a
request for the path goes to these segments, behind those of the base address. -/
theorem get_filled_iff (h : (placeholders template).length = values.length) :
    ∃ path, fill template values = .ok path ∧ Fills (segments template) values (segments path) ∧
      (∀ v ∈ values, IsDotSegment (encodeChars v.toList) ↔ v = "." ∨ v = "..") ∧
      (resolve [] (segments path) = segments path ↔
        (∀ s ∈ segments template, ¬ IsDotSegment s) ∧ ∀ v ∈ values, v ≠ "." ∧ v ≠ "..") ∧
      ∀ (client : Client) (origin : Url) (root : String), client.IsBelow origin root →
        (∀ s ∈ segments root, ¬ IsDotSegment s) → IsRooted template.toList →
        resolve [] (segments path) = segments path →
          client.get path = .ok
            ⟨{ origin with path := pathText ((segments root).tail ++ (segments path).tail) },
              client.headers.set "user-agent" userAgent⟩ := by
  obtain ⟨path, hpath, hfills⟩ := fill_fills h
  refine ⟨path, hpath, hfills, fun v _ => isDotSegment_encodeChars_iff v, ?_, ?_⟩
  · rw [resolve_eq_self_iff, hfills.forall_not_isDotSegment_iff]
  · intro client origin root hbelow hroot htemplate hplain
    have hdots : ∀ s ∈ (segments root).tail ++ (segments path).tail, ¬ IsDotSegment s := by
      intro s hs
      rcases List.mem_append.mp hs with hs | hs
      · exact hroot s (List.mem_of_mem_tail hs)
      · exact resolve_eq_self_iff.mp hplain s (List.mem_of_mem_tail hs)
    rw [get_eq hbelow (hfills.isRooted htemplate), resolve_eq_self_iff.mpr hdots]

/-! ## The rules of a CDN -/

/-- A client of this machine. -/
def loopback : Client := ⟨"https://[::1]:8443", []⟩

/-- The address of this machine. -/
def loopbackOrigin : Url := ⟨"https", some "[::1]", some 8443, "/", none, none⟩

/-- The client of this machine asks below its address. -/
theorem loopback_isBelow : loopback.IsBelow loopbackOrigin "" where
  address := by
    have horigin : IsOrigin "https" "[::1]:8443".toList :=
      ⟨.inr rfl, by decide, List.all_eq_true.mp (by decide), by decide⟩
    exact ⟨"https", "[::1]:8443".toList, horigin, by decide, (parse_originText horigin).trans rfl⟩
  host := rfl
  rooted := .inl rfl

/-- The path of the rules of a CDN. -/
def rulesTemplate : String := "/v1/cdns/{id}/rules"

/-- An identifier with two dots and a slash in front stays in its place. -/
theorem get_filled_rules :
    (placeholders rulesTemplate).length = ["../a"].length ∧
      fill rulesTemplate ["../a"] = .ok "/v1/cdns/..%2Fa/rules" ∧
      (loopback.get "/v1/cdns/..%2Fa/rules").map (fun r => r.url.path)
        = .ok "/v1/cdns/..%2Fa/rules" := by
  have hlength : (placeholders rulesTemplate).length = ["../a"].length := by decide
  have hfill : fill rulesTemplate ["../a"] = .ok "/v1/cdns/..%2Fa/rules" := by rfl
  obtain ⟨path, hpath, -, -, hplain, hget⟩ := get_filled_iff hlength
  rw [hfill] at hpath
  obtain rfl := Except.ok.inj hpath
  have hsegments : ∀ s ∈ segments rulesTemplate, ¬ IsDotSegment s := by decide
  have hroot : ∀ s ∈ segments "", ¬ IsDotSegment s := by decide
  have hrooted : IsRooted rulesTemplate.toList :=
    ⟨by decide, List.all_eq_true.mp (by decide)⟩
  refine ⟨hlength, hfill, ?_⟩
  rw [hget loopback loopbackOrigin "" loopback_isBelow hroot hrooted
    (hplain.mpr ⟨hsegments, by decide⟩)]
  rfl

/-- **An identifier of two dots leaves the collection**: a read accepts it, it is filled in as it stands,
and the request does not go to the rules of a CDN. -/
theorem get_leaves_collection :
    (∀ s ∈ segments rulesTemplate, ¬ IsDotSegment s) ∧
      Plan.parentId [("cdns_v1_id", .text "..")] "cdns_v1_id" = .ok ".." ∧
      fill rulesTemplate [".."] = .ok "/v1/cdns/../rules" ∧
      (loopback.get "/v1/cdns/../rules").map (fun r => r.url.path) = .ok "/v1/rules" := by
  have hrooted : IsRooted "/v1/cdns/../rules".toList :=
    ⟨by decide, List.all_eq_true.mp (by decide)⟩
  refine ⟨by decide, by rfl, by rfl, ?_⟩
  rw [get_eq loopback_isBelow hrooted]
  rfl

end Client

end QueryableApi
