import Mathlib.Data.List.Nodup
import QueryableApi.Proofs.OpenApi.PathName
import QueryableApi.Proofs.PathTemplate.Outcome

/-! # Names of paths put together

Behind a placeholder nothing is left of the segments before it but the parents, of which the last names
the collection before the placeholder. What is read from there on is what is read from the start, with
that name in front of every parent (`Naming.ofSegments_within`). So the name of a path that is put
together at a placeholder is made of the names of its parts (`collectionName?_joined`), each placeholder
stands for one parent, which is named like the collection at the path before it, and no two parents
share a name, because each is longer than those before it (`collectionName?_composes`). -/

namespace QueryableApi

namespace PathTemplate

variable {path before name : String} {first rest : List (List Char)} {inner : List Char} {k : Nat}

/-! ## Paths put together -/

/-- Two paths put together **at a placeholder** with a name. -/
def joined (before name after : String) : String := before ++ "/\x7b" ++ name ++ "\x7d/" ++ after

/-- The segments of a path that is put together are those of its parts, with the placeholder between
them. -/
theorem segments_joined (hname : '/' ∉ name.toList) (before after : String) :
    segments (joined before name after)
      = segments before ++ braced name.toList :: segments after := by
  have htext : "\x7b" ++ name ++ "\x7d" = String.ofList (braced name.toList) := by
    have hopen : "\x7b".toList = ['{'] := rfl
    have hclose : "\x7d".toList = ['}'] := rfl
    refine String.toList_inj.mp ?_
    rw [String.toList_ofList, String.toList_append, String.toList_append, hopen, hclose, braced,
      List.append_assoc, List.singleton_append]
  have hslash : '/' ∉ braced name.toList := by
    rw [braced, List.mem_cons, List.mem_append, List.mem_singleton]
    rintro (h | h | h)
    exacts [absurd h (by decide), hname h, absurd h (by decide)]
  have hbraced : segments (String.ofList (braced name.toList)) = [braced name.toList] := by
    rw [segments, String.toList_ofList]
    exact List.splitOn_eq_singleton hslash
  have hopen : "/\x7b" = "/" ++ "\x7b" := by decide
  have hclose : "\x7d/" = "\x7d" ++ "/" := by decide
  have hjoined : joined before name after
      = before ++ "/" ++ ("\x7b" ++ name ++ "\x7d") ++ "/" ++ after := by
    rw [joined, hopen, hclose]
    simp only [String.append_assoc]
  rw [hjoined, segments_append_slash, segments_append_slash, htext, hbraced, List.append_assoc,
    List.singleton_append]

/-- **A path is put together** at each placeholder between other segments. -/
theorem exists_eq_joined (h : segments path = first ++ braced inner :: rest) (hfirst : first ≠ [])
    (hrest : rest ≠ []) :
    ∃ before name after, path = joined before name after ∧ '/' ∉ name.toList ∧
      segments before = first := by
  have hslash : ∀ s ∈ segments path, '/' ∉ s := fun s => slash_not_mem
  rw [h] at hslash
  have hbefore := segments_join hfirst fun s hs => hslash s (List.mem_append_left _ hs)
  have hafter := segments_join hrest fun s hs =>
    hslash s (List.mem_append_right _ (List.mem_cons_of_mem _ hs))
  have hinner : '/' ∉ (String.ofList inner).toList := by
    have hnone := hslash (braced inner) (List.mem_append_right _ List.mem_cons_self)
    simp only [braced, List.mem_cons, List.mem_append, not_or] at hnone
    rw [String.toList_ofList]
    exact hnone.2.1
  refine ⟨_, String.ofList inner, String.ofList (['/'].intercalate rest),
    segments_injective ?_, hinner, hbefore⟩
  rw [h, segments_joined hinner, hbefore, hafter, String.toList_ofList]

/-- Each placeholder has its place among the segments. -/
theorem exists_placeholder {segments : List (List Char)} (h : k < segments.countP isPlaceholder) :
    ∃ first inner rest, segments = first ++ braced inner :: rest ∧ first.countP isPlaceholder = k := by
  induction segments generalizing k with
  | nil => cases h
  | cons segment others ih =>
      cases hsegment : isPlaceholder segment with
      | true =>
          obtain ⟨inner, rfl⟩ := isPlaceholder_iff.mp hsegment
          cases k with
          | zero => exact ⟨[], inner, others, rfl, rfl⟩
          | succ k =>
              rw [List.countP_cons_of_pos hsegment] at h
              obtain ⟨first, name, rest, rfl, hcount⟩ := ih (Nat.lt_of_succ_lt_succ h)
              exact ⟨braced inner :: first, name, rest, rfl,
                (List.countP_cons_of_pos hsegment).trans (congrArg Nat.succ hcount)⟩
      | false =>
          have hfixed := Bool.eq_false_iff.mp hsegment
          rw [List.countP_cons_of_neg hfixed] at h
          obtain ⟨first, name, rest, rfl, hcount⟩ := ih h
          exact ⟨segment :: first, name, rest, rfl, (List.countP_cons_of_neg hfixed).trans hcount⟩

end PathTemplate

namespace OpenApi

open PathTemplate (isPlaceholder segments placeholders braced joined)

variable {n m : Naming} {segment : List Char} {outer inner names : List String} {base name : String}
  {path : String} {parents : Option Parents}

namespace Naming

/-! ## Behind a placeholder -/

/-- A name below another one. -/
def under (base name : String) : String := base ++ "_" ++ name

/-- What is read **within outer parents**, of which the last is named `base`: the parents are theirs,
and then those that are read, with that name in front. -/
def within (outer : List String) (base : String) (n : Naming) : Naming :=
  { n with
    fullName := some (n.fullName.elim base (under base))
    parents := outer ++ n.parents.map (under base) }

/-- A name below parents within outer ones has the name of the last outer one in front. -/
theorem joinName_within (base : String) (full : Option String) (name : String) :
    joinName (some (full.elim base (under base))) name = under base (joinName full name) := by
  cases full with
  | none => rfl
  | some parent => simp only [joinName, under, Option.elim_some, String.append_assoc]

/-- **One segment** is read within outer parents as it is on its own. -/
theorem read_within (outer : List String) (base : String) (n : Naming) (segment : List Char) :
    (n.within outer base).read segment = (n.read segment).map (within outer base) := by
  unfold read
  split
  · -- a placeholder makes the collection before it a parent
    rw [Option.map_map]
    refine congrArg (fun f => Option.map f n.collection) (funext fun name => ?_)
    simp only [Function.comp_apply, within, joinName_within, List.map_append, List.append_assoc,
      List.map_singleton, Option.elim_some]
  · split <;> rfl

/-- **All segments** are read within outer parents as they are on their own. -/
theorem ofSegments_within (outer : List String) (base : String) (n : Naming)
    (path : List (List Char)) :
    (n.within outer base).ofSegments path = (n.ofSegments path).map (within outer base) := by
  induction path generalizing n with
  | nil => rfl
  | cons segment rest ih =>
      rw [ofSegments, ofSegments, read_within]
      cases n.read segment with
      | none => rfl
      | some next => exact ih next

/-- Segments are read one run after the other. -/
theorem ofSegments_append (n : Naming) (path rest : List (List Char)) :
    n.ofSegments (path ++ rest) = (n.ofSegments path).bind fun m => m.ofSegments rest := by
  induction path generalizing n with
  | nil => rfl
  | cons segment path ih =>
      rw [List.cons_append, ofSegments, ofSegments]
      cases n.read segment with
      | none => rfl
      | some next => exact ih next

/-- Behind a placeholder, the segments are read as from the start, within the parents so far and the
collection before it. -/
theorem ofSegments_placeholder (hplaceholder : isPlaceholder segment = true) (n : Naming)
    (rest : List (List Char)) :
    n.ofSegments (segment :: rest) = n.collection.bind fun last =>
      (ofSegments {} rest).map
        (within (n.parents ++ [joinName n.fullName last]) (joinName n.fullName last)) := by
  rw [ofSegments, read, PathTemplate.isBraced_eq, if_pos hplaceholder]
  cases n.collection with
  | none => rfl
  | some last =>
      refine Eq.trans ?_ (ofSegments_within _ _ {} rest)
      rw [within, List.map_nil, List.append_nil]
      rfl

/-! ## Parents with growing names -/

/-- Each name is **longer than those before it**. -/
def Growing (names : List String) : Prop := names.Pairwise fun a b => a.length < b.length

/-- A name below the last parent is longer than each of them. -/
theorem Growing.length_lt_joinName (h : Growing names) {parent : String} (hparent : parent ∈ names)
    (name : String) : parent.length < (joinName names.getLast? name).length := by
  obtain ⟨before, last, rfl⟩ := List.eq_nil_or_concat names |>.resolve_left
    (List.ne_nil_of_mem hparent)
  have hlast : parent.length ≤ last.length := by
    rw [List.concat_eq_append] at h hparent
    rcases List.mem_append.mp hparent with hbefore | hlast
    · exact Nat.le_of_lt ((List.pairwise_append.mp h).2.2 parent hbefore last List.mem_cons_self)
    · exact Nat.le_of_eq (congrArg String.length (List.mem_singleton.mp hlast))
  rw [List.concat_eq_append, List.getLast?_concat, joinName, Option.elim_some,
    String.length_append, String.length_append]
  have hunderscore : "_".length = 1 := rfl
  omega

/-- One segment keeps the names of the parents growing. -/
theorem growing_of_read (h : n.read segment = some m) (hfull : n.fullName = n.parents.getLast?)
    (hn : Growing n.parents) : Growing m.parents := by
  unfold read at h
  split at h
  · obtain ⟨name, -, rfl⟩ := Option.map_eq_some_iff.mp h
    refine List.pairwise_append.mpr ⟨hn, List.pairwise_singleton _ _, fun parent hparent next hnext => ?_⟩
    rw [List.mem_singleton.mp hnext, hfull]
    exact hn.length_lt_joinName hparent name
  · -- a version and a collection leave the parents alone
    split at h
    all_goals
      obtain rfl := Option.some.inj h
      exact hn

/-- All segments do. -/
theorem growing_of_ofSegments {path : List (List Char)} (h : n.ofSegments path = some m)
    (hfull : n.fullName = n.parents.getLast?) (hn : Growing n.parents) : Growing m.parents := by
  induction path generalizing n with
  | nil =>
      obtain rfl := Option.some.inj h
      exact hn
  | cons segment rest ih =>
      obtain ⟨next, hread, hrest⟩ := Option.bind_eq_some_iff.mp h
      exact ih hrest (fullName_of_read hread hfull) (growing_of_read hread hfull hn)

end Naming

/-! ## Names -/

/-- **The name of a path that is put together** is made of the names of its parts. -/
theorem collectionName?_joined {x : String} (hx : '/' ∉ x.toList) (p q : String) :
    collectionName? (joined p x q) = (collectionName? p).bind fun before =>
      (collectionName? q).map fun after => (Naming.under before.1 after.1, some
        ⟨parentNames before.2 ++ [before.1] ++ (parentNames after.2).map (Naming.under before.1),
          (after.2.map Parents.fullName).elim before.1 (Naming.under before.1)⟩) := by
  have hplaceholder := PathTemplate.isPlaceholder_iff.mpr ⟨x.toList, rfl⟩
  unfold collectionName?
  dsimp only
  rw [PathTemplate.segments_joined hx, List.filter_append, List.filter_cons_of_pos rfl,
    Naming.ofSegments_append]
  cases hp : Naming.ofSegments {} ((segments p).filter fun s => !s.isEmpty) with
  | none => rfl
  | some outer =>
      rw [Option.bind_some, Naming.ofSegments_placeholder hplaceholder]
      cases hlast : outer.collection with
      | none => simp [hlast]
      | some last =>
          cases hq : Naming.ofSegments {} ((segments q).filter fun s => !s.isEmpty) with
          | none => simp [hlast]
          | some inner =>
              cases hinner : inner.collection with
              | none => simp [hlast, hinner, Naming.within]
              | some name =>
                  simp [hlast, hinner, Naming.within, Naming.joinName_within,
                    parentNames_fullName hp, parentNames_fullName hq, Function.comp_def]

/-- The parent that a placeholder stands for has the name of the collection at the path before it. -/
theorem getElem?_parentNames_joined {p x q : String} (hx : '/' ∉ x.toList)
    (h : collectionName? (joined p x q) = some (name, parents)) :
    ∃ n outer, collectionName? p = some (n, outer) ∧
      (parentNames parents)[(placeholders p).length]? = some n := by
  rw [collectionName?_joined hx] at h
  obtain ⟨⟨n, outer⟩, hp, h⟩ := Option.bind_eq_some_iff.mp h
  obtain ⟨after, -, h⟩ := Option.map_eq_some_iff.mp h
  obtain ⟨-, rfl⟩ := Prod.mk.inj h
  refine ⟨n, outer, hp, ?_⟩
  rw [parentNames, Option.elim_some, ← length_parentNames hp, List.append_assoc]
  rw [List.getElem?_append_right (Nat.le_refl _), Nat.sub_self]
  rfl

/-- A path with a name is put together at each of its placeholders. -/
theorem exists_eq_joined_of_collectionName? {k : Nat}
    (h : collectionName? path = some (name, parents)) (hk : k < (placeholders path).length) :
    ∃ p x q, path = joined p x q ∧ '/' ∉ x.toList ∧ (placeholders p).length = k := by
  rw [PathTemplate.length_placeholders] at hk
  obtain ⟨first, inner, rest, hsegments, hcount⟩ := PathTemplate.exists_placeholder hk
  have hplaceholder : isPlaceholder (braced inner) = true :=
    PathTemplate.isPlaceholder_iff.mpr ⟨inner, rfl⟩
  have hfirst : first ≠ [] := by
    rintro rfl
    rw [isPlaceholder_first h hsegments] at hplaceholder
    cases hplaceholder
  have hrest : rest ≠ [] := by
    rintro rfl
    obtain ⟨naming, last, hnaming, hlast, -⟩ := exists_naming_of_collectionName? h
    -- behind a placeholder there is no collection yet
    rw [hsegments, List.filter_append, List.filter_cons_of_pos rfl, Naming.ofSegments_append] at hnaming
    obtain ⟨outer, -, hnaming⟩ := Option.bind_eq_some_iff.mp hnaming
    rw [List.filter_nil, Naming.ofSegments_placeholder hplaceholder] at hnaming
    obtain ⟨collection, -, hnaming⟩ := Option.bind_eq_some_iff.mp hnaming
    obtain rfl := Option.some.inj hnaming
    cases hlast
  obtain ⟨p, x, q, hpath, hx, hp⟩ := PathTemplate.exists_eq_joined hsegments hfirst hrest
  refine ⟨p, x, q, hpath, hx, ?_⟩
  rw [PathTemplate.length_placeholders, hp, hcount]

/-- Different parents have different properties. -/
theorem propertyOf_injective : Function.Injective Parents.propertyOf := by
  intro a b h
  have hlist := congrArg String.toList h
  rw [Parents.propertyOf, Parents.propertyOf, String.toList_append, String.toList_append] at hlist
  exact String.toList_inj.mp (List.append_cancel_right hlist)

/-- **No two parents of a collection have one property.** -/
theorem nodup_properties (h : collectionName? path = some (name, parents)) :
    (parents.elim [] Parents.properties).Nodup := by
  obtain ⟨naming, last, hnaming, -, -, rfl⟩ := exists_naming_of_collectionName? h
  rw [properties_eq, parentNames_fullName hnaming]
  have hgrowing := Naming.growing_of_ofSegments hnaming rfl List.Pairwise.nil
  refine List.Nodup.map propertyOf_injective (hgrowing.imp fun hlength heq => ?_)
  rw [heq] at hlength
  exact Nat.lt_irrefl _ hlength

/-- **Names of paths are composed.** A path that is put together at a placeholder has a name iff both
parts have one. Its name is the second one below the first one, and its parents are those of the first
part, the collection there, and those of the second part below it. So a collection has one parent for
each placeholder, in order, named like the collection at the path before the placeholder, and no two of
its parent properties are equal. -/
theorem collectionName?_composes :
    (∀ p x q, '/' ∉ x.toList →
      ((∃ found, collectionName? (joined p x q) = some found) ↔
        (∃ found, collectionName? p = some found) ∧ ∃ found, collectionName? q = some found) ∧
      ∀ n m outer inner, collectionName? p = some (n, outer) → collectionName? q = some (m, inner) →
        ∃ parents, collectionName? (joined p x q) = some (n ++ "_" ++ m, some parents) ∧
          parents.names = parentNames outer ++ [n] ++ (parentNames inner).map (n ++ "_" ++ ·) ∧
          parents.names.getLast? = some parents.fullName) ∧
    ∀ path name parents, collectionName? path = some (name, parents) →
      (parentNames parents).length = (placeholders path).length ∧
      (∀ k parent, (parentNames parents)[k]? = some parent ↔
        ∃ p x q outer, path = joined p x q ∧ '/' ∉ x.toList ∧ (placeholders p).length = k ∧
          collectionName? p = some (parent, outer)) ∧
      (parents.elim [] Parents.properties).Nodup := by
  refine ⟨fun p x q hx => ⟨?_, fun n m outer inner hp hq => ?_⟩, fun path name parents h => ?_⟩
  · simp only [← Option.isSome_iff_exists, collectionName?_joined hx]
    cases collectionName? p <;> cases collectionName? q <;> simp
  · have hjoined := collectionName?_joined hx p q
    rw [hp, Option.bind_some, hq, Option.map_some] at hjoined
    exact ⟨_, hjoined, rfl, getLast?_parentNames hjoined⟩
  · refine ⟨length_parentNames h, fun k parent => ⟨fun hk => ?_, ?_⟩, nodup_properties h⟩
    · have hlt : k < (placeholders path).length := by
        rw [← length_parentNames h]
        exact (List.getElem?_eq_some_iff.mp hk).1
      obtain ⟨p, x, q, rfl, hx, hp⟩ := exists_eq_joined_of_collectionName? h hlt
      obtain ⟨n, outer, hn, hget⟩ := getElem?_parentNames_joined hx h
      rw [hp, hk] at hget
      obtain rfl := Option.some.inj hget
      exact ⟨p, x, q, outer, rfl, hx, hp, hn⟩
    · rintro ⟨p, x, q, outer, rfl, hx, rfl, hp⟩
      obtain ⟨n, found, hn, hget⟩ := getElem?_parentNames_joined hx h
      obtain ⟨rfl, -⟩ := Prod.mk.inj (Option.some.inj (hp.symm.trans hn))
      exact hget

/-- The path of the firewalls of a CDN and that of their rules, put together. -/
theorem collectionName?_composes_rules :
    '/' ∉ "id".toList ∧
      collectionName? "/v1/cdns/{cdn_id}/v1/firewalls"
        = some ("cdns_v1_firewalls_v1", some ⟨["cdns_v1"], "cdns_v1"⟩) ∧
      collectionName? "rules" = some ("rules", none) ∧
      ∃ parents, collectionName? "/v1/cdns/{cdn_id}/v1/firewalls/{id}/rules"
          = some ("cdns_v1_firewalls_v1_rules", some parents) ∧
        parents.names = ["cdns_v1", "cdns_v1_firewalls_v1"] ∧ parents.properties.Nodup := by
  have hname : '/' ∉ "id".toList := by decide
  have hfirewalls : collectionName? "/v1/cdns/{cdn_id}/v1/firewalls"
      = some ("cdns_v1_firewalls_v1", some ⟨["cdns_v1"], "cdns_v1"⟩) := by rfl
  have hrules : collectionName? "rules" = some ("rules", none) := by rfl
  have hpath : joined "/v1/cdns/{cdn_id}/v1/firewalls" "id" "rules"
      = "/v1/cdns/{cdn_id}/v1/firewalls/{id}/rules" := by decide
  obtain ⟨parents, hjoined, hnames, -⟩ :=
    (collectionName?_composes.1 _ _ _ hname).2 _ _ _ _ hfirewalls hrules
  rw [hpath] at hjoined
  have hdistinct := (collectionName?_composes.2 _ _ _ hjoined).2.2
  exact ⟨hname, hfirewalls, hrules, parents, hjoined, hnames, hdistinct⟩

end OpenApi

end QueryableApi
