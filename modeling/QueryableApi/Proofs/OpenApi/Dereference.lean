import Mathlib.Logic.Relation
import QueryableApi.Proofs.OpenApi.Chain

/-! # Dereferencing

References are followed by a loop, of which `Turn` is one turn. No run of turns is endless
(`Trail.wellFounded_turn`). From a schema the loop runs along the chain, as long as the references are new
and no more than frames may be opened (`Trail.reaches_iff`), and `dereference` gives the schema at which it
stops (`dereference_eq_of_stops`).

If the chain follows no more references than that at all, the loop stops where the chain ends, or at a
reference that dangles or was followed before. From a reference that was followed before, the loop goes
round once and stops at the same schema again (`dereference_ends`). -/

namespace QueryableApi.OpenApi

open Relation (ReflTransGen)

variable {root schema s : Json} {refs : List (List Char)}

/-! ## The loop -/

/-- Where the loop stands. -/
structure Trail where
  /-- The schema that it has come to. -/
  schema : Json
  /-- The references that it has followed, without a leading number sign, the last first. -/
  refs : List (List Char)

/-- **One turn** follows the reference that the schema is, if there is room for one more, and if the
reference is new and does not dangle. -/
inductive Turn (root : Json) : Trail → Trail → Prop
  /-- On to the target. -/
  | follow {s t : Json} {refs : List (List Char)} {reference : String}
      (href : reference? s = some reference) (hroom : refs.length < maxFrames)
      (hnew : normalized reference ∉ refs) (htarget : target? root reference = some t) :
      Turn root ⟨s, refs⟩ ⟨t, normalized reference :: refs⟩

namespace Trail

variable {w w' : Trail}

/-- The loop **stops** where no turn can be made. -/
def Stops (root : Json) (w : Trail) : Prop := ∀ w', ¬Turn root w w'

/-- The loop stops at a schema that is no reference, and at a reference if there is no room left, or the
reference is not new, or it dangles. -/
theorem stops_iff :
    Stops root ⟨s, refs⟩ ↔ ∀ reference, reference? s = some reference →
      maxFrames ≤ refs.length ∨ normalized reference ∈ refs ∨ target? root reference = none := by
  constructor
  · intro h reference href
    by_contra hnot
    push Not at hnot
    obtain ⟨hroom, hnew, htarget⟩ := hnot
    obtain ⟨t, ht⟩ := Option.ne_none_iff_exists'.mp htarget
    exact h _ (.follow href hroom hnew ht)
  · rintro h _ ⟨href, hroom, hnew, htarget⟩
    rcases h _ href with hfull | hmem | hdangling
    · omega
    · exact hnew hmem
    · rw [htarget] at hdangling
      cases hdangling

/-- **Turns come to an end**, wherever the loop stands: each takes room. -/
theorem wellFounded_turn (root : Json) : WellFounded fun w' w => Turn root w w' := by
  refine Subrelation.wf ?_ (measure fun w : Trail => maxFrames - w.refs.length).wf
  intro _ _ h
  cases h with
  | @follow s t refs reference _ hroom =>
      show maxFrames - (normalized reference :: refs).length < maxFrames - refs.length
      rw [List.length_cons]
      omega

/-- From everywhere the loop runs until it stops. -/
theorem exists_stops (root : Json) (w : Trail) :
    ∃ last, ReflTransGen (Turn root) w last ∧ last.Stops root := by
  induction w using (wellFounded_turn root).induction with
  | _ w ih =>
      by_cases hstops : w.Stops root
      · exact ⟨w, .refl, hstops⟩
      · rw [Stops, not_forall_not] at hstops
        obtain ⟨w', hturn⟩ := hstops
        obtain ⟨last, hrun, hlast⟩ := ih w' hturn
        exact ⟨last, .head hturn hrun, hlast⟩

/-! ## Runs -/

/-- **The loop runs along the chain** as long as the references are new and there is room. -/
theorem reaches_iff :
    ReflTransGen (Turn root) ⟨schema, []⟩ ⟨s, refs⟩ ↔
      Leads root schema refs s ∧ refs.Nodup ∧ refs.length ≤ maxFrames := by
  constructor
  · generalize hlast : (⟨s, refs⟩ : Trail) = last
    intro h
    induction h generalizing s refs with
    | refl =>
        cases hlast
        exact ⟨.start, List.nodup_nil, Nat.zero_le _⟩
    | tail _ hturn ih =>
        cases hturn with
        | follow href hroom hnew htarget =>
            cases hlast
            obtain ⟨h, hnodup, -⟩ := ih rfl
            exact ⟨h.step href htarget, List.nodup_cons.mpr ⟨hnew, hnodup⟩, hroom⟩
  · rintro ⟨h, hnodup, hlength⟩
    induction h with
    | start => exact .refl
    | step _ href htarget ih =>
        obtain ⟨hnew, hnodup⟩ := List.nodup_cons.mp hnodup
        exact (ih hnodup (Nat.le_of_succ_le hlength)).tail (.follow href hlength hnew htarget)

/-- The schema that is found from where the loop stands. -/
def found (root : Json) (w : Trail) : Json :=
  follow root (maxFrames - w.refs.length) w.refs w.schema

/-- A turn finds the same schema. -/
theorem found_of_turn (h : Turn root w w') : w'.found root = w.found root := by
  cases h with
  | @follow s t refs reference href hroom hnew htarget =>
      obtain ⟨room, hleft⟩ : ∃ room, maxFrames - refs.length = room + 1 :=
        ⟨maxFrames - refs.length - 1, by omega⟩
      have hnext : maxFrames - (normalized reference :: refs).length = room := by
        rw [List.length_cons]
        omega
      show follow root _ _ t = follow root _ _ s
      rw [hleft, hnext, follow, href]
      simp only [List.contains_eq_mem, hnew, decide_false, Bool.false_eq_true, if_false, htarget]

/-- A run finds the same schema. -/
theorem found_of_run (h : ReflTransGen (Turn root) w w') : w'.found root = w.found root := by
  induction h with
  | refl => rfl
  | tail _ hturn ih => exact (found_of_turn hturn).trans ih

/-- Where the loop stops, the schema is found. -/
theorem found_of_stops (h : w.Stops root) : w.found root = w.schema := by
  obtain ⟨s, refs⟩ := w
  show follow root (maxFrames - refs.length) refs s = s
  cases hroom : maxFrames - refs.length with
  | zero => rfl
  | succ room =>
      cases href : reference? s with
      | none => rw [follow, href]
      | some reference =>
          rw [follow, href]
          rcases stops_iff.mp h reference href with hfull | hmem | hdangling
          · omega
          · simp only [List.contains_eq_mem, hmem, decide_true, if_true]
          · simp only [hdangling, ite_self]

end Trail

open Trail

/-- **Dereferencing** gives the schema at which the loop stops. -/
theorem dereference_eq_of_stops {w : Trail} (hrun : ReflTransGen (Turn root) ⟨schema, []⟩ w)
    (hstops : w.Stops root) : dereference root schema = w.schema :=
  (found_of_run hrun).symm.trans (found_of_stops hstops)

/-- A schema on the chain at which the loop stops is what dereferencing gives. -/
theorem Leads.dereference_eq (h : Leads root schema refs s) (hnodup : refs.Nodup)
    (hlength : refs.length ≤ maxFrames) (hstops : Stops root ⟨s, refs⟩) : dereference root schema = s :=
  dereference_eq_of_stops (reaches_iff.mpr ⟨h, hnodup, hlength⟩) hstops

/-- The chain leads to what dereferencing gives, and the loop stops there. -/
theorem leads_dereference (root schema : Json) :
    ∃ refs, Leads root schema refs (dereference root schema) ∧ refs.Nodup ∧
      refs.length ≤ maxFrames ∧ Stops root ⟨dereference root schema, refs⟩ := by
  obtain ⟨⟨s, refs⟩, hrun, hstops⟩ := exists_stops root ⟨schema, []⟩
  obtain ⟨h, hnodup, hlength⟩ := reaches_iff.mp hrun
  rw [h.dereference_eq hnodup hlength hstops]
  exact ⟨refs, h, hnodup, hlength, hstops⟩

/-! ## Where it stops -/

/-- If the chain follows no more references than there is room for, the loop stops at a reference only if
it dangles or was followed before. -/
theorem Leads.dangles_or_returns {reference : String} (h : Leads root schema refs s)
    (hbound : (followed root schema).encard ≤ maxFrames) (hnodup : refs.Nodup)
    (hstops : Stops root ⟨s, refs⟩) (href : reference? s = some reference) :
    target? root reference = none ∨ normalized reference ∈ refs := by
  rcases stops_iff.mp hstops reference href with hfull | hmem | hdangling
  · -- a target would be reached along one more reference than the chain follows
    by_contra hnot
    push Not at hnot
    obtain ⟨htarget, hnew⟩ := hnot
    obtain ⟨t, ht⟩ := Option.ne_none_iff_exists'.mp htarget
    have hle := ((h.step href ht).length_le_encard (List.nodup_cons.mpr ⟨hnew, hnodup⟩)).trans hbound
    have hle : (normalized reference :: refs).length ≤ maxFrames := by exact_mod_cast hle
    rw [List.length_cons] at hle
    omega
  · exact .inr hmem
  · exact .inl hdangling

/-- If the chain follows no more references than there is room for, and leads to a schema that is no
reference, dereferencing gives that schema. -/
theorem Leads.dereference_eq_of_none (h : Leads root schema refs s)
    (hbound : (followed root schema).encard ≤ maxFrames) (hnone : reference? s = none) :
    dereference root schema = s := by
  have hnodup := h.nodup hnone
  have hlength : refs.length ≤ maxFrames := by exact_mod_cast (h.length_le_encard hnodup).trans hbound
  refine h.dereference_eq hnodup hlength (stops_iff.mpr fun reference href => ?_)
  rw [hnone] at href
  cases href

/-! ## Dereferencing again -/

/-- A schema that is no reference, or dangles, dereferences to itself. -/
theorem dereference_of_dangles
    (h : ∀ reference, reference? s = some reference → target? root reference = none) :
    dereference root s = s :=
  Leads.start.dereference_eq List.nodup_nil (Nat.zero_le _)
    (stops_iff.mpr fun reference href => .inr (.inr (h reference href)))

/-- **A schema to which the loop has come along its own reference** dereferences to itself: from there the
loop goes round once. -/
theorem Leads.dereference_of_returns {reference : String} (h : Leads root schema refs s)
    (hnodup : refs.Nodup) (hlength : refs.length ≤ maxFrames) (href : reference? s = some reference)
    (hmem : normalized reference ∈ refs) : dereference root s = s := by
  obtain ⟨newer, older, t, rfl, htarget, -, hback⟩ := h.returns hmem
  -- once round: to the target of the reference, and back to the schema as the loop has come before
  have hround : Leads root s (newer ++ [normalized reference]) s :=
    (Leads.start.step href htarget).trans hback
  have hsublist : (newer ++ [normalized reference]).Sublist (newer ++ normalized reference :: older) :=
    (List.singleton_sublist.mpr List.mem_cons_self).append_left newer
  refine hround.dereference_eq (hnodup.sublist hsublist) (hsublist.length_le.trans hlength)
    (stops_iff.mpr fun other hother => .inr (.inl ?_))
  obtain rfl := Option.some.inj (href.symm.trans hother)
  exact List.mem_append_right newer List.mem_cons_self

/-- If the chain follows no more references than there is room for, dereferencing again gives the same. -/
theorem dereference_dereference (hbound : (followed root schema).encard ≤ maxFrames) :
    dereference root (dereference root schema) = dereference root schema := by
  obtain ⟨refs, h, hnodup, hlength, hstops⟩ := leads_dereference root schema
  by_cases hmem : ∃ reference, reference? (dereference root schema) = some reference ∧
      normalized reference ∈ refs
  · obtain ⟨reference, href, hmem⟩ := hmem
    exact h.dereference_of_returns hnodup hlength href hmem
  · refine dereference_of_dangles fun reference href => ?_
    exact (h.dangles_or_returns hbound hnodup hstops href).resolve_right fun hold =>
      hmem ⟨reference, href, hold⟩

/-- **Where dereferencing ends.** No run of the loop that follows references is endless, and dereferencing
gives the schema at which it stops. Let the chain of a schema follow at most as many references as frames
may be opened. If it leads to a schema that is no reference, then dereferencing gives that. If not, then
the chain leads along references all different to the schema that dereferencing gives, and its reference
dangles or is one of them. Either way that schema dereferences to itself. -/
theorem dereference_ends (root schema : Json) :
    WellFounded (fun w' w => Turn root w w') ∧
      (∃ last, ReflTransGen (Turn root) ⟨schema, []⟩ last ∧ last.Stops root) ∧
      (∀ last, ReflTransGen (Turn root) ⟨schema, []⟩ last → last.Stops root →
        dereference root schema = last.schema) ∧
      ((followed root schema).encard ≤ maxFrames →
        (∀ refs s, Leads root schema refs s → reference? s = none → dereference root schema = s) ∧
        ((∀ refs s, Leads root schema refs s → reference? s ≠ none) →
          ∃ refs reference, Leads root schema refs (dereference root schema) ∧ refs.Nodup ∧
            reference? (dereference root schema) = some reference ∧
            (target? root reference = none ∨ normalized reference ∈ refs)) ∧
        dereference root (dereference root schema) = dereference root schema) := by
  refine ⟨wellFounded_turn root, exists_stops root _, fun _ => dereference_eq_of_stops, fun hbound => ?_⟩
  refine ⟨fun _ _ h => h.dereference_eq_of_none hbound, fun hnone => ?_, dereference_dereference hbound⟩
  obtain ⟨refs, h, hnodup, -, hstops⟩ := leads_dereference root schema
  obtain ⟨reference, href⟩ := Option.ne_none_iff_exists'.mp (hnone refs _ h)
  exact ⟨refs, reference, h, hnodup, href, h.dangles_or_returns hbound hnodup hstops href⟩

/-- A schema that is a reference. -/
def referenceTo (reference : String) : Json := .object [("$ref", .string reference)]

/-- A document with a name for an object, and one for a schema that refers to itself in another spelling. -/
def chainedDocument : Json :=
  .object [("Alias", referenceTo "/Cdn"), ("Cdn", .object [("type", .string "object")]),
    ("Tail", referenceTo "/a~b"), ("a~b", referenceTo "#/a~0b")]

/-- The one name dereferences to the object. The other dereferences to the schema that refers to itself,
which the loop has come to along its own reference, and which dereferences to itself. -/
theorem dereference_ends_lasso :
    (followed chainedDocument (referenceTo "#/Alias")).encard ≤ maxFrames ∧
      dereference chainedDocument (referenceTo "#/Alias") = .object [("type", .string "object")] ∧
      (followed chainedDocument (referenceTo "#/Tail")).encard ≤ maxFrames ∧
      dereference chainedDocument (referenceTo "#/Tail") = referenceTo "#/a~0b" ∧
      (∃ refs, Leads chainedDocument (referenceTo "#/Tail") refs (referenceTo "#/a~0b") ∧
        refs.Nodup ∧ normalized "#/a~0b" ∈ refs) ∧
      dereference chainedDocument (referenceTo "#/a~0b") = referenceTo "#/a~0b" := by
  -- the schemas on both chains refer to each other only
  let schemas := [referenceTo "#/Alias", referenceTo "/Cdn", .object [("type", .string "object")],
    referenceTo "#/Tail", referenceTo "/a~b", referenceTo "#/a~0b"]
  have hclosed : ∀ s ∈ schemas, ∀ t, (reference? s).bind (target? chainedDocument) = some t →
      t ∈ schemas := by
    intro s hs t ht
    simp only [schemas, List.mem_cons, List.not_mem_nil, or_false] at hs ⊢
    rcases hs with rfl | rfl | rfl | rfl | rfl | rfl
    -- the object leads nowhere, each of the others to one of the schemas
    case inr.inr.inl => cases ht
    all_goals simp [← Option.some.inj ht]
  have hbound : ∀ s ∈ schemas, (followed chainedDocument s).encard ≤ maxFrames := fun s hs =>
    (encard_followed_le hs hclosed).trans (by decide)
  have halias := hbound (referenceTo "#/Alias") (by simp [schemas])
  have htail := hbound (referenceTo "#/Tail") (by simp [schemas])
  obtain ⟨-, -, -, hnamed⟩ := dereference_ends chainedDocument (referenceTo "#/Alias")
  obtain ⟨-, -, -, hlasso⟩ := dereference_ends chainedDocument (referenceTo "#/Tail")
  obtain ⟨hobject, -, -⟩ := hnamed halias
  obtain ⟨hnone, hreturns, hself⟩ := hlasso htail
  have hobject := hobject _ _ ((Leads.start.step rfl rfl).step rfl rfl) rfl
  have hfound : dereference chainedDocument (referenceTo "#/Tail") = referenceTo "#/a~0b" := rfl
  rw [hfound] at hnone hreturns hself
  obtain ⟨refs, reference, h, hnodup, href, hends⟩ := hreturns fun refs s hs hsnone => by
    rw [← hnone refs s hs hsnone] at hsnone
    cases hsnone
  obtain rfl := Option.some.inj (href : some "#/a~0b" = some reference)
  exact ⟨halias, hobject, htail, hfound, ⟨refs, h, hnodup, hends.resolve_left nofun⟩, hself⟩

end QueryableApi.OpenApi
