import Mathlib.Data.Set.Card
import QueryableApi.OpenApi.Reference

/-! # Chains of references

A schema that is a reference leads to its target, the target perhaps to another, and so on along a
**chain** (`Leads`). There is one way on from each schema, so of two schemas on a chain one leads to the
other (`Leads.total`). Where a chain comes to a reference that it has followed before, it has come from the
target of that reference (`Leads.returns`) and goes round from there. It never ends then: a chain up to a
schema that is no reference follows none twice (`Leads.nodup`). -/

namespace QueryableApi.OpenApi

variable {root schema s t u : Json} {reference : String} {refs others more : List (List Char)}

/-- A chain **leads** from a schema to another one along references, which are given without a leading
number sign, the last first. -/
inductive Leads (root schema : Json) : List (List Char) → Json → Prop
  /-- It starts at the schema. -/
  | start : Leads root schema [] schema
  /-- It goes on from a reference to its target. -/
  | step {refs : List (List Char)} {s t : Json} {reference : String} (h : Leads root schema refs s)
      (href : reference? s = some reference) (htarget : target? root reference = some t) :
      Leads root schema (normalized reference :: refs) t

/-- The references that the chain of a schema **follows**, without a leading number sign. A reference that
dangles is not followed. -/
def followed (root schema : Json) : Set (List Char) :=
  {r | ∃ refs s, Leads root schema refs s ∧ r ∈ refs}

/-- References that differ by one leading number sign have the same target. -/
theorem target?_congr {first second : String} (h : normalized first = normalized second) :
    target? root first = target? root second := by
  rw [target?, target?, h]

namespace Leads

/-! ## Pieces of chains -/

/-- Two chains one after the other are a chain. -/
theorem trans (h : Leads root schema refs s) (h' : Leads root s more t) :
    Leads root schema (more ++ refs) t := by
  induction h' with
  | start => exact h
  | step _ href htarget ih => exact ih.step href htarget

/-- A chain can be cut in two anywhere. -/
theorem split (h : Leads root schema (more ++ refs) t) :
    ∃ s, Leads root schema refs s ∧ Leads root s more t := by
  induction more generalizing t with
  | nil => exact ⟨t, h, .start⟩
  | cons r rest ih =>
      cases h with
      | step h href htarget =>
          obtain ⟨s, hs, hrest⟩ := ih h
          exact ⟨s, hs, hrest.step href htarget⟩

/-- A chain ends where it starts, or goes to the target of the first schema first. -/
theorem head_cases (h : Leads root s refs u) :
    (refs = [] ∧ u = s) ∨ ∃ reference t more, reference? s = some reference ∧
      target? root reference = some t ∧ refs = more ++ [normalized reference] ∧ Leads root t more u := by
  induction h with
  | start => exact .inl ⟨rfl, rfl⟩
  | @step _ _ v last _ href htarget ih =>
      refine .inr ?_
      rcases ih with ⟨rfl, rfl⟩ | ⟨first, t, more, hfirst, ht, rfl, hmore⟩
      · exact ⟨last, v, [], href, htarget, rfl, .start⟩
      · exact ⟨first, t, normalized last :: more, hfirst, ht, rfl, hmore.step href htarget⟩

/-- From a schema that is no reference, a chain leads nowhere else. -/
theorem eq_of_none (h : Leads root s refs t) (hnone : reference? s = none) : refs = [] ∧ t = s := by
  rcases h.head_cases with hstart | ⟨_, _, _, href, _⟩
  · exact hstart
  · rw [hnone] at href
    cases href

/-- **Of two schemas on a chain** one leads to the other. -/
theorem total (h : Leads root schema refs s) (h' : Leads root schema others t) :
    (∃ more, others = more ++ refs ∧ Leads root s more t) ∨
      ∃ more, refs = more ++ others ∧ Leads root t more s := by
  induction h' with
  | start => exact .inr ⟨refs, (List.append_nil refs).symm, h⟩
  | @step _ _ v last _ href htarget ih =>
      rcases ih with ⟨more, rfl, hmore⟩ | ⟨more, rfl, hmore⟩
      · exact .inl ⟨normalized last :: more, rfl, hmore.step href htarget⟩
      · -- the first chain goes on from the schema before the last one, unless it ends there
        rcases hmore.head_cases with ⟨rfl, rfl⟩ | ⟨first, w, rest, hfirst, hw, rfl, hrest⟩
        · exact .inl ⟨[normalized last], rfl, .step .start href htarget⟩
        · obtain rfl := Option.some.inj (href.symm.trans hfirst)
          obtain rfl := Option.some.inj (htarget.symm.trans hw)
          exact .inr ⟨rest, List.append_assoc rest [_] _, hrest⟩

/-- To a schema that is no reference, a chain leads in one way. -/
theorem unique (h : Leads root schema refs s) (h' : Leads root schema others s)
    (hnone : reference? s = none) : refs = others := by
  rcases h.total h' with ⟨more, rfl, hmore⟩ | ⟨more, rfl, hmore⟩
  · rw [(hmore.eq_of_none hnone).1, List.nil_append]
  · rw [(hmore.eq_of_none hnone).1, List.nil_append]

/-! ## References that come again -/

/-- **A reference that was followed before** has a target, and the chain comes from there. -/
theorem returns (h : Leads root schema refs s) (hmem : normalized reference ∈ refs) :
    ∃ newer older t, refs = newer ++ normalized reference :: older ∧
      target? root reference = some t ∧ Leads root schema (normalized reference :: older) t ∧
      Leads root t newer s := by
  obtain ⟨newer, older, rfl⟩ := List.append_of_mem hmem
  obtain ⟨t, hbefore, hafter⟩ := h.split
  refine ⟨newer, older, t, rfl, ?_, hbefore, hafter⟩
  -- the reference that was followed then is the same up to the number sign
  generalize hr : normalized reference = r at hbefore
  cases hbefore with
  | step _ _ htarget => exact (target?_congr hr).trans htarget

/-- A chain to a schema that is no reference follows none twice, up to any schema on the way. -/
theorem nodup_before (h : Leads root schema refs s) (hend : Leads root s more t)
    (hnone : reference? t = none) : refs.Nodup := by
  induction h generalizing more with
  | start => exact List.nodup_nil
  | @step before u v reference h href htarget ih =>
      have hrest : Leads root u (more ++ [normalized reference]) t :=
        (Leads.start.step href htarget).trans hend
      refine List.nodup_cons.mpr ⟨fun hmem => ?_, ih hrest⟩
      -- else the chain goes round from `v` to `v`, so there is a longer way from `v` to the end
      obtain ⟨newer, older, w, -, hw, -, hround⟩ := h.returns hmem
      obtain rfl := Option.some.inj (htarget.symm.trans hw)
      have hlonger := hend.unique ((hround.step href htarget).trans hend) hnone
      have hlength := congrArg List.length hlonger
      rw [List.length_append, List.length_cons] at hlength
      omega

/-- **A chain that ends** at a schema that is no reference follows none twice. -/
theorem nodup (h : Leads root schema refs s) (hnone : reference? s = none) : refs.Nodup :=
  h.nodup_before .start hnone

end Leads

/-! ## How many references a chain follows -/

/-- References that a chain follows, each once, are at most as many as it follows at all. -/
theorem Leads.length_le_encard (h : Leads root schema refs s) (hnodup : refs.Nodup) :
    (refs.length : ℕ∞) ≤ (followed root schema).encard := by
  have hsubset : (refs.toFinset : Set (List Char)) ⊆ followed root schema := fun r hr =>
    ⟨refs, s, h, List.mem_toFinset.mp (Finset.mem_coe.mp hr)⟩
  have hle := Set.encard_le_encard hsubset
  rwa [Set.encard_coe_eq_coe_finsetCard, List.toFinset_card_of_nodup hnodup] at hle

/-- A chain stays among schemas that refer to each other only. -/
theorem Leads.mem_of_closed {schemas : List Json} (hschema : schema ∈ schemas)
    (hclosed : ∀ s ∈ schemas, ∀ t, (reference? s).bind (target? root) = some t → t ∈ schemas)
    (h : Leads root schema refs s) : s ∈ schemas := by
  induction h with
  | start => exact hschema
  | step _ href htarget ih => exact hclosed _ ih _ (by rw [href]; exact htarget)

/-- **A chain among some schemas** follows at most as many references. -/
theorem encard_followed_le {schemas : List Json} (hschema : schema ∈ schemas)
    (hclosed : ∀ s ∈ schemas, ∀ t, (reference? s).bind (target? root) = some t → t ∈ schemas) :
    (followed root schema).encard ≤ schemas.length := by
  have hsubset : followed root schema
      ⊆ ((schemas.filterMap fun s => (reference? s).map normalized).toFinset : Set (List Char)) := by
    rintro r ⟨refs, s, h, hr⟩
    rw [Finset.mem_coe, List.mem_toFinset, List.mem_filterMap]
    obtain ⟨newer, older, rfl⟩ := List.append_of_mem hr
    obtain ⟨t, hbefore, -⟩ := h.split
    cases hbefore with
    | @step _ u _ reference hu href =>
        exact ⟨u, hu.mem_of_closed hschema hclosed, by rw [href]; rfl⟩
  calc (followed root schema).encard
      ≤ ((schemas.filterMap fun s => (reference? s).map normalized).toFinset : Set (List Char)).encard :=
        Set.encard_le_encard hsubset
    _ = ((schemas.filterMap fun s => (reference? s).map normalized).toFinset.card : ℕ∞) :=
        Set.encard_coe_eq_coe_finsetCard _
    _ ≤ schemas.length := by
        exact_mod_cast (List.toFinset_card_le _).trans (List.length_filterMap_le _ _)

end QueryableApi.OpenApi
