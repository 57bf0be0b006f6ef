import QueryableApi.Proofs.Schema

/-! # Schemas at every level

Properties carry schemas of their own, and so on, so what holds of a property if it holds of those nested
in it holds of every property (`Property.nestedInduction`). A condition on schemas holds at every level if
it holds of a schema and at every level of each schema nested in it (`Schema.AtEveryLevel`). Levels are
counted down to the last one that has properties (`Schema.NestsWithin`). -/

namespace QueryableApi

/-- **Induction on the nesting of properties.** -/
@[elab_as_elim]
theorem Property.nestedInduction {motive : Property → Prop}
    (step : ∀ p : Property,
      (∀ inner, p.nested = some inner → ∀ q ∈ inner, motive q) → motive p)
    (p : Property) : motive p :=
  step p fun inner hinner q hq => by
    have hmem := List.sizeOf_lt_of_mem hq
    have hnested : sizeOf inner < sizeOf p := by
      cases p
      cases hinner
      simp
      omega
    exact nestedInduction step q
termination_by sizeOf p

/-- A condition holds of a schema **at every level**: of the schema itself, and at every level of each
schema that a property carries. -/
inductive Schema.AtEveryLevel (condition : Schema → Prop) : Schema → Prop
  /-- It holds of the schema and below. -/
  | intro {schema : Schema} (here : condition schema)
      (below : ∀ p ∈ schema, ∀ nested, p.nested = some nested → AtEveryLevel condition nested) :
      AtEveryLevel condition schema

namespace Schema.AtEveryLevel

variable {schema inner : Schema} {first second : Schema → Prop} {p : Property}

/-- It holds of the schema itself. -/
theorem holds (h : AtEveryLevel first schema) : first schema := by
  cases h with
  | intro here _ => exact here

/-- It holds at every level of a nested schema. -/
theorem of_nested (h : AtEveryLevel first schema) (hp : p ∈ schema) (hinner : p.nested = some inner) :
    AtEveryLevel first inner := by
  cases h with
  | intro _ below => exact below p hp inner hinner

/-- Where no property carries a schema, there is one level. -/
theorem of_flat (here : first schema) (hflat : ∀ p ∈ schema, p.nested = none) :
    AtEveryLevel first schema := by
  refine .intro here fun p hp inner hinner => ?_
  rw [hflat p hp] at hinner
  cases hinner

/-- What a condition implies holds at every level where it does. -/
theorem imp (h : AtEveryLevel first schema) (himp : ∀ s, first s → second s) :
    AtEveryLevel second schema := by
  induction h with
  | intro here _ ih => exact .intro (himp _ here) ih

/-- Two conditions that hold at every level hold together. -/
theorem and (h : AtEveryLevel first schema) (h' : AtEveryLevel second schema) :
    AtEveryLevel (fun s => first s ∧ second s) schema := by
  induction h with
  | intro here _ ih =>
      refine .intro ⟨here, h'.holds⟩ fun p hp inner hinner => ?_
      exact ih p hp inner hinner (h'.of_nested hp hinner)

end Schema.AtEveryLevel

/-- A property **carries a schema if it needs one**: if it is an object or a list of objects. -/
def Property.CarriesNested (p : Property) : Prop :=
  p.kind = .ok .object ∨ p.kind = .ok .array ∧ p.itemsKind = .ok (some .object) →
    ∃ nested, p.nested = some nested

/-- Every property of a schema **carries a schema if it needs one**. -/
def Schema.CarriesNested (schema : Schema) : Prop := ∀ p ∈ schema, p.CarriesNested

namespace Schema

variable {schema : Schema} {levels : Nat}

/-- A schema **nests at most so many levels deep**: there are no more levels with properties. -/
def NestsWithin : Nat → Schema → Prop
  | 0, schema => schema = []
  | levels + 1, schema => ∀ p ∈ schema, ∀ inner, p.nested = some inner → NestsWithin levels inner

/-- A schema without properties has no levels. -/
theorem nestsWithin_nil (levels : Nat) : NestsWithin levels [] := by
  cases levels with
  | zero => rfl
  | succ levels => exact fun p hp => absurd hp List.not_mem_nil

/-- What nests within a bound nests within a larger one. -/
theorem NestsWithin.succ (h : NestsWithin levels schema) : NestsWithin (levels + 1) schema := by
  induction levels generalizing schema with
  | zero =>
      obtain rfl : schema = [] := h
      exact nestsWithin_nil 1
  | succ levels ih => exact fun p hp inner hinner => ih (h p hp inner hinner)

/-- What nests within a bound does so at every level. -/
theorem NestsWithin.atEveryLevel (h : NestsWithin levels schema) :
    AtEveryLevel (NestsWithin levels) schema := by
  induction levels generalizing schema with
  | zero =>
      obtain rfl : schema = [] := h
      exact .of_flat (nestsWithin_nil 0) (by simp)
  | succ levels ih =>
      refine .intro h fun p hp inner hinner => ?_
      exact (ih (h p hp inner hinner)).imp fun _ => NestsWithin.succ

end Schema

end QueryableApi
