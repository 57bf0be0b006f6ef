import QueryableApi.Json.Reader
import QueryableApi.Proofs.Checks
import QueryableApi.Proofs.Entries

/-! # JSON values as trees

What holds of a JSON value if it holds of the values directly inside it holds of every value
(`Json.nestedInduction`). A value is part of another one if it is that value or lies somewhere inside
it (`Json.IsPart`). In what is read from a text, the members of every object have distinct names
(`Json.hasDistinctNames_of_read`). -/

namespace QueryableApi

/-- A value of a mapping is smaller than its entries. -/
theorem Entries.sizeOf_lt_of_mem_values {α : Type} [SizeOf α] {v : α} {es : Entries α}
    (h : v ∈ es.map Prod.snd) : sizeOf v < sizeOf es := by
  obtain ⟨e, he, rfl⟩ := List.mem_map.mp h
  have hentry := List.sizeOf_lt_of_mem he
  have hpair : sizeOf e = 1 + sizeOf e.1 + sizeOf e.2 := rfl
  omega

namespace Json

variable {v w part : Json}

/-- The values directly inside a value. -/
def parts : Json → List Json
  | .array items => items
  | .object members => members.map Prod.snd
  | _ => []

/-- What is directly inside a value is smaller. -/
theorem sizeOf_lt_of_mem_parts (h : v ∈ w.parts) : sizeOf v < sizeOf w := by
  cases w with
  | array items =>
      have hmem : sizeOf v < sizeOf items := List.sizeOf_lt_of_mem h
      simp only [array.sizeOf_spec]
      omega
  | object members =>
      have hmem : sizeOf v < sizeOf members := Entries.sizeOf_lt_of_mem_values h
      simp only [object.sizeOf_spec]
      omega
  | _ => cases h

/-- **Induction on the nesting of JSON values.** -/
@[elab_as_elim]
theorem nestedInduction {motive : Json → Prop}
    (step : ∀ v : Json, (∀ inner ∈ v.parts, motive inner) → motive v) (v : Json) : motive v :=
  step v fun inner hinner => by
    have := sizeOf_lt_of_mem_parts hinner
    exact nestedInduction step inner
termination_by sizeOf v

/-- A value **is part** of another one: it is that value, or part of one directly inside it. -/
inductive IsPart (part : Json) : Json → Prop
  /-- A value is part of itself. -/
  | self : IsPart part part
  /-- What is part of an inner value is part of the outer one. -/
  | inside {v w : Json} (hv : v ∈ w.parts) (hpart : IsPart part v) : IsPart part w

/-- The parts of a value are the value and the parts of those directly inside it. -/
theorem isPart_iff : IsPart part w ↔ part = w ∨ ∃ v ∈ w.parts, IsPart part v := by
  constructor
  · intro h
    cases h with
    | self => exact .inl rfl
    | inside hv hpart => exact .inr ⟨_, hv, hpart⟩
  · rintro (rfl | ⟨v, hv, hpart⟩)
    · exact .self
    · exact .inside hv hpart

/-- A condition holds **at every part** of a value. -/
def AtEveryPart (condition : Json → Prop) (v : Json) : Prop := ∀ part, IsPart part v → condition part

/-- It does iff it holds of the value and at every part of those directly inside it. -/
theorem atEveryPart_iff {condition : Json → Prop} :
    v.AtEveryPart condition ↔ condition v ∧ ∀ w ∈ v.parts, w.AtEveryPart condition := by
  constructor
  · intro h
    exact ⟨h v .self, fun w hw part hpart => h part (.inside hw hpart)⟩
  · rintro ⟨hself, hparts⟩ part hpart
    rcases isPart_iff.mp hpart with rfl | ⟨w, hw, hpart⟩
    · exact hself
    · exact hparts w hw part hpart

/-- What is directly inside a value is what its members or items are. -/
theorem mem_parts_of_get? {key : String} (h : w.get? key = some v) : v ∈ w.parts := by
  cases w with
  | object members => exact List.mem_map_of_mem (Entries.mem_of_get? h)
  | _ => cases h

/-- What is an array is the array with its items. -/
theorem eq_array_of_array? {items : List Json} (h : v.array? = some items) : v = array items := by
  cases v with
  | array _ => exact congrArg array (Option.some.inj h)
  | _ => cases h

/-! ## Distinct names -/

/-- The members of an object have distinct names. -/
def IsDistinct : Json → Prop
  | .object members => Entries.Distinct members
  | _ => True

/-- A value **has distinct names**: no object in it has two members of one name. -/
def HasDistinctNames (v : Json) : Prop := v.AtEveryPart IsDistinct

mutual

/-- What a raw value denotes has distinct names, since the later of two members wins. -/
theorem hasDistinctNames_of_json? {room : Nat} :
    ∀ {raw : Raw} {v : Json}, raw.json? room = some v → v.HasDistinctNames
  | .null, v, h => by
      obtain rfl := Option.some.inj h
      exact atEveryPart_iff.mpr ⟨trivial, List.forall_mem_nil _⟩
  | .bool b, v, h => by
      obtain rfl := Option.some.inj h
      exact atEveryPart_iff.mpr ⟨trivial, List.forall_mem_nil _⟩
  | .number n, v, h => by
      obtain ⟨n, -, rfl⟩ := Option.map_eq_some_iff.mp h
      exact atEveryPart_iff.mpr ⟨trivial, List.forall_mem_nil _⟩
  | .string s, v, h => by
      obtain ⟨s, -, rfl⟩ := Option.map_eq_some_iff.mp h
      exact atEveryPart_iff.mpr ⟨trivial, List.forall_mem_nil _⟩
  | .array items, v, h => by
      cases room with
      | zero => cases h
      | succ room =>
          obtain ⟨vs, hvs, rfl⟩ := Option.map_eq_some_iff.mp h
          exact atEveryPart_iff.mpr ⟨trivial, hasDistinctNames_of_jsonItems? hvs⟩
  | .object members, v, h => by
      cases room with
      | zero => cases h
      | succ room =>
          obtain ⟨ms, hms, rfl⟩ := Option.map_eq_some_iff.mp h
          refine atEveryPart_iff.mpr ⟨Entries.distinct_ofList ms, fun w hw => ?_⟩
          obtain ⟨m, hm, rfl⟩ := List.mem_map.mp hw
          -- an entry that is left was written by some member
          rcases @Entries.mem_extend _ [] ms List.nodup_nil m hm with hm | ⟨hnil, -⟩
          · exact hasDistinctNames_of_jsonMembers? hms m hm
          · cases hnil

/-- What raw items denote has distinct names. -/
theorem hasDistinctNames_of_jsonItems? {room : Nat} :
    ∀ {items : List Raw} {vs : List Json}, Raw.jsonItems? room items = some vs →
      ∀ v ∈ vs, v.HasDistinctNames
  | [], vs, h, v, hv => by
      obtain rfl := Option.some.inj h
      cases hv
  | raw :: rest, vs, h, v, hv => by
      rw [Raw.jsonItems?] at h
      split at h
      · next first others hfirst hothers =>
        obtain rfl := Option.some.inj h
        rcases List.mem_cons.mp hv with rfl | hv
        · exact hasDistinctNames_of_json? hfirst
        · exact hasDistinctNames_of_jsonItems? hothers v hv
      · cases h

/-- What raw members denote has distinct names. -/
theorem hasDistinctNames_of_jsonMembers? {room : Nat} :
    ∀ {members : List (Option String × Raw)} {ms : List (String × Json)},
      Raw.jsonMembers? room members = some ms → ∀ m ∈ ms, m.2.HasDistinctNames
  | [], ms, h, m, hm => by
      obtain rfl := Option.some.inj h
      cases hm
  | (k, raw) :: rest, ms, h, m, hm => by
      unfold Raw.jsonMembers? at h
      split at h
      · next name first others hfirst hothers =>
        obtain rfl := Option.some.inj h
        rcases List.mem_cons.mp hm with rfl | hm
        · exact hasDistinctNames_of_json? hfirst
        · exact hasDistinctNames_of_jsonMembers? hothers m hm
      · cases h

end

variable {members : Entries Json}

/-- The members of an object with distinct names have distinct names themselves. -/
theorem HasDistinctNames.distinct (h : (object members).HasDistinctNames) : Entries.Distinct members :=
  (atEveryPart_iff.mp h).1

/-- What is inside a value with distinct names has distinct names. -/
theorem HasDistinctNames.of_mem_parts (h : w.HasDistinctNames) (hv : v ∈ w.parts) :
    v.HasDistinctNames :=
  (atEveryPart_iff.mp h).2 v hv

/-- **What is read has distinct names.** -/
theorem hasDistinctNames_of_read {text : String} (h : read text = .ok v) : v.HasDistinctNames := by
  obtain ⟨raw, -, h⟩ := Checks.bind_eq_ok_iff.mp h
  split at h
  · next hjson =>
    obtain rfl := Except.ok.inj h
    exact hasDistinctNames_of_json? hjson
  · cases h

end Json

end QueryableApi
