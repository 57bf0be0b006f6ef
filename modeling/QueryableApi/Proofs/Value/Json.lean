import QueryableApi.Proofs.Double
import QueryableApi.Proofs.Entries
import QueryableApi.Proofs.Json
import QueryableApi.Value

/-! # Values and JSON

JSON values and values are turned into each other part by part, so only their numbers decide what comes
back. Doubles that are no numbers become null on the way to JSON (`Value.ofJson_toJson`), and whole
numbers that no signed 64 bits hold become doubles on the way from it (`Value.toJson_ofJson_iff`). A
second round trip changes nothing more (`Value.json_round_trips`). -/

namespace QueryableApi

/-- A whole number is not beyond the signed ones of 64 bits. -/
def Json.IsSigned : Json → Prop
  | .number (.int n) => n.val < 2 ^ 63
  | _ => True

/-- A JSON value **fits the signed whole numbers**: none of the whole numbers in it is beyond them. -/
def Json.FitsSigned (v : Json) : Prop := v.AtEveryPart IsSigned

namespace Value

/-! ## Values as trees -/

/-- The values directly inside a value. -/
def parts : Value → List Value
  | list items => items
  | map entries => entries.map Prod.snd
  | _ => []

/-- What is directly inside a value is smaller. -/
theorem sizeOf_lt_of_mem_parts {v w : Value} (h : v ∈ w.parts) : sizeOf v < sizeOf w := by
  cases w with
  | list items =>
      have hmem : sizeOf v < sizeOf items := List.sizeOf_lt_of_mem h
      simp only [list.sizeOf_spec]
      omega
  | map entries =>
      have hmem : sizeOf v < sizeOf entries := Entries.sizeOf_lt_of_mem_values h
      simp only [map.sizeOf_spec]
      omega
  | _ => cases h

/-- **Induction on the nesting of values.** -/
@[elab_as_elim]
theorem nestedInduction {motive : Value → Prop}
    (step : ∀ v : Value, (∀ inner ∈ v.parts, motive inner) → motive v) (v : Value) : motive v :=
  step v fun inner hinner => by
    have := sizeOf_lt_of_mem_parts hinner
    exact nestedInduction step inner
termination_by sizeOf v

/-! ## Conversions, part by part -/

/-- An array becomes the list of what its items become. -/
theorem ofJson_array (items : List Json) : ofJson (.array items) = list (items.map ofJson) := by
  have hitems : ofJsonItems items = items.map ofJson := by
    induction items with
    | nil => rfl
    | cons v rest ih => rw [ofJsonItems, ih, List.map_cons]
  rw [ofJson, hitems]

/-- An object becomes the map with the same names, in the same order. -/
theorem ofJson_object (members : Entries Json) :
    ofJson (.object members) = map (Entries.mapValues ofJson members) := by
  have hmembers : ofJsonMembers members = Entries.mapValues ofJson members := by
    induction members with
    | nil => rfl
    | cons m rest ih => rw [ofJsonMembers, ih, Entries.mapValues, Entries.mapValues, List.map_cons]
  rw [ofJson, hmembers]

/-- A list becomes the array of what its items become. -/
theorem toJson_list (items : List Value) : toJson (list items) = .array (items.map toJson) := by
  have hitems : toJsonItems items = items.map toJson := by
    induction items with
    | nil => rfl
    | cons v rest ih => rw [toJsonItems, ih, List.map_cons]
  rw [toJson, hitems]

/-- A map becomes the object with the same names, in the same order. -/
theorem toJson_map (entries : Entries Value) :
    toJson (map entries) = .object (Entries.mapValues toJson entries) := by
  have hentries : toJsonMembers entries = Entries.mapValues toJson entries := by
    induction entries with
    | nil => rfl
    | cons e rest ih => rw [toJsonMembers, ih, Entries.mapValues, Entries.mapValues, List.map_cons]
  rw [toJson, hentries]

/-! ## Doubles that are no numbers -/

mutual

/-- The value with each double that is no number replaced by null. -/
def withFiniteFloats : Value → Value
  | float x => x.finite?.elim null fun y => float (.finite y)
  | list items => list (itemsWithFiniteFloats items)
  | map entries => map (entriesWithFiniteFloats entries)
  | v => v

/-- The values of a list with each double that is no number replaced by null. -/
def itemsWithFiniteFloats : List Value → List Value
  | [] => []
  | v :: rest => withFiniteFloats v :: itemsWithFiniteFloats rest

/-- The entries of a map with each double that is no number replaced by null. -/
def entriesWithFiniteFloats : List (String × Value) → List (String × Value)
  | [] => []
  | (k, v) :: rest => (k, withFiniteFloats v) :: entriesWithFiniteFloats rest

end

/-- In a list they are replaced in each item. -/
theorem withFiniteFloats_list (items : List Value) :
    withFiniteFloats (list items) = list (items.map withFiniteFloats) := by
  have hitems : itemsWithFiniteFloats items = items.map withFiniteFloats := by
    induction items with
    | nil => rfl
    | cons v rest ih => rw [itemsWithFiniteFloats, ih, List.map_cons]
  rw [withFiniteFloats, hitems]

/-- In a map they are replaced under each name, and the names stay in order. -/
theorem withFiniteFloats_map (entries : Entries Value) :
    withFiniteFloats (map entries) = map (Entries.mapValues withFiniteFloats entries) := by
  have hentries : entriesWithFiniteFloats entries = Entries.mapValues withFiniteFloats entries := by
    induction entries with
    | nil => rfl
    | cons e rest ih =>
        rw [entriesWithFiniteFloats, ih, Entries.mapValues, Entries.mapValues, List.map_cons]
  rw [withFiniteFloats, hentries]

/-! ## Numbers -/

/-- A whole number of 64 bits comes back from JSON. -/
theorem ofNumber_numberOf (n : Int64) : ofNumber (numberOf n) = int n := by
  show (if n.toInt ≤ Int64.maxValue.toInt then int (Int64.ofInt n.toInt) else _) = int n
  rw [if_pos (Int64.toInt_le n), Int64.ofInt_toInt]

/-- A whole number that is not beyond the signed ones is taken as it is. -/
theorem ofNumber_of_lt {n : Json.Integer} (h : n.val < 2 ^ 63) :
    ofNumber (.int n) = int (Int64.ofInt n.val) := by
  have hle : n.val ≤ Int64.maxValue.toInt := Int.le_of_lt_add_one h
  rw [ofNumber, if_pos hle]

/-- A whole number beyond the signed ones is taken as the double that is nearest to it. -/
theorem exists_ofNumber_of_le {n : Json.Integer} (h : 2 ^ 63 ≤ n.val) :
    ∃ x : Double.Finite, ofNumber (.int n) = float (.finite x) := by
  have hgt : ¬n.val ≤ Int64.maxValue.toInt := Int.not_le.mpr (Int.lt_of_lt_of_le (by decide) h)
  have hbound := n.bounded
  -- 64 bits are far from what rounds to infinity
  obtain ⟨x, hx, -⟩ := Double.ofInt_eq_finite (n := n.val) (by omega)
  exact ⟨x, by rw [ofNumber, if_neg hgt, hx]⟩

/-- Numbers from JSON are finite. -/
theorem withFiniteFloats_ofNumber (n : Json.Number) : (ofNumber n).withFiniteFloats = ofNumber n := by
  cases n with
  | int n =>
      rcases Int.lt_or_le n.val (2 ^ 63) with hlt | hle
      · rw [ofNumber_of_lt hlt]
        rfl
      · obtain ⟨x, hx⟩ := exists_ofNumber_of_le hle
        rw [hx]
        rfl
  | float x => rfl

/-- A number comes back from a value iff it is no whole number beyond the signed ones. -/
theorem toJson_ofNumber_iff (n : Json.Number) :
    toJson (ofNumber n) = .number n ↔ Json.IsSigned (.number n) := by
  cases n with
  | int n =>
      rcases Int.lt_or_le n.val (2 ^ 63) with hlt | hle
      · refine iff_of_true ?_ hlt
        have hint : (Int64.ofInt n.val).toInt = n.val := Int64.toInt_ofInt_of_le n.least hlt
        rw [ofNumber_of_lt hlt, toJson, numberOf]
        simp only [hint]
      · -- the nearest double is another kind of number
        obtain ⟨x, hx⟩ := exists_ofNumber_of_le hle
        rw [hx]
        exact iff_of_false (fun h => by cases h) (Int.not_lt.mpr hle)
  | float x => exact iff_of_true rfl trivial

/-! ## Round trips -/

/-- **From a value to JSON and back**: each double that is no number has become null, and nothing else
has changed. -/
theorem ofJson_toJson (x : Value) : ofJson (toJson x) = x.withFiniteFloats := by
  induction x using nestedInduction with
  | step x ih =>
      cases x with
      | null | text s | bool b => rfl
      | int n => exact ofNumber_numberOf n
      | float x => cases x <;> rfl
      | list items =>
          rw [toJson_list, ofJson_array, withFiniteFloats_list, List.map_map]
          exact congrArg list (List.map_congr_left ih)
      | map entries =>
          rw [toJson_map, ofJson_object, withFiniteFloats_map, Entries.mapValues_mapValues]
          exact congrArg map (Entries.mapValues_inj_left.mpr ih)

/-- Values from JSON have no doubles that are no numbers. -/
theorem withFiniteFloats_ofJson (v : Json) : (ofJson v).withFiniteFloats = ofJson v := by
  induction v using Json.nestedInduction with
  | step v ih =>
      cases v with
      | null | bool b | string s => rfl
      | number n => exact withFiniteFloats_ofNumber n
      | array items =>
          rw [ofJson_array, withFiniteFloats_list, List.map_map]
          exact congrArg list (List.map_congr_left ih)
      | object members =>
          rw [ofJson_object, withFiniteFloats_map, Entries.mapValues_mapValues]
          exact congrArg map (Entries.mapValues_inj_left.mpr ih)

/-- **From JSON to a value and back** nothing changes iff the whole numbers fit. -/
theorem toJson_ofJson_iff (v : Json) : toJson (ofJson v) = v ↔ v.FitsSigned := by
  induction v using Json.nestedInduction with
  | step v ih =>
      rw [Json.FitsSigned, Json.atEveryPart_iff]
      cases v with
      | null | bool b | string s => exact iff_of_true rfl ⟨trivial, List.forall_mem_nil _⟩
      | number n =>
          have hparts : ∀ w ∈ (Json.number n).parts, w.FitsSigned := List.forall_mem_nil _
          exact (toJson_ofNumber_iff n).trans (and_iff_left hparts).symm
      | array items =>
          have hitems := @List.map_inj_left _ _ items (toJson ∘ ofJson) id
          rw [List.map_id] at hitems
          rw [ofJson_array, toJson_list, List.map_map, Json.array.injEq, hitems]
          exact (forall₂_congr ih).trans (and_iff_right trivial).symm
      | object members =>
          have hmembers := @Entries.mapValues_inj_left _ _ (toJson ∘ ofJson) id members
          rw [Entries.mapValues_id] at hmembers
          rw [ofJson_object, toJson_map, Entries.mapValues_mapValues, Json.object.injEq, hmembers]
          exact (forall₂_congr ih).trans (and_iff_right trivial).symm

/-- **Round trips between values and JSON.** A value that comes from JSON comes back from a round trip; a
JSON value does iff no whole number in it is beyond the signed ones of 64 bits; and any other value does
with each double that is no number replaced by null. -/
theorem json_round_trips :
    (∀ v : Json, ofJson (toJson (ofJson v)) = ofJson v) ∧
      (∀ v : Json, toJson (ofJson v) = v ↔ v.FitsSigned) ∧
      ∀ x : Value, ofJson (toJson x) = x.withFiniteFloats :=
  ⟨fun v => by rw [ofJson_toJson, withFiniteFloats_ofJson], toJson_ofJson_iff, ofJson_toJson⟩

end Value

end QueryableApi
