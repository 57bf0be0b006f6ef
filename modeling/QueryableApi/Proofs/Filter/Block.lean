import QueryableApi.Proofs.Queryable.Filters

/-! # The filter block, entry by entry

The values of a filter block (`requestedBlock?`) are taken one by one: each is read as an entry by
itself, wherever it stands (`FilterEntry.IsReadFrom`), and checked by itself, so the filters of a
request are those that the values of its block stand for, in order (`asks_iff`). What fails in
reading is the first fault of the block (`requestedFilters_eq_error_iff`), and what fails in checking
is said by `FilterEntry.Misfits`. -/

namespace QueryableApi

open Queryable (Asks)

variable {schema : Schema} {attributes : Entries Value} {block : List Value} {v : Value}
  {entry : FilterEntry} {entries : List FilterEntry} {f : Filter} {filters : List Filter}
  {failure : Failure} {index : Nat}

/-- The values of the filter block of a request: none if there is no block. -/
def requestedBlock? (attributes : Entries Value) : Option (List Value) :=
  match Entries.get? filterField attributes with
  | none | some .null => some []
  | some (.list block) => some block
  | some _ => none

/-- An entry is **read from a value** of a filter block, wherever the value stands in it. -/
def FilterEntry.IsReadFrom (entry : FilterEntry) (v : Value) : Prop :=
  ∀ index, ofValue index v = .ok entry

/-- A value of a filter block **stands for a filter**: the entry that is read from it fits the
schema. -/
def Filter.IsOf (schema : Schema) (v : Value) (f : Filter) : Prop :=
  ∃ entry : FilterEntry, entry.IsReadFrom v ∧ entry.validate schema = .ok f

/-! ## Reading -/

namespace FilterEntry

/-- The fields of a block **have a name**: a text that is not blank, trimmed. -/
def HasName (fields : Entries Value) (name : String) : Prop :=
  ∃ written, Entries.get? filterNameField fields = some (.text written) ∧
    Text.isBlankText written = false ∧ Text.trim written = name

/-- The fields of a block **list values**: none if there is no list, else the texts of scalars. -/
inductive ListsValues (fields : Entries Value) : List String → Prop
  /-- There is no list. -/
  | absent (missing : Entries.get? filterValuesField fields = none ∨
      Entries.get? filterValuesField fields = some .null) : ListsValues fields []
  /-- There is a list of scalars. -/
  | scalars {items : List Value} {texts : List String}
      (found : Entries.get? filterValuesField fields = some (.list items))
      (scalar : List.Forall₂ (fun v text => v.canonicalText = some text) items texts) :
      ListsValues fields texts

/-- **Why the fields of a block list no values** of a name: there is something that is no list, or the
first of the values that are no scalars. -/
inductive MislistsValues (fields : Entries Value) (name : String) : FilterFault → Prop
  /-- There is something that is no list. -/
  | notList {v : Value} (found : Entries.get? filterValuesField fields = some v)
      (notNull : v ≠ .null) (notList : ∀ items, v ≠ .list items) :
      MislistsValues fields name (.valuesNotList name v.kindName)
  /-- A value is no scalar, and every value before it is one. -/
  | notScalar {before after : List Value} {v : Value}
      (found : Entries.get? filterValuesField fields = some (.list (before ++ v :: after)))
      (earlier : ∀ u ∈ before, ∃ text, u.canonicalText = some text)
      (structured : v.canonicalText = none) :
      MislistsValues fields name (.nonScalarValue name v.kindName)

/-- An entry is **written in a value** of a filter block: the value is a block with this name that lists
these values. -/
def IsWrittenIn (entry : FilterEntry) (v : Value) : Prop :=
  ∃ fields, v = .map fields ∧ HasName fields entry.name ∧ ListsValues fields entry.values

/-- **Why no entry is written in a value** of a filter block, at an index: it is no block, it has no
name, or it lists no values. -/
inductive IsFaulty (index : Nat) : Value → FilterFault → Prop
  /-- It is no block. -/
  | notBlock {v : Value} (notMap : v.map? = none) : IsFaulty index v (.notBlock index v.kindName)
  /-- It has no name. -/
  | unnamed {fields : Entries Value} (missing : ¬∃ name, HasName fields name) :
      IsFaulty index (.map fields) (.missingName index)
  /-- It lists no values. -/
  | values {fields : Entries Value} {name : String} {fault : FilterFault}
      (named : HasName fields name) (faulty : MislistsValues fields name fault) :
      IsFaulty index (.map fields) fault

/-- The name of a block is read where it has one. -/
theorem nameOf?_eq_some_iff_hasName {fields : Entries Value} {name : String} :
    nameOf? fields = some name ↔ HasName fields name := by
  rw [nameOf?, HasName]
  cases hfound : Entries.get? filterNameField fields with
  | none => simp
  | some v =>
      cases v with
      | text written =>
          dsimp only [Option.bind_some, Value.text?]
          cases hblank : Text.isBlankText written <;> simp [hblank]
      | _ => simp [Value.text?]

/-- The text of a value in the list of a name, or the fault that it is no scalar. -/
def textOf (name : String) (v : Value) : Except Failure String :=
  match v.canonicalText with
  | some text => .ok text
  | none => .error (.invalidFilter (.nonScalarValue name v.kindName))

/-- The text of a value is read iff it is a scalar. -/
theorem textOf_eq_ok_iff {name text : String} :
    textOf name v = .ok text ↔ v.canonicalText = some text := by
  rw [textOf]
  cases v.canonicalText <;> simp

/-- A value without a text is no scalar. -/
theorem textOf_eq_error_iff {name : String} :
    textOf name v = .error failure ↔
      v.canonicalText = none ∧ failure = .invalidFilter (.nonScalarValue name v.kindName) := by
  rw [textOf]
  cases v.canonicalText <;> simp [eq_comm]

/-- The values of a block are the texts of its list. -/
theorem valuesOf_of_list {fields : Entries Value} {items : List Value}
    (h : Entries.get? filterValuesField fields = some (.list items)) (name : String) :
    valuesOf name fields = items.mapM (textOf name) := by
  rw [valuesOf, h]
  rfl

/-- The values of a block are read where it lists them. -/
theorem valuesOf_eq_ok_iff {fields : Entries Value} {name : String} {texts : List String} :
    valuesOf name fields = .ok texts ↔ ListsValues fields texts := by
  constructor
  · intro h
    cases hfound : Entries.get? filterValuesField fields with
    | none =>
        rw [valuesOf, hfound] at h
        obtain rfl := Except.ok.inj h
        exact .absent (.inl hfound)
    | some found =>
        cases found with
        | null =>
            rw [valuesOf, hfound] at h
            obtain rfl := Except.ok.inj h
            exact .absent (.inr hfound)
        | list items =>
            rw [valuesOf_of_list hfound] at h
            refine .scalars hfound ((Checks.mapM_eq_ok_iff.mp h).imp fun v text hv => ?_)
            exact textOf_eq_ok_iff.mp hv
        | _ =>
            rw [valuesOf, hfound] at h
            cases h
  · rintro (hmissing | ⟨hfound, hscalar⟩)
    · rw [valuesOf]
      rcases hmissing with h | h <;> rw [h]
    · rw [valuesOf_of_list hfound]
      exact Checks.mapM_eq_ok_iff.mpr (hscalar.imp fun v text hv => textOf_eq_ok_iff.mpr hv)

/-- The values of a block cannot be read where it lists none. -/
theorem valuesOf_eq_error_iff {fields : Entries Value} {name : String} :
    valuesOf name fields = .error failure ↔
      ∃ fault, MislistsValues fields name fault ∧ failure = .invalidFilter fault := by
  constructor
  · intro h
    cases hfound : Entries.get? filterValuesField fields with
    | none =>
        rw [valuesOf, hfound] at h
        cases h
    | some found =>
        cases found with
        | null =>
            rw [valuesOf, hfound] at h
            cases h
        | list items =>
            rw [valuesOf_of_list hfound] at h
            obtain ⟨before, v, after, rfl, hbefore, hv⟩ := Checks.mapM_eq_error_iff.mp h
            obtain ⟨hstructured, rfl⟩ := textOf_eq_error_iff.mp hv
            refine ⟨_, .notScalar hfound (fun u hu => ?_) hstructured, rfl⟩
            obtain ⟨text, htext⟩ := hbefore u hu
            exact ⟨text, textOf_eq_ok_iff.mp htext⟩
        | _ =>
            rw [valuesOf, hfound] at h
            exact ⟨_, .notList hfound (by simp) (by simp), (Except.error.inj h).symm⟩
  · rintro ⟨fault, ⟨hfound, hnull, hlist⟩ | ⟨hfound, hearlier, hstructured⟩, rfl⟩
    · rw [valuesOf, hfound]
      split
      · next h => cases h
      · next h => exact absurd (Option.some.inj h) hnull
      · next items h => exact absurd (Option.some.inj h) (hlist items)
      · next other _ _ h => rw [Option.some.inj h]
    · rw [valuesOf_of_list hfound]
      refine Checks.mapM_eq_error_iff.mpr
        ⟨_, _, _, rfl, fun u hu => ?_, textOf_eq_error_iff.mpr ⟨hstructured, rfl⟩⟩
      obtain ⟨text, htext⟩ := hearlier u hu
      exact ⟨text, textOf_eq_ok_iff.mpr htext⟩

/-- **What is read from a value** is the entry that is written in it. -/
theorem ofValue_eq_ok_iff_isWrittenIn : ofValue index v = .ok entry ↔ entry.IsWrittenIn v := by
  cases v with
  | map fields =>
      have hblock : entry.IsWrittenIn (.map fields) ↔
          nameOf? fields = some entry.name ∧ valuesOf entry.name fields = .ok entry.values := by
        rw [nameOf?_eq_some_iff_hasName, valuesOf_eq_ok_iff]
        constructor
        · rintro ⟨found, hfound, hnamed⟩
          obtain rfl := Value.map.inj hfound
          exact hnamed
        · exact fun h => ⟨fields, rfl, h⟩
      rw [hblock, ofValue]
      cases nameOf? fields with
      | none => simp
      | some name =>
          dsimp only
          rw [Checks.map_eq_ok_iff]
          constructor
          · rintro ⟨values, hvalues, rfl⟩
            exact ⟨rfl, hvalues⟩
          · rintro ⟨hname, hvalues⟩
            obtain rfl := Option.some.inj hname
            exact ⟨_, hvalues, rfl⟩
  | _ =>
      constructor
      · intro h
        cases h
      · rintro ⟨fields, hmap, -⟩
        cases hmap

/-- What is read from a value does not depend on where it stands. -/
theorem isReadFrom_iff : entry.IsReadFrom v ↔ entry.IsWrittenIn v :=
  ⟨fun h => ofValue_eq_ok_iff_isWrittenIn.mp (h 0), fun h _ => ofValue_eq_ok_iff_isWrittenIn.mpr h⟩

/-- What is read from a value at one place is read from it anywhere. -/
theorem ofValue_eq_ok_iff : ofValue index v = .ok entry ↔ entry.IsReadFrom v :=
  ofValue_eq_ok_iff_isWrittenIn.trans isReadFrom_iff.symm

/-- **A value is refused** iff no entry is written in it, and the failure says why. -/
theorem ofValue_eq_error_iff :
    ofValue index v = .error failure ↔
      ∃ fault, IsFaulty index v fault ∧ failure = .invalidFilter fault := by
  constructor
  · intro h
    cases v with
    | map fields =>
        rw [ofValue] at h
        cases hname : nameOf? fields with
        | none =>
            rw [hname] at h
            refine ⟨_, .unnamed ?_, (Except.error.inj h).symm⟩
            rintro ⟨name, hnamed⟩
            rw [nameOf?_eq_some_iff_hasName.mpr hnamed] at hname
            cases hname
        | some name =>
            rw [hname] at h
            dsimp only at h
            cases hvalues : valuesOf name fields with
            | ok values =>
                rw [hvalues] at h
                cases h
            | error e =>
                rw [hvalues] at h
                obtain rfl := Except.error.inj h
                obtain ⟨fault, hfaulty, rfl⟩ := valuesOf_eq_error_iff.mp hvalues
                exact ⟨fault, .values (nameOf?_eq_some_iff_hasName.mp hname) hfaulty, rfl⟩
    | _ => exact ⟨_, .notBlock rfl, (Except.error.inj h).symm⟩
  · rintro ⟨fault, hnotMap | hmissing | ⟨hnamed, hfaulty⟩, rfl⟩
    · cases v with
      | map fields => cases hnotMap
      | _ => rfl
    · rw [ofValue]
      cases hname : nameOf? _ with
      | none => rfl
      | some name => exact absurd ⟨name, nameOf?_eq_some_iff_hasName.mp hname⟩ hmissing
    · rw [ofValue, nameOf?_eq_some_iff_hasName.mpr hnamed]
      dsimp only
      rw [valuesOf_eq_error_iff.mpr ⟨fault, hfaulty, rfl⟩]
      rfl

/-- Entries are read from the values of a block one by one. -/
theorem ofValues_eq_ok_iff :
    ofValues index block = .ok entries ↔
      List.Forall₂ (fun v entry => IsReadFrom entry v) block entries := by
  induction block generalizing index entries with
  | nil =>
      rw [ofValues, List.forall₂_nil_left_iff]
      exact ⟨fun h => (Except.ok.inj h).symm, fun h => by rw [h]⟩
  | cons v rest ih =>
      rw [ofValues, Checks.bind_eq_ok_iff]
      constructor
      · rintro ⟨entry, hentry, h⟩
        obtain ⟨others, hothers, h⟩ := Checks.bind_eq_ok_iff.mp h
        obtain rfl := Except.ok.inj h
        exact .cons (ofValue_eq_ok_iff.mp hentry) (ih.mp hothers)
      · rintro (_ | ⟨hentry, hothers⟩)
        refine ⟨_, ofValue_eq_ok_iff.mpr hentry, ?_⟩
        exact Checks.bind_eq_ok_iff.mpr ⟨_, ih.mpr hothers, rfl⟩

/-- **A block is refused** iff a value of it is, and with the fault of the first such value. -/
theorem ofValues_eq_error_iff :
    ofValues index block = .error failure ↔
      ∃ before v after fault, block = before ++ v :: after ∧
        (∀ u ∈ before, ∃ entry : FilterEntry, entry.IsWrittenIn u) ∧
        IsFaulty (index + before.length) v fault ∧ failure = .invalidFilter fault := by
  induction block generalizing index with
  | nil =>
      refine iff_of_false (fun h => by cases h) ?_
      rintro ⟨before, v, after, -, h, -⟩
      cases before <;> cases h
  | cons v rest ih =>
      rw [ofValues, Checks.bind_eq_error_iff]
      constructor
      · rintro (h | ⟨entry, hentry, h⟩)
        · obtain ⟨fault, hfaulty, rfl⟩ := ofValue_eq_error_iff.mp h
          exact ⟨[], v, rest, fault, rfl, by simp, hfaulty, rfl⟩
        · rcases Checks.bind_eq_error_iff.mp h with h | ⟨others, -, h⟩
          · obtain ⟨before, u, after, fault, rfl, hbefore, hfaulty, rfl⟩ := ih.mp h
            refine ⟨v :: before, u, after, fault, rfl, ?_, ?_, rfl⟩
            · rw [List.forall_mem_cons]
              exact ⟨⟨entry, ofValue_eq_ok_iff_isWrittenIn.mp hentry⟩, hbefore⟩
            · rwa [List.length_cons, Nat.add_comm before.length, ← Nat.add_assoc]
          · cases h
      · rintro ⟨before, u, after, fault, hsplit, hbefore, hfaulty, rfl⟩
        -- the value at fault is the head, or it stands behind a head that is an entry
        cases before with
        | nil =>
            obtain ⟨rfl, rfl⟩ := List.cons.inj hsplit
            exact .inl (ofValue_eq_error_iff.mpr ⟨fault, hfaulty, rfl⟩)
        | cons w before =>
            obtain ⟨rfl, rfl⟩ := List.cons.inj hsplit
            obtain ⟨⟨entry, hentry⟩, hbefore⟩ := List.forall_mem_cons.mp hbefore
            rw [List.length_cons, Nat.add_comm before.length, ← Nat.add_assoc] at hfaulty
            refine .inr ⟨entry, ofValue_eq_ok_iff_isWrittenIn.mpr hentry, ?_⟩
            exact Checks.bind_error_of_error
              (ih.mpr ⟨before, u, after, fault, rfl, hbefore, hfaulty, rfl⟩)

end FilterEntry

/-- A request asks for the entries of its block. -/
theorem requestedFilters_of_block (h : requestedBlock? attributes = some block) :
    requestedFilters attributes = FilterEntry.ofValues 0 block := by
  rw [requestedBlock?] at h
  rw [requestedFilters]
  cases hget : Entries.get? filterField attributes with
  | none =>
      rw [hget] at h
      obtain rfl := Option.some.inj h
      rfl
  | some v =>
      rw [hget] at h
      cases v with
      | null | list =>
          obtain rfl := Option.some.inj h
          rfl
      | _ => cases h

/-- What stands under the name of the filter block is no list. -/
def IsNoBlock (attributes : Entries Value) (v : Value) : Prop :=
  Entries.get? filterField attributes = some v ∧ v ≠ .null ∧ ∀ items, v ≠ .list items

/-- A request without a block has something else under the name of it. -/
theorem requestedBlock?_eq_none_iff :
    requestedBlock? attributes = none ↔ ∃ v, IsNoBlock attributes v := by
  rw [requestedBlock?]
  unfold IsNoBlock
  cases Entries.get? filterField attributes with
  | none => simp
  | some v => cases v <;> simp

/-- A filter attribute that is no block is a fault. -/
theorem requestedFilters_of_isNoBlock (h : IsNoBlock attributes v) :
    requestedFilters attributes = .error (.invalidFilter (.notList v.kindName)) := by
  obtain ⟨hget, hnull, hlist⟩ := h
  rw [requestedFilters, hget]
  cases v with
  | null => exact absurd rfl hnull
  | list items => exact absurd rfl (hlist items)
  | _ => rfl

/-- The entries that a request asks for are read from its block. -/
theorem requestedFilters_eq_ok_iff :
    requestedFilters attributes = .ok entries ↔
      ∃ block, requestedBlock? attributes = some block ∧
        List.Forall₂ (fun v entry => FilterEntry.IsReadFrom entry v) block entries := by
  cases hblock : requestedBlock? attributes with
  | none =>
      obtain ⟨v, hnoBlock⟩ := requestedBlock?_eq_none_iff.mp hblock
      rw [requestedFilters_of_isNoBlock hnoBlock]
      simp
  | some block =>
      rw [requestedFilters_of_block hblock, FilterEntry.ofValues_eq_ok_iff]
      simp

/-- **What is wrong with the filter block of a request**: it is no list, or a value of it is no entry,
and every value before that one is. -/
inductive FaultyBlock (attributes : Entries Value) : FilterFault → Prop
  /-- It is no list. -/
  | notList {v : Value} (noBlock : IsNoBlock attributes v) :
      FaultyBlock attributes (.notList v.kindName)
  /-- A value is the first that is no entry. -/
  | value {before after : List Value} {v : Value} {fault : FilterFault}
      (found : requestedBlock? attributes = some (before ++ v :: after))
      (earlier : ∀ u ∈ before, ∃ entry : FilterEntry, entry.IsWrittenIn u)
      (faulty : FilterEntry.IsFaulty before.length v fault) : FaultyBlock attributes fault

/-- **The entries of a request cannot be read** iff something is wrong with its block, and the failure
says what. -/
theorem requestedFilters_eq_error_iff :
    requestedFilters attributes = .error failure ↔
      ∃ fault, FaultyBlock attributes fault ∧ failure = .invalidFilter fault := by
  constructor
  · intro h
    cases hblock : requestedBlock? attributes with
    | none =>
        obtain ⟨v, hnoBlock⟩ := requestedBlock?_eq_none_iff.mp hblock
        rw [requestedFilters_of_isNoBlock hnoBlock] at h
        exact ⟨_, .notList hnoBlock, (Except.error.inj h).symm⟩
    | some block =>
        rw [requestedFilters_of_block hblock] at h
        obtain ⟨before, v, after, fault, rfl, hearlier, hfaulty, rfl⟩ :=
          FilterEntry.ofValues_eq_error_iff.mp h
        rw [Nat.zero_add] at hfaulty
        exact ⟨fault, .value hblock hearlier hfaulty, rfl⟩
  · rintro ⟨fault, hnoBlock | ⟨hblock, hearlier, hfaulty⟩, rfl⟩
    · exact requestedFilters_of_isNoBlock hnoBlock
    · rw [requestedFilters_of_block hblock]
      refine FilterEntry.ofValues_eq_error_iff.mpr ⟨_, _, _, fault, rfl, hearlier, ?_, rfl⟩
      rwa [Nat.zero_add]

/-! ## Checking -/

/-- An entry **fits a schema** as a filter: its name stands for a scalar property, and it asks for one
value. -/
structure FilterEntry.Fits (schema : Schema) (entry : FilterEntry) (f : Filter) : Prop where
  /-- Its name stands for a scalar property. -/
  stands : ∃ p, schema.Names entry.name p ∧ p.isScalar = true
  /-- It asks for the value of the filter. -/
  single : entry.values = [f.value]
  /-- The filter keeps its name. -/
  named : f.name = entry.name

/-- **Why an entry does not fit a schema**: its name stands for nothing, or for a property that is not
scalar, or it does not ask for one value. -/
inductive FilterEntry.Misfits (schema : Schema) (entry : FilterEntry) : Failure → Prop
  /-- The name stands for no property. -/
  | unknown (missing : ¬∃ p, schema.Names entry.name p) :
      Misfits schema entry (.unknownFilter entry.name)
  /-- The property is not scalar. -/
  | notScalar {p : Property} (found : schema.Names entry.name p)
      (structured : p.isScalar = false) : Misfits schema entry (.unsupportedFilter entry.name)
  /-- No value is asked for. -/
  | noValue {p : Property} (found : schema.Names entry.name p)
      (scalar : p.isScalar = true) (none : entry.values = []) :
      Misfits schema entry (.missingFilterValue entry.name)
  /-- Several values are asked for. -/
  | severalValues {p : Property} (found : schema.Names entry.name p)
      (scalar : p.isScalar = true) (several : 2 ≤ entry.values.length) :
      Misfits schema entry .multiValueFilter

/-- The filter of an entry that asks for one value. -/
def FilterEntry.single (entry : FilterEntry) : Except Failure Filter :=
  match entry.values with
  | [value] => .ok ⟨entry.name, value⟩
  | [] => .error (.missingFilterValue entry.name)
  | _ => .error .multiValueFilter

/-- It has the name of the entry and its value. -/
theorem FilterEntry.single_eq_ok_iff :
    entry.single = .ok f ↔ entry.values = [f.value] ∧ f.name = entry.name := by
  obtain ⟨name, value⟩ := f
  rw [single]
  match entry.values with
  | [] | _ :: _ :: _ => simp
  | [other] => simp [and_comm, eq_comm]

/-- There is none if the entry asks for no value or for several. -/
theorem FilterEntry.single_eq_error_iff :
    entry.single = .error failure ↔
      entry.values = [] ∧ failure = .missingFilterValue entry.name ∨
        2 ≤ entry.values.length ∧ failure = .multiValueFilter := by
  rw [single]
  match entry.values with
  | [] | [_] | _ :: _ :: _ => simp [eq_comm]

/-- An entry whose name stands for a property is checked against that property. -/
theorem FilterEntry.validate_of_names {p : Property} (h : schema.Names entry.name p) :
    entry.validate schema
      = if p.isScalar then entry.single else .error (.unsupportedFilter entry.name) := by
  rw [validate, Schema.propertyByField?_eq_some_iff.mpr h]
  rfl

/-- An entry whose name stands for no property is refused. -/
theorem FilterEntry.validate_of_not_names (h : ¬∃ p, schema.Names entry.name p) :
    entry.validate schema = .error (.unknownFilter entry.name) := by
  rw [validate]
  cases hfound : schema.propertyByField? entry.name with
  | none => rfl
  | some p => exact absurd ⟨p, Schema.propertyByField?_eq_some_iff.mp hfound⟩ h

/-- An entry that is accepted is the filter that it fits as. -/
theorem FilterEntry.validate_eq_ok_iff : entry.validate schema = .ok f ↔ entry.Fits schema f := by
  constructor
  · intro h
    by_cases hnames : ∃ p, schema.Names entry.name p
    · obtain ⟨p, hp⟩ := hnames
      rw [validate_of_names hp] at h
      split at h
      · next hscalar =>
        obtain ⟨hsingle, hname⟩ := single_eq_ok_iff.mp h
        exact ⟨⟨p, hp, hscalar⟩, hsingle, hname⟩
      · cases h
    · rw [validate_of_not_names hnames] at h
      cases h
  · rintro ⟨⟨p, hp, hscalar⟩, hsingle, hname⟩
    rw [validate_of_names hp, if_pos hscalar]
    exact single_eq_ok_iff.mpr ⟨hsingle, hname⟩

/-- **An entry is refused** iff it does not fit the schema, and the failure says why. -/
theorem FilterEntry.validate_eq_error_iff :
    entry.validate schema = .error failure ↔ entry.Misfits schema failure := by
  constructor
  · intro h
    by_cases hnames : ∃ p, schema.Names entry.name p
    · obtain ⟨p, hp⟩ := hnames
      rw [validate_of_names hp] at h
      split at h
      · next hscalar =>
        rcases single_eq_error_iff.mp h with ⟨hnone, rfl⟩ | ⟨hseveral, rfl⟩
        · exact .noValue hp hscalar hnone
        · exact .severalValues hp hscalar hseveral
      · next hstructured =>
        obtain rfl := Except.error.inj h
        exact .notScalar hp (Bool.eq_false_iff.mpr hstructured)
    · rw [validate_of_not_names hnames] at h
      obtain rfl := Except.error.inj h
      exact .unknown hnames
  · rintro (hmissing | ⟨hp, hstructured⟩ | ⟨hp, hscalar, hnone⟩ | ⟨hp, hscalar, hseveral⟩)
    · exact validate_of_not_names hmissing
    · rw [validate_of_names hp, hstructured, if_neg Bool.false_ne_true]
    · rw [validate_of_names hp, if_pos hscalar]
      exact single_eq_error_iff.mpr (.inl ⟨hnone, rfl⟩)
    · rw [validate_of_names hp, if_pos hscalar]
      exact single_eq_error_iff.mpr (.inr ⟨hseveral, rfl⟩)

/-- **The filters that a request asks for** are those that the values of its block stand for. -/
theorem asks_iff :
    Asks schema attributes filters ↔
      ∃ block, requestedBlock? attributes = some block ∧
        List.Forall₂ (Filter.IsOf schema) block filters := by
  simp only [Asks, requestedFilters_eq_ok_iff, validFilters, Checks.mapM_eq_ok_iff]
  constructor
  · rintro ⟨entries, ⟨block, hblock, hentries⟩, hfilters⟩
    exact ⟨block, hblock, Checks.exists_forall₂_and_iff.mp ⟨entries, hentries, hfilters⟩⟩
  · rintro ⟨block, hblock, hof⟩
    obtain ⟨entries, hentries, hfilters⟩ := Checks.exists_forall₂_and_iff.mpr hof
    exact ⟨entries, ⟨block, hblock, hentries⟩, hfilters⟩

/-! ## Filters as a set -/

/-- A value stands for one filter only. -/
theorem Filter.IsOf.unique {g : Filter} (hf : IsOf schema v f) (hg : IsOf schema v g) : f = g := by
  obtain ⟨entry, hentry, hf⟩ := hf
  obtain ⟨entry', hentry', hg⟩ := hg
  obtain rfl := Except.ok.inj ((hentry 0).symm.trans (hentry' 0))
  exact Except.ok.inj (hf.symm.trans hg)

/-- The filters of a block are those that one of its values stands for. -/
theorem Filter.mem_iff_of_isOf (h : List.Forall₂ (IsOf schema) block filters) :
    f ∈ filters ↔ ∃ v ∈ block, IsOf schema v f := by
  induction h with
  | nil => simp
  | @cons v g rest others hof _ ih =>
      have hhead : f = g ↔ IsOf schema v f :=
        ⟨fun h => by rw [h]; exact hof, fun h => h.unique hof⟩
      rw [List.mem_cons, ih, hhead, List.exists_mem_cons_iff]

/-- Every value of a block stands for a filter iff the block has its filters. -/
theorem Filter.exists_forall₂_isOf_iff :
    (∃ filters, List.Forall₂ (IsOf schema) block filters) ↔
      ∀ v ∈ block, ∃ f, IsOf schema v f := by
  induction block with
  | nil => exact iff_of_true ⟨[], .nil⟩ (by simp)
  | cons v rest ih =>
      rw [List.forall_mem_cons, ← ih]
      constructor
      · rintro ⟨_, _ | ⟨hof, hrest⟩⟩
        exact ⟨⟨_, hof⟩, _, hrest⟩
      · rintro ⟨⟨f, hof⟩, filters, hrest⟩
        exact ⟨f :: filters, .cons hof hrest⟩

/-- A request asks for filters iff it has a block and every value of it stands for one. -/
theorem exists_asks_iff :
    (∃ filters, Asks schema attributes filters) ↔
      ∃ block, requestedBlock? attributes = some block ∧
        ∀ v ∈ block, ∃ f, Filter.IsOf schema v f := by
  simp only [asks_iff]
  rw [exists_comm]
  refine exists_congr fun block => ?_
  rw [exists_and_left, Filter.exists_forall₂_isOf_iff]

/-- The filters that a request asks for, as a set. -/
theorem mem_iff_of_asks (h : Asks schema attributes filters)
    (hblock : requestedBlock? attributes = some block) :
    f ∈ filters ↔ ∃ v ∈ block, Filter.IsOf schema v f := by
  obtain ⟨block', hblock', hof⟩ := asks_iff.mp h
  obtain rfl := Option.some.inj (hblock'.symm.trans hblock)
  exact Filter.mem_iff_of_isOf hof

end QueryableApi
