import QueryableApi.Proofs.Filter.Block

/-! # The filters of a request against a schema

The filter block of a request is read as a whole before any entry of it is checked. So the filters are
those that are written in its values, one for each, in order (`Filter.IsWrittenIn`); if there are none,
the failure is that of the first value in which no entry is written, and if there is no such value, that
of the first entry that does not fit the schema (`Filter.Refused`). Filters that are accepted name scalar
properties, so an item is always compared with a value of them (`filters_outcome`). -/

namespace QueryableApi

open Checks
open Queryable (Asks)

variable {schema : Schema} {attributes : Entries Value} {block : List Value} {v : Value} {f : Filter}
  {filters : List Filter} {failure : Failure}

/-- A filter is **written in a value** of a filter block: the value is a block with a name that is not
blank, the trimmed name stands for a scalar property, and the block lists one value, whose text is that of
the filter. -/
inductive Filter.IsWrittenIn (schema : Schema) : Value → Filter → Prop
  /-- It is written in a block with such fields. -/
  | block {fields : Entries Value} {written text : String} {v : Value} {p : Property}
      (named : Entries.get? filterNameField fields = some (.text written))
      (notBlank : Text.isBlankText written = false)
      (stands : schema.Names (Text.trim written) p) (scalar : p.isScalar = true)
      (single : Entries.get? filterValuesField fields = some (.list [v]))
      (value : v.canonicalText = some text) :
      IsWrittenIn schema (.map fields) ⟨Text.trim written, text⟩

/-- **Why a request has no filters** on a schema: something is wrong with its block, or an entry is
written in every value of the block, and one of the entries is the first that does not fit the schema. -/
inductive Filter.Refused (schema : Schema) (attributes : Entries Value) : Failure → Prop
  /-- Something is wrong with the block. -/
  | faulty {fault : FilterFault} (faulty : FaultyBlock attributes fault) :
      Refused schema attributes (.invalidFilter fault)
  /-- An entry is the first that does not fit. -/
  | misfit {block : List Value} {before after : List FilterEntry} {entry : FilterEntry}
      {failure : Failure} (found : requestedBlock? attributes = some block)
      (written : List.Forall₂ (fun v entry => FilterEntry.IsWrittenIn entry v) block
        (before ++ entry :: after))
      (earlier : ∀ e ∈ before, ∃ f, e.Fits schema f) (misfits : entry.Misfits schema failure) :
      Refused schema attributes failure

/-- The entry of a filter asks for one value. -/
theorem FilterEntry.listsValues_single_iff {fields : Entries Value} {text : String} :
    ListsValues fields [text] ↔
      ∃ v, Entries.get? filterValuesField fields = some (.list [v]) ∧ v.canonicalText = some text := by
  constructor
  · rintro (_ | @⟨items, _, hfound, hscalar⟩)
    obtain ⟨v, rest, htext, hrest, rfl⟩ := List.forall₂_cons_right_iff.mp hscalar
    rw [List.forall₂_nil_right_iff.mp hrest] at hfound
    exact ⟨v, hfound, htext⟩
  · rintro ⟨v, hfound, htext⟩
    exact .scalars hfound (.cons htext .nil)

/-- **A filter is written in a value** iff the value stands for it. -/
theorem Filter.isOf_iff_isWrittenIn : IsOf schema v f ↔ IsWrittenIn schema v f := by
  simp only [IsOf, FilterEntry.isReadFrom_iff, FilterEntry.validate_eq_ok_iff]
  constructor
  · obtain ⟨name, text⟩ := f
    rintro ⟨⟨_, _⟩, ⟨fields, rfl, ⟨written, hnamed, hblank, htrim⟩, hvalues⟩, ⟨p, hp, hscalar⟩, hsingle,
      hname⟩
    dsimp only at *
    subst hsingle hname htrim
    obtain ⟨v, hfound, htext⟩ := FilterEntry.listsValues_single_iff.mp hvalues
    exact .block hnamed hblank hp hscalar hfound htext
  · rintro ⟨hnamed, hblank, hstands, hscalar, hsingle, htext⟩
    refine ⟨⟨_, [_]⟩, ⟨_, rfl, ⟨_, hnamed, hblank, rfl⟩, ?_⟩, ⟨_, hstands, hscalar⟩, rfl, rfl⟩
    exact FilterEntry.listsValues_single_iff.mpr ⟨_, hsingle, htext⟩

/-- The filters of a request are those that are written in its block. -/
theorem filters_eq_ok_iff :
    requestedFilters attributes >>= validFilters schema = .ok filters ↔
      ∃ block, requestedBlock? attributes = some block ∧
        List.Forall₂ (Filter.IsWrittenIn schema) block filters := by
  rw [bind_eq_ok_iff]
  refine asks_iff.trans (exists_congr fun block => and_congr_right fun _ => ?_)
  exact ⟨fun h => h.imp fun _ _ => Filter.isOf_iff_isWrittenIn.mp,
    fun h => h.imp fun _ _ => Filter.isOf_iff_isWrittenIn.mpr⟩

/-- A request has no filters iff something is wrong with its block or with an entry. -/
theorem filters_eq_error_iff :
    requestedFilters attributes >>= validFilters schema = .error failure ↔
      Filter.Refused schema attributes failure := by
  simp only [bind_eq_error_iff, requestedFilters_eq_error_iff, requestedFilters_eq_ok_iff,
    FilterEntry.isReadFrom_iff, validFilters, mapM_eq_error_iff, FilterEntry.validate_eq_ok_iff,
    FilterEntry.validate_eq_error_iff]
  constructor
  · rintro (⟨fault, hfaulty, rfl⟩ | ⟨_, ⟨block, hblock, hwritten⟩, hentries⟩)
    · exact .faulty hfaulty
    · obtain ⟨before, entry, after, rfl, hearlier, hmisfits⟩ := hentries
      exact .misfit hblock hwritten hearlier hmisfits
  · rintro (hfaulty | ⟨hblock, hwritten, hearlier, hmisfits⟩)
    · exact .inl ⟨_, hfaulty, rfl⟩
    · exact .inr ⟨_, ⟨_, hblock, hwritten⟩, _, _, _, rfl, hearlier, hmisfits⟩

/-- A filter that a value stands for is compared with what an item carries for a scalar property. -/
theorem Filter.IsOf.accepts_iff (h : IsOf schema v f) :
    ∃ p kind, schema.propertyByField? f.name = some p ∧ schema.Names f.name p ∧ p.kind = .ok kind ∧
      kind.isScalar = true ∧ ∀ item, accepts schema item f = true ↔
        ∃ carried, Entries.get? p.name item = some carried ∧
          carried.filterText kind = some f.value := by
  obtain ⟨entry, -, hvalid⟩ := h
  obtain ⟨⟨p, hstands, hscalar⟩, -, hname⟩ := FilterEntry.validate_eq_ok_iff.mp hvalid
  rw [← hname] at hstands
  have hlookup := Schema.propertyByField?_eq_some_iff.mpr hstands
  rw [Property.isScalar] at hscalar
  split at hscalar
  · next kind hkind =>
    refine ⟨p, kind, hlookup, hstands, hkind, hscalar, fun item => ?_⟩
    rw [accepts_iff_of_propertyByField? hlookup, Property.textIn?, hkind]
    exact Option.bind_eq_some_iff
  · cases hscalar

/-- **The filters of a request**, read and then checked. The request has filters iff they are written in
the values of its filter block, one in each, in order. Otherwise it fails with the first fault of the
block, and only if there is none with the first entry that does not fit the schema. Every filter that is
accepted stands for a scalar property, and an item has its value iff it carries a value for the property
with this text under the kind of the property. -/
theorem filters_outcome (schema : Schema) (attributes : Entries Value) :
    (∀ filters, requestedFilters attributes >>= validFilters schema = .ok filters ↔
      ∃ block, requestedBlock? attributes = some block ∧
        List.Forall₂ (Filter.IsWrittenIn schema) block filters) ∧
    (∀ failure, requestedFilters attributes >>= validFilters schema = .error failure ↔
      Filter.Refused schema attributes failure) ∧
    (∀ filters, requestedFilters attributes >>= validFilters schema = .ok filters → ∀ f ∈ filters,
      ∃ p kind, schema.propertyByField? f.name = some p ∧ schema.Names f.name p ∧
        p.kind = .ok kind ∧ kind.isScalar = true ∧
        ∀ item, Filter.accepts schema item f = true ↔
          ∃ carried, Entries.get? p.name item = some carried ∧
            carried.filterText kind = some f.value) := by
  refine ⟨fun filters => filters_eq_ok_iff, fun failure => filters_eq_error_iff, ?_⟩
  intro filters h f hf
  have hasks : Asks schema attributes filters := bind_eq_ok_iff.mp h
  obtain ⟨block, hblock, -⟩ := asks_iff.mp hasks
  obtain ⟨v, -, hv⟩ := (mem_iff_of_asks hasks hblock).mp hf
  exact hv.accepts_iff

/-! ## Filters on a port -/

/-- A request with a filter on a port, given as a whole number under a name with blanks around it. -/
def paddedPortRequest : Entries Value :=
  [(filterField, .list [.map [(filterNameField, .text " origin_port "),
    (filterValuesField, .list [.int 443])]])]

/-- A request with a filter on nothing that the items have, and behind it a text that is no block. -/
def brokenRequest : Entries Value :=
  [(filterField, .list [(⟨"weight", ["6"]⟩ : FilterEntry).toValue, .text "origin_port=443"])]

/-- The filter on a port is compared with the whole number that an item carries; and the text that is no
block is reported, although the filter before it names nothing. -/
theorem filters_outcome_port :
    requestedFilters paddedPortRequest >>= validFilters Queryable.portSchema
        = .ok [⟨"origin_port", "443"⟩] ∧
      (∀ item, Filter.accepts Queryable.portSchema item ⟨"origin_port", "443"⟩ = true ↔
        ∃ carried, Entries.get? "originPort" item = some carried ∧
          carried.filterText .integer = some "443") ∧
      requestedFilters brokenRequest >>= validFilters Queryable.portSchema
        = .error (.invalidFilter (.notBlock 1 "string")) := by
  have hok : requestedFilters paddedPortRequest >>= validFilters Queryable.portSchema
      = .ok [⟨"origin_port", "443"⟩] := rfl
  refine ⟨hok, fun item => ?_, ?_⟩
  · obtain ⟨p, kind, hlookup, -, hkind, -, haccepts⟩ :=
      (filters_outcome Queryable.portSchema paddedPortRequest).2.2 _ hok _ List.mem_cons_self
    obtain rfl : Property.ofKind .integer "originPort" = p := Option.some.inj hlookup
    obtain rfl : Kind.integer = kind := Except.ok.inj hkind
    exact haccepts item
  · refine ((filters_outcome Queryable.portSchema brokenRequest).2.1 _).mpr (.faulty ?_)
    have hblock : requestedBlock? brokenRequest
        = some ([(⟨"weight", ["6"]⟩ : FilterEntry).toValue] ++ .text "origin_port=443" :: []) := rfl
    refine .value hblock (fun u hu => ?_) (.notBlock rfl)
    obtain rfl := List.mem_singleton.mp hu
    exact ⟨_, FilterEntry.ofValue_eq_ok_iff_isWrittenIn.mp
      (FilterEntry.ofValue_toValue ⟨by decide, by decide⟩ 0)⟩

end QueryableApi
