import QueryableApi.Proofs.Filter

/-! # Filters built from an item

An item gives a filter for each scalar property under which it has a text (`Filter.ofItem`). A filter
names its property by field name, and a field name looks up the first property under it, so the item
matches its own filters iff each of these texts is also that of the first property under the field
name (`acceptAll_ofItem_iff`). For a schema whose payload names are distinct, every item does so iff
no scalar property stands behind another one under the same field name (`matches_own_filters_iff`). -/

namespace QueryableApi

variable {schema : Schema} {item : Item} {p q : Property} {text : String}

namespace Property

/-- An item with a text under a property carries a value for it. -/
theorem exists_carried_of_textIn? (h : p.textIn? item = some text) :
    ∃ v, Entries.get? p.name item = some v := by
  unfold textIn? at h
  split at h
  · cases h
  · obtain ⟨v, hv, -⟩ := Option.bind_eq_some_iff.mp h
    exact ⟨v, hv⟩

/-- The item that carries nothing but a text for a property. -/
def carrying (p : Property) (text : String) : Item := [(p.name, .text text)]

/-- A text is its own text under a scalar property. -/
theorem textIn?_carrying (hscalar : p.isScalar = true) (text : String) :
    p.textIn? (p.carrying text) = some text := by
  have hget : Entries.get? p.name (p.carrying text) = some (.text text) := by
    rw [carrying, Entries.get?_cons, if_pos rfl]
  rw [isScalar] at hscalar
  rw [textIn?, hget]
  cases hkind : p.kind with
  | error type =>
      rw [hkind] at hscalar
      cases hscalar
  | ok kind =>
      rw [hkind] at hscalar
      cases kind with
      | array | object => cases hscalar
      | string | integer | number | boolean => rfl

/-- An item that carries nothing but a text for a property has no value under another name. -/
theorem name_eq_of_textIn?_carrying (h : q.textIn? (p.carrying text) = some text) :
    p.name = q.name := by
  obtain ⟨v, hv⟩ := exists_carried_of_textIn? h
  rw [carrying, Entries.get?_cons] at hv
  split at hv
  · assumption
  · cases hv

end Property

namespace Filter

/-- The filters that an item gives: one for each scalar property under which it has a text. -/
def ofItem (schema : Schema) (item : Item) : List Filter :=
  (schema.filter Property.isScalar).filterMap fun p => (p.textIn? item).map (on p)

/-- The filters of an item name its scalar properties and their texts. -/
theorem mem_ofItem_iff {f : Filter} :
    f ∈ ofItem schema item ↔
      ∃ p ∈ schema, p.isScalar = true ∧ p.fieldName = f.name ∧ p.textIn? item = some f.value := by
  rw [ofItem, List.mem_filterMap]
  constructor
  · rintro ⟨p, hp, hf⟩
    obtain ⟨hmem, hscalar⟩ := List.mem_filter.mp hp
    obtain ⟨text, htext, rfl⟩ := Option.map_eq_some_iff.mp hf
    exact ⟨p, hmem, hscalar, rfl, htext⟩
  · rintro ⟨p, hmem, hscalar, hname, htext⟩
    refine ⟨p, List.mem_filter.mpr ⟨hmem, hscalar⟩, ?_⟩
    rw [htext, Option.map_some, on, hname]

/-- **An item matches its own filters** iff the first property under the field name of each scalar
property with a text has this text as well. -/
theorem acceptAll_ofItem_iff (schema : Schema) (item : Item) :
    acceptAll schema item (ofItem schema item) = true ↔
      ∀ p ∈ schema, p.isScalar = true → ∀ text, p.textIn? item = some text →
        ∀ q, schema.IsFirst p.fieldName q → q.textIn? item = some text := by
  rw [acceptAll, List.all_eq_true]
  constructor
  · intro h p hp hscalar text htext q hq
    have hmem : on p text ∈ ofItem schema item :=
      mem_ofItem_iff.mpr ⟨p, hp, hscalar, rfl, htext⟩
    have hfirst : schema.IsFirst (on p text).name q := hq
    exact (accepts_iff_of_isFirst hfirst).mp (h _ hmem)
  · intro h f hf
    obtain ⟨p, hp, hscalar, hname, htext⟩ := mem_ofItem_iff.mp hf
    obtain ⟨q, hq⟩ := Schema.exists_isFirst hp
    have hvalue := h p hp hscalar f.value htext q hq
    rw [hname] at hq
    exact (accepts_iff_of_isFirst hq).mpr hvalue

/-- **When matching is reflexive.** With distinct payload names, every item matches the filters
built from its own scalar fields iff every scalar property is the first under its field name; and
one item does iff each of its texts is that of the first property under the field name. -/
theorem matches_own_filters_iff (hnames : schema.HasDistinctNames) :
    ((∀ item, acceptAll schema item (ofItem schema item) = true) ↔
      ∀ p ∈ schema, p.isScalar = true → schema.IsFirst p.fieldName p) ∧
    ∀ item, acceptAll schema item (ofItem schema item) = true ↔
      ∀ p ∈ schema, p.isScalar = true → ∀ text, p.textIn? item = some text →
        ∀ q, schema.IsFirst p.fieldName q → q.textIn? item = some text := by
  refine ⟨⟨?_, ?_⟩, acceptAll_ofItem_iff schema⟩
  · intro h p hp hscalar
    obtain ⟨q, hq⟩ := Schema.exists_isFirst hp
    -- an item with nothing but a text for `p` has one for `q` only if the two are the same
    have htext := (acceptAll_ofItem_iff schema (p.carrying "x")).mp (h _) p hp hscalar "x"
      (Property.textIn?_carrying hscalar "x") q hq
    have hname := Property.name_eq_of_textIn?_carrying htext
    rwa [← List.inj_on_of_nodup_map hnames hp hq.mem hname] at hq
  · intro h item
    refine (acceptAll_ofItem_iff schema item).mpr fun p hp hscalar text htext q hq => ?_
    rwa [← (h p hp hscalar).unique hq]

/-! ## Two hosts -/

/-- Two hosts under one field name. -/
def clashingHosts : Schema :=
  [Property.ofKind .string "originHost", Property.ofKind .string "origin_host"]

/-- Two hosts, the first of them under a preferred name. -/
def namedHosts : Schema :=
  [{ Property.ofKind .string "originHost" with preferredName := some "origin" },
    Property.ofKind .string "origin_host"]

/-- An item with two hosts. -/
def hostsItem : Item := [("originHost", .text "a"), ("origin_host", .text "b")]

/-- With a preferred name for one of the hosts, every item matches its own filters. -/
theorem matches_own_filters_hosts :
    namedHosts.HasDistinctNames ∧
      ∀ item, acceptAll namedHosts item (ofItem namedHosts item) = true := by
  have hnames : namedHosts.HasDistinctNames := by decide
  have hfields : namedHosts.HasDistinctFields := by decide
  exact ⟨hnames, (matches_own_filters_iff hnames).1.mpr fun p hp _ => hfields.isFirst hp⟩

/-- **An item that does not match its own filters**: both hosts are seen as `origin_host`, and the
filter for the second one is compared with the first. -/
theorem misses_own_filters_hosts :
    clashingHosts.HasDistinctNames ∧
      ofItem clashingHosts hostsItem = [⟨"origin_host", "a"⟩, ⟨"origin_host", "b"⟩] ∧
      acceptAll clashingHosts hostsItem (ofItem clashingHosts hostsItem) = false := by
  refine ⟨?_, ?_, ?_⟩
  · decide
  all_goals rfl

end Filter

end QueryableApi
