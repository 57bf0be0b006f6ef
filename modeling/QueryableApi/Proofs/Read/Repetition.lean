import QueryableApi.Proofs.Read.Session

/-! # Reading again

What a read leaves is a request again. It has the filter block of the first one, and the parents too
unless an output is written under the name of one of them. Then the second read lists the same, finds
the same item and writes over its projection what stands there already, so it reports the same as the
first (`read_repeats`). -/

namespace QueryableApi.DataSource

variable {d : DataSource} {listing : Listing} {state : SourceState} {r : Resource} {schema : Schema}
  {plan : Plan} {item : Item} {id name : String}

/-- The outputs of a resource are **apart from its parents**: no output has the name of a parent
property for its field name. -/
def OutputsApart (r : Resource) (schema : Schema) : Prop :=
  ∀ p, IsOutput r schema p → p.fieldName ∉ r.parentProperties

/-- What a read writes comes from an output. -/
theorem Writes.exists_isOutput {v : Value} (h : Writes r plan item name v) :
    ∃ p, IsOutput r plan.schema p ∧ p.fieldName = name := by
  obtain ⟨before, p, after, hsplit, hp, -⟩ := h
  refine ⟨p, ⟨?_, hp.visible, hp.notSkipped⟩, hp.named⟩
  rw [hsplit]
  exact List.mem_append_right _ List.mem_cons_self

/-- A read keeps its parents, if the outputs are apart from them. -/
theorem get?_parent_read (h : Reads d listing state.attributes r plan item id)
    (hapart : OutputsApart r plan.schema) (hname : name ∈ r.parentProperties) :
    Entries.get? name (d.read listing state).state.attributes
      = Entries.get? name state.attributes := by
  refine (get?_read_eq_iff h name).mpr fun v hwrites => ?_
  obtain ⟨p, hp, rfl⟩ := hwrites.exists_isOutput
  exact absurd hname (hapart p hp)

/-- The stages that a read has passed are passed again by what it leaves. -/
theorem Reads.again (h : Reads d listing state.attributes r plan item id)
    (hapart : OutputsApart r plan.schema) :
    Reads d listing (d.read listing state).state.attributes r plan item id where
  configured := h.configured
  prepares := by
    refine h.prepares.congr (fun name hname => get?_parent_read h hapart hname) ?_
    -- the filter block is read off the one attribute that is kept
    rw [requestedFilters, get?_filterField_read h]
    exact h.prepares.filters
  selects := h.selects

/-- **Reads are repeatable.** If the outputs are apart from the parents, a read of what a successful
read has left lists the same, succeeds, and leaves the same state with its keys in the same order: the
two reports are equal. -/
theorem read_repeats (hok : (d.read listing state).result = .ok ())
    (hresource : d.resource = some r) (hschema : r.schema = .ok schema)
    (hapart : OutputsApart r schema) :
    (∃ request, (d.read listing state).listed = [request]) ∧
      d.read listing (d.read listing state).state = d.read listing state := by
  obtain ⟨plan, item, id, h, rfl⟩ := exists_reads hok hresource hschema
  have hfirst := read_eq_of_reads h
  have hsecond := read_eq_of_reads (h.again hapart)
  have hextend : Entries.extend (d.read listing state).state.attributes (plan.project item)
      = (d.read listing state).state.attributes := by
    rw [hfirst]
    exact Entries.extend_extend _ (Entries.distinct_ofList _)
  refine ⟨⟨plan.request, by rw [hfirst]⟩, ?_⟩
  rw [hsecond, hextend, hfirst]

/-! ## A rule of a CDN -/

/-- Rules with a label. -/
def firewallSchema : Schema :=
  [Property.ofKind .string "id", Property.ofKind .string "ruleLabel", Property.ofKind .integer "priority"]

/-- The firewall rules of a CDN. -/
def firewallResource : Resource where
  name := "cdns_v1_firewall"
  schema := .ok firewallSchema
  parents := some ⟨["cdns_v1"], "cdns_v1"⟩
  path := fun ids => (PathTemplate.fill "/v1/cdns/{id}/firewall" ids).mapError fun m => [m.message]
  itemsPath := none

/-- A data source of the firewall rules. -/
def firewall : DataSource := ⟨some firewallResource⟩

/-- Two rules, of which the second one is labelled `edge`. -/
def twoRules : Listing := fun _ =>
  .ok ⟨200, "", [[("id", .text "r1"), ("ruleLabel", .text "core")],
    [("ruleLabel", .text "edge"), ("id", .text "r2"), ("priority", .int 7)]]⟩

/-- A request for the rule of the CDN `a` that is labelled `edge`. -/
def edgeRequest : SourceState :=
  ⟨none, [("cdns_v1_id", .text "a"),
    (filterField, .list [(⟨"rule_label", ["edge"]⟩ : FilterEntry).toValue])]⟩

/-- The rule is read twice: its label and its priority stand behind the inputs, which are kept. -/
theorem read_repeats_edge :
    (firewall.read twoRules edgeRequest).result = .ok () ∧
      OutputsApart firewallResource firewallSchema ∧
      Entries.keys (firewall.read twoRules edgeRequest).state.attributes
        = ["cdns_v1_id", "filter", "rule_label", "priority"] ∧
      firewall.read twoRules (firewall.read twoRules edgeRequest).state
        = firewall.read twoRules edgeRequest := by
  have hok : (firewall.read twoRules edgeRequest).result = .ok () := by rfl
  have hapart : OutputsApart firewallResource firewallSchema := by
    have hall : ∀ p ∈ firewallSchema, p.fieldName ∉ firewallResource.parentProperties := by decide
    exact fun p hp => hall p hp.mem
  exact ⟨hok, hapart, by rfl, (read_repeats hok rfl rfl hapart).2⟩

end QueryableApi.DataSource
