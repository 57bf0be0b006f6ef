import QueryableApi.PathTemplate
import QueryableApi.Proofs.Projection
import QueryableApi.Proofs.Read.Outcome

/-! # The inputs of a read

A request and what a read leaves share one mapping: the filter block and the identifiers of the
parents are inputs, the projection of the item is written over them. The filter block is kept,
because no property is projected under its name (`get?_filterField_read`). The identifier of a
parent is kept unless the projection writes another value under its name (`get?_read_eq_iff`), which
only a property can do that has another name in payloads: skipping goes by payload names, writing by
field names. -/

namespace QueryableApi.DataSource

variable {d : DataSource} {listing : Listing} {state : SourceState} {r : Resource} {plan : Plan}
  {item : Item} {id name : String}

/-- What a read writes, given the parent properties of its resource. -/
def Writes (r : Resource) (plan : Plan) (item : Item) (name : String) (v : Value) : Prop :=
  plan.schema.Writes (Queryable.isParent r.parentProperties) item name v

/-- What a read leaves under a name is what the projection writes there, and what was there before
if it writes nothing. -/
theorem get?_read_eq (h : Reads d listing state.attributes r plan item id) (name : String) :
    Entries.get? name (d.read listing state).state.attributes
      = (Entries.get? name (plan.project item)).or (Entries.get? name state.attributes) := by
  rw [read_eq_of_reads h]
  exact Entries.get?_extend_of_distinct (Entries.distinct_ofList _) name state.attributes

/-- The projection of a read holds what the read writes. -/
theorem get?_project_eq_some_iff_writes (h : Reads d listing state.attributes r plan item id)
    {v : Value} :
    Entries.get? name (plan.project item) = some v ↔ Writes r plan item name v := by
  rw [Plan.project, h.prepares.parents]
  exact Schema.get?_project_eq_some_iff

/-- **The frame of a read**: what stands under a name is kept iff the read writes no other value
there. -/
theorem get?_read_eq_iff (h : Reads d listing state.attributes r plan item id) (name : String) :
    Entries.get? name (d.read listing state).state.attributes = Entries.get? name state.attributes ↔
      ∀ v, Writes r plan item name v → Entries.get? name state.attributes = some v := by
  rw [get?_read_eq h]
  simp only [← get?_project_eq_some_iff_writes h]
  cases Entries.get? name (plan.project item) with
  | none => simp
  | some v => simp [eq_comm]

/-- The filter block is kept. -/
theorem get?_filterField_read (h : Reads d listing state.attributes r plan item id) :
    Entries.get? filterField (d.read listing state).state.attributes
      = Entries.get? filterField state.attributes :=
  (get?_read_eq_iff h filterField).mpr fun _ hv => absurd hv Schema.not_writes_filterField

/-- What is written under the name of a parent comes from a property that has it for its field name
but not for its payload name. -/
theorem Writes.renamed {v : Value} (h : Writes r plan item name v)
    (hname : name ∈ r.parentProperties) :
    ∃ p ∈ plan.schema, p.fieldName = name ∧ p.name ≠ name ∧ p.ofParent = false := by
  obtain ⟨before, p, after, hsplit, hp, -⟩ := h
  have hskipped := hp.notSkipped
  rw [Queryable.isParent, Bool.or_eq_false_iff] at hskipped
  refine ⟨p, by rw [hsplit]; simp, hp.named, ?_, hskipped.1⟩
  rintro rfl
  -- a property that has the payload name of a parent is skipped
  rw [List.contains_iff_mem.mpr hname] at hskipped
  exact absurd hskipped.2 (by simp)

/-- **What a read does to its inputs.** The filter block is kept. The identifier of a parent is kept
iff the projection writes no other value under its name, and what it writes there comes from a
property whose payload name is another one. -/
theorem read_inputs (h : (d.read listing state).result = .ok ()) :
    Entries.get? filterField (d.read listing state).state.attributes
        = Entries.get? filterField state.attributes ∧
      ∃ r plan item id, Reads d listing state.attributes r plan item id ∧
        ∀ name ∈ r.parentProperties,
          (Entries.get? name (d.read listing state).state.attributes
              = Entries.get? name state.attributes ↔
            ∀ v, Writes r plan item name v → Entries.get? name state.attributes = some v) ∧
          ∀ v, Writes r plan item name v →
            ∃ p ∈ plan.schema, p.fieldName = name ∧ p.name ≠ name ∧ p.ofParent = false := by
  obtain ⟨r, plan, item, id, hreads⟩ := result_eq_ok_iff.mp h
  refine ⟨get?_filterField_read hreads, r, plan, item, id, hreads, fun name hname => ⟨?_, ?_⟩⟩
  · exact get?_read_eq_iff hreads name
  · exact fun v hv => hv.renamed hname

/-! ## A property that is renamed to a parent -/

/-- The rules of a CDN, which carry the identifier of the CDN in camel case. -/
def cdnRules : DataSource where
  resource := some {
    name := "rules"
    schema := .ok [Property.ofKind .string "id", Property.ofKind .string "cdnsV1Id"]
    parents := some ⟨["cdns_v1"], "cdns_v1"⟩
    path := fun ids => (PathTemplate.fill "/v1/cdns/{id}/rules" ids).mapError fun m => [m.message]
    itemsPath := none }

/-- One rule, which names a CDN. -/
def ruleOf (cdn : String) : Listing := fun _ =>
  .ok ⟨200, "", [[("id", .text "r1"), ("cdnsV1Id", .text cdn)]]⟩

/-- A request for the rules of the CDN `a`. -/
def rulesRequest : SourceState := ⟨none, [("cdns_v1_id", .text "a")]⟩

/-- A rule that names the CDN asked for leaves the request as it was. -/
theorem read_inputs_rules :
    (cdnRules.read (ruleOf "a") rulesRequest).result = .ok () ∧
      Entries.get? filterField (cdnRules.read (ruleOf "a") rulesRequest).state.attributes
        = Entries.get? filterField rulesRequest.attributes ∧
      Entries.get? "cdns_v1_id" (cdnRules.read (ruleOf "a") rulesRequest).state.attributes
        = Entries.get? "cdns_v1_id" rulesRequest.attributes := by
  have hok : (cdnRules.read (ruleOf "a") rulesRequest).result = .ok () := by rfl
  exact ⟨hok, (read_inputs hok).1, by rfl⟩

/-- **A rule that names another CDN replaces the CDN asked for**, which is an input: the parent
property of the rules. -/
theorem read_replaces_parent :
    cdnRules.resource.map Resource.parentProperties = some ["cdns_v1_id"] ∧
      (cdnRules.read (ruleOf "b") rulesRequest).result = .ok () ∧
      Entries.get? "cdns_v1_id" rulesRequest.attributes = some (.text "a") ∧
      Entries.get? "cdns_v1_id" (cdnRules.read (ruleOf "b") rulesRequest).state.attributes
        = some (.text "b") := by
  refine ⟨?_, ?_, ?_, ?_⟩
  · decide
  all_goals rfl

end QueryableApi.DataSource
