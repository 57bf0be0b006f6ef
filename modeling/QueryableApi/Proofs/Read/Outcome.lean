import QueryableApi.Proofs.Entries
import QueryableApi.Proofs.Read.Stages

/-! # The outcome of a read

A read of a data source either passes every stage (`Reads`) or ends at the first that fails
(`Fails`), which also says what was listed by then. Each relation determines the whole report
(`read_eq_of_reads`, `read_eq_of_fails`), and `read_outcome` puts the two together: when a read
succeeds, what it writes, which failure it ends with, and what a failed read leaves alone. -/

namespace QueryableApi.DataSource

/-- **Every stage of a read passes**: a resource is configured, the plan of its request is made, and
the listing of that plan has one match with an identifier. -/
structure Reads (d : DataSource) (listing : Listing) (attributes : Entries Value) (r : Resource)
    (plan : Plan) (item : Item) (id : String) : Prop where
  /-- A resource is configured. -/
  configured : d.resource = some r
  /-- The stages before the listing pass. -/
  prepares : plan.Prepares r attributes
  /-- The stages after the listing pass. -/
  selects : plan.Selects (listing plan.request) item id

/-- **The first stage of a read that fails**, its failure, and what was listed by then. -/
inductive Fails (d : DataSource) (listing : Listing) (attributes : Entries Value) :
    Failure → List ListRequest → Prop
  /-- No resource is configured. -/
  | unconfigured (missing : d.resource = none) : Fails d listing attributes .missingResource []
  /-- A stage before the listing fails. -/
  | refuses {r : Resource} {failure : Failure} (configured : d.resource = some r)
      (refused : Plan.Refuses r attributes failure) : Fails d listing attributes failure []
  /-- The listing or a stage after it fails. -/
  | rejects {r : Resource} {plan : Plan} {failure : Failure} (configured : d.resource = some r)
      (prepares : plan.Prepares r attributes)
      (rejected : plan.Rejects (listing plan.request) failure) :
      Fails d listing attributes failure [plan.request]

variable {d : DataSource} {listing : Listing} {state : SourceState} {r : Resource} {plan : Plan}
  {item : Item} {id : String} {failure : Failure} {listed : List ListRequest}

/-- The report of a read whose stages all pass. -/
theorem read_eq_of_reads (h : Reads d listing state.attributes r plan item id) :
    d.read listing state =
      ⟨.ok (), ⟨some id, Entries.extend state.attributes (plan.project item)⟩, [plan.request],
        [⟨r.sourceName, .read⟩]⟩ := by
  have hmake := Plan.make_eq_ok_iff.mpr h.prepares
  have hfinish : plan.finish (listing plan.request) state = _ :=
    Plan.finish_eq_ok_iff.mpr ⟨item, id, h.selects, rfl⟩
  simp only [read, h.configured, hmake, hfinish]

/-- The report of a read that ends at a failing stage. -/
theorem read_eq_of_fails (h : Fails d listing state.attributes failure listed) :
    d.read listing state = ⟨.error failure, state, listed, []⟩ := by
  cases h with
  | unconfigured hnone => simp only [read, hnone]
  | refuses hsome hrefused => simp only [read, hsome, Plan.make_eq_error_iff.mpr hrefused]
  | @rejects r plan _ hsome hprepares hrejected =>
      have hfinish : plan.finish (listing plan.request) state = .error failure :=
        Plan.finish_eq_error_iff.mpr hrejected
      simp only [read, hsome, Plan.make_eq_ok_iff.mpr hprepares, hfinish]

/-- **Every read passes all stages or has a first that fails.** -/
theorem reads_or_fails (d : DataSource) (listing : Listing) (attributes : Entries Value) :
    (∃ r plan item id, Reads d listing attributes r plan item id) ∨
      ∃ failure listed, Fails d listing attributes failure listed := by
  cases hsome : d.resource with
  | none => exact Or.inr ⟨_, _, .unconfigured hsome⟩
  | some r =>
      cases hmake : Plan.make r attributes with
      | error failure =>
          exact Or.inr ⟨_, _, .refuses hsome (Plan.make_eq_error_iff.mp hmake)⟩
      | ok plan =>
          have hprepares := Plan.make_eq_ok_iff.mp hmake
          -- whether the stages after the listing pass does not depend on the identifier before
          cases hfinish : plan.finish (listing plan.request) ⟨none, attributes⟩ with
          | error failure =>
              have hrejected := Plan.finish_eq_error_iff.mp hfinish
              exact Or.inr ⟨_, _, .rejects hsome hprepares hrejected⟩
          | ok after =>
              obtain ⟨item, id, hselects, -⟩ := Plan.finish_eq_ok_iff.mp hfinish
              exact Or.inl ⟨r, plan, item, id, hsome, hprepares, hselects⟩

/-- **The stages of a read find one thing only.** -/
theorem Reads.unique {attributes : Entries Value} {r' : Resource} {plan' : Plan} {item' : Item}
    {id' : String} (h : Reads d listing attributes r plan item id)
    (h' : Reads d listing attributes r' plan' item' id') :
    r' = r ∧ plan' = plan ∧ item' = item ∧ id' = id := by
  obtain rfl : r' = r := Option.some.inj (h'.configured.symm.trans h.configured)
  obtain rfl : plan' = plan := by
    have hmake := Plan.make_eq_ok_iff.mpr h.prepares
    exact Except.ok.inj ((Plan.make_eq_ok_iff.mpr h'.prepares).symm.trans hmake)
  obtain ⟨⟨response, hanswer, -, honly⟩, hid⟩ := h.selects
  obtain ⟨⟨response', hanswer', -, honly'⟩, hid'⟩ := h'.selects
  obtain rfl : response' = response := Except.ok.inj (hanswer'.symm.trans hanswer)
  obtain rfl : item' = item := honly'.eq honly
  have hidentify := Plan.identify_eq_ok_iff.mpr hid
  exact ⟨rfl, rfl, rfl, Except.ok.inj ((Plan.identify_eq_ok_iff.mpr hid').symm.trans hidentify)⟩

/-- A read succeeds iff every stage passes. -/
theorem result_eq_ok_iff :
    (d.read listing state).result = .ok () ↔
      ∃ r plan item id, Reads d listing state.attributes r plan item id := by
  constructor
  · intro h
    rcases reads_or_fails d listing state.attributes with hreads | ⟨failure, listed, hfails⟩
    · exact hreads
    · rw [read_eq_of_fails hfails] at h
      cases h
  · rintro ⟨r, plan, item, id, h⟩
    rw [read_eq_of_reads h]

/-- A read that succeeds goes by the resource of the data source and its schema. -/
theorem exists_reads (hok : (d.read listing state).result = .ok ()) (hresource : d.resource = some r)
    {schema : Schema} (hschema : r.schema = .ok schema) :
    ∃ plan item id, Reads d listing state.attributes r plan item id ∧ plan.schema = schema := by
  obtain ⟨r', plan, item, id, h⟩ := result_eq_ok_iff.mp hok
  obtain rfl : r' = r := Option.some.inj (h.configured.symm.trans hresource)
  exact ⟨plan, item, id, h, Except.ok.inj (h.prepares.schema.symm.trans hschema)⟩

/-- A read fails iff a stage does, and with the failure of the first that does. -/
theorem result_eq_error_iff :
    (d.read listing state).result = .error failure ↔
      ∃ listed, Fails d listing state.attributes failure listed := by
  constructor
  · intro h
    rcases reads_or_fails d listing state.attributes with ⟨r, plan, item, id, hreads⟩ | hfails
    · rw [read_eq_of_reads hreads] at h
      cases h
    · obtain ⟨failure', listed, hfails⟩ := hfails
      rw [read_eq_of_fails hfails] at h
      obtain rfl := Except.error.inj h
      exact ⟨listed, hfails⟩
  · rintro ⟨listed, h⟩
    rw [read_eq_of_fails h]

/-- What is listed before a failure is at most the request of the plan. -/
theorem Fails.listed_eq (h : Fails d listing state.attributes failure listed) :
    listed = [] ∨ ∃ r plan, d.resource = some r ∧ Plan.Prepares r state.attributes plan ∧
      listed = [plan.request] := by
  cases h with
  | unconfigured | refuses => exact Or.inl rfl
  | rejects hsome hprepares => exact Or.inr ⟨_, _, hsome, hprepares, rfl⟩

/-- **The outcome of a read.** It succeeds iff every stage passes, and then sets the identifier of
the item, writes the projection of the item over the attributes and submits itself once. Else it
fails with the failure of the first stage that fails, leaves the state as it was and submits
nothing. Either way it lists at most once, and only after the stages before the listing. -/
theorem read_outcome (d : DataSource) (listing : Listing) (state : SourceState) :
    ((d.read listing state).result = .ok () ↔
      ∃ r plan item id, Reads d listing state.attributes r plan item id) ∧
    (∀ r plan item id, Reads d listing state.attributes r plan item id →
      (d.read listing state).state.id = some id ∧
      Entries.IsExtension state.attributes (plan.project item)
        (d.read listing state).state.attributes ∧
      (d.read listing state).submitted = [⟨r.sourceName, .read⟩] ∧
      (d.read listing state).listed = [plan.request]) ∧
    (∀ failure, (d.read listing state).result = .error failure ↔
      ∃ listed, Fails d listing state.attributes failure listed) ∧
    (∀ failure, (d.read listing state).result = .error failure →
      (d.read listing state).state = state ∧ (d.read listing state).submitted = []) ∧
    ((d.read listing state).listed = [] ∨
      ∃ r plan, d.resource = some r ∧ Plan.Prepares r state.attributes plan ∧
        (d.read listing state).listed = [plan.request]) := by
  refine ⟨result_eq_ok_iff, ?_, fun failure => result_eq_error_iff, ?_, ?_⟩
  · intro r plan item id h
    rw [read_eq_of_reads h]
    exact ⟨rfl, Entries.isExtension_extend _ (Entries.distinct_ofList _), rfl, rfl⟩
  · intro failure h
    obtain ⟨listed, hfails⟩ := result_eq_error_iff.mp h
    rw [read_eq_of_fails hfails]
    exact ⟨rfl, rfl⟩
  · rcases reads_or_fails d listing state.attributes with ⟨r, plan, item, id, h⟩ | hfails
    · rw [read_eq_of_reads h]
      exact Or.inr ⟨r, plan, h.configured, h.prepares, rfl⟩
    · obtain ⟨failure, listed, h⟩ := hfails
      rw [read_eq_of_fails h]
      exact h.listed_eq

end QueryableApi.DataSource
