import QueryableApi.Proofs.Filter.Block
import QueryableApi.Proofs.Read.Repetition

/-! # A request as the conjunction of its filters

The order of the listing does not matter (`Plan.finish_eq_of_reordered`), because an item is chosen by
counting the matches. Nor does the order of the filters or how often one is given, because an item
matches by having the value of every filter (`Plan.choose_congr`). One more filter can only take
matches away, so it leaves the only match or none (`Plan.IsOnlyMatch.narrow`).

A request is changed here by writing another block under the name of the filters
(`SourceState.withBlock`), which keeps the identifiers of the parents. `read_asks_conjunction` says
what becomes of a read in these three cases. -/

namespace QueryableApi

open Queryable (Asks)

/-- An answer with its items **in another order**. -/
inductive Listing.Reordered :
    Except ErrorChain ListResponse → Except ErrorChain ListResponse → Prop
  /-- A listing that fails has no items. -/
  | error (chain : ErrorChain) : Reordered (.error chain) (.error chain)
  /-- The items are permuted. -/
  | ok (status : Nat) (body : String) {items reordered : List Item} (perm : items.Perm reordered) :
      Reordered (.ok ⟨status, body, items⟩) (.ok ⟨status, body, reordered⟩)

/-- A request with another filter block. -/
def SourceState.withBlock (state : SourceState) (block : List Value) : SourceState :=
  { state with attributes := Entries.insert filterField (.list block) state.attributes }

namespace Plan

variable {plan : Plan} {answer reordered : Except ErrorChain ListResponse} {items : List Item}
  {item : Item} {id : String} {filters : List Filter} {state : SourceState} {r : Resource}
  {attributes : Entries Value} {failure : Failure}

/-! ## The order of the items -/

/-- Which item is chosen does not depend on the order of the items. -/
theorem choose_eq_of_perm {permuted : List Item} (h : items.Perm permuted) :
    plan.choose permuted = plan.choose items := by
  have hcount : matchCount plan permuted = matchCount plan items := (h.countP_eq _).symm
  cases hchoose : plan.choose items with
  | ok item =>
      obtain ⟨hmem, hmatch, hone⟩ := choose_eq_ok_iff.mp hchoose
      exact choose_eq_ok_iff.mpr ⟨h.mem_iff.mp hmem, hmatch, hcount.trans hone⟩
  | error failure =>
      rw [choose_eq_error_iff, hcount]
      exact choose_eq_error_iff.mp hchoose

/-- **Reordered items leave the same state.** -/
theorem finish_eq_of_reordered (h : Listing.Reordered answer reordered) :
    plan.finish reordered state = plan.finish answer state := by
  cases h with
  | error chain => rfl
  | ok status body hperm =>
      by_cases hstatus : status = 200
      · simp only [finish, Plan.items, hstatus, if_true, choose_eq_of_perm hperm, bind, Except.bind]
      · simp only [finish, Plan.items, hstatus, if_false, bind, Except.bind]

/-! ## The filters as a set -/

/-- The only match has the value of every filter, whatever their order. -/
theorem choose_congr (h : ∀ f, f ∈ filters ↔ f ∈ plan.filters) :
    choose { plan with filters } items = choose plan items := by
  have hall : (fun item => Filter.acceptAll plan.schema item filters)
      = fun item => Filter.acceptAll plan.schema item plan.filters := by
    funext item
    rw [Bool.eq_iff_iff, Filter.acceptAll, Filter.acceptAll, List.all_eq_true, List.all_eq_true]
    exact forall_congr' fun f => imp_congr_left (h f)
  simp only [choose, hall]

/-- What is selected depends on the filters as a set. -/
theorem Selects.congr (h : Selects plan answer item id) (hsame : ∀ f, f ∈ filters ↔ f ∈ plan.filters) :
    Selects { plan with filters } answer item id := by
  obtain ⟨⟨response, hanswer, hstatus, honly⟩, hid⟩ := h
  refine ⟨⟨response, hanswer, hstatus, choose_eq_ok_iff.mp ?_⟩, hid⟩
  rw [choose_congr hsame]
  exact choose_eq_ok_iff.mpr honly

/-- What is rejected depends on the filters as a set. -/
theorem Rejects.congr (h : Rejects plan answer failure)
    (hsame : ∀ f, f ∈ filters ↔ f ∈ plan.filters) : Rejects { plan with filters } answer failure := by
  have hfinish : finish { plan with filters } answer ⟨none, []⟩ = finish plan answer ⟨none, []⟩ := by
    simp only [finish, choose_congr hsame]
    rfl
  rw [← finish_eq_error_iff, hfinish]
  exact finish_eq_error_iff.mpr h

/-! ## One more filter -/

/-- An item that matches more filters matches fewer. -/
theorem Matches.of_subset (h : Matches { plan with filters } item) (hsub : plan.filters ⊆ filters) :
    Matches plan item := by
  rw [Matches, Filter.acceptAll, List.all_eq_true] at h ⊢
  exact fun f hf => h f (hsub hf)

/-- More filters have no more matches. -/
theorem matchCount_le (hsub : plan.filters ⊆ filters) (items : List Item) :
    matchCount { plan with filters } items ≤ matchCount plan items :=
  List.countP_mono_left fun _ _ hmatch => Matches.of_subset hmatch hsub

/-- **More filters leave the only match or none.** -/
theorem IsOnlyMatch.narrow (h : IsOnlyMatch plan items item) (hsub : plan.filters ⊆ filters) :
    IsOnlyMatch { plan with filters } items item ∨ matchCount { plan with filters } items = 0 := by
  rcases Nat.eq_zero_or_pos (matchCount { plan with filters } items) with hnone | hsome
  · exact Or.inr hnone
  · obtain ⟨other, hmem, hmatch⟩ := List.countP_pos_iff.mp hsome
    -- what matches more filters matches these, so it is the only match
    obtain rfl : other = item := IsOnlyMatch.eq ⟨hmem, Matches.of_subset hmatch hsub, h.unique⟩ h
    have hle := matchCount_le hsub items
    rw [h.unique] at hle
    exact Or.inl ⟨hmem, hmatch, Nat.le_antisymm hle hsome⟩

/-- More filters select the same item, or there is no result. -/
theorem Selects.narrow (h : Selects plan answer item id) (hsub : plan.filters ⊆ filters) :
    Selects { plan with filters } answer item id ∨
      Rejects { plan with filters } answer .noResults := by
  obtain ⟨⟨response, hanswer, hstatus, honly⟩, hid⟩ := h
  rcases honly.narrow hsub with hstill | hnone
  · exact Or.inl ⟨⟨response, hanswer, hstatus, hstill⟩, hid⟩
  · exact Or.inr (.noMatch hanswer hstatus hnone)

/-- Where there is no result, more filters have none. -/
theorem Rejects.narrow (h : Rejects plan answer .noResults) (hsub : plan.filters ⊆ filters) :
    Rejects { plan with filters } answer .noResults := by
  cases h with
  | @noMatch response hanswer hstatus hnone =>
      have hle := matchCount_le hsub response.items
      rw [hnone] at hle
      exact .noMatch hanswer hstatus (Nat.le_zero.mp hle)

/-! ## Stages that do not look at the filters -/

/-- A stage that fails before the filters fails whatever they are. -/
theorem Refuses.congr {other : Entries Value} (h : Refuses r attributes failure)
    (hparents : ∀ name ∈ r.parentProperties,
      Entries.get? name other = Entries.get? name attributes)
    (hasks : ∀ schema, r.schema = .ok schema → ∃ filters, Asks schema attributes filters) :
    Refuses r other failure := by
  cases h with
  | @parent before after property hsplit hearlier hmissing =>
      have hsame : ∀ name ∈ before ++ property :: after, ∀ id,
          IsParentId other name id ↔ IsParentId attributes name id :=
        fun name hname id => isParentId_congr (hparents name (hsplit ▸ hname))
      refine .parent hsplit (fun name hname => ?_) ?_
      · obtain ⟨id, hid⟩ := hearlier name hname
        exact ⟨id, (hsame name (List.mem_append_left _ hname) id).mpr hid⟩
      · rintro ⟨id, hid⟩
        exact hmissing ⟨id, (hsame property (by simp) id).mp hid⟩
  | path hids hfails => exact .path (parentIds_congr hids hparents) hfails
  | schema hlocated hfails => exact .schema (hlocated.congr hparents) hfails
  | block _ hfound hfails =>
      obtain ⟨filters, entries, hentries, -⟩ := hasks _ hfound
      rw [hentries] at hfails
      cases hfails
  | filters _ hfound hrequested hfails =>
      obtain ⟨filters, entries, hentries, hfilters⟩ := hasks _ hfound
      obtain rfl := Except.ok.inj (hentries.symm.trans hrequested)
      rw [hfilters] at hfails
      cases hfails

/-- No stage before the listing ends in no results. -/
theorem not_refuses_noResults : ¬ Refuses r attributes .noResults := by
  rintro (_ | _ | _ | ⟨-, -, hfails⟩ | ⟨-, -, -, hfails⟩)
  · obtain ⟨fault, -, h⟩ := requestedFilters_eq_error_iff.mp hfails
    cases h
  · obtain ⟨-, entry, -, -, -, hfails⟩ := Checks.mapM_eq_error_iff.mp hfails
    cases FilterEntry.validate_eq_error_iff.mp hfails

end Plan

namespace DataSource

variable {d : DataSource} {listing reordered : Listing} {state : SourceState} {r : Resource}
  {plan : Plan} {item : Item} {id name : String} {failure : Failure} {listed : List ListRequest}
  {block block' : List Value} {entry : Value} {projected : Entries Value}

/-- A read **gives** an identifier and a projection: it succeeds and leaves the one, and the other written
over the attributes of the request. -/
structure Gives (d : DataSource) (listing : Listing) (state : SourceState) (id : String)
    (projected : Entries Value) : Prop where
  /-- The read succeeds. -/
  result : (d.read listing state).result = .ok ()
  /-- It leaves the identifier, and the projection over the attributes. -/
  leaves : (d.read listing state).state = ⟨some id, Entries.extend state.attributes projected⟩
  /-- They are those of the item that is selected. -/
  selects : ∃ r plan item, Reads d listing state.attributes r plan item id ∧ plan.project item = projected

/-- A value is a **valid entry** of the filter block of a data source: it stands for a filter of the
schema, if there is one. -/
def IsValidEntry (d : DataSource) (v : Value) : Prop :=
  ∀ r schema, d.resource = some r → r.schema = .ok schema → ∃ f, Filter.IsOf schema v f

/-- A read whose stages all pass gives what they find. -/
theorem Gives.of_reads (h : Reads d listing state.attributes r plan item id) :
    Gives d listing state id (plan.project item) := by
  refine ⟨?_, ?_, r, plan, item, h, rfl⟩
  · rw [read_eq_of_reads h]
  · rw [read_eq_of_reads h]

/-- It gives nothing else. -/
theorem gives_iff_of_reads (h : Reads d listing state.attributes r plan item id) {other : String} :
    Gives d listing state other projected ↔ other = id ∧ projected = plan.project item := by
  constructor
  · rintro ⟨-, -, r', plan', item', h', rfl⟩
    obtain ⟨rfl, rfl, rfl, rfl⟩ := h.unique h'
    exact ⟨rfl, rfl⟩
  · rintro ⟨rfl, rfl⟩
    exact .of_reads h

/-- A read succeeds iff it gives something. -/
theorem exists_gives_iff :
    (∃ id projected, Gives d listing state id projected) ↔ (d.read listing state).result = .ok () := by
  constructor
  · rintro ⟨id, projected, h⟩
    exact h.result
  · intro h
    obtain ⟨r, plan, item, id, h⟩ := result_eq_ok_iff.mp h
    exact ⟨id, _, .of_reads h⟩

/-- A read that fails gives nothing. -/
theorem not_gives_of_fails (h : Fails d listing state.attributes failure listed) :
    ¬ Gives d listing state id projected := by
  intro hgives
  have hok := hgives.result
  rw [read_eq_of_fails h] at hok
  cases hok

/-! ## Another block -/

/-- The name of the filter block is not that of a parent. -/
theorem ne_filterField_of_mem_parentProperties (h : name ∈ r.parentProperties) :
    name ≠ filterField := by
  rw [Resource.parentProperties] at h
  cases hparents : r.parents with
  | none =>
      rw [hparents] at h
      cases h
  | some parents =>
      rw [hparents] at h
      obtain ⟨parent, -, rfl⟩ := List.mem_map.mp h
      intro heq
      -- the two names end in different letters
      have hlast := congrArg (fun s => s.toList.getLast?) heq
      simp [Parents.propertyOf, filterField, String.toList_append] at hlast

/-- A request with another block asks for that block. -/
theorem requestedBlock?_withBlock (state : SourceState) (block : List Value) :
    requestedBlock? (state.withBlock block).attributes = some block := by
  rw [requestedBlock?, SourceState.withBlock, Entries.get?_insert_self]

/-- Another block keeps the parents. -/
theorem get?_parent_withBlock (h : name ∈ r.parentProperties) (block : List Value) :
    Entries.get? name (state.withBlock block).attributes = Entries.get? name state.attributes :=
  Entries.get?_insert_of_ne (ne_filterField_of_mem_parentProperties h) _ _

/-- **The plan of a request with another block** is the same, but for the filters that its values
stand for. -/
theorem exists_prepares_withBlock (h : Plan.Prepares r state.attributes plan)
    (hvalid : ∀ v ∈ block, ∃ f, Filter.IsOf plan.schema v f) :
    ∃ filters, Plan.Prepares r (state.withBlock block).attributes { plan with filters } ∧
      ∀ f, f ∈ filters ↔ ∃ v ∈ block, Filter.IsOf plan.schema v f := by
  have hblock := requestedBlock?_withBlock state block
  obtain ⟨filters, hasks⟩ := exists_asks_iff.mpr ⟨block, hblock, hvalid⟩
  refine ⟨filters, h.congr (fun name hname => get?_parent_withBlock hname block) hasks, fun f => ?_⟩
  exact mem_iff_of_asks hasks hblock

/-- A plan is made only if every value of the block stands for a filter. -/
theorem exists_isOf_of_prepares (h : Plan.Prepares r state.attributes plan)
    (hblock : requestedBlock? state.attributes = some block) :
    ∀ v ∈ block, ∃ f, Filter.IsOf plan.schema v f := by
  obtain ⟨asked, hasked, hvalid⟩ := exists_asks_iff.mp ⟨plan.filters, h.filters⟩
  obtain rfl := Option.some.inj (hasked.symm.trans hblock)
  exact hvalid

/-- **A block with the same values** asks for the same filters, so the plan is the same but for their
order. -/
theorem exists_prepares_of_same (h : Plan.Prepares r state.attributes plan)
    (hblock : requestedBlock? state.attributes = some block) (hsame : ∀ v, v ∈ block' ↔ v ∈ block) :
    ∃ filters, Plan.Prepares r (state.withBlock block').attributes { plan with filters } ∧
      ∀ f, f ∈ filters ↔ f ∈ plan.filters := by
  have hvalid := exists_isOf_of_prepares h hblock
  obtain ⟨filters, hprepares, hmem⟩ :=
    exists_prepares_withBlock h fun v hv => hvalid v ((hsame v).mp hv)
  refine ⟨filters, hprepares, fun f => ?_⟩
  rw [hmem, mem_iff_of_asks h.filters hblock]
  simp only [hsame]

/-- **A block with one more entry** asks for the same filters and one more. -/
theorem exists_prepares_of_append (h : Plan.Prepares r state.attributes plan)
    (hblock : requestedBlock? state.attributes = some block)
    (hentry : ∃ f, Filter.IsOf plan.schema entry f) :
    ∃ filters,
      Plan.Prepares r (state.withBlock (block ++ [entry])).attributes { plan with filters } ∧
        plan.filters ⊆ filters := by
  have hall : ∀ v ∈ block ++ [entry], ∃ f, Filter.IsOf plan.schema v f := by
    intro v hv
    rcases List.mem_append.mp hv with hv | hv
    · exact exists_isOf_of_prepares h hblock v hv
    · rw [List.mem_singleton.mp hv]
      exact hentry
  obtain ⟨filters, hprepares, hmem⟩ := exists_prepares_withBlock h hall
  refine ⟨filters, hprepares, fun f hf => (hmem f).mpr ?_⟩
  obtain ⟨v, hv, hof⟩ := (mem_iff_of_asks h.filters hblock).mp hf
  exact ⟨v, List.mem_append_left _ hv, hof⟩

/-! ## What becomes of a read -/

/-- A read of reordered items reports the same. -/
theorem read_eq_of_reordered (h : ∀ request, Listing.Reordered (listing request) (reordered request))
    (d : DataSource) (state : SourceState) : d.read reordered state = d.read listing state := by
  rw [read, read]
  cases d.resource with
  | none => rfl
  | some r =>
      dsimp only
      cases Plan.make r state.attributes with
      | error failure => rfl
      | ok plan => simp only [Plan.finish_eq_of_reordered (h plan.request)]

/-- The stages that fail with valid entries fail with the same values in another block. -/
theorem Fails.of_same (h : Fails d listing state.attributes failure listed)
    (hblock : requestedBlock? state.attributes = some block) (hvalid : ∀ v ∈ block, d.IsValidEntry v)
    (hsame : ∀ v, v ∈ block' ↔ v ∈ block) :
    Fails d listing (state.withBlock block').attributes failure listed := by
  cases h with
  | unconfigured hnone => exact .unconfigured hnone
  | refuses hsome hrefused =>
      refine .refuses hsome (hrefused.congr (fun name hname => get?_parent_withBlock hname _) ?_)
      intro schema hschema
      exact exists_asks_iff.mpr ⟨block, hblock, fun v hv => hvalid v hv _ schema hsome hschema⟩
  | @rejects r plan _ hsome hprepares hrejected =>
      obtain ⟨filters, hprepares', hfilters⟩ := exists_prepares_of_same hprepares hblock hsame
      -- the request of the plan does not depend on the filters
      have h' : Fails d listing (state.withBlock block').attributes failure
          [Plan.request { plan with filters }] :=
        .rejects hsome hprepares' (hrejected.congr hfilters)
      exact h'

/-- A block of the same values has the same result and gives the same. -/
theorem result_eq_of_same (hblock : requestedBlock? state.attributes = some block)
    (hvalid : ∀ v ∈ block, d.IsValidEntry v) (hsame : ∀ v, v ∈ block' ↔ v ∈ block) :
    (d.read listing (state.withBlock block')).result = (d.read listing state).result ∧
      ∀ id projected, Gives d listing (state.withBlock block') id projected ↔
        Gives d listing state id projected := by
  rcases reads_or_fails d listing state.attributes with ⟨r, plan, item, id, h⟩ | hfails
  · obtain ⟨filters, hprepares, hfilters⟩ := exists_prepares_of_same h.prepares hblock hsame
    have h' : Reads d listing (state.withBlock block').attributes r { plan with filters } item id :=
      ⟨h.configured, hprepares, h.selects.congr hfilters⟩
    refine ⟨by rw [read_eq_of_reads h, read_eq_of_reads h'], fun other projected => ?_⟩
    rw [gives_iff_of_reads h, gives_iff_of_reads h']
    rfl
  · obtain ⟨failure, listed, h⟩ := hfails
    have h' := h.of_same hblock hvalid hsame
    refine ⟨by rw [read_eq_of_fails h, read_eq_of_fails h'], fun other projected => ?_⟩
    exact iff_of_false (not_gives_of_fails h') (not_gives_of_fails h)

/-- One more valid entry gives the same, or there are no results. -/
theorem Gives.append (h : Gives d listing state id projected)
    (hblock : requestedBlock? state.attributes = some block) (hentry : d.IsValidEntry entry) :
    Gives d listing (state.withBlock (block ++ [entry])) id projected ∨
      (d.read listing (state.withBlock (block ++ [entry]))).result = .error .noResults := by
  obtain ⟨-, -, r, plan, item, h, rfl⟩ := h
  obtain ⟨filters, hprepares, hsub⟩ := exists_prepares_of_append h.prepares hblock
    (hentry r plan.schema h.configured h.prepares.schema)
  rcases h.selects.narrow hsub with hselects | hrejects
  · have h' : Reads d listing (state.withBlock (block ++ [entry])).attributes r { plan with filters }
        item id := ⟨h.configured, hprepares, hselects⟩
    have hgives := Gives.of_reads h'
    exact Or.inl hgives
  · exact Or.inr (result_eq_error_iff.mpr ⟨_, .rejects h.configured hprepares hrejects⟩)

/-- Where there are no results, there are none with one more valid entry. -/
theorem noResults_append (h : (d.read listing state).result = .error .noResults)
    (hblock : requestedBlock? state.attributes = some block) (hentry : d.IsValidEntry entry) :
    (d.read listing (state.withBlock (block ++ [entry]))).result = .error .noResults := by
  obtain ⟨listed, h⟩ := result_eq_error_iff.mp h
  cases h with
  | refuses _ hrefused => exact absurd hrefused Plan.not_refuses_noResults
  | @rejects r plan _ hsome hprepares hrejected =>
      obtain ⟨filters, hprepares', hsub⟩ := exists_prepares_of_append hprepares hblock
        (hentry r plan.schema hsome hprepares.schema)
      have hrejected' := hrejected.narrow hsub
      exact result_eq_error_iff.mpr ⟨_, .rejects hsome hprepares' hrejected'⟩

/-- **A request asks for the conjunction of its filters over an unordered listing.** Reordered items
leave the report of a read as it is. A block of valid entries in another order, with any of them
repeated, has the same result and gives the same. One more valid entry gives the same or ends in no
results, and in no results if the read without it does. -/
theorem read_asks_conjunction (d : DataSource) (listing : Listing) (state : SourceState) :
    (∀ reordered : Listing,
      (∀ request, Listing.Reordered (listing request) (reordered request)) →
        d.read reordered state = d.read listing state) ∧
    (∀ block block', requestedBlock? state.attributes = some block →
      (∀ v ∈ block, d.IsValidEntry v) → (∀ v, v ∈ block' ↔ v ∈ block) →
        (d.read listing (state.withBlock block')).result = (d.read listing state).result ∧
          ∀ id projected, Gives d listing (state.withBlock block') id projected ↔
            Gives d listing state id projected) ∧
    (∀ block entry, requestedBlock? state.attributes = some block → d.IsValidEntry entry →
      (∀ id projected, Gives d listing state id projected →
        Gives d listing (state.withBlock (block ++ [entry])) id projected ∨
          (d.read listing (state.withBlock (block ++ [entry]))).result = .error .noResults) ∧
      ((d.read listing state).result = .error .noResults →
        (d.read listing (state.withBlock (block ++ [entry]))).result = .error .noResults)) := by
  refine ⟨fun reordered h => read_eq_of_reordered h d state, ?_, ?_⟩
  · exact fun block block' hblock hvalid hsame => result_eq_of_same hblock hvalid hsame
  · intro block entry hblock hentry
    exact ⟨fun id projected h => h.append hblock hentry, fun h => noResults_append h hblock hentry⟩

/-! ## The rules of a CDN in another order -/

/-- The two rules, the other way round. -/
def swappedRules : Listing := fun _ =>
  .ok ⟨200, "", [[("ruleLabel", .text "edge"), ("id", .text "r2"), ("priority", .int 7)],
    [("id", .text "r1"), ("ruleLabel", .text "core")]]⟩

/-- The entry that asks for the label `edge`. -/
def edgeEntry : Value := (⟨"rule_label", ["edge"]⟩ : FilterEntry).toValue

/-- The entry that asks for a priority. -/
def priorityEntry (priority : String) : Value := (⟨"priority", [priority]⟩ : FilterEntry).toValue

/-- The edge rule is found in either order of the listing, by its label given once or twice, and by
its label and its priority. No rule has the priority eight, and none has it with the label. -/
theorem read_asks_conjunction_edge :
    firewall.read swappedRules edgeRequest = firewall.read twoRules edgeRequest ∧
      requestedBlock? edgeRequest.attributes = some [edgeEntry] ∧
      (∀ v ∈ [edgeEntry, priorityEntry "7"], firewall.IsValidEntry v) ∧
      (∃ projected, Gives firewall twoRules edgeRequest "r2" projected ∧
        Gives firewall twoRules (edgeRequest.withBlock [edgeEntry, edgeEntry]) "r2" projected ∧
        Gives firewall twoRules (edgeRequest.withBlock ([edgeEntry] ++ [priorityEntry "7"])) "r2"
          projected) ∧
      (firewall.read twoRules (edgeRequest.withBlock [priorityEntry "8"])).result
        = .error .noResults ∧
      (firewall.read twoRules (edgeRequest.withBlock ([priorityEntry "8"] ++ [edgeEntry]))).result
        = .error .noResults := by
  have hreordered : ∀ request, Listing.Reordered (twoRules request) (swappedRules request) :=
    fun _ => .ok 200 "" (List.Perm.swap _ _ [])
  have hvalid : ∀ v ∈ [edgeEntry, priorityEntry "7"], firewall.IsValidEntry v := by
    rintro v hv r schema hr hschema
    obtain rfl := Option.some.inj hr
    obtain rfl := Except.ok.inj hschema
    rcases List.mem_pair.mp hv with rfl | rfl
    · exact ⟨⟨"rule_label", "edge"⟩, ⟨"rule_label", ["edge"]⟩, fun _ => rfl, by rfl⟩
    · exact ⟨⟨"priority", "7"⟩, ⟨"priority", ["7"]⟩, fun _ => rfl, by rfl⟩
  have hedge := hvalid edgeEntry List.mem_cons_self
  have hpriority := hvalid (priorityEntry "7") (by simp)
  obtain ⟨hitems, hblocks, happended⟩ := read_asks_conjunction firewall twoRules edgeRequest
  obtain ⟨id, projected, hgives⟩ := exists_gives_iff.mpr
    (show (firewall.read twoRules edgeRequest).result = .ok () by rfl)
  obtain rfl : "r2" = id := Option.some.inj (congrArg SourceState.id hgives.leaves)
  refine ⟨hitems swappedRules hreordered, by rfl, hvalid, ⟨projected, hgives, ?_, ?_⟩, by rfl, ?_⟩
  · have htwice := hblocks [edgeEntry] [edgeEntry, edgeEntry] rfl (by simpa using hedge) (by simp)
    exact (htwice.2 "r2" projected).mpr hgives
  · refine ((happended [edgeEntry] _ rfl hpriority).1 "r2" projected hgives).resolve_right ?_
    -- the read with both entries succeeds
    rw [show (firewall.read twoRules
      (edgeRequest.withBlock ([edgeEntry] ++ [priorityEntry "7"]))).result = .ok () by rfl]
    exact fun h => by cases h
  · have hnone := read_asks_conjunction firewall twoRules (edgeRequest.withBlock [priorityEntry "8"])
    exact (hnone.2.2 [priorityEntry "8"] edgeEntry rfl hedge).2 rfl

end DataSource

end QueryableApi
