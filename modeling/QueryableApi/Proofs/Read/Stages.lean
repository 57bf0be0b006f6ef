import QueryableApi.DataSource
import QueryableApi.Proofs.Checks

/-! # The stages of a read

A read passes through stages: the parents, the path, the schema, the filter block and its filters
before the listing (`Prepares`), then the status, the one match and its identifier (`Selects`).
`Refuses` and `Rejects` say which stage fails first, with which failure, and that those before it
pass. The two stages of the program are these relations: `make_eq_ok_iff`, `make_eq_error_iff`,
`finish_eq_ok_iff` and `finish_eq_error_iff`. -/

namespace QueryableApi

/-- A **scalar under a key**: the entry that is read there has this canonical text. -/
def Value.IsScalarAt (es : Entries Value) (key text : String) : Prop :=
  ∃ v, Entries.get? key es = some v ∧ v.canonicalText = some text

/-- The text that is looked up under a key is that of the scalar there. -/
theorem Value.bind_canonicalText_eq_some_iff {es : Entries Value} {key text : String} :
    (Entries.get? key es).bind Value.canonicalText = some text ↔ IsScalarAt es key text :=
  Option.bind_eq_some_iff

/-- No text is looked up under a key without a scalar. -/
theorem Value.bind_canonicalText_eq_none_iff {es : Entries Value} {key : String} :
    (Entries.get? key es).bind Value.canonicalText = none ↔ ¬ ∃ text, IsScalarAt es key text := by
  rw [Option.eq_none_iff_forall_ne_some, not_exists]
  exact forall_congr' fun text => not_congr bind_canonicalText_eq_some_iff

namespace Plan

open Checks

variable {r : Resource} {attributes : Entries Value} {plan : Plan}

/-! ## Before the listing -/

/-- The **identifier of a parent**: the text of a scalar attribute that is not blank. -/
def IsParentId (attributes : Entries Value) (property id : String) : Prop :=
  Value.IsScalarAt attributes property id ∧ Text.isBlankText id = false

/-- The parents are identified and the path can be filled with their identifiers. -/
structure Locates (r : Resource) (attributes : Entries Value) (ids : List String) (path : String) :
    Prop where
  /-- Every parent has its identifier, in order. -/
  parents : List.Forall₂ (IsParentId attributes) r.parentProperties ids
  /-- The path for these identifiers. -/
  resolved : r.path ids = .ok path

/-- **Every stage before the listing passes**, and the plan holds what they find. -/
structure Prepares (r : Resource) (attributes : Entries Value) (plan : Plan) : Prop where
  /-- The parents are identified and the path is resolved. -/
  located : Locates r attributes plan.request.parentIds plan.request.path
  /-- The schema can be had. -/
  schema : r.schema = .ok plan.schema
  /-- The filter block is read, and its filters fit the schema. -/
  filters : ∃ entries, requestedFilters attributes = .ok entries ∧
    validFilters plan.schema entries = .ok plan.filters
  /-- The request names the resource. -/
  resource : plan.request.resource = r.name
  /-- The request says where the resource keeps its items. -/
  itemsPath : plan.request.itemsPath = r.itemsPath
  /-- The parent properties are those of the resource. -/
  parents : plan.parents = r.parentProperties

/-- **The first stage before the listing that fails**, and its failure. -/
inductive Refuses (r : Resource) (attributes : Entries Value) : Failure → Prop
  /-- A parent has no identifier, and every parent before it has one. -/
  | parent {before after : List String} {property : String}
      (split : r.parentProperties = before ++ property :: after)
      (earlier : ∀ other ∈ before, ∃ id, IsParentId attributes other id)
      (missing : ¬ ∃ id, IsParentId attributes property id) :
      Refuses r attributes (.missingParent property)
  /-- The path cannot be resolved. -/
  | path {ids : List String} {chain : ErrorChain}
      (parents : List.Forall₂ (IsParentId attributes) r.parentProperties ids)
      (fails : r.path ids = .error chain) : Refuses r attributes (.pathResolution chain)
  /-- The schema cannot be had. -/
  | schema {ids : List String} {path : String} {chain : ErrorChain}
      (located : Locates r attributes ids path)
      (fails : r.schema = .error chain) : Refuses r attributes (.schemaSource chain)
  /-- The filter block cannot be read. -/
  | block {ids : List String} {path : String} {schema : Schema} {failure : Failure}
      (located : Locates r attributes ids path)
      (found : r.schema = .ok schema)
      (fails : requestedFilters attributes = .error failure) : Refuses r attributes failure
  /-- A filter does not fit the schema. -/
  | filters {ids : List String} {path : String} {schema : Schema} {entries : List FilterEntry}
      {failure : Failure}
      (located : Locates r attributes ids path)
      (found : r.schema = .ok schema)
      (requested : requestedFilters attributes = .ok entries)
      (fails : validFilters schema entries = .error failure) : Refuses r attributes failure

/-- The check of a parent finds its identifier. -/
theorem parentId_eq_ok_iff {property id : String} :
    parentId attributes property = .ok id ↔ IsParentId attributes property id := by
  rw [parentId, IsParentId, ← Value.bind_canonicalText_eq_some_iff]
  cases (Entries.get? property attributes).bind Value.canonicalText with
  | none => simp
  | some text =>
      -- a scalar is there, and it identifies the parent unless its text is blank
      by_cases hblank : Text.isBlankText text = true
      · simp only [hblank, if_true]
        constructor
        · intro h; cases h
        · rintro ⟨⟨⟩, h⟩; rw [h] at hblank; cases hblank
      · simp only [hblank, Bool.false_eq_true, if_false]
        constructor
        · rintro ⟨⟩; exact ⟨rfl, Bool.eq_false_iff.mpr hblank⟩
        · rintro ⟨⟨⟩, -⟩; rfl

/-- The check of a parent fails iff it has no identifier, and names it. -/
theorem parentId_eq_error_iff {property : String} {failure : Failure} :
    parentId attributes property = .error failure ↔
      failure = .missingParent property ∧ ¬ ∃ id, IsParentId attributes property id := by
  -- the check has one failure, whether the attribute is missing, no scalar or blank
  have hname : ∀ e, parentId attributes property = .error e → e = .missingParent property := by
    intro e h
    unfold parentId at h
    split at h
    · split at h
      · exact (Except.error.inj h).symm
      · cases h
    · exact (Except.error.inj h).symm
  constructor
  · intro h
    refine ⟨hname failure h, ?_⟩
    rintro ⟨id, hid⟩
    rw [parentId_eq_ok_iff.mpr hid] at h
    cases h
  · rintro ⟨rfl, hnone⟩
    cases hcheck : parentId attributes property with
    | ok id => exact absurd ⟨id, parentId_eq_ok_iff.mp hcheck⟩ hnone
    | error e => rw [hname e hcheck]

/-- The parents are identified iff every check passes. -/
theorem parentIds_eq_ok_iff {parents ids : List String} :
    parents.mapM (parentId attributes) = .ok ids ↔
      List.Forall₂ (IsParentId attributes) parents ids := by
  rw [mapM_eq_ok_iff]
  simp only [parentId_eq_ok_iff]

/-- **The plan of a request** can be made iff every stage before the listing passes. -/
theorem make_eq_ok_iff : make r attributes = .ok plan ↔ Prepares r attributes plan := by
  rw [make]
  constructor
  · intro h
    obtain ⟨ids, hids, h⟩ := bind_eq_ok_iff.mp h
    obtain ⟨path, hpath, h⟩ := bind_eq_ok_iff.mp h
    obtain ⟨schema, hschema, h⟩ := bind_eq_ok_iff.mp h
    obtain ⟨entries, hentries, h⟩ := bind_eq_ok_iff.mp h
    obtain ⟨filters, hfilters, h⟩ := bind_eq_ok_iff.mp h
    obtain rfl := Except.ok.inj h
    exact {
      located := ⟨parentIds_eq_ok_iff.mp hids, mapError_eq_ok_iff.mp hpath⟩
      schema := mapError_eq_ok_iff.mp hschema
      filters := ⟨entries, hentries, hfilters⟩
      resource := rfl
      itemsPath := rfl
      parents := rfl }
  · intro h
    obtain ⟨⟨resource, path, ids, itemsPath⟩, schema, filters, parents⟩ := plan
    obtain ⟨⟨hids, hpath⟩, hschema, ⟨entries, hentries, hfilters⟩, rfl, rfl, rfl⟩ := h
    refine bind_eq_ok_iff.mpr ⟨ids, parentIds_eq_ok_iff.mpr hids, ?_⟩
    refine bind_eq_ok_iff.mpr ⟨path, mapError_eq_ok_iff.mpr hpath, ?_⟩
    refine bind_eq_ok_iff.mpr ⟨schema, mapError_eq_ok_iff.mpr hschema, ?_⟩
    refine bind_eq_ok_iff.mpr ⟨entries, hentries, ?_⟩
    exact bind_eq_ok_iff.mpr ⟨filters, hfilters, rfl⟩

/-- The identifier of a parent is that of the attribute under its property. -/
theorem isParentId_congr {other : Entries Value} {property id : String}
    (h : Entries.get? property other = Entries.get? property attributes) :
    IsParentId other property id ↔ IsParentId attributes property id := by
  rw [IsParentId, IsParentId, Value.IsScalarAt, Value.IsScalarAt, h]

/-- The identifiers of the parents are those of the attributes under their properties. -/
theorem parentIds_congr {other : Entries Value} {parents ids : List String}
    (h : List.Forall₂ (IsParentId attributes) parents ids)
    (hparents : ∀ name ∈ parents, Entries.get? name other = Entries.get? name attributes) :
    List.Forall₂ (IsParentId other) parents ids := by
  refine ((List.forall₂_and_left _ _).mpr ⟨hparents, h⟩).imp ?_
  rintro name id ⟨hname, hid⟩
  exact (isParentId_congr hname).mpr hid

/-- The parents are located by their attributes alone. -/
theorem Locates.congr {other : Entries Value} {ids : List String} {path : String}
    (h : Locates r attributes ids path)
    (hparents : ∀ name ∈ r.parentProperties,
      Entries.get? name other = Entries.get? name attributes) : Locates r other ids path :=
  ⟨parentIds_congr h.parents hparents, h.resolved⟩

/-- **A plan is made of the parents and the filters.** Attributes that name the same parents have the
same plan, but for the filters that they ask for. -/
theorem Prepares.congr {other : Entries Value} {filters : List Filter}
    (h : Prepares r attributes plan)
    (hparents : ∀ name ∈ r.parentProperties,
      Entries.get? name other = Entries.get? name attributes)
    (hfilters : ∃ entries, requestedFilters other = .ok entries ∧
      validFilters plan.schema entries = .ok filters) :
    Prepares r other { plan with filters } where
  located := h.located.congr hparents
  schema := h.schema
  filters := hfilters
  resource := h.resource
  itemsPath := h.itemsPath
  parents := h.parents

/-- **A plan cannot be made** iff a stage before the listing fails, and with its failure. -/
theorem make_eq_error_iff {failure : Failure} :
    make r attributes = .error failure ↔ Refuses r attributes failure := by
  rw [make]
  constructor
  · intro h
    -- at each stage, either it fails or what it found is kept for the next
    rcases bind_eq_error_iff.mp h with h | ⟨ids, hids, h⟩
    · obtain ⟨before, property, after, hsplit, hbefore, h⟩ := mapM_eq_error_iff.mp h
      obtain ⟨rfl, hmissing⟩ := parentId_eq_error_iff.mp h
      refine .parent hsplit (fun other hother => ?_) hmissing
      obtain ⟨id, hid⟩ := hbefore other hother
      exact ⟨id, parentId_eq_ok_iff.mp hid⟩
    have hids := parentIds_eq_ok_iff.mp hids
    rcases bind_eq_error_iff.mp h with h | ⟨path, hpath, h⟩
    · obtain ⟨chain, hchain, rfl⟩ := mapError_eq_error_iff.mp h
      exact .path hids hchain
    have hlocated : Locates r attributes ids path := ⟨hids, mapError_eq_ok_iff.mp hpath⟩
    rcases bind_eq_error_iff.mp h with h | ⟨schema, hschema, h⟩
    · obtain ⟨chain, hchain, rfl⟩ := mapError_eq_error_iff.mp h
      exact .schema hlocated hchain
    have hschema := mapError_eq_ok_iff.mp hschema
    rcases bind_eq_error_iff.mp h with h | ⟨entries, hentries, h⟩
    · exact .block hlocated hschema h
    rcases bind_eq_error_iff.mp h with h | ⟨filters, -, h⟩
    · exact .filters hlocated hschema hentries h
    cases h
  · intro h
    -- the stages before that of the constructor pass, and that one fails
    cases h with
    | parent hsplit hbefore hmissing =>
        refine bind_error_of_error (mapM_eq_error_iff.mpr ⟨_, _, _, hsplit, ?_, ?_⟩)
        · intro other hother
          obtain ⟨id, hid⟩ := hbefore other hother
          exact ⟨id, parentId_eq_ok_iff.mpr hid⟩
        · exact parentId_eq_error_iff.mpr ⟨rfl, hmissing⟩
    | path hids hpath =>
        refine bind_error_of_ok (parentIds_eq_ok_iff.mpr hids) (bind_error_of_error ?_)
        exact mapError_eq_error_iff.mpr ⟨_, hpath, rfl⟩
    | schema hlocated hschema =>
        refine bind_error_of_ok (parentIds_eq_ok_iff.mpr hlocated.parents) ?_
        refine bind_error_of_ok (mapError_eq_ok_iff.mpr hlocated.resolved) ?_
        exact bind_error_of_error (mapError_eq_error_iff.mpr ⟨_, hschema, rfl⟩)
    | block hlocated hschema hfails =>
        refine bind_error_of_ok (parentIds_eq_ok_iff.mpr hlocated.parents) ?_
        refine bind_error_of_ok (mapError_eq_ok_iff.mpr hlocated.resolved) ?_
        refine bind_error_of_ok (mapError_eq_ok_iff.mpr hschema) ?_
        exact bind_error_of_error hfails
    | filters hlocated hschema hentries hfails =>
        refine bind_error_of_ok (parentIds_eq_ok_iff.mpr hlocated.parents) ?_
        refine bind_error_of_ok (mapError_eq_ok_iff.mpr hlocated.resolved) ?_
        refine bind_error_of_ok (mapError_eq_ok_iff.mpr hschema) ?_
        exact bind_error_of_ok hentries (bind_error_of_error hfails)

/-! ## After the listing -/

/-- The item has the value of every filter of the plan. -/
def Matches (plan : Plan) (item : Item) : Prop :=
  Filter.acceptAll plan.schema item plan.filters = true

/-- How many items match. -/
def matchCount (plan : Plan) (items : List Item) : Nat :=
  items.countP fun item => Filter.acceptAll plan.schema item plan.filters

/-- **The only match** among the items. -/
structure IsOnlyMatch (plan : Plan) (items : List Item) (item : Item) : Prop where
  /-- It is one of the items. -/
  mem : item ∈ items
  /-- It matches. -/
  isMatch : Matches plan item
  /-- No other item does. -/
  unique : matchCount plan items = 1

/-- **Every stage after the listing passes** on its answer, and they find this item and its
identifier: the text of a scalar. -/
structure Selects (plan : Plan) (answer : Except ErrorChain ListResponse) (item : Item)
    (id : String) : Prop where
  /-- The listing answers with the status 200, and the item is the only match. -/
  answered : ∃ response, answer = .ok response ∧ response.status = 200 ∧
    IsOnlyMatch plan response.items item
  /-- The identifier is the scalar under the name of the identifying property. -/
  identified : Value.IsScalarAt item plan.identifierName id

/-- **The first stage after the listing that fails**, and its failure. -/
inductive Rejects (plan : Plan) (answer : Except ErrorChain ListResponse) : Failure → Prop
  /-- The listing fails. -/
  | listing {chain : ErrorChain} (fails : answer = .error chain) :
      Rejects plan answer (.listing chain)
  /-- The listing answers with another status. -/
  | status {response : ListResponse} (answered : answer = .ok response)
      (unexpected : response.status ≠ 200) :
      Rejects plan answer (.unexpectedStatus plan.request.resource plan.request.path response.status
        response.body)
  /-- No item matches. -/
  | noMatch {response : ListResponse} (answered : answer = .ok response)
      (expected : response.status = 200)
      (none : matchCount plan response.items = 0) : Rejects plan answer .noResults
  /-- Several items match. -/
  | severalMatches {response : ListResponse} (answered : answer = .ok response)
      (expected : response.status = 200)
      (several : 2 ≤ matchCount plan response.items) : Rejects plan answer .ambiguousResult
  /-- The only match has no identifier. -/
  | identifier {response : ListResponse} {item : Item} (answered : answer = .ok response)
      (expected : response.status = 200)
      (only : IsOnlyMatch plan response.items item)
      (missing : ¬ ∃ id, Value.IsScalarAt item plan.identifierName id) :
      Rejects plan answer (.missingIdentifier plan.identifierName)

variable {answer : Except ErrorChain ListResponse} {items : List Item} {item : Item} {id : String}
  {failure : Failure}

/-- Items are taken from an answer with the status 200. -/
theorem items_eq_ok_iff :
    plan.items answer = .ok items ↔
      ∃ response, answer = .ok response ∧ response.status = 200 ∧ response.items = items := by
  cases answer with
  | error chain => simp [Plan.items]
  | ok response =>
      by_cases hstatus : response.status = 200
      · simp [Plan.items, hstatus]
      · simp [Plan.items, hstatus]

/-- No items are taken from a listing that fails or answers with another status. -/
theorem items_eq_error_iff :
    plan.items answer = .error failure ↔
      (∃ chain, answer = .error chain ∧ failure = .listing chain) ∨
      ∃ response, answer = .ok response ∧ response.status ≠ 200 ∧
        failure = .unexpectedStatus plan.request.resource plan.request.path response.status
          response.body := by
  cases answer with
  | error chain => simp [Plan.items, eq_comm]
  | ok response =>
      by_cases hstatus : response.status = 200
      · simp [Plan.items, hstatus]
      · simp [Plan.items, hstatus, eq_comm]

/-- The matches are counted by what the filters leave. -/
theorem matchCount_eq_length :
    matchCount plan items
      = (items.filter fun item => Filter.acceptAll plan.schema item plan.filters).length :=
  List.countP_eq_length_filter

/-- **An item is chosen** iff it is the only match. -/
theorem choose_eq_ok_iff : plan.choose items = .ok item ↔ IsOnlyMatch plan items item := by
  have hmem : item ∈ (items.filter fun item => Filter.acceptAll plan.schema item plan.filters) ↔
      item ∈ items ∧ Matches plan item := List.mem_filter
  constructor
  · intro h
    unfold choose at h
    split at h
    · next only hleft =>
      obtain rfl := Except.ok.inj h
      obtain ⟨hitem, hmatch⟩ := hmem.mp (by rw [hleft]; exact List.mem_singleton_self _)
      exact ⟨hitem, hmatch, by rw [matchCount_eq_length, hleft]; rfl⟩
    · cases h
    · cases h
  · rintro ⟨hitem, hmatch, hcount⟩
    -- one match is counted, so the filters leave one item, and this item is among those left
    rw [matchCount_eq_length] at hcount
    obtain ⟨only, hleft⟩ := List.length_eq_one_iff.mp hcount
    have honly : item ∈ [only] := hleft ▸ hmem.mpr ⟨hitem, hmatch⟩
    obtain rfl := List.mem_singleton.mp honly
    unfold choose
    rw [hleft]

/-- There is one only match. -/
theorem IsOnlyMatch.eq {other : Item} (h : IsOnlyMatch plan items other)
    (h' : IsOnlyMatch plan items item) : other = item :=
  Except.ok.inj ((choose_eq_ok_iff.mpr h).symm.trans (choose_eq_ok_iff.mpr h'))

/-- **No item is chosen** iff none matches or several do. -/
theorem choose_eq_error_iff :
    plan.choose items = .error failure ↔
      (matchCount plan items = 0 ∧ failure = .noResults) ∨
      (2 ≤ matchCount plan items ∧ failure = .ambiguousResult) := by
  rw [matchCount_eq_length]
  unfold choose
  -- only the number of items that the filters leave matters: none, one, or two and more
  generalize (items.filter fun item => Filter.acceptAll plan.schema item plan.filters) = matching
  rcases matching with _ | ⟨one, _ | ⟨two, rest⟩⟩
  · simp [eq_comm]
  · simp
  · simp [eq_comm]

/-- The identifier of an item is the scalar under the name of the identifying property. -/
theorem identify_eq_ok_iff :
    plan.identify item = .ok id ↔ Value.IsScalarAt item plan.identifierName id := by
  rw [identify, ← Value.bind_canonicalText_eq_some_iff]
  cases (Entries.get? plan.identifierName item).bind Value.canonicalText with
  | none => simp
  | some text => simp

/-- An item without that scalar has no identifier. -/
theorem identify_eq_error_iff :
    plan.identify item = .error failure ↔
      failure = .missingIdentifier plan.identifierName ∧
        ¬ ∃ id, Value.IsScalarAt item plan.identifierName id := by
  rw [identify, ← Value.bind_canonicalText_eq_none_iff]
  cases (Entries.get? plan.identifierName item).bind Value.canonicalText with
  | none => simp [eq_comm]
  | some text => simp

/-- **A read is finished** iff every stage after the listing passes, and it leaves the identifier
and the projection of the item over the attributes. -/
theorem finish_eq_ok_iff {state after : SourceState} :
    plan.finish answer state = .ok after ↔
      ∃ item id, Selects plan answer item id ∧
        after = ⟨some id, Entries.extend state.attributes (plan.project item)⟩ := by
  rw [finish]
  constructor
  · intro h
    obtain ⟨items, hitems, h⟩ := bind_eq_ok_iff.mp h
    obtain ⟨item, hitem, h⟩ := bind_eq_ok_iff.mp h
    obtain ⟨id, hid, h⟩ := bind_eq_ok_iff.mp h
    obtain rfl := Except.ok.inj h
    obtain ⟨response, hanswer, hstatus, rfl⟩ := items_eq_ok_iff.mp hitems
    refine ⟨item, id, ⟨⟨response, hanswer, hstatus, choose_eq_ok_iff.mp hitem⟩, ?_⟩, rfl⟩
    exact identify_eq_ok_iff.mp hid
  · rintro ⟨item, id, ⟨⟨response, hanswer, hstatus, honly⟩, hid⟩, rfl⟩
    refine bind_eq_ok_iff.mpr ⟨_, items_eq_ok_iff.mpr ⟨response, hanswer, hstatus, rfl⟩, ?_⟩
    refine bind_eq_ok_iff.mpr ⟨item, choose_eq_ok_iff.mpr honly, ?_⟩
    exact bind_eq_ok_iff.mpr ⟨id, identify_eq_ok_iff.mpr hid, rfl⟩

/-- **A read is not finished** iff a stage after the listing fails, and with its failure. -/
theorem finish_eq_error_iff {state : SourceState} :
    plan.finish answer state = .error failure ↔ Rejects plan answer failure := by
  rw [finish]
  constructor
  · intro h
    rcases bind_eq_error_iff.mp h with h | ⟨items, hitems, h⟩
    · rcases items_eq_error_iff.mp h with ⟨chain, hanswer, rfl⟩ | ⟨response, hanswer, hstatus, rfl⟩
      exacts [.listing hanswer, .status hanswer hstatus]
    obtain ⟨response, hanswer, hstatus, rfl⟩ := items_eq_ok_iff.mp hitems
    rcases bind_eq_error_iff.mp h with h | ⟨item, hitem, h⟩
    · rcases choose_eq_error_iff.mp h with ⟨hnone, rfl⟩ | ⟨hseveral, rfl⟩
      exacts [.noMatch hanswer hstatus hnone, .severalMatches hanswer hstatus hseveral]
    rcases bind_eq_error_iff.mp h with h | ⟨id, -, h⟩
    · obtain ⟨rfl, hmissing⟩ := identify_eq_error_iff.mp h
      exact .identifier hanswer hstatus (choose_eq_ok_iff.mp hitem) hmissing
    cases h
  · intro h
    cases h with
    | listing hanswer =>
        exact bind_error_of_error (items_eq_error_iff.mpr (Or.inl ⟨_, hanswer, rfl⟩))
    | status hanswer hstatus =>
        exact bind_error_of_error (items_eq_error_iff.mpr (Or.inr ⟨_, hanswer, hstatus, rfl⟩))
    | noMatch hanswer hstatus hnone =>
        refine bind_error_of_ok (items_eq_ok_iff.mpr ⟨_, hanswer, hstatus, rfl⟩) ?_
        exact bind_error_of_error (choose_eq_error_iff.mpr (Or.inl ⟨hnone, rfl⟩))
    | severalMatches hanswer hstatus hseveral =>
        refine bind_error_of_ok (items_eq_ok_iff.mpr ⟨_, hanswer, hstatus, rfl⟩) ?_
        exact bind_error_of_error (choose_eq_error_iff.mpr (Or.inr ⟨hseveral, rfl⟩))
    | identifier hanswer hstatus honly hmissing =>
        refine bind_error_of_ok (items_eq_ok_iff.mpr ⟨_, hanswer, hstatus, rfl⟩) ?_
        refine bind_error_of_ok (choose_eq_ok_iff.mpr honly) ?_
        exact bind_error_of_error (identify_eq_error_iff.mpr ⟨rfl, hmissing⟩)

end Plan

end QueryableApi
