import QueryableApi.Proofs.Read.Inputs

/-! # Sessions

In a session, the attributes of one state are changed and read over in turn (`run`). What stands under
a name in the end is what the last action left that touched it (`Touches`), or what was there at the
start (`Leaves`, `get?_run_eq_iff`).

A read writes only the properties that its item carries. Under the field name of a property that the
item lacks stays what the session left there before, so the attributes are those of the item alone iff
the session has left nothing under these names (`outputs_after_session`). -/

namespace QueryableApi.DataSource

/-- What happens to a state in a session. -/
inductive Action where
  /-- An attribute is set. -/
  | set (name : String) (value : Value)
  /-- An attribute is removed. -/
  | unset (name : String)
  /-- An item is read. -/
  | read (listing : Listing)

/-- The state that an action leaves. -/
def Action.run (d : DataSource) (state : SourceState) : Action → SourceState
  | .set name value => { state with attributes := Entries.insert name value state.attributes }
  | .unset name => { state with attributes := Entries.erase name state.attributes }
  | .read listing => (d.read listing state).state

/-- The state that a session leaves. -/
def run (d : DataSource) (start : SourceState) (actions : List Action) : SourceState :=
  actions.foldl (Action.run d) start

variable {d : DataSource} {start state : SourceState} {action : Action} {actions : List Action}
  {listing : Listing} {name : String} {outcome : Option Value} {r : Resource} {schema : Schema}
  {p : Property}

@[simp] theorem run_nil (d : DataSource) (start : SourceState) : run d start [] = start := rfl

@[simp] theorem run_cons (d : DataSource) (start : SourceState) (action : Action)
    (rest : List Action) : run d start (action :: rest) = run d (action.run d start) rest := rfl

/-- A session goes on from the state that its first part leaves. -/
theorem run_append (d : DataSource) (start : SourceState) (before after : List Action) :
    run d start (before ++ after) = run d (run d start before) after :=
  List.foldl_append

/-! ## One action -/

/-- An action **touches a name** and leaves an outcome under it: the value that it writes there, or
none if it removes it. -/
inductive Touches (d : DataSource) (state : SourceState) (name : String) :
    Action → Option Value → Prop
  /-- Setting an attribute writes the value. -/
  | set (value : Value) : Touches d state name (.set name value) (some value)
  /-- Removing an attribute leaves none. -/
  | unset : Touches d state name (.unset name) none
  /-- A read that succeeds writes the projection of its item. -/
  | read {listing : Listing} {r : Resource} {plan : Plan} {item : Item} {id : String} {v : Value}
      (reads : Reads d listing state.attributes r plan item id)
      (writes : Writes r plan item name v) : Touches d state name (.read listing) (some v)

/-- What an action leaves under a name that it touches. -/
theorem Action.get?_run_of_touches (h : Touches d state name action outcome) :
    Entries.get? name (action.run d state).attributes = outcome := by
  cases h with
  | set value => exact Entries.get?_insert_self name value state.attributes
  | unset => exact (Entries.get?_erase name name state.attributes).trans (if_pos rfl)
  | read hreads hwrites =>
      rw [Action.run, get?_read_eq hreads, (get?_project_eq_some_iff_writes hreads).mpr hwrites]
      rfl

/-- **The frame of an action**: it leaves a name that it does not touch as it was. -/
theorem Action.get?_run_of_not_touches (h : ∀ outcome, ¬ Touches d state name action outcome) :
    Entries.get? name (action.run d state).attributes = Entries.get? name state.attributes := by
  cases action with
  | set key value =>
      refine Entries.get?_insert_of_ne ?_ value state.attributes
      rintro rfl
      exact h _ (.set value)
  | unset key =>
      refine (Entries.get?_erase key name state.attributes).trans (if_neg ?_)
      rintro rfl
      exact h _ .unset
  | read listing =>
      rw [Action.run]
      rcases reads_or_fails d listing state.attributes with ⟨r, plan, item, id, hreads⟩ | hfails
      · refine (get?_read_eq_iff hreads name).mpr fun v hwrites => ?_
        exact absurd (.read hreads hwrites) (h (some v))
      · obtain ⟨failure, listed, hfails⟩ := hfails
        rw [read_eq_of_fails hfails]

/-! ## A whole session -/

/-- No action of a session touches a name. -/
def Untouched (d : DataSource) (name : String) : SourceState → List Action → Prop
  | _, [] => True
  | state, action :: rest =>
      (∀ outcome, ¬ Touches d state name action outcome) ∧
        Untouched d name (action.run d state) rest

/-- What a session **leaves under a name**. -/
inductive Leaves (d : DataSource) (start : SourceState) (name : String) (actions : List Action) :
    Option Value → Prop
  /-- It leaves what was there at the start, if no action touches the name. -/
  | untouched (kept : Untouched d name start actions) :
      Leaves d start name actions (Entries.get? name start.attributes)
  /-- It leaves the outcome of the last action that touches the name. -/
  | touched {before after : List Action} {action : Action} {outcome : Option Value}
      (split : actions = before ++ action :: after)
      (touches : Touches d (run d start before) name action outcome)
      (kept : Untouched d name (action.run d (run d start before)) after) :
      Leaves d start name actions outcome

/-- The frame of a session: a name that no action touches is left as it was. -/
theorem get?_run_of_untouched (h : Untouched d name start actions) :
    Entries.get? name (run d start actions).attributes = Entries.get? name start.attributes := by
  induction actions generalizing start with
  | nil => rw [run_nil]
  | cons action rest ih =>
      obtain ⟨haction, hrest⟩ := h
      rw [run_cons, ih hrest, Action.get?_run_of_not_touches haction]

/-- A session leaves an outcome under every name: a value, or none. -/
theorem exists_leaves (d : DataSource) (start : SourceState) (name : String)
    (actions : List Action) : ∃ outcome, Leaves d start name actions outcome := by
  induction actions generalizing start with
  | nil => exact ⟨_, .untouched trivial⟩
  | cons action rest ih =>
      obtain ⟨outcome, hrest⟩ := ih (action.run d start)
      cases hrest with
      | touched hsplit htouches hkept =>
          rw [← run_cons d start action] at htouches hkept
          exact ⟨outcome, .touched (congrArg (List.cons action) hsplit) htouches hkept⟩
      | untouched hkept =>
          -- the rest leaves the name alone, so this action decides, if it touches the name
          by_cases haction : ∃ outcome, Touches d start name action outcome
          · obtain ⟨outcome, htouches⟩ := haction
            exact ⟨outcome, .touched (List.nil_append _).symm htouches hkept⟩
          · exact ⟨_, .untouched ⟨not_exists.mp haction, hkept⟩⟩

/-- What is read under a name after a session is what the session leaves there. -/
theorem get?_run_of_leaves (h : Leaves d start name actions outcome) :
    Entries.get? name (run d start actions).attributes = outcome := by
  cases h with
  | untouched hkept => exact get?_run_of_untouched hkept
  | touched hsplit htouches hkept =>
      rw [hsplit, run_append, run_cons, get?_run_of_untouched hkept,
        Action.get?_run_of_touches htouches]

/-- **What stands under a name after a session** is what the last action left that touched it, or
what was there at the start. -/
theorem get?_run_eq_iff :
    Entries.get? name (run d start actions).attributes = outcome ↔
      Leaves d start name actions outcome := by
  refine ⟨?_, get?_run_of_leaves⟩
  rintro rfl
  obtain ⟨outcome, h⟩ := exists_leaves d start name actions
  rwa [get?_run_of_leaves h]

/-! ## The outputs of a read -/

/-- A property is an **output** of reads: it is neither the identifier nor reserved, and it carries no
identifier of a parent. -/
structure IsOutput (r : Resource) (schema : Schema) (p : Property) : Prop where
  /-- It is one of the properties. -/
  mem : p ∈ schema
  /-- It is neither the identifier nor reserved. -/
  visible : Queryable.isVisible schema p = true
  /-- It does not carry the identifier of a parent. -/
  notParent : Queryable.isParent r.parentProperties p = false

/-- After a read, the value of the item stands under the field name of an output, and what was there
before if the item lacks it. -/
theorem get?_read_of_isOutput {plan : Plan} {item : Item} {id : String}
    (h : Reads d listing state.attributes r plan item id) (hfields : plan.schema.HasDistinctFields)
    (hp : IsOutput r plan.schema p) :
    Entries.get? p.fieldName (d.read listing state).state.attributes
      = (Projection.value? item p).or (Entries.get? p.fieldName state.attributes) := by
  have hproject : Entries.get? p.fieldName (plan.project item) = Projection.value? item p := by
    refine Option.ext fun v => ?_
    rw [get?_project_eq_some_iff_writes h, Writes]
    exact Schema.writes_fieldName_iff hfields hp.mem hp.visible hp.notParent
  rw [get?_read_eq h, hproject]

/-- **The outputs of a read at the end of a session.** Under the field name of each output stands the
value of the item that was read, if it carries one; else what the session left there before the read.
The attributes of the outputs are those of the item alone iff the session left none under the field
names of the outputs that the item lacks. -/
theorem outputs_after_session (hresource : d.resource = some r) (hschema : r.schema = .ok schema)
    (hfields : schema.HasDistinctFields)
    (hok : (d.read listing (run d start actions)).result = .ok ()) :
    ∃ plan item id, Reads d listing (run d start actions).attributes r plan item id ∧
      (∀ p, IsOutput r schema p →
        (∀ v, Projection.value? item p = some v →
          Entries.get? p.fieldName (d.read listing (run d start actions)).state.attributes
            = some v) ∧
        (Projection.value? item p = none →
          Leaves d start p.fieldName actions
            (Entries.get? p.fieldName
              (d.read listing (run d start actions)).state.attributes))) ∧
      ((∀ p, IsOutput r schema p →
          Entries.get? p.fieldName (d.read listing (run d start actions)).state.attributes
            = Projection.value? item p) ↔
        ∀ p, IsOutput r schema p → Projection.value? item p = none →
          Leaves d start p.fieldName actions none) := by
  obtain ⟨r', plan, item, id, h⟩ := result_eq_ok_iff.mp hok
  -- the resource and the schema of the read are those of the data source
  obtain rfl : r' = r := Option.some.inj (h.configured.symm.trans hresource)
  obtain rfl : plan.schema = schema := Except.ok.inj (h.prepares.schema.symm.trans hschema)
  have hafter := fun p (hp : IsOutput r' plan.schema p) => get?_read_of_isOutput h hfields hp
  refine ⟨plan, item, id, h, fun p hp => ⟨fun v hv => ?_, fun hnone => ?_⟩, ?_, ?_⟩
  · rw [hafter p hp, hv, Option.some_or]
  · rw [hafter p hp, hnone, Option.none_or]
    exact get?_run_eq_iff.mp rfl
  · intro hunmixed p hp hnone
    have hread := hunmixed p hp
    rw [hafter p hp, hnone, Option.none_or] at hread
    exact get?_run_eq_iff.mp hread
  · intro hleaves p hp
    rw [hafter p hp]
    cases hvalue : Projection.value? item p with
    | some v => rfl
    | none => exact get?_run_eq_iff.mpr (hleaves p hp hvalue)

/-! ## Two reads -/

/-- The label of an item. -/
def label : Property := Property.ofKind .string "label"

/-- Items with a label. -/
def labelSchema : Schema := [Property.ofKind .string "id", label]

/-- A collection of items with a label. -/
def labelledResource : Resource where
  name := "cdns"
  schema := .ok labelSchema
  parents := none
  path := fun _ => .ok "/v1/cdns"
  itemsPath := none

/-- A data source of items with a label. -/
def labelled : DataSource := ⟨some labelledResource⟩

/-- A listing of one item. -/
def oneItem (item : Item) : Listing := fun _ => .ok ⟨200, "", [item]⟩

/-- An item that carries its label. -/
def edge : Item := [("id", .text "a"), ("label", .text "edge")]

/-- An item that carries none. -/
def plain : Item := [("id", .text "b")]

/-- The item that is read is the only one listed. -/
theorem Reads.eq_of_oneItem {attributes : Entries Value} {plan : Plan} {item other : Item}
    {id : String} (h : Reads d (oneItem item) attributes r plan other id) : other = item := by
  obtain ⟨response, hanswer, -, honly⟩ := h.selects.answered
  obtain rfl := Except.ok.inj hanswer
  exact List.mem_singleton.mp honly.mem

/-- The label is the only output. -/
theorem eq_label_of_isOutput (h : IsOutput labelledResource labelSchema p) : p = label := by
  have hmem := h.mem
  rw [labelSchema, List.mem_cons, List.mem_singleton] at hmem
  rcases hmem with rfl | rfl
  · exact absurd h.visible (by decide)
  · rfl

/-- After the label is removed, a read of an item without a label leaves none. -/
theorem outputs_after_unset :
    labelSchema.HasDistinctFields ∧
      (labelled.read (oneItem plain)
        (run labelled {} [.read (oneItem edge), .unset "label"])).result = .ok () ∧
      ∀ p, IsOutput labelledResource labelSchema p →
        Entries.get? p.fieldName (labelled.read (oneItem plain)
          (run labelled {} [.read (oneItem edge), .unset "label"])).state.attributes
            = Projection.value? plain p := by
  have hfields : labelSchema.HasDistinctFields := by decide
  have hok : (labelled.read (oneItem plain)
      (run labelled {} [.read (oneItem edge), .unset "label"])).result = .ok () := by rfl
  obtain ⟨plan, item, id, hreads, -, hiff⟩ := outputs_after_session rfl rfl hfields hok
  obtain rfl := hreads.eq_of_oneItem
  refine ⟨hfields, hok, hiff.mpr fun p hp _ => ?_⟩
  -- the last action on the label removed it
  rw [eq_label_of_isOutput hp]
  exact .touched List.singleton_append.symm .unset trivial

/-- **The label of another item is left over**: an item without a label is read after one with a
label, and both reads go well. -/
theorem outputs_left_over :
    labelSchema.HasDistinctFields ∧ IsOutput labelledResource labelSchema label ∧
      (∃ plan, Reads labelled (oneItem plain)
        (run labelled {} [.read (oneItem edge)]).attributes labelledResource plan plain "b") ∧
      Projection.value? plain label = none ∧
      Entries.get? label.fieldName (labelled.read (oneItem plain)
        (run labelled {} [.read (oneItem edge)])).state.attributes = some (.text "edge") := by
  have hok : (labelled.read (oneItem plain)
      (run labelled {} [.read (oneItem edge)])).result = .ok () := by rfl
  obtain ⟨r, plan, item, id, h⟩ := result_eq_ok_iff.mp hok
  obtain rfl := Option.some.inj h.configured
  obtain rfl := h.eq_of_oneItem
  have hid : some "b" = some id := congrArg (fun report => report.state.id) (read_eq_of_reads h)
  obtain rfl := Option.some.inj hid
  have houtput : IsOutput labelledResource labelSchema label :=
    ⟨List.mem_cons_of_mem _ List.mem_cons_self, by decide, by decide⟩
  exact ⟨by decide, houtput, ⟨plan, h⟩, by rfl, by rfl⟩

end QueryableApi.DataSource
