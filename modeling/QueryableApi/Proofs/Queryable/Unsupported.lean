import QueryableApi.Proofs.Queryable.Conformance

/-! # Schemas that convert

A property is unsupported if its declared type names no kind, or if it is an array of elements that a
field cannot be made of (`Property.IsUnsupported`). Converting a schema visits the visible properties, and
with a property those nested in it if it holds objects, outer before inner (`Schema.visited`); a nested
schema that no field is made of is not looked at. The conversion fails as the first unsupported property
that it visits does. Otherwise the fields stand in the order in which their names first occur, and the
filter block behind them (`Queryable.conversion_outcome`). -/

namespace QueryableApi

open Checks

/-! ## Unsupported properties -/

namespace Property

variable {p q : Property} {failure : Failure}

/-- A property **holds objects**: it is one, or a list of some. -/
def HoldsObjects (p : Property) : Prop :=
  p.kind = .ok .object ∨ p.kind = .ok .array ∧ p.itemsKind = .ok (some .object)

instance : DecidablePred HoldsObjects := fun p =>
  inferInstanceAs (Decidable (p.kind = .ok .object ∨
    p.kind = .ok .array ∧ p.itemsKind = .ok (some .object)))

/-- A property is **unsupported**, with the failure that says so. -/
inductive IsUnsupported (p : Property) : Failure → Prop
  /-- Its declared type names no kind. -/
  | type (isUnknown : Kind.ofName? p.declaredType = none) :
      IsUnsupported p (.unsupportedType ⟨p.declaredType⟩)
  /-- It is an array whose elements are of no known kind, or are arrays. -/
  | items {items : String} (isArray : Kind.ofName? p.declaredType = some .array)
      (isDeclared : p.itemsType = some items)
      (isUnfit : Kind.ofName? items = none ∨ Kind.ofName? items = some .array) :
      IsUnsupported p (.unsupportedListItem p.name items)

/-- Why a property is unsupported, if it is. -/
def fault? (p : Property) : Option Failure :=
  match p.kind with
  | .error type => some (.unsupportedType type)
  | .ok .array =>
    match p.itemsKind with
    | .error _ | .ok (some .array) => some (.unsupportedListItem p.name (p.itemsType.getD ""))
    | .ok _ => none
  | .ok _ => none

/-- The elements of an array are unfit for a field iff their declared type names no kind, or that of
arrays. -/
theorem itemsKind_unfit_iff :
    (∃ type, p.itemsKind = .error type) ∨ p.itemsKind = .ok (some .array) ↔
      ∃ items, p.itemsType = some items ∧
        (Kind.ofName? items = none ∨ Kind.ofName? items = some .array) := by
  rw [itemsKind]
  cases p.itemsType with
  | none => cases p.nested <;> simp
  | some items =>
      simp only [Kind.parse]
      cases hitems : Kind.ofName? items <;> simp [Except.map, hitems]

/-- A fault in a property is in its declared type or in that of its elements. -/
theorem fault?_eq_some_iff_kind :
    p.fault? = some failure ↔
      (∃ type, p.kind = .error type ∧ .unsupportedType type = failure) ∨
        p.kind = .ok .array ∧
          ((∃ type, p.itemsKind = .error type) ∨ p.itemsKind = .ok (some .array)) ∧
          .unsupportedListItem p.name (p.itemsType.getD "") = failure := by
  rw [fault?]
  cases p.kind with
  | error type => simp
  | ok kind =>
      cases kind with
      | array =>
          cases p.itemsKind with
          | error type => simp
          | ok items =>
              cases items with
              | none => simp
              | some items => cases items <;> simp
      | _ => simp

/-- A property is unsupported iff there is a fault in it. -/
theorem fault?_eq_some_iff : p.fault? = some failure ↔ p.IsUnsupported failure := by
  rw [fault?_eq_some_iff_kind, itemsKind_unfit_iff]
  constructor
  · rintro (⟨type, hkind, rfl⟩ | ⟨hkind, ⟨items, hitems, hunfit⟩, rfl⟩)
    · obtain ⟨hunknown, rfl⟩ := Kind.parse_eq_error_iff.mp hkind
      exact .type hunknown
    · rw [hitems]
      exact .items (Kind.parse_eq_ok_iff.mp hkind) hitems hunfit
  · rintro (hunknown | ⟨hkind, hitems, hunfit⟩)
    · exact .inl ⟨_, Kind.parse_eq_error_iff.mpr ⟨hunknown, rfl⟩, rfl⟩
    · refine .inr ⟨Kind.parse_eq_ok_iff.mpr hkind, ⟨_, hitems, hunfit⟩, ?_⟩
      rw [hitems]
      rfl

/-! ## The order of visits -/

mutual

/-- **The properties that are visited with a property**: itself, and then those visited with the ones
nested in it, if it holds objects. -/
def visited : Property → List Property
  | ⟨name, declaredType, itemsType, required, computed, readOnly, markedIdentifier, ofParent,
      preferredName, description, defaultValue, nested⟩ =>
    let p : Property := ⟨name, declaredType, itemsType, required, computed, readOnly, markedIdentifier,
      ofParent, preferredName, description, defaultValue, nested⟩
    p :: if p.HoldsObjects then visitedNested nested else []

/-- The properties that are visited with nested ones, if there are any. -/
def visitedNested : Option (List Property) → List Property
  | none => []
  | some schema => visitedEach schema

/-- The properties that are visited with each of some, one after the other. -/
def visitedEach : List Property → List Property
  | [] => []
  | p :: rest => visited p ++ visitedEach rest

end

/-- The properties that are visited with each of some are those of one after the other. -/
theorem visitedEach_eq_flatMap (ps : List Property) : visitedEach ps = ps.flatMap visited := by
  induction ps with
  | nil => rfl
  | cons p rest ih => rw [visitedEach, ih, List.flatMap_cons]

/-- A property comes before those nested in it. -/
theorem visited_eq (p : Property) :
    p.visited = p :: if p.HoldsObjects then (p.nested.getD []).flatMap visited else [] := by
  obtain ⟨_, _, _, _, _, _, _, _, _, _, _, nested⟩ := p
  rw [visited]
  cases nested with
  | none => rfl
  | some inner =>
      rw [visitedNested, visitedEach_eq_flatMap]
      rfl

/-- A property is visited with itself. -/
theorem mem_visited_self (p : Property) : p ∈ p.visited := by
  rw [visited_eq]
  exact List.mem_cons_self

/-- What else is visited with a property is visited with one nested in it. -/
theorem mem_visited_iff :
    q ∈ p.visited ↔ q = p ∨ p.HoldsObjects ∧ ∃ inner, p.nested = some inner ∧
      ∃ r ∈ inner, q ∈ r.visited := by
  rw [visited_eq, List.mem_cons]
  refine or_congr_right ?_
  by_cases hholds : p.HoldsObjects
  · rw [if_pos hholds, List.mem_flatMap]
    cases p.nested <;> simp [hholds]
  · simp [hholds]

/-- What is visited with a visited property is visited. -/
theorem mem_visited_trans {r : Property} (hq : q ∈ p.visited) (hr : r ∈ q.visited) :
    r ∈ p.visited := by
  induction p using nestedInduction with
  | step p ih =>
      rcases mem_visited_iff.mp hq with rfl | ⟨hholds, inner, hinner, s, hs, hqs⟩
      · exact hr
      · exact mem_visited_iff.mpr (.inr ⟨hholds, inner, hinner, s, hs, ih inner hinner s hs hqs⟩)

end Property

namespace Schema

variable {schema : Schema} {parents : List String} {p : Property} {failure : Failure}

/-- The properties that the conversion of a schema visits, in order. -/
def visited (schema : Schema) : List Property :=
  (schema.filter (Queryable.isVisible schema)).flatMap Property.visited

/-- **A property is visited** if it is a visible one of the schema, or is nested in a visited one that
holds objects. -/
inductive Visits (schema : Schema) : Property → Prop
  /-- It is a visible property of the schema. -/
  | top {p : Property} (mem : p ∈ schema) (isVisible : Queryable.isVisible schema p = true) :
      Visits schema p
  /-- It is nested in a visited property that holds objects. -/
  | nested {outer p : Property} {inner : Schema} (visits : Visits schema outer)
      (holds : outer.HoldsObjects) (carries : outer.nested = some inner) (mem : p ∈ inner) :
      Visits schema p

/-- With a visited property every one is visited that is visited with it. -/
theorem Visits.trans {q : Property} (hp : schema.Visits p) (hq : q ∈ p.visited) :
    schema.Visits q := by
  induction p using Property.nestedInduction with
  | step p ih =>
      rcases Property.mem_visited_iff.mp hq with rfl | ⟨hholds, inner, hinner, r, hr, hqr⟩
      · exact hp
      · exact ih inner hinner r hr (.nested hp hholds hinner hr) hqr

/-- **The visited properties** are those of the order of visits. -/
theorem mem_visited_iff : p ∈ schema.visited ↔ schema.Visits p := by
  rw [visited, List.mem_flatMap]
  constructor
  · rintro ⟨q, hq, hp⟩
    obtain ⟨hmem, hvisible⟩ := List.mem_filter.mp hq
    exact (Visits.top hmem hvisible).trans hp
  · intro h
    induction h with
    | @top p hmem hvisible =>
        exact ⟨p, List.mem_filter.mpr ⟨hmem, hvisible⟩, p.mem_visited_self⟩
    | @nested outer p inner _ hholds hinner hmem ih =>
        obtain ⟨q, hq, houter⟩ := ih
        refine ⟨q, hq, Property.mem_visited_trans houter ?_⟩
        exact Property.mem_visited_iff.mpr (.inr ⟨hholds, inner, hinner, p, hmem, p.mem_visited_self⟩)

/-- One of some properties is the **first unsupported** one, with the failure that says so. -/
def FirstUnsupported (ps : List Property) (failure : Failure) : Prop :=
  ∃ before p after, ps = before ++ p :: after ∧ (∀ q ∈ before, ∀ other, ¬ q.IsUnsupported other) ∧
    p.IsUnsupported failure

/-- The first unsupported property is the one at which the search for a fault ends. -/
theorem findSome?_fault?_eq_some_iff {ps : List Property} :
    ps.findSome? Property.fault? = some failure ↔ FirstUnsupported ps failure := by
  rw [List.findSome?_eq_some_iff]
  constructor
  · rintro ⟨before, p, after, hsplit, hp, hbefore⟩
    refine ⟨before, p, after, hsplit, fun q hq other hother => ?_, Property.fault?_eq_some_iff.mp hp⟩
    have hfault := hbefore q hq
    rw [Property.fault?_eq_some_iff.mpr hother] at hfault
    cases hfault
  · rintro ⟨before, p, after, hsplit, hbefore, hp⟩
    refine ⟨before, p, after, hsplit, Property.fault?_eq_some_iff.mpr hp, fun q hq => ?_⟩
    refine Option.eq_none_iff_forall_ne_some.mpr fun other hother => ?_
    exact hbefore q hq other (Property.fault?_eq_some_iff.mp hother)

end Schema

namespace Queryable

variable {schema : Schema} {parents : List String} {queryable : Queryable} {failure : Failure}

/-! ## How a conversion fails -/

/-- A nested schema fails as the first of its properties that does. -/
theorem failure?_nestedBlock (nested : Option Schema) :
    failure? (nestedBlock nested)
      = (nested.getD []).findSome? fun p => failure? (ofProperty p) := by
  cases nested with
  | none => rfl
  | some inner =>
      rw [nestedBlock, failure?_map, blockFields_eq_mapM, failure?_mapM]
      exact congrArg (List.findSome? · inner) (funext fun p => failure?_bind_ok _ _)

/-- **A property fails** as it is unsupported, or as the nested schema of the objects that it holds. -/
theorem failure?_ofProperty (p : Property) :
    failure? (ofProperty p)
      = p.fault?.or (if p.HoldsObjects then failure? (nestedBlock p.nested) else none) := by
  rw [ofProperty_eq, Property.fault?]
  cases hkind : p.kind with
  | error type => simp [Property.HoldsObjects, hkind]
  | ok kind =>
      cases kind with
      | string | integer | number | boolean => simp [Property.HoldsObjects, hkind]
      | object =>
          rw [if_pos (.inl hkind)]
          exact failure?_bind_ok _ _
      | array =>
          cases hitems : p.itemsKind with
          | error type => simp [Property.HoldsObjects, hkind, hitems]
          | ok items => 
              cases items with
              | none => simp [Property.HoldsObjects, hkind, hitems]
              | some kind =>
                  cases kind with
                  | object =>
                      rw [if_pos (.inr ⟨hkind, hitems⟩)]
                      exact failure?_bind_ok _ _
                  | _ => simp [Property.HoldsObjects, hkind, hitems]

/-- A search in lists that stand one after the other ends where the first one that finds something
does. -/
theorem findSome?_flatMap {α β γ : Type} (f : β → Option γ) (g : α → List β) (xs : List α) :
    (xs.flatMap g).findSome? f = xs.findSome? fun x => (g x).findSome? f := by
  induction xs with
  | nil => rfl
  | cons x rest ih =>
      rw [List.flatMap_cons, List.findSome?_append, List.findSome?_cons, ih]
      cases (g x).findSome? f <;> rfl

/-- **A property fails** as the first unsupported one that is visited with it. -/
theorem failure?_ofProperty_eq_findSome? (p : Property) :
    failure? (ofProperty p) = p.visited.findSome? Property.fault? := by
  induction p using Property.nestedInduction with
  | step p ih =>
      rw [failure?_ofProperty, Property.visited_eq, List.findSome?_cons]
      cases p.fault? with
      | some failure => rfl
      | none =>
          rw [Option.none_or]
          split
          · rw [failure?_nestedBlock, findSome?_flatMap]
            cases hinner : p.nested with
            | none => rfl
            | some inner => exact findSome?_congr (ih inner hinner)
          · rfl

/-- **A conversion fails** as the first unsupported property that it visits. -/
theorem queryable_eq_error_iff :
    schema.queryable parents = .error failure ↔ Schema.FirstUnsupported schema.visited failure := by
  have htop : ∀ p, failure? (topField parents p) = p.visited.findSome? Property.fault? := fun p => by
    rw [← failure?_ofProperty_eq_findSome?]
    exact failure?_bind_ok (ofProperty p) _
  have hall : failure? (schema.queryable parents) = schema.visited.findSome? Property.fault? := by
    rw [Schema.visited, findSome?_flatMap, ← funext htop, ← failure?_mapM]
    exact failure?_bind_ok _ _
  rw [← failure?_eq_some_iff, hall, Schema.findSome?_fault?_eq_some_iff]

/-- A conversion fails iff it visits an unsupported property. -/
theorem exists_queryable_eq_error_iff :
    (∃ failure, schema.queryable parents = .error failure) ↔
      ∃ p failure, schema.Visits p ∧ p.IsUnsupported failure := by
  simp only [queryable_eq_error_iff, ← Schema.findSome?_fault?_eq_some_iff]
  rw [← Option.isSome_iff_exists, List.findSome?_isSome_iff]
  constructor
  · rintro ⟨p, hp, hfault⟩
    obtain ⟨failure, hfailure⟩ := Option.isSome_iff_exists.mp hfault
    exact ⟨p, failure, Schema.mem_visited_iff.mp hp, Property.fault?_eq_some_iff.mp hfailure⟩
  · rintro ⟨p, failure, hp, hfailure⟩
    refine ⟨p, Schema.mem_visited_iff.mpr hp, Option.isSome_iff_exists.mpr ⟨failure, ?_⟩⟩
    exact Property.fault?_eq_some_iff.mpr hfailure

/-! ## What a conversion gives -/

/-- Top-level fields stand under the field names of their properties, in order. -/
theorem keys_of_mapM {ps : List Property} {fields : List (String × Field)}
    (h : ps.mapM (topField parents) = .ok fields) :
    Entries.keys fields = ps.map Property.fieldName := by
  have hrow := mapM_eq_ok_iff.mp h
  clear h
  induction hrow with
  | nil => rfl
  | cons hfield _ ih =>
      rw [Entries.keys_cons, ih, List.map_cons, (represents_of_topField hfield).1]

/-- **The names of the fields** are those of the visible properties, in the order in which they first
occur, and that of the filter block behind them. -/
theorem keys_queryable (h : schema.queryable parents = .ok queryable) :
    Entries.keys queryable
      = ((schema.filter (isVisible schema)).map Property.fieldName).eraseDups ++ [filterField] := by
  obtain ⟨fields, hfields, h⟩ := bind_eq_ok_iff.mp h
  have hnames : Entries.keys fields = (schema.filter (isVisible schema)).map Property.fieldName :=
    keys_of_mapM hfields
  have hnew : filterField ∉ ((schema.filter (isVisible schema)).map Property.fieldName).eraseDups := by
    rw [List.mem_eraseDups, List.mem_map]
    rintro ⟨p, hp, hname⟩
    exact fieldName_ne_filterField (List.mem_filter.mp hp).2 hname
  rw [← Except.ok.inj h, Entries.keys_insert, Entries.keys_ofList, hnames, if_neg hnew]

/-- **What comes of a conversion**, for every schema and whatever the parents. It fails iff it visits an
unsupported property, and as the first such property. Otherwise the fields stand under the names of the
visible properties, in the order in which these first occur, with the filter block behind them, which is
always the same optional list; and what is read under any other name represents the last property shown
under it, as a required field if that carries the identifier of a parent and as a computed field if not. -/
theorem conversion_outcome (schema : Schema) (parents : List String) :
    ((∃ failure, schema.queryable parents = .error failure) ↔
        ∃ p failure, schema.Visits p ∧ p.IsUnsupported failure) ∧
      (∀ failure, schema.queryable parents = .error failure ↔
        Schema.FirstUnsupported schema.visited failure) ∧
      ∀ queryable, schema.queryable parents = .ok queryable →
        Entries.keys queryable
            = ((schema.filter (isVisible schema)).map Property.fieldName).eraseDups ++ ["filter"] ∧
          (Entries.get? "filter" queryable = some filterBlock ∧ IsFilterBlock filterBlock) ∧
          ∀ name field, name ≠ "filter" → Entries.get? name queryable = some field →
            ∃ p, schema.IsLastShown name p ∧ Represents p field.type field.element ∧
              field.required = isParent parents p ∧ field.computed = !isParent parents p := by
  refine ⟨exists_queryable_eq_error_iff, fun failure => queryable_eq_error_iff, fun queryable h => ?_⟩
  have hblock : Entries.get? "filter" queryable = some filterBlock := get?_filterField_queryable h
  refine ⟨keys_queryable h, ⟨hblock, isFilterBlock_iff.mpr rfl⟩, fun name field hname hfield => ?_⟩
  obtain ⟨p, hlast, htop⟩ := (get?_queryable_eq_some_iff h hname).mp hfield
  exact ⟨p, hlast, (represents_of_topField htop).2⟩

/-- The properties of a host, with ports of a declared type. Users see two of them under one name. -/
def hostSchema (portType : String) : Schema :=
  [Property.ofKind .string "id", Property.ofKind .string "hostName",
    Property.object "origin" [Property.list "ports" portType],
    { Property.ofKind .string "host_name" with ofParent := true }]

/-- Ports that are integers convert, and ports that are of no known kind do not, inside the origin. -/
theorem conversion_outcome_host :
    (∃ queryable, (hostSchema "integer").queryable [] = .ok queryable ∧
        Entries.keys queryable = ["host_name", "origin", "filter"] ∧
        (∃ block, Entries.get? "filter" queryable = some block ∧ IsFilterBlock block) ∧
        ∃ field, Entries.get? "host_name" queryable = some field ∧ field.required = true ∧
          field.computed = false) ∧
      (hostSchema "uuid").queryable [] = .error (.unsupportedListItem "ports" "uuid") := by
  constructor
  · obtain ⟨queryable, hqueryable, hread⟩ : ∃ queryable,
        (hostSchema "integer").queryable [] = .ok queryable ∧
          ∃ field, Entries.get? "host_name" queryable = some field ∧ field.required = true ∧
            field.computed = false := ⟨_, rfl, _, rfl, rfl, rfl⟩
    obtain ⟨hkeys, hblock, -⟩ := (conversion_outcome (hostSchema "integer") []).2.2 queryable hqueryable
    refine ⟨queryable, hqueryable, ?_, ⟨_, hblock⟩, hread⟩
    rw [hkeys]
    rfl
  · refine ((conversion_outcome (hostSchema "uuid") []).2.1 _).mpr ?_
    exact Schema.findSome?_fault?_eq_some_iff.mp rfl

end Queryable

end QueryableApi
