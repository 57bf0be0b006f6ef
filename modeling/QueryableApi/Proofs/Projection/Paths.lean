import QueryableApi.Proofs.Queryable.Conformance

/-! # Projections, path by path

A path through the properties of a schema names one value in an item and one in what is handed out of it:
the same steps, with payload names in the one and field names in the other. What holds of one step
(`Projection.Goes`) holds of whole paths (`Projection.Leads`), so a projection has, for every path that
leads to a value of the item, one entry that shows this value (`Projection.Place.Shows`), and it has nothing
else (`Schema.project_reproduces`). -/

namespace QueryableApi

/-! ## Steps into values -/

namespace Value

/-- A step into a value. -/
inductive Step
  /-- To the value under a name. -/
  | key (name : String)
  /-- To the element at a position. -/
  | index (i : Nat)
deriving DecidableEq, Repr

/-- The value after a step. -/
def step? : Value → Step → Option Value
  | map entries, .key name => Entries.get? name entries
  | list items, .index i => items[i]?
  | _, _ => none

/-- The value after some steps, one after the other. -/
def at? (v : Value) : List Step → Option Value
  | [] => some v
  | step :: rest => (v.step? step).bind fun w => w.at? rest

/-- Steps lead on from where the first leads. -/
theorem at?_cons_of_step? {v w : Value} {step : Step} (h : v.step? step = some w) (rest : List Step) :
    v.at? (step :: rest) = w.at? rest := by
  rw [at?, h, Option.bind_some]

/-- A value found after some steps is found after the first. -/
theorem exists_of_at?_cons {v w : Value} {step : Step} {rest : List Step}
    (h : v.at? (step :: rest) = some w) : ∃ u, v.step? step = some u ∧ u.at? rest = some w :=
  Option.bind_eq_some_iff.mp h

end Value

namespace Projection

/-! ## Places -/

/-- **A place in a schema**, at which values are handed out. -/
inductive Place
  /-- That of items, with the properties through which these are handed out. -/
  | item (shown : Schema)
  /-- That of the values of a property. -/
  | value (p : Property)
  /-- That of the elements of such values. -/
  | element (p : Property)

namespace Place

variable {place : Place} {schema : Schema} {p : Property} {kind : Kind}

/-- The kind that is declared at a place. -/
inductive HasKind : Place → Kind → Prop
  /-- Items are objects. -/
  | item {shown : Schema} : HasKind (.item shown) .object
  /-- Values have the kind of their property. -/
  | value {p : Property} {kind : Kind} (isKind : p.kind = .ok kind) : HasKind (.value p) kind
  /-- Elements have the kind that their property declares for them. -/
  | element {p : Property} {kind : Kind} (isItemsKind : p.itemsKind = .ok (some kind)) :
      HasKind (.element p) kind

/-- The schema that belongs to a place. -/
def schema? : Place → Option Schema
  | .item shown => some shown
  | .value p | .element p => p.nested

/-- Maps at a place **open to a schema**: they are declared as objects with its properties. -/
structure Opens (place : Place) (schema : Schema) : Prop where
  /-- Objects are declared. -/
  isObject : place.HasKind .object
  /-- The schema belongs to the place. -/
  carries : place.schema? = some schema

/-- A value at a place is a **leaf**: it is no map that opens to a schema and no list of an array. -/
structure IsLeaf (place : Place) (v : Value) : Prop where
  /-- It is no map that opens to a schema. -/
  notOpened : ∀ schema entries, place.Opens schema → v ≠ .map entries
  /-- It is no list of an array. -/
  notListed : ∀ p items, place = .value p → p.kind = .ok .array → v ≠ .list items

/-- A value at a place is a map that opens to a schema, a list of an array, or a leaf. -/
theorem opened_or_listed_or_isLeaf (place : Place) (v : Value) :
    (∃ schema entries, place.Opens schema ∧ v = .map entries) ∨
      (∃ p items, place = .value p ∧ p.kind = .ok .array ∧ v = .list items) ∨ place.IsLeaf v := by
  by_cases hopened : ∃ schema entries, place.Opens schema ∧ v = .map entries
  · exact .inl hopened
  · by_cases hlisted : ∃ p items, place = .value p ∧ p.kind = .ok .array ∧ v = .list items
    · exact .inr (.inl hlisted)
    · exact .inr (.inr ⟨fun schema entries hopens hv => hopened ⟨schema, entries, hopens, hv⟩,
        fun p items hplace hkind hv => hlisted ⟨p, items, hplace, hkind, hv⟩⟩)

/-! ## What is handed out at a place -/

/-- A value at a place as it is handed out. -/
def handOut : Place → Value → Value
  | .item shown, v => object (some shown) v
  | .value p, v => Projection.value p v
  | .element p, v => Projection.element p v

/-- At a place for objects, values are handed out through the schema that belongs to it. -/
theorem handOut_of_isObject (h : place.HasKind .object) (v : Value) :
    place.handOut v = object place.schema? v := by
  cases h with
  | item => rfl
  | value hkind => exact value_of_object hkind v
  | element hitems => rw [handOut, Projection.element, hitems]; rfl

/-- A map that opens to a schema is handed out through it. -/
theorem handOut_map (h : place.Opens schema) (entries : Entries Value) :
    place.handOut (.map entries) = .map (Entries.ofList (fields schema entries)) := by
  rw [handOut_of_isObject h.isObject, h.carries, object]

/-- A list of an array is handed out element by element. -/
theorem handOut_list (hkind : p.kind = .ok .array) (items : List Value) :
    (Place.value p).handOut (.list items) = .list (items.map (Place.element p).handOut) :=
  value_of_list hkind items

/-- A scalar is handed out in the representation of its kind. -/
theorem handOut_of_isScalar (h : place.HasKind kind) (hscalar : kind.isScalar = true) (v : Value) :
    place.handOut v = v.declaredAs kind := by
  cases h with
  | item => cases hscalar
  | value hkind => exact value_of_isScalar hkind hscalar v
  | element hitems =>
      rw [handOut, Projection.element, hitems]
      cases kind with
      | object | array => cases hscalar
      | string | integer | number | boolean => rfl

/-- A leaf whose kind is no scalar one is handed out as it is. -/
theorem handOut_of_isLeaf {v : Value} (h : place.IsLeaf v)
    (hscalar : ∀ kind, place.HasKind kind → kind.isScalar = false) : place.handOut v = v := by
  by_cases hobject : place.HasKind .object
  · rw [handOut_of_isObject hobject]
    exact object_eq_self fun inner entries hinner => h.notOpened inner entries ⟨hobject, hinner⟩
  · cases place with
    | item shown => exact absurd .item hobject
    | value p =>
        cases hkind : p.kind with
        | error type => exact value_of_error hkind v
        | ok kind =>
            cases kind with
            | array => exact value_of_array hkind fun items => h.notListed p items rfl hkind
            | object => exact absurd (.value hkind) hobject
            | string | integer | number | boolean => cases hscalar _ (.value hkind)
    | element p =>
        rw [handOut, Projection.element]
        cases hitems : p.itemsKind with
        | error type => rfl
        | ok items =>
            cases items with
            | none => rfl
            | some kind =>
                cases kind with
                | array => rfl
                | object => exact absurd (.element hitems) hobject
                | string | integer | number | boolean => cases hscalar _ (.element hitems)

/-- **What is shown for a value at a place**: for a map that opens to a schema a map with distinct names,
for a list of an array a list of the same length, for a scalar its declared representation, and for any
other leaf the value itself. -/
inductive Shows (place : Place) : Value → Value → Prop
  /-- A map is shown as a map. -/
  | map {schema : Schema} {entries shown : Entries Value} (opens : place.Opens schema)
      (distinct : Entries.Distinct shown) : Shows place (.map entries) (.map shown)
  /-- A list is shown as a list. -/
  | list {p : Property} {items shown : List Value} (isValue : place = .value p)
      (isArray : p.kind = .ok .array) (sameLength : shown.length = items.length) :
      Shows place (.list items) (.list shown)
  /-- A scalar is shown in the representation of its kind. -/
  | scalar {kind : Kind} (v : Value) (hasKind : place.HasKind kind) (isScalar : kind.isScalar = true) :
      Shows place v (v.declaredAs kind)
  /-- Any other leaf is copied. -/
  | copied {v : Value} (isLeaf : place.IsLeaf v)
      (notScalar : ∀ kind, place.HasKind kind → kind.isScalar = false) : Shows place v v

/-- **What is handed out shows the value.** -/
theorem shows_handOut (place : Place) (v : Value) : place.Shows v (place.handOut v) := by
  rcases place.opened_or_listed_or_isLeaf v with
    ⟨schema, entries, hopens, rfl⟩ | ⟨p, items, rfl, hkind, rfl⟩ | hleaf
  · rw [handOut_map hopens]
    exact .map hopens (Entries.distinct_ofList _)
  · rw [handOut_list hkind]
    exact .list rfl hkind (List.length_map _)
  · by_cases hscalar : ∃ kind, place.HasKind kind ∧ kind.isScalar = true
    · obtain ⟨kind, hkind, hscalar⟩ := hscalar
      rw [handOut_of_isScalar hkind hscalar]
      exact .scalar v hkind hscalar
    · have hnone : ∀ kind, place.HasKind kind → kind.isScalar = false := fun kind hkind =>
        Bool.eq_false_iff.mpr fun htrue => hscalar ⟨kind, hkind, htrue⟩
      rw [handOut_of_isLeaf hleaf hnone]
      exact .copied hleaf hnone

/-- Field names are distinct in the schema of a place, at every level. -/
def HasDistinctFields (place : Place) : Prop :=
  ∀ schema, place.schema? = some schema → schema.AtEveryLevel Schema.HasDistinctFields

/-- Then they are in the schema to which maps open. -/
theorem HasDistinctFields.of_opens (h : place.HasDistinctFields) (hopens : place.Opens schema) :
    schema.HasDistinctFields := (h schema hopens.carries).holds

end Place

/-! ## One step -/

/-- A step through a schema. -/
inductive Step
  /-- To the value of a property. -/
  | property (p : Property)
  /-- To the element at a position. -/
  | index (i : Nat)

/-- The step in an item. -/
def Step.carried : Step → Value.Step
  | property p => .key p.name
  | index i => .index i

/-- The step in what is handed out. -/
def Step.shown : Step → Value.Step
  | property p => .key p.fieldName
  | index i => .index i

/-- **Where a step goes** from a value at a place: from a map that opens to a schema to the value that it
carries for a property, which is not null, and from a list of an array to an element. -/
inductive Goes : Place → Value → Step → Place → Value → Prop
  /-- It goes to the value of a property. -/
  | property {place : Place} {schema : Schema} {entries : Entries Value} {p : Property} {v : Value}
      (opens : place.Opens schema) (mem : p ∈ schema) (carries : Entries.get? p.name entries = some v)
      (notNull : v ≠ .null) : Goes place (.map entries) (.property p) (.value p) v
  /-- It goes to an element. -/
  | index {p : Property} {items : List Value} {i : Nat} {v : Value} (isArray : p.kind = .ok .array)
      (carries : items[i]? = some v) : Goes (.value p) (.list items) (.index i) (.element p) v

namespace Goes

variable {place mid other : Place} {v u w : Value} {s t : Step}

/-- A step goes where payload names lead in the item. -/
theorem step?_carried (h : Goes place v s mid u) : v.step? s.carried = some u := by
  cases h with
  | property _ _ hcarries _ => exact hcarries
  | index _ hcarries => exact hcarries

/-- A step keeps to distinct field names. -/
theorem hasDistinctFields (h : Goes place v s mid u) (hfields : place.HasDistinctFields) :
    mid.HasDistinctFields := by
  cases h with
  | property hopens hmem _ _ =>
      intro inner hinner
      exact (hfields _ hopens.carries).of_nested hmem hinner
  | index _ _ => exact hfields

/-- **A step goes where field names lead in what is handed out.** -/
theorem step?_shown (h : Goes place v s mid u) (hfields : place.HasDistinctFields) :
    (place.handOut v).step? s.shown = some (mid.handOut u) := by
  cases h with
  | @property place schema entries p _ hopens hmem hcarries hnull =>
      rw [Place.handOut_map hopens]
      exact (get?_fields_eq_some_iff (hfields.of_opens hopens)).mpr
        ⟨p, hmem, rfl, _, hcarries, hnull, rfl⟩
  | @index p items i _ hkind hcarries =>
      have helement : (items.map (Place.element p).handOut)[i]? = some ((Place.element p).handOut u) := by
        rw [List.getElem?_map, hcarries, Option.map_some]
      rw [Place.handOut_list hkind]
      exact helement

/-- **Steps that lead to the same in what is handed out are the same.** -/
theorem unique (h : Goes place v s mid u) (h' : Goes place v t other w)
    (hfields : place.HasDistinctFields) (hshown : s.shown = t.shown) :
    s = t ∧ mid = other ∧ u = w := by
  cases h with
  | property hopens hmem hcarries _ =>
      cases h' with
      | property hopens' hmem' hcarries' _ =>
          obtain rfl := Option.some.inj (hopens.carries.symm.trans hopens'.carries)
          obtain rfl := List.inj_on_of_nodup_map (hfields.of_opens hopens) hmem hmem'
            (Value.Step.key.inj hshown)
          exact ⟨rfl, rfl, Option.some.inj (hcarries.symm.trans hcarries')⟩
  | index _ hcarries =>
      cases h' with
      | index _ hcarries' =>
          obtain rfl := Value.Step.index.inj hshown
          exact ⟨rfl, rfl, Option.some.inj (hcarries.symm.trans hcarries')⟩

end Goes

/-- **Nothing else is handed out**: what is found there after a step is what is handed out for the value to
which some step through the schema goes, unless it lies inside a leaf. -/
theorem exists_goes {place : Place} {v w : Value} {t : Value.Step} (hfields : place.HasDistinctFields)
    (h : (place.handOut v).step? t = some w) :
    place.IsLeaf v ∨ ∃ s mid u, Goes place v s mid u ∧ s.shown = t ∧ mid.handOut u = w := by
  rcases place.opened_or_listed_or_isLeaf v with
    ⟨schema, entries, hopens, rfl⟩ | ⟨p, items, rfl, hkind, rfl⟩ | hleaf
  · rw [Place.handOut_map hopens] at h
    cases t with
    | index i => cases h
    | key name =>
        obtain ⟨p, hmem, hname, u, hcarries, hnull, hvalue⟩ :=
          (get?_fields_eq_some_iff (hfields.of_opens hopens)).mp h
        rw [← hname]
        exact .inr ⟨.property p, .value p, u, .property hopens hmem hcarries hnull, rfl, hvalue⟩
  · rw [Place.handOut_list hkind] at h
    cases t with
    | key name => cases h
    | index i =>
        rw [Value.step?, List.getElem?_map] at h
        obtain ⟨u, hcarries, helement⟩ := Option.map_eq_some_iff.mp h
        exact .inr ⟨.index i, .element p, u, .index hkind hcarries, rfl, helement⟩
  · exact .inl hleaf

/-! ## Paths -/

/-- **Where a path leads** from a value at a place: where its steps go, one after the other. -/
inductive Leads : Place → Value → List Step → Place → Value → Prop
  /-- The empty path leads nowhere else. -/
  | here (place : Place) (v : Value) : Leads place v [] place v
  /-- A path leads on from where its first step goes. -/
  | step {place mid last : Place} {v u w : Value} {s : Step} {path : List Step}
      (goes : Goes place v s mid u) (leads : Leads mid u path last w) :
      Leads place v (s :: path) last w

namespace Leads

variable {place last other : Place} {v w x : Value} {path path' : List Step}

/-- A path leads where payload names lead in the item. -/
theorem at?_carried (h : Leads place v path last w) : v.at? (path.map Step.carried) = some w := by
  induction h with
  | here => rfl
  | step hgoes _ ih =>
      rw [List.map_cons, Value.at?_cons_of_step? hgoes.step?_carried, ih]

/-- **A path leads where field names lead in what is handed out.** -/
theorem at?_shown (h : Leads place v path last w) (hfields : place.HasDistinctFields) :
    (place.handOut v).at? (path.map Step.shown) = some (last.handOut w) := by
  induction h with
  | here => rfl
  | step hgoes _ ih =>
      rw [List.map_cons, Value.at?_cons_of_step? (hgoes.step?_shown hfields),
        ih (hgoes.hasDistinctFields hfields)]

/-- **Paths that lead to the same in what is handed out are the same.** -/
theorem unique (h : Leads place v path last w) (h' : Leads place v path' other x)
    (hfields : place.HasDistinctFields) (hshown : path.map Step.shown = path'.map Step.shown) :
    path = path' ∧ last = other ∧ w = x := by
  induction h generalizing path' with
  | here =>
      cases h' with
      | here => exact ⟨rfl, rfl, rfl⟩
      | step _ _ => cases hshown
  | step hgoes _ ih =>
      cases h' with
      | here => cases hshown
      | step hgoes' hleads' =>
          obtain ⟨hfirst, hrest⟩ := List.cons.inj hshown
          obtain ⟨rfl, rfl, rfl⟩ := hgoes.unique hgoes' hfields hfirst
          obtain ⟨rfl, hend⟩ := ih hleads' (hgoes.hasDistinctFields hfields) hrest
          exact ⟨rfl, hend⟩

end Leads

/-- **Nothing else is handed out** along whole paths: whatever is found there is what is handed out at the
end of a path through the schema, or it lies inside a leaf at the end of one. -/
theorem exists_leads {place : Place} {v w : Value} {steps : List Value.Step}
    (hfields : place.HasDistinctFields) (h : (place.handOut v).at? steps = some w) :
    ∃ path last u inside, Leads place v path last u ∧ steps = path.map Step.shown ++ inside ∧
      (last.handOut u).at? inside = some w ∧ (inside ≠ [] → last.IsLeaf u) := by
  induction steps generalizing place v with
  | nil => exact ⟨[], place, v, [], .here place v, rfl, h, fun hne => absurd rfl hne⟩
  | cons t rest ih =>
      obtain ⟨x, hx, hrest⟩ := Value.exists_of_at?_cons h
      rcases exists_goes hfields hx with hleaf | ⟨s, mid, u, hgoes, rfl, rfl⟩
      · exact ⟨[], place, v, t :: rest, .here place v, rfl, h, fun _ => hleaf⟩
      · obtain ⟨path, last, y, inside, hleads, rfl, hfound⟩ :=
          ih (hgoes.hasDistinctFields hfields) hrest
        exact ⟨s :: path, last, y, inside, .step hgoes hleads, rfl, hfound⟩

end Projection

namespace Schema

open Projection

variable {schema : Schema} {skipped : Property → Bool}

/-- The place of items that are projected: they open to the properties that are visible and not
skipped. -/
def itemPlace (schema : Schema) (skipped : Property → Bool) : Place :=
  .item (schema.filter fun p => Queryable.isVisible schema p && !skipped p)

/-- Field names that are distinct in a schema are so at the place of its items. -/
theorem hasDistinctFields_itemPlace (h : schema.AtEveryLevel HasDistinctFields) :
    (schema.itemPlace skipped).HasDistinctFields := by
  rintro shown hshown
  obtain rfl := Option.some.inj hshown
  refine .intro (h.holds.sublist (List.filter_sublist.map _)) fun p hp inner hinner => ?_
  exact h.of_nested (List.mem_filter.mp hp).1 hinner

/-- **A projection reproduces an item path by path**, if field names are distinct at every level. For every
path through the schema that leads to a value of the item, the projection has an entry under the field
names of the path, and it shows that value. There is no other path to this entry, and whatever the
projection has is an entry of a path or lies inside one that is a leaf. Nothing is asked of the declared
types or of the values: where these do not go together, values are leaves. -/
theorem project_reproduces (schema : Schema) (skipped : Property → Bool) (item : Item)
    (hfields : schema.AtEveryLevel HasDistinctFields) :
    (∀ path last v, Leads (schema.itemPlace skipped) (.map item) path last v →
        (Value.map item).at? (path.map Step.carried) = some v ∧
          ∃ w, (Value.map (schema.project skipped item)).at? (path.map Step.shown) = some w ∧
            last.Shows v w) ∧
      (∀ path path' last last' v v', Leads (schema.itemPlace skipped) (.map item) path last v →
        Leads (schema.itemPlace skipped) (.map item) path' last' v' →
        path.map Step.shown = path'.map Step.shown → path = path' ∧ last = last' ∧ v = v') ∧
      ∀ steps w, (Value.map (schema.project skipped item)).at? steps = some w →
        ∃ path last v shown inside, Leads (schema.itemPlace skipped) (.map item) path last v ∧
          last.Shows v shown ∧ steps = path.map Step.shown ++ inside ∧ shown.at? inside = some w ∧
          (inside ≠ [] → last.IsLeaf v) := by
  have hplace : (schema.itemPlace skipped).HasDistinctFields := hasDistinctFields_itemPlace hfields
  have hout : (schema.itemPlace skipped).handOut (.map item)
      = .map (schema.project skipped item) := Place.handOut_map ⟨.item, rfl⟩ item
  rw [← hout]
  refine ⟨fun path last v hleads => ?_, fun path path' last last' v v' hleads hleads' hshown => ?_,
    fun steps w hfound => ?_⟩
  · exact ⟨hleads.at?_carried, _, hleads.at?_shown hplace, last.shows_handOut v⟩
  · exact hleads.unique hleads' hplace hshown
  · obtain ⟨path, last, v, inside, hleads, hrest⟩ := exists_leads hplace hfound
    exact ⟨path, last, v, _, inside, hleads, last.shows_handOut v, hrest⟩

/-- The first rule of a site is shown with the truth value that it carries. -/
theorem project_reproduces_site :
    DataSource.siteSchema.AtEveryLevel HasDistinctFields ∧
      ∃ w, (Value.map (DataSource.siteSchema.project (fun _ => false) DataSource.site)).at?
          [.key "rules", .index 0, .key "is_active"] = some w ∧
        (Place.value (Property.ofKind .boolean "isActive")).Shows (.bool true) w := by
  have hfields : DataSource.siteSchema.AtEveryLevel HasDistinctFields :=
    DataSource.atEveryLevel_siteSchema (by decide) (by decide) (by decide)
  have hleads : Leads (DataSource.siteSchema.itemPlace fun _ => false) (.map DataSource.site)
      [.property { Property.list "rules" "object" with
        nested := some [Property.ofKind .boolean "isActive"] },
        .index 0, .property (Property.ofKind .boolean "isActive")]
      (.value (Property.ofKind .boolean "isActive")) (.bool true) := by
    refine .step (.property ⟨.item, rfl⟩ (List.mem_filter.mpr ⟨?_, rfl⟩) rfl (by simp)) ?_
    · simp [DataSource.siteSchema]
    refine .step (.index rfl rfl) (.step ?_ (.here _ _))
    exact .property ⟨.element rfl, rfl⟩ (List.mem_singleton.mpr rfl) rfl (by simp)
  exact ⟨hfields,
    ((project_reproduces DataSource.siteSchema _ DataSource.site hfields).1 _ _ _ hleads).2⟩

end Schema

end QueryableApi
