import QueryableApi.Proofs.OpenApi.Frame
import QueryableApi.Proofs.OpenApi.ItemSchema

/-! # Walking through object schemas

`MemberWalk` tells the walk that collects members as it happens, and `ObjectWalk` the one that reads the
schema of an object: a frame is opened for the schema, what it leads to is walked in order, each from the
frames that the one before has left open, and the frame is closed. Every walk comes to an end, with what
`collect` and `objectWithin` give inside the frames, and with the frames as they were (`memberWalk_iff`,
`objectWalk_iff`), so nothing that was walked before counts. -/

namespace QueryableApi.OpenApi

variable {root schema source : Json} {f g inner : Frames} {known found : Members} {objects : Schema}
  {active : List (List Char)} {room : Nat}

/-! ## Walks that collect members -/

/-- The members of schemas **are merged** in turn, each from the frames and behind the members that the
one before has left. -/
inductive Merges (walk : Frames → Members → Json → Members → Frames → Prop) :
    Frames → Members → List Json → Members → Frames → Prop
  /-- There is none. -/
  | nil (f : Frames) (known : Members) : Merges walk f known [] known f
  /-- The first is walked, then the others. -/
  | cons {f g left : Frames} {known more found : Members} {schema : Json} {schemas : List Json}
      (h : walk f known schema more g) (hrest : Merges walk g more schemas found left) :
      Merges walk f known (schema :: schemas) found left

/-- **A walk that collects members**, from the frames open before it and the members known to those that it
leaves. -/
inductive MemberWalk (root : Json) : Frames → Members → Json → Members → Frames → Prop
  /-- No frame is opened. -/
  | refused {f : Frames} {known : Members} {schema : Json} (h : f.enter? (reference? schema) = none) :
      MemberWalk root f known schema known f
  /-- The schema is a reference, and its target is walked. -/
  | target {f inner left : Frames} {known found : Members} {schema next : Json} {reference : String}
      (href : reference? schema = some reference) (h : f.enter? (some reference) = some inner)
      (htarget : target? root reference = some next) (hwalk : MemberWalk root inner known next found left) :
      MemberWalk root f known schema found (left.leave (some reference))
  /-- The schema is a reference that dangles. -/
  | dangling {f inner : Frames} {known : Members} {schema : Json} {reference : String}
      (href : reference? schema = some reference) (h : f.enter? (some reference) = some inner)
      (htarget : target? root reference = none) :
      MemberWalk root f known schema known (inner.leave (some reference))
  /-- The members of the schema itself are included, and those of its parts are merged. -/
  | merged {f inner left : Frames} {known found : Members} {schema : Json} (href : reference? schema = none)
      (h : f.enter? none = some inner)
      (hwalk : Merges (MemberWalk root) inner (known.including schema) (partsOf schema) found left) :
      MemberWalk root f known schema found (left.leave none)

/-- If walks leave the frames as they were, then merging adds one schema after the other, and leaves the
frames as they were too. -/
theorem merges_iff {walk : Frames → Members → Json → Members → Frames → Prop}
    {collected : Members → Json → Members}
    (hwalk : ∀ known schema found g, walk f known schema found g ↔ found = collected known schema ∧ g = f)
    {schemas : List Json} :
    Merges walk f known schemas found g ↔ found = schemas.foldl collected known ∧ g = f := by
  induction schemas generalizing known found g with
  | nil =>
      constructor
      · intro h
        cases h
        exact ⟨rfl, rfl⟩
      · rintro ⟨rfl, rfl⟩
        exact .nil _ _
  | cons schema rest ih =>
      rw [List.foldl_cons]
      constructor
      · intro h
        cases h with
        | cons h hrest =>
            obtain ⟨rfl, rfl⟩ := (hwalk _ _ _ _).mp h
            exact ih.mp hrest
      · rintro ⟨rfl, rfl⟩
        exact .cons ((hwalk _ _ _ _).mpr ⟨rfl, rfl⟩) (ih.mpr ⟨rfl, rfl⟩)

section Members

variable (inside : ∀ active known schema found g, MemberWalk root ⟨room, active⟩ known schema found g ↔
  found = collect root room active known schema ∧ g = ⟨room, active⟩)

include inside

/-- If walks one frame further in collect what is collected there and leave the frames as they were, then
so does a walk here. -/
theorem MemberWalk.eq_of_inside (h : MemberWalk root ⟨room + 1, active⟩ known schema found g) :
    found = collect root (room + 1) active known schema ∧ g = ⟨room + 1, active⟩ := by
  cases h with
  | refused h => exact ⟨(collect_of_active (Frames.enter?_succ_eq_none_iff.mp h)).symm, rfl⟩
  | target href h htarget hwalk =>
      obtain ⟨hactive, rfl⟩ := Frames.enter?_succ_eq_some_iff.mp h
      obtain ⟨rfl, rfl⟩ := (inside _ _ _ _ _).mp hwalk
      rw [collect_of_reference href hactive, htarget]
      exact ⟨rfl, Frames.leave_activate hactive⟩
  | dangling href h htarget =>
      obtain ⟨hactive, rfl⟩ := Frames.enter?_succ_eq_some_iff.mp h
      rw [collect_of_reference href hactive, htarget]
      exact ⟨rfl, Frames.leave_activate hactive⟩
  | merged href h hwalk =>
      obtain ⟨hactive, rfl⟩ := Frames.enter?_succ_eq_some_iff.mp h
      obtain ⟨rfl, rfl⟩ := (merges_iff (inside _)).mp hwalk
      rw [collect_of_none href]
      exact ⟨rfl, Frames.leave_activate hactive⟩

/-- If all walks one frame further in end, then there is one here that ends. -/
theorem memberWalk_of_inside :
    MemberWalk root ⟨room + 1, active⟩ known schema (collect root (room + 1) active known schema)
      ⟨room + 1, active⟩ := by
  cases hactive : Frames.isActive active (reference? schema) with
  | true =>
      rw [collect_of_active hactive]
      exact .refused (Frames.enter?_succ_eq_none_iff.mpr hactive)
  | false =>
      have hopened := (@Frames.enter?_succ_eq_some_iff _ _ room active).mpr ⟨hactive, rfl⟩
      have hleave := @Frames.leave_activate _ room active hactive
      cases href : reference? schema with
      | some reference =>
          rw [href] at hactive hopened hleave
          rw [collect_of_reference href hactive]
          cases htarget : target? root reference with
          | some next =>
              have hwalk := MemberWalk.target href hopened htarget ((inside _ known _ _ _).mpr ⟨rfl, rfl⟩)
              rwa [hleave] at hwalk
          | none =>
              have hwalk := @MemberWalk.dangling _ _ _ known _ _ href hopened htarget
              rwa [hleave] at hwalk
      | none =>
          rw [href] at hopened
          rw [collect_of_none href]
          exact .merged href hopened ((merges_iff (inside _)).mpr ⟨rfl, rfl⟩)

end Members

/-- **Every walk that collects members ends**, with what is collected inside the frames, and with the
frames as they were. -/
theorem memberWalk_iff :
    MemberWalk root f known schema found g ↔
      found = collect root f.room f.active known schema ∧ g = f := by
  obtain ⟨room, active⟩ := f
  -- by induction on the room for frames, since everything inside is walked one frame further in
  induction room generalizing active known schema found g with
  | zero =>
      constructor
      · intro h
        cases h with
        | refused => exact ⟨rfl, rfl⟩
        | target _ h | dangling _ h | merged _ h => cases h
      · rintro ⟨rfl, rfl⟩
        exact .refused rfl
  | succ room ih =>
      constructor
      · exact MemberWalk.eq_of_inside fun _ _ _ _ _ => ih _
      · rintro ⟨rfl, rfl⟩
        exact memberWalk_of_inside fun _ _ _ _ _ => ih _

/-! ## Walks that read the schema of an object -/

/-- **The schema that a property reads further**: an object itself, or the elements of a list if they are
objects. -/
def nestedSource? (root schema : Json) : Option Json :=
  match Kind.ofName? (typeOf root schema) with
  | some .object => some schema
  | some .array =>
    (keyword? root schema "items").filter fun items => typeOf root items == Kind.object.name
  | _ => none

/-- How schemas are read decides only what a property carries: the schema of what it reads further. -/
theorem propertyOf_eq (root : Json) (inner other : Json → Schema) (name : String) (schema : Json)
    (required : Bool) :
    propertyOf root inner name schema required =
      { propertyOf root other name schema required with
        nested := (nestedSource? root schema).map inner } := by
  have hplain : (plainProperty root name schema required).declaredType = typeOf root schema := rfl
  rw [propertyOf, propertyOf, nestedSource?, hplain]
  cases Kind.ofName? (typeOf root schema) with
  | none => rfl
  | some kind =>
      cases kind with
      | object => rfl
      | array =>
          cases keyword? root schema "items" with
          | none => rfl
          | some items =>
              rw [Option.filter_some]
              dsimp only
              cases typeOf root items == Kind.object.name <;> rfl
      | _ => rfl

/-- A property carries the schema of what it reads further. -/
theorem nested_propertyOf (root : Json) (inner : Json → Schema) (name : String) (schema : Json)
    (required : Bool) :
    (propertyOf root inner name schema required).nested = (nestedSource? root schema).map inner := by
  rw [propertyOf_eq root inner inner]

/-- Only the schema of what a property reads further is read. -/
theorem propertyOf_congr {first second : Json → Schema} {name : String} {required : Bool}
    (h : ∀ source, nestedSource? root schema = some source → first source = second source) :
    propertyOf root first name schema required = propertyOf root second name schema required := by
  have hnested : (nestedSource? root schema).map first = (nestedSource? root schema).map second :=
    Option.map_congr h
  rw [propertyOf_eq root first second, hnested, ← propertyOf_eq]

/-- A property that reads nothing further is the same however schemas are read. -/
theorem propertyOf_of_none (hnone : nestedSource? root schema = none) (first second : Json → Schema)
    (name : String) (required : Bool) :
    propertyOf root first name schema required = propertyOf root second name schema required :=
  propertyOf_congr fun source h => by cases hnone.symm.trans h

/-- One that reads a schema further is the same if that one is read alone. -/
theorem propertyOf_of_some {source : Json} (hsource : nestedSource? root schema = some source)
    (objectSchema : Json → Schema) (name : String) (required : Bool) :
    propertyOf root objectSchema name schema required =
      propertyOf root (fun _ => objectSchema source) name schema required :=
  propertyOf_congr fun other h => by rw [Option.some.inj (hsource.symm.trans h)]

/-- Members **are read in turn**, given the names of the required ones, each from the frames that the one
before has left open: a property that reads a schema further has that schema walked. -/
inductive ReadInTurn (root : Json) (walk : Frames → Json → Schema → Frames → Prop) :
    Frames → List String → List (String × Json) → Schema → Frames → Prop
  /-- There is none. -/
  | nil (f : Frames) (required : List String) : ReadInTurn root walk f required [] [] f
  /-- The first property is complete. -/
  | plain {f left : Frames} {required : List String} {name : String} {schema : Json}
      {members : List (String × Json)} {properties : Schema} (hnone : nestedSource? root schema = none)
      (hrest : ReadInTurn root walk f required members properties left) :
      ReadInTurn root walk f required ((name, schema) :: members)
        (propertyOf root (fun _ => []) name schema (required.contains name) :: properties) left
  /-- The first property reads a schema further. -/
  | nested {f g left : Frames} {required : List String} {name : String} {schema source : Json}
      {members : List (String × Json)} {inner properties : Schema}
      (hsource : nestedSource? root schema = some source) (h : walk f source inner g)
      (hrest : ReadInTurn root walk g required members properties left) :
      ReadInTurn root walk f required ((name, schema) :: members)
        (propertyOf root (fun _ => inner) name schema (required.contains name) :: properties) left

/-- **A walk that reads the schema of an object**, from the frames open before it to those that it leaves
open. -/
inductive ObjectWalk (root : Json) : Frames → Json → Schema → Frames → Prop
  /-- No frame is opened. -/
  | refused {f : Frames} {schema : Json} (h : f.enter? (reference? schema) = none) :
      ObjectWalk root f schema [] f
  /-- The schema is a reference, and its target is walked. -/
  | target {f inner left : Frames} {schema next : Json} {reference : String} {objects : Schema}
      (href : reference? schema = some reference) (h : f.enter? (some reference) = some inner)
      (htarget : target? root reference = some next) (hwalk : ObjectWalk root inner next objects left) :
      ObjectWalk root f schema objects (left.leave (some reference))
  /-- The schema is a reference that dangles. -/
  | dangling {f inner : Frames} {schema : Json} {reference : String}
      (href : reference? schema = some reference) (h : f.enter? (some reference) = some inner)
      (htarget : target? root reference = none) :
      ObjectWalk root f schema [] (inner.leave (some reference))
  /-- Its members are collected, and then read. -/
  | members {f inner between left : Frames} {schema : Json} {found : Members} {objects : Schema}
      (href : reference? schema = none) (h : f.enter? none = some inner)
      (hcollect : MemberWalk root inner {} schema found between)
      (hread : ReadInTurn root (ObjectWalk root) between found.required found.properties objects left) :
      ObjectWalk root f schema objects (left.leave none)

/-- If walks leave the frames as they were, then so does reading members, and the properties are those of
the members one by one. -/
theorem readInTurn_iff {walk : Frames → Json → Schema → Frames → Prop} {objectSchema : Json → Schema}
    (hwalk : ∀ schema objects g, walk f schema objects g ↔ objects = objectSchema schema ∧ g = f)
    {required : List String} {members : List (String × Json)} :
    ReadInTurn root walk f required members objects g ↔
      objects = (members.map fun m =>
        propertyOf root objectSchema m.1 m.2 (required.contains m.1)) ∧ g = f := by
  induction members generalizing objects g with
  | nil =>
      constructor
      · intro h
        cases h
        exact ⟨rfl, rfl⟩
      · rintro ⟨rfl, rfl⟩
        exact .nil _ _
  | cons m rest ih =>
      obtain ⟨name, schema⟩ := m
      rw [List.map_cons]
      constructor
      · intro h
        cases h with
        | plain hnone hrest =>
            obtain ⟨rfl, rfl⟩ := ih.mp hrest
            exact ⟨congrArg (· :: _) (propertyOf_of_none hnone _ _ _ _), rfl⟩
        | nested hsource h hrest =>
            obtain ⟨rfl, rfl⟩ := (hwalk _ _ _).mp h
            obtain ⟨rfl, rfl⟩ := ih.mp hrest
            exact ⟨congrArg (· :: _) (propertyOf_of_some hsource _ _ _).symm, rfl⟩
      · rintro ⟨rfl, rfl⟩
        cases hsource : nestedSource? root schema with
        | none =>
            rw [propertyOf_of_none hsource objectSchema fun _ => []]
            exact .plain hsource (ih.mpr ⟨rfl, rfl⟩)
        | some source =>
            rw [propertyOf_of_some hsource]
            exact .nested hsource ((hwalk _ _ _).mpr ⟨rfl, rfl⟩) (ih.mpr ⟨rfl, rfl⟩)

section Objects

variable (inside : ∀ active schema objects g, ObjectWalk root ⟨room, active⟩ schema objects g ↔
  objects = objectWithin root room active schema ∧ g = ⟨room, active⟩)

include inside

/-- If walks one frame further in read the schemas there and leave the frames as they were, then so does a
walk here. -/
theorem ObjectWalk.eq_of_inside (h : ObjectWalk root ⟨room + 1, active⟩ schema objects g) :
    objects = objectWithin root (room + 1) active schema ∧ g = ⟨room + 1, active⟩ := by
  cases h with
  | refused h => exact ⟨(objectWithin_of_active (Frames.enter?_succ_eq_none_iff.mp h)).symm, rfl⟩
  | target href h htarget hwalk =>
      obtain ⟨hactive, rfl⟩ := Frames.enter?_succ_eq_some_iff.mp h
      obtain ⟨rfl, rfl⟩ := (inside _ _ _ _).mp hwalk
      rw [objectWithin_of_reference href hactive, htarget]
      exact ⟨rfl, Frames.leave_activate hactive⟩
  | dangling href h htarget =>
      obtain ⟨hactive, rfl⟩ := Frames.enter?_succ_eq_some_iff.mp h
      rw [objectWithin_of_reference href hactive, htarget]
      exact ⟨rfl, Frames.leave_activate hactive⟩
  | members href h hcollect hread =>
      obtain ⟨hactive, rfl⟩ := Frames.enter?_succ_eq_some_iff.mp h
      -- the members are read from the frames that collecting them has left, the same ones
      obtain ⟨rfl, rfl⟩ := memberWalk_iff.mp hcollect
      obtain ⟨rfl, rfl⟩ := (readInTurn_iff (inside _)).mp hread
      rw [objectWithin_of_none href]
      exact ⟨rfl, Frames.leave_activate hactive⟩

/-- If all walks one frame further in end, then there is one here that ends. -/
theorem objectWalk_of_inside :
    ObjectWalk root ⟨room + 1, active⟩ schema (objectWithin root (room + 1) active schema)
      ⟨room + 1, active⟩ := by
  cases hactive : Frames.isActive active (reference? schema) with
  | true =>
      rw [objectWithin_of_active hactive]
      exact .refused (Frames.enter?_succ_eq_none_iff.mpr hactive)
  | false =>
      have hopened := (@Frames.enter?_succ_eq_some_iff _ _ room active).mpr ⟨hactive, rfl⟩
      have hleave := @Frames.leave_activate _ room active hactive
      cases href : reference? schema with
      | some reference =>
          rw [href] at hactive hopened hleave
          rw [objectWithin_of_reference href hactive]
          cases htarget : target? root reference with
          | some next =>
              have hwalk := ObjectWalk.target href hopened htarget ((inside _ _ _ _).mpr ⟨rfl, rfl⟩)
              rwa [hleave] at hwalk
          | none =>
              have hwalk := ObjectWalk.dangling href hopened htarget
              rwa [hleave] at hwalk
      | none =>
          rw [href] at hopened
          rw [objectWithin_of_none href]
          exact .members href hopened (memberWalk_iff.mpr ⟨rfl, rfl⟩)
            ((readInTurn_iff (inside _)).mpr ⟨rfl, rfl⟩)

end Objects

/-- **Every walk that reads the schema of an object ends**, with the one inside the frames, and with the
frames as they were. -/
theorem objectWalk_iff :
    ObjectWalk root f schema objects g ↔ objects = objectWithin root f.room f.active schema ∧ g = f := by
  obtain ⟨room, active⟩ := f
  -- by induction on the room for frames, as for the members
  induction room generalizing active schema objects g with
  | zero =>
      constructor
      · intro h
        cases h with
        | refused => exact ⟨rfl, rfl⟩
        | target _ h | dangling _ h | members _ h => cases h
      · rintro ⟨rfl, rfl⟩
        exact .refused rfl
  | succ room ih =>
      constructor
      · exact ObjectWalk.eq_of_inside fun _ _ _ _ => ih _
      · rintro ⟨rfl, rfl⟩
        exact objectWalk_of_inside fun _ _ _ _ => ih _

end QueryableApi.OpenApi
