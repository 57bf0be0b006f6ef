import QueryableApi.OpenApi.Reference
import QueryableApi.Proofs.OpenApi.Frame

/-! # Walking to the type of a schema

`TypeWalk` tells a walk to the type of a schema as it happens: a frame is opened for the schema, the
schemas that it leads to are walked one after the other, each from the frames that the one before has left
open (`InTurn`), and the frame is closed. Every walk comes to an end, with one type and with the frames as
they were, so what is walked before does not count (`typeWalk_iff`). -/

namespace QueryableApi.OpenApi

variable {root schema : Json} {f g : Frames} {type : String} {active : List (List Char)} {room : Nat}

/-! ## Types inside frames -/

/-- The type of a schema that is no reference, with the types of the schemas that it combines: the one it
declares, an object if it has properties, else the one on which they agree. -/
def ownType (inner : Json → String) (schema : Json) : String :=
  (declaredType? schema).getD <|
    if (schema.get? "properties").isSome then "object"
    else
      ((combiners.map Prod.fst).findSome? fun name =>
        (combined? schema name).bind fun schemas => agreed? (schemas.map inner)).getD undecidedType

/-- A schema whose reference is active has no type of its own. -/
theorem typeWithin_of_active (h : Frames.isActive active (reference? schema) = true) :
    typeWithin root (room + 1) active schema = undecidedType := by
  rw [typeWithin]
  exact if_pos h

/-- A reference has the type of its target, one frame further in. -/
theorem typeWithin_of_reference {reference : String} (href : reference? schema = some reference)
    (h : Frames.isActive active (some reference) = false) :
    typeWithin root (room + 1) active schema
      = (target? root reference).elim undecidedType
          (typeWithin root room (Frames.activate active (some reference))) := by
  rw [typeWithin]
  simp only [href, h]
  rfl

/-- Any other schema has its own type, with those of the schemas it combines one frame further in. -/
theorem typeWithin_of_none (href : reference? schema = none) :
    typeWithin root (room + 1) active schema = ownType (typeWithin root room active) schema := by
  rw [typeWithin, ownType]
  simp only [href]
  cases declaredType? schema <;> rfl

/-! ## Walks -/

/-- Schemas are walked **in turn**, each from the frames that the one before has left open. -/
inductive InTurn (walk : Frames → Json → String → Frames → Prop) :
    Frames → List Json → List String → Frames → Prop
  /-- There is none. -/
  | nil (f : Frames) : InTurn walk f [] [] f
  /-- The first is walked, then the others. -/
  | cons {f g left : Frames} {schema : Json} {schemas : List Json} {type : String} {types : List String}
      (h : walk f schema type g) (hrest : InTurn walk g schemas types left) :
      InTurn walk f (schema :: schemas) (type :: types) left

/-- The ways to combine schemas **are tried** in order, until the schemas combined in one way agree. -/
inductive Tries (walk : Frames → Json → String → Frames → Prop) :
    Frames → Json → List String → String → Frames → Prop
  /-- No way is left. -/
  | exhausted (f : Frames) (schema : Json) : Tries walk f schema [] undecidedType f
  /-- The schema combines none in this way. -/
  | absent {f g : Frames} {schema : Json} {name type : String} {names : List String}
      (habsent : combined? schema name = none) (h : Tries walk f schema names type g) :
      Tries walk f schema (name :: names) type g
  /-- The schemas agree. -/
  | agreed {f g : Frames} {schema : Json} {name type : String} {names types : List String}
      {schemas : List Json} (hfound : combined? schema name = some schemas)
      (h : InTurn walk f schemas types g) (hagreed : agreed? types = some type) :
      Tries walk f schema (name :: names) type g
  /-- The schemas do not agree. -/
  | split {f g left : Frames} {schema : Json} {name type : String} {names types : List String}
      {schemas : List Json} (hfound : combined? schema name = some schemas)
      (h : InTurn walk f schemas types g) (hsplit : agreed? types = none)
      (hrest : Tries walk g schema names type left) :
      Tries walk f schema (name :: names) type left

/-- **A walk to the type of a schema**, from the frames open before it to those that it leaves open. -/
inductive TypeWalk (root : Json) : Frames → Json → String → Frames → Prop
  /-- No frame is opened. -/
  | refused {f : Frames} {schema : Json} (h : f.enter? (reference? schema) = none) :
      TypeWalk root f schema undecidedType f
  /-- The schema is a reference, and its target is walked. -/
  | target {f inner left : Frames} {schema next : Json} {reference type : String}
      (href : reference? schema = some reference) (h : f.enter? (some reference) = some inner)
      (htarget : target? root reference = some next) (hwalk : TypeWalk root inner next type left) :
      TypeWalk root f schema type (left.leave (some reference))
  /-- The schema is a reference that dangles. -/
  | dangling {f inner : Frames} {schema : Json} {reference : String}
      (href : reference? schema = some reference) (h : f.enter? (some reference) = some inner)
      (htarget : target? root reference = none) :
      TypeWalk root f schema undecidedType (inner.leave (some reference))
  /-- The schema declares its type. -/
  | declared {f inner : Frames} {schema : Json} {type : String} (href : reference? schema = none)
      (h : f.enter? none = some inner) (hdeclared : declaredType? schema = some type) :
      TypeWalk root f schema type (inner.leave none)
  /-- The schema has properties. -/
  | properties {f inner : Frames} {schema : Json} (href : reference? schema = none)
      (h : f.enter? none = some inner) (hdeclared : declaredType? schema = none)
      (hproperties : (schema.get? "properties").isSome = true) :
      TypeWalk root f schema "object" (inner.leave none)
  /-- The schemas that the schema combines are walked. -/
  | combined {f inner left : Frames} {schema : Json} {type : String} (href : reference? schema = none)
      (h : f.enter? none = some inner) (hdeclared : declaredType? schema = none)
      (hproperties : (schema.get? "properties").isSome = false)
      (hwalk : Tries (TypeWalk root) inner schema (combiners.map Prod.fst) type left) :
      TypeWalk root f schema type (left.leave none)

section InTurn

variable {walk : Frames → Json → String → Frames → Prop} {inner : Json → String}

/-- Walks that leave the frames as they were do so in turn as well. -/
theorem inTurn_iff (hwalk : ∀ schema type g, walk f schema type g ↔ type = inner schema ∧ g = f)
    {schemas : List Json} {types : List String} :
    InTurn walk f schemas types g ↔ types = schemas.map inner ∧ g = f := by
  induction schemas generalizing types g with
  | nil =>
      constructor
      · intro h
        cases h
        exact ⟨rfl, rfl⟩
      · rintro ⟨rfl, rfl⟩
        exact .nil g
  | cons schema rest ih =>
      constructor
      · intro h
        cases h with
        | cons h hrest =>
            obtain ⟨rfl, rfl⟩ := (hwalk _ _ _).mp h
            obtain ⟨rfl, rfl⟩ := ih.mp hrest
            exact ⟨rfl, rfl⟩
      · rintro ⟨rfl, rfl⟩
        exact .cons ((hwalk _ _ _).mpr ⟨rfl, rfl⟩) (ih.mpr ⟨rfl, rfl⟩)

/-- Trying the ways to combine schemas finds the first on which they agree, and leaves the frames as they
were. -/
theorem tries_iff (hwalk : ∀ schema type g, walk f schema type g ↔ type = inner schema ∧ g = f)
    {names : List String} :
    Tries walk f schema names type g ↔
      type = (names.findSome? fun name =>
        (combined? schema name).bind fun schemas => agreed? (schemas.map inner)).getD undecidedType ∧
      g = f := by
  induction names generalizing type g with
  | nil =>
      constructor
      · intro h
        cases h
        exact ⟨rfl, rfl⟩
      · rintro ⟨rfl, rfl⟩
        exact .exhausted g schema
  | cons name rest ih =>
      rw [List.findSome?_cons]
      constructor
      · intro h
        cases h with
        | absent habsent h =>
            rw [habsent]
            exact ih.mp h
        | agreed hfound h hagreed =>
            obtain ⟨rfl, rfl⟩ := (inTurn_iff hwalk).mp h
            rw [hfound, Option.bind_some, hagreed]
            exact ⟨rfl, rfl⟩
        | split hfound h hsplit hrest =>
            obtain ⟨rfl, rfl⟩ := (inTurn_iff hwalk).mp h
            rw [hfound, Option.bind_some, hsplit]
            exact ih.mp hrest
      · cases hfound : combined? schema name with
        | none => exact fun h => .absent hfound (ih.mpr h)
        | some schemas =>
            rw [Option.bind_some]
            cases hagreed : agreed? (schemas.map inner) with
            | none => exact fun h => .split hfound ((inTurn_iff hwalk).mpr ⟨rfl, rfl⟩) hagreed (ih.mpr h)
            | some found =>
                rintro ⟨rfl, rfl⟩
                exact .agreed hfound ((inTurn_iff hwalk).mpr ⟨rfl, rfl⟩) hagreed

end InTurn

/-! ## Where walks end -/

section Step

variable (inside : ∀ active schema type g, TypeWalk root ⟨room, active⟩ schema type g ↔
  type = typeWithin root room active schema ∧ g = ⟨room, active⟩)

include inside

/-- If walks one frame further in end with the type there and leave the frames as they were, then so does
a walk here. -/
theorem TypeWalk.eq_of_inside (h : TypeWalk root ⟨room + 1, active⟩ schema type g) :
    type = typeWithin root (room + 1) active schema ∧ g = ⟨room + 1, active⟩ := by
  cases h with
  | refused h => exact ⟨(typeWithin_of_active (Frames.enter?_succ_eq_none_iff.mp h)).symm, rfl⟩
  | target href h htarget hwalk =>
      obtain ⟨hactive, rfl⟩ := Frames.enter?_succ_eq_some_iff.mp h
      obtain ⟨rfl, rfl⟩ := (inside _ _ _ _).mp hwalk
      rw [typeWithin_of_reference href hactive, htarget]
      exact ⟨rfl, Frames.leave_activate hactive⟩
  | dangling href h htarget =>
      obtain ⟨hactive, rfl⟩ := Frames.enter?_succ_eq_some_iff.mp h
      rw [typeWithin_of_reference href hactive, htarget]
      exact ⟨rfl, Frames.leave_activate hactive⟩
  | declared href h hdeclared =>
      obtain ⟨hactive, rfl⟩ := Frames.enter?_succ_eq_some_iff.mp h
      rw [typeWithin_of_none href, ownType, hdeclared]
      exact ⟨rfl, Frames.leave_activate hactive⟩
  | properties href h hdeclared hproperties =>
      obtain ⟨hactive, rfl⟩ := Frames.enter?_succ_eq_some_iff.mp h
      rw [typeWithin_of_none href, ownType, hdeclared, hproperties]
      exact ⟨rfl, Frames.leave_activate hactive⟩
  | combined href h hdeclared hproperties hwalk =>
      obtain ⟨hactive, rfl⟩ := Frames.enter?_succ_eq_some_iff.mp h
      obtain ⟨rfl, rfl⟩ := (tries_iff (inside _)).mp hwalk
      rw [typeWithin_of_none href, ownType, hdeclared, hproperties]
      exact ⟨rfl, Frames.leave_activate hactive⟩

/-- If all walks one frame further in end, then there is one here that ends. -/
theorem typeWalk_of_inside :
    TypeWalk root ⟨room + 1, active⟩ schema (typeWithin root (room + 1) active schema)
      ⟨room + 1, active⟩ := by
  -- the cases of the walk, in the order in which it meets them
  cases hactive : Frames.isActive active (reference? schema) with
  | true =>
      rw [typeWithin_of_active hactive]
      exact .refused (Frames.enter?_succ_eq_none_iff.mpr hactive)
  | false =>
      have hopened := (@Frames.enter?_succ_eq_some_iff _ _ room active).mpr ⟨hactive, rfl⟩
      have hleave := @Frames.leave_activate _ room active hactive
      cases href : reference? schema with
      | some reference =>
          rw [href] at hactive hopened hleave
          rw [typeWithin_of_reference href hactive]
          cases htarget : target? root reference with
          | some next =>
              have hwalk := TypeWalk.target href hopened htarget ((inside _ _ _ _).mpr ⟨rfl, rfl⟩)
              rwa [hleave] at hwalk
          | none =>
              have hwalk := TypeWalk.dangling href hopened htarget
              rwa [hleave] at hwalk
      | none =>
          rw [href] at hopened
          rw [typeWithin_of_none href, ownType]
          cases hdeclared : declaredType? schema with
          | some name => exact .declared href hopened hdeclared
          | none =>
              cases hproperties : (schema.get? "properties").isSome with
              | true => exact .properties href hopened hdeclared hproperties
              | false =>
                  exact .combined href hopened hdeclared hproperties
                    ((tries_iff (inside _)).mpr ⟨rfl, rfl⟩)

end Step

/-- **Every walk ends**, with one type, that of the schema inside the frames, and with the frames as they
were. -/
theorem typeWalk_iff :
    TypeWalk root f schema type g ↔ type = typeWithin root f.room f.active schema ∧ g = f := by
  obtain ⟨room, active⟩ := f
  -- by induction on the room for frames, since everything inside is walked one frame further in
  induction room generalizing active schema type g with
  | zero =>
      constructor
      · intro h
        cases h with
        | refused => exact ⟨rfl, rfl⟩
        | target _ h | dangling _ h | declared _ h | properties _ h | combined _ h => cases h
      · rintro ⟨rfl, rfl⟩
        exact .refused rfl
  | succ room ih =>
      constructor
      · exact TypeWalk.eq_of_inside fun _ _ _ _ => ih _
      · rintro ⟨rfl, rfl⟩
        exact typeWalk_of_inside fun _ _ _ _ => ih _

end QueryableApi.OpenApi
