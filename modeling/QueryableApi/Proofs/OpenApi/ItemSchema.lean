import QueryableApi.OpenApi.ItemSchema

/-! # The walk through object schemas

A walk through an object schema opens one frame, and what it does there depends on what is found: a
reference that is active is refused, any other one stands for its target, and a schema that is none
declares members itself and combines parts. `collect` and `objectWithin` have one equation for each of
the three. -/

namespace QueryableApi.OpenApi

variable {root schema : Json} {reference : String} {room : Nat} {active : List (List Char)}
  {known : Members}

/-! ## What a schema declares -/

/-- The schemas that a schema combines with `allOf`. -/
def partsOf (schema : Json) : List Json := (combined? schema "allOf").getD []

/-- The properties of a schema itself, in order. -/
def ownMembers (schema : Json) : List (String × Json) :=
  ((schema.get? "properties").bind Json.object?).getD []

/-- The names that a schema itself lists as required. -/
def ownRequired (schema : Json) : List String := schema.object?.elim [] requiredNames

/-- The known members with those that a schema declares itself. -/
def Members.including (known : Members) (schema : Json) : Members :=
  ⟨add known.properties (ownMembers schema), known.required ++ ownRequired schema⟩

/-! ## Collecting members -/

/-- Where the reference of a schema is active, no members are collected. -/
theorem collect_of_active (hactive : Frames.isActive active (reference? schema) = true) :
    collect root (room + 1) active known schema = known := by
  rw [collect]
  exact if_pos hactive

/-- Collecting the members of a reference is collecting those of its target. -/
theorem collect_of_reference (href : reference? schema = some reference)
    (hnew : Frames.isActive active (some reference) = false) :
    collect root (room + 1) active known schema = (target? root reference).elim known
      (collect root room (Frames.activate active (some reference)) known) := by
  rw [collect]
  simp only [href, hnew, Bool.false_eq_true, if_false]

/-- The members of any other schema are its own and those of its parts. -/
theorem collect_of_none (href : reference? schema = none) :
    collect root (room + 1) active known schema =
      (partsOf schema).foldl (collect root room active) (known.including schema) := by
  rw [collect]
  simp only [href]
  cases schema with
  | object members => rfl
  | _ => exact congrArg (Members.mk known.properties) (List.append_nil known.required).symm

/-! ## Schemas of objects -/

/-- Where the reference of a schema is active, the object has no properties. -/
theorem objectWithin_of_active (hactive : Frames.isActive active (reference? schema) = true) :
    objectWithin root (room + 1) active schema = [] := by
  rw [objectWithin]
  exact if_pos hactive

/-- The schema of an object that is a reference is that of its target. -/
theorem objectWithin_of_reference (href : reference? schema = some reference)
    (hnew : Frames.isActive active (some reference) = false) :
    objectWithin root (room + 1) active schema = (target? root reference).elim []
      (objectWithin root room (Frames.activate active (some reference))) := by
  rw [objectWithin]
  simp only [href, hnew, Bool.false_eq_true, if_false]

/-- That of any other one has a property for each member that is collected. -/
theorem objectWithin_of_none (href : reference? schema = none) :
    objectWithin root (room + 1) active schema =
      (collect root room active {} schema).properties.map fun m =>
        propertyOf root (objectWithin root room active) m.1 m.2
          ((collect root room active {} schema).required.contains m.1) := by
  rw [objectWithin]
  simp only [href]
  rfl

end QueryableApi.OpenApi
