import QueryableApi.Queryable

/-! # Projection

The projection of an item is what a read hands out of it: for every visible property that is not
skipped and for which the item has a value, that value under the field name. Scalars take the
representation of their declared kind. Objects and lists of objects are projected through their nested
properties, all of which are kept; a value whose shape is not the declared one is handed out as it is.
-/

namespace QueryableApi

namespace Projection

mutual

/-- A value of a property as it is handed out. -/
def value : Property → Value → Value
  | ⟨_, declaredType, itemsType, _, _, _, _, _, _, _, _, nested⟩, v =>
    match Kind.ofName? declaredType with
    | none => v
    | some .object => object nested v
    | some .array =>
      match v with
      | .list elements =>
        let itemsKind := match itemsType, nested with
          | some name, _ => Kind.ofName? name
          | none, some _ => some Kind.object
          | none, none => none
        match itemsKind with
        | some .object => .list (elements.map (object nested))
        | some .array | none => .list elements
        | some scalar => .list (elements.map (Value.declaredAs scalar))
      | other => other
    | some scalar => v.declaredAs scalar

/-- A map through nested properties; any other value as it is. -/
def object : Option (List Property) → Value → Value
  | some schema, .map entries => .map (Entries.ofList (fields schema entries))
  | _, v => v

/-- The fields of an item: a value for each property that the item carries. -/
def fields : List Property → Item → List (String × Value)
  | [], _ => []
  | p :: rest, item =>
    match Entries.get? p.name item with
    | none | some .null => fields rest item
    | some v => (p.fieldName, value p v) :: fields rest item

end

end Projection

/-- The projection of an item through a schema, without the properties that are skipped. -/
def Schema.project (schema : Schema) (skipped : Property → Bool) (item : Item) : Entries Value :=
  let shown := schema.filter fun p => Queryable.isVisible schema p && !skipped p
  Entries.ofList (Projection.fields shown item)

end QueryableApi
