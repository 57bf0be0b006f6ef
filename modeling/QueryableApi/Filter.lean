import QueryableApi.Failure

/-! # Filters

A request carries its filters under the attribute `filter`, as a list of blocks with a `name` and a
list of `values`. They are taken in two steps: the block is read as it stands (`requestedFilters`), and
each entry is then narrowed to one value of a scalar property of the schema (`validFilters`). An item
matches if, for every filter, the text of its value under the declared kind of the property is the
filter's value.
-/

namespace QueryableApi

/-- The attribute under which a request carries its filters. -/
def filterField : String := "filter"

/-- The name of the field that names the property of a filter. -/
def filterNameField : String := "name"

/-- The name of the field that lists the values of a filter. -/
def filterValuesField : String := "values"

/-- An entry of the filter block as requested. -/
structure FilterEntry where
  /-- The property it aims at, as users name it. -/
  name : String
  /-- The values asked for. -/
  values : List String
deriving DecidableEq, Repr

/-- A filter that aims at a scalar property and has one value. -/
structure Filter where
  /-- The property it aims at, as users name it. -/
  name : String
  /-- The value asked for. -/
  value : String
deriving DecidableEq, Repr

namespace FilterEntry

/-- An entry as a block of the request. -/
def toValue (f : FilterEntry) : Value :=
  .map [(filterNameField, .text f.name), (filterValuesField, .list (f.values.map .text))]

/-- The name of a block: a text that is not blank, trimmed. -/
def nameOf? (block : Entries Value) : Option String :=
  match (Entries.get? filterNameField block).bind Value.text? with
  | some name => if Text.isBlankText name then none else some (Text.trim name)
  | none => none

/-- The values of a block: scalars, each as its canonical text. -/
def valuesOf (name : String) (block : Entries Value) : Except Failure (List String) :=
  match Entries.get? filterValuesField block with
  | none | some .null => .ok []
  | some (.list values) =>
    values.mapM fun v =>
      match v.canonicalText with
      | some text => .ok text
      | none => .error (.invalidFilter (.nonScalarValue name v.kindName))
  | some other => .error (.invalidFilter (.valuesNotList name other.kindName))

/-- The entry that a value of the filter list stands for. -/
def ofValue (index : Nat) (v : Value) : Except Failure FilterEntry :=
  match v with
  | .map block =>
    match nameOf? block with
    | some name => (valuesOf name block).map fun values => ⟨name, values⟩
    | none => .error (.invalidFilter (.missingName index))
  | other => .error (.invalidFilter (.notBlock index other.kindName))

/-- The entries that the values of the filter list stand for, numbered from an index. -/
def ofValues (index : Nat) : List Value → Except Failure (List FilterEntry)
  | [] => .ok []
  | v :: rest => do
    let entry ← ofValue index v
    let entries ← ofValues (index + 1) rest
    .ok (entry :: entries)

/-- The filter of an entry against a schema. -/
def validate (schema : Schema) (f : FilterEntry) : Except Failure Filter :=
  match schema.propertyByField? f.name with
  | none => .error (.unknownFilter f.name)
  | some p =>
    if p.isScalar then
      match f.values with
      | [value] => .ok ⟨f.name, value⟩
      | [] => .error (.missingFilterValue f.name)
      | _ => .error .multiValueFilter
    else .error (.unsupportedFilter f.name)

end FilterEntry

/-- The filters that the attributes of a request ask for. -/
def requestedFilters (attributes : Entries Value) : Except Failure (List FilterEntry) :=
  match Entries.get? filterField attributes with
  | none | some .null => .ok []
  | some (.list entries) => FilterEntry.ofValues 0 entries
  | some other => .error (.invalidFilter (.notList other.kindName))

/-- Every entry as a filter against a schema, or the failure of the first entry that has none. -/
def validFilters (schema : Schema) (entries : List FilterEntry) : Except Failure (List Filter) :=
  entries.mapM (FilterEntry.validate schema)

namespace Filter

/-- The text of an item under the property that a filter aims at. -/
def itemText? (schema : Schema) (item : Item) (f : Filter) : Option String :=
  match schema.propertyByField? f.name with
  | none => none
  | some p =>
    match p.kind with
    | .error _ => none
    | .ok kind => (Entries.get? p.name item).bind (Value.filterText kind)

/-- Whether an item has the value that a filter asks for. -/
def accepts (schema : Schema) (item : Item) (f : Filter) : Bool :=
  itemText? schema item f == some f.value

/-- Whether an item has the value of every filter. -/
def acceptAll (schema : Schema) (item : Item) (filters : List Filter) : Bool :=
  filters.all (accepts schema item)

end Filter

end QueryableApi
