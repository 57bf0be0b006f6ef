import QueryableApi.Proofs.Filter
import QueryableApi.Proofs.Projection
import QueryableApi.Proofs.Value

/-! # Filters on what is handed out

A value is handed out in the representation of its declared kind. That is a normal form: taking it keeps
the text that filters compare, and a value that has it is left alone (`Value.declaredAs_normalizes`). So
filters see the same text on what is handed out as on what an item carries. -/

namespace QueryableApi

variable {p : Property} {kind : Kind}

/-- What is handed out for a property has the text of what is carried. -/
theorem Projection.filterText_value (hkind : p.kind = .ok kind) (v : Value) :
    (value p v).filterText kind = v.filterText kind := by
  cases hscalar : kind.isScalar with
  | true => rw [value_of_isScalar hkind hscalar, Value.filterText_declaredAs]
  | false =>
      -- values of the other kinds have no text
      cases kind with
      | array | object => rfl
      | string | integer | number | boolean => cases hscalar

/-- An item that carries what was handed out for a property has the same text there. -/
theorem Property.textIn?_insert_value (p : Property) (v : Value) (item : Item) :
    p.textIn? (Entries.insert p.name (Projection.value p v) item)
      = p.textIn? (Entries.insert p.name v item) := by
  unfold textIn?
  cases hkind : p.kind with
  | error type => rfl
  | ok kind =>
      dsimp only
      rw [Entries.get?_insert_self, Entries.get?_insert_self, Option.bind_some, Option.bind_some,
        Projection.filterText_value hkind]

/-- **Declared representations are a normal form.** The representation that a value takes is that of the
kind, keeps the text that filters compare, and is taken only once. So an item has the same text under a
property whether it carries a value or what was handed out for it. -/
theorem Value.declaredAs_normalizes (kind : Kind) (v : Value) :
    HasForm kind (v.declaredAs kind) ∧
      (v.declaredAs kind).filterText kind = v.filterText kind ∧
      (v.declaredAs kind).declaredAs kind = v.declaredAs kind ∧
      ∀ (p : Property) (item : Item),
        p.textIn? (Entries.insert p.name (Projection.value p v) item)
          = p.textIn? (Entries.insert p.name v item) := by
  have hform := hasForm_declaredAs kind v
  exact ⟨hform, filterText_declaredAs kind v, (declaredAs_eq_self_iff kind _).mpr hform,
    fun p item => p.textIn?_insert_value v item⟩

end QueryableApi
