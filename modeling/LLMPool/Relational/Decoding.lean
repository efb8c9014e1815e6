import Mathlib.Data.List.Forall2

/-! Decoding a row into a record: each field takes the column of its name, and a field's
type accepts the columns of one type only. -/
namespace Relational

/-- The types of a schema's columns. -/
inductive ColumnType where
  | bigint
  | integer
  | varchar
  | decimal
  | timestamp
  deriving DecidableEq

/-- The types of a record's fields. -/
inductive FieldType where
  | i64
  | i32
  | string
  | bigDecimal
  | naiveDateTime
  deriving DecidableEq

def FieldType.column : FieldType → ColumnType
  | .i64 => .bigint
  | .i32 => .integer
  | .string => .varchar
  | .bigDecimal => .decimal
  | .naiveDateTime => .timestamp

inductive DecodeError where
  | columnNotFound (column : String)
  | columnDecode (column : String)
  deriving DecidableEq

/-- The fields are decoded in their order, and the first one that fails is reported. -/
def decodes (columns : List (String × ColumnType)) : List (String × FieldType) → Except DecodeError Unit
  | [] => .ok ()
  | (name, type) :: rest =>
      match columns.lookup name with
      | none => .error (.columnNotFound name)
      | some column => if column = type.column then decodes columns rest else .error (.columnDecode name)

section Rows
variable {f : α → Except ε β} {R : α → β → Prop} {rows : List α} {decoded : List β}

/-- The rows are decoded if each of them is. -/
theorem mapM_ok : rows.mapM f = .ok decoded ↔ List.Forall₂ (fun row value => f row = .ok value) rows decoded := by
  induction rows generalizing decoded with
  | nil =>
      constructor
      · rintro ⟨⟩
        exact .nil
      · rintro ⟨⟩
        rfl
  | cons row rows ih =>
      rw [List.mapM_cons, List.forall₂_cons_left_iff]
      simp only [← ih]
      cases f row with
      | error e => simp [bind, Except.bind]
      | ok value => cases rows.mapM f <;> simp [bind, Except.bind, pure, Except.pure, eq_comm]

theorem mapM_forall₂ (each : ∀ row ∈ rows, ∃ value, f row = .ok value ∧ R row value) :
    ∃ decoded, rows.mapM f = .ok decoded ∧ List.Forall₂ R rows decoded := by
  simp only [mapM_ok]
  induction rows with
  | nil => exact ⟨[], .nil, .nil⟩
  | cons row rows ih =>
      obtain ⟨value, made, related⟩ := each row List.mem_cons_self
      obtain ⟨decoded, rest, others⟩ := ih (fun row' member => each row' (List.mem_cons_of_mem _ member))
      exact ⟨value :: decoded, .cons made rest, .cons related others⟩

end Rows

end Relational
