import BoundSql.Proofs.Filtered
import BoundSql.Proofs.Phrases

/-! Faults. Whether a statement can be compiled is seen without compiling it. A walk over its phrases in the order
    of compilation looks at each of them on its own and stops at the first fault (`Statement.fault?`). It knows
    neither bindings nor text; of raw SQL it asks whether each placeholder names one of its arguments, and
    where there is room for them, renumbering asks no more (`RawSql.fault?_of_renumber_error`). -/

namespace BoundSql
open Json (Value)
open Placeholder (parts renumber indexBound)

/-! ### Raw SQL -/

/-- The first placeholder of raw SQL that names none of its arguments. -/
def RawSql.fault? (style : Style) (raw : RawSql) : Option SqlError :=
  if style.isIndexed then
    ((parts style.leading.toList raw.sql.toList).findSome? (Placeholder.stray? style raw.args.length)).map
      .invalidPlaceholder
  else none

/-! ### Single phrases -/

/-- What is wrong with a field, which is either a column or a subquery alone. -/
def Field.defect? : Field → Option FieldDefect
  | { column := some _, query := some _, .. } => some .columnAndQuery
  | { column := some column, query := none, .. } => if Text.isBlank column then some .empty else none
  | { table := some table, column := none, query := none, .. } => some (.noColumn table)
  | { table := some _, column := none, query := some _, .. } => some .qualifiedQuery
  | { table := none, column := none, query := none, .. } => some .empty
  | { table := none, column := none, query := some _, .. } => none

/-- What is wrong with a table, which has either a name or a subquery. -/
def Table.defect? (table : Table) : Option TableDefect :=
  match named? table.name, table.query with
  | some _, some _ => some .nameAndQuery
  | none, none => some .empty
  | some _, none => none
  | none, some _ => none

/-- Why an operator refuses a literal: a NULL check takes no value, a list wants items and a pattern a string. -/
def Operator.literalRefusal? (operator : Operator) (value : Value) : Option SqlError :=
  if operator.isNullCheck then
    match value with
    | .null => none
    | _ => some (.invalidFilter (.valueForNullCheck operator))
  else if operator.isList then
    match value with
    | .array [] => some (.itemsRequired operator)
    | .array (_ :: _) => none
    | _ => some (.arrayRequired operator)
  else if operator.isLike then
    match value with
    | .string _ => none
    | _ => some (.stringRequired operator)
  else none

/-- Why an operator refuses its right-hand side. A subquery stands only behind a comparison, a column anywhere. -/
def Operator.refusal? (operator : Operator) : Option Operand → Option SqlError
  | some (.column _ _) => none
  | some (.query _) =>
    if operator.isNullCheck then some (.invalidFilter (.valueForNullCheck operator))
    else if operator.isList then some (.arrayRequired operator)
    else if operator.isLike then some (.stringRequired operator)
    else none
  | some (.literal value) => operator.literalRefusal? value
  | some .null | none => operator.literalRefusal? .null

namespace Phrase

/-- The fault of a phrase that is seen before its children are looked at. -/
def refusal? (check : RawSql → Option SqlError) : Phrase → Option SqlError
  | .select s =>
    if s.fields.isEmpty then some .fieldsRequired
    else if s.table.isNone then some .tableRequired
    else none
  | .raw sql => check sql
  | .field refuse f => f.defect?.map refuse
  | .table t => t.defect?.map .invalidTable
  | .operand operator value => operator.refusal? value
  | .join _ | .filter _ _ => none

/-- The fault of a phrase whose children have none: nothing in it is left to be compared. -/
def vacancy? : Phrase → Option SqlError
  | .join j => if j.condition.isBlankRaw then some .filtersRequired else none
  | .filter _ (.group _ fs) => if fs.all Filter.isBlankRaw then some .filtersRequired else none
  | .filter _ (.condition _ _ _) | .filter _ (.raw _) => none
  | .select _ | .raw _ | .field _ _ | .table _ | .operand _ _ => none

/-- The first fault in a phrase, with a check for its raw SQL. -/
def fault? (check : RawSql → Option SqlError) (phrase : Phrase) : Option SqlError :=
  (phrase.refusal? check).or
    ((phrase.children.attach.findSome? fun child => fault? check child.1).or phrase.vacancy?)
termination_by sizeOf phrase
decreasing_by exact sizeOf_lt_of_mem_children child.2

theorem fault?_eq (check : RawSql → Option SqlError) (phrase : Phrase) : phrase.fault? check =
    (phrase.refusal? check).or ((phrase.children.findSome? (fault? check)).or phrase.vacancy?) := by
  have hattach : (phrase.children.attach.findSome? fun child => fault? check child.1) =
      phrase.children.findSome? (fault? check) := by
    change phrase.children.attach.findSome? (fault? check ∘ Subtype.val) = _
    rw [← List.findSome?_map, List.attach_map_subtype_val]
  rw [fault?, hattach]

end Phrase

/-! ### Statements -/

/-- The rows of an INSERT are all as long as the column list; the first that is not is refused. -/
def rowsFault? (width : Nat) (index : Nat) : List (List Value) → Option SqlError
  | [] => none
  | row :: rest =>
    if row.length = width then rowsFault? width (index + 1) rest else some (.rowLength index width row.length)

namespace Statement

/-- The fault of a statement that is seen before its phrases are looked at. -/
def refusal? : Statement → Option SqlError
  | .select _ | .raw _ => none
  | .insert s =>
    if Text.isBlank s.table then some .tableRequired
    else if s.columns.isEmpty then some .columnsRequired
    else if s.rows.isEmpty then some .valuesRequired
    else rowsFault? s.columns.length 0 s.rows
  | .update s =>
    if Text.isBlank s.table then some .tableRequired
    else if s.set.isEmpty then some .valuesRequired
    else none
  | .delete s => if Text.isBlank s.table then some .tableRequired else none

/-- The first fault in a statement, with a check for its raw SQL. -/
def fault? (check : RawSql → Option SqlError) (statement : Statement) : Option SqlError :=
  statement.refusal?.or (statement.children.findSome? (Phrase.fault? check))

end Statement

/-! ### The check of raw SQL and renumbering -/

namespace RawSql
variable {style : Style} {n : Nat} {raw : RawSql}

theorem fault?_of_fixed (h : style.isIndexed = false) : raw.fault? style = none := by
  rw [fault?, if_neg (by simp [h])]

/-- Blank SQL has no placeholder to refuse. -/
theorem fault?_of_isBlank (h : Text.isBlank raw.sql = true) : raw.fault? style = none := by
  unfold fault?
  split
  · rw [Option.map_eq_none_iff, Placeholder.parts_of_blank h, List.findSome?_eq_none_iff, List.forall_mem_map]
    exact fun _ _ => rfl
  · rfl

/-- SQL whose placeholders can be moved names its own arguments. -/
theorem fault?_of_renumber {sql : String} (hr : renumber style n raw.args.length raw.sql = .ok sql) :
    raw.fault? style = none := by
  cases h : style.isIndexed with
  | false => exact fault?_of_fixed h
  | true =>
    rw [fault?, if_pos h, Option.map_eq_none_iff, List.findSome?_eq_none_iff]
    intro part hp
    cases part with
    | literal c => rfl
    | index digits =>
      obtain ⟨index, hi⟩ := ((Placeholder.renumber_eq_ok h).mp hr).1 digits hp
      obtain ⟨value, hv, hlo, hhi, -⟩ := Placeholder.moved?_eq_some.mp hi
      rw [Placeholder.stray?, if_pos (Placeholder.names_iff.mpr ⟨value, hv, hlo, hhi⟩)]

/-- Where there is room for its arguments, SQL that cannot be renumbered has a placeholder that names none of
    them, and is refused for the first. -/
theorem fault?_of_renumber_error {token : String} (hroom : n + raw.args.length ≤ indexBound)
    (hr : renumber style n raw.args.length raw.sql = .error token) :
    raw.fault? style = some (.invalidPlaceholder token) := by
  cases h : style.isIndexed with
  | false =>
    rw [renumber, if_neg (by simp [h])] at hr
    cases hr
  | true =>
    rw [fault?, if_pos h, (Placeholder.renumber_eq_error_iff h hroom).mp hr, Option.map_some]

end RawSql
end BoundSql
