import BoundSql.Proofs.Walk
import Mathlib.Data.List.DropRight

/-! Marked text: SQL text in which the arguments themselves stand in the place of their placeholders.
    `Dialect.resolve` makes it from text and arguments as a database binds them, by place or by index.
    `Statement.written` makes it from a statement, which it walks from left to right: it writes every
    bound value where it stands and knows no cursor. Of a part that cannot be compiled it may write
    anything. -/

namespace BoundSql
open Json (Value)

/-- A character, or an argument in the place of a placeholder. -/
inductive Mark where
  | char (c : Char)
  | argument (value : Value)

abbrev Marked := List Mark

/-- Text without arguments. -/
def plain (text : String) : Marked := text.toList.map .char

namespace Mark

def isBlank : Mark → Bool
  | char c => Text.isBlankChar c
  | argument _ => false

end Mark

namespace Marked

/-- The marked text without the blank characters at both ends. -/
def trim (m : Marked) : Marked := (m.dropWhile Mark.isBlank).rdropWhile Mark.isBlank

def parenthesized (m : Marked) : Marked := plain "(" ++ m ++ plain ")"

def separated (separator : String) (items : List Marked) : Marked := (plain separator).intercalate items

def commaList (items : List Marked) : Marked := separated ", " items

def labeled (m : Marked) : Option String → Marked
  | some label => m ++ plain " AS " ++ plain label
  | none => m

def clause (keyword : String) (m : Marked) : Marked :=
  if m.isEmpty then [] else plain " " ++ plain keyword ++ plain " " ++ m

end Marked

/-! ### Placeholders and their arguments -/

/-- The mark of a part of a text whose placeholders count from `start`. -/
def Placeholder.Part.mark? (start : Nat) (args : List Value) : Part → Option Mark
  | .literal c => some (.char c)
  | .index digits => do
    let index ← Text.decimalValue? digits
    guard (start ≤ index)
    return .argument (← args[index - start]?)

/-- The text with its markers replaced by the arguments from left to right, of which there must be as
    many. -/
def fillMarkers (marker : Char) : List Char → List Value → Option Marked
  | [], [] => some []
  | [], _ :: _ => none
  | c :: text, args =>
    if c = marker then
      match args with
      | [] => none
      | value :: args => (fillMarkers marker text args).map (.argument value :: ·)
    else (fillMarkers marker text args).map (.char c :: ·)

/-- The text with its placeholders replaced by their arguments, as the database binds them; absent if a
    placeholder has no argument. -/
def Dialect.resolve (dialect : Dialect) (args : List Value) (sql : String) : Option Marked :=
  match dialect with
  | mysql | sqlite => fillMarkers '?' sql.toList args
  | postgres | mssql =>
    (Placeholder.parts dialect.style.leading.toList sql.toList).mapM
      (Placeholder.Part.mark? dialect.style.start args)

/-! ### Statements with their arguments in place -/

/-- Raw SQL with its own arguments in place. -/
def RawSql.written (dialect : Dialect) (raw : RawSql) : Marked :=
  (dialect.resolve raw.args raw.sql).getD []

/-- A literal to the right of an operator, or none for a NULL check. -/
def Operator.written (operator : Operator) (value : Value) : Option Marked :=
  let values := operator.arguments value
  if operator.isNullCheck then none
  else if operator.isList then
    some (Marked.parenthesized (Marked.commaList (values.map fun value => [.argument value])))
  else some (values.map .argument)

namespace Dialect

def writtenLimitOffset (unlimited : Option String) : Option Nat → Option Nat → Marked
  | some take, some skip =>
    plain " LIMIT " ++ [.argument (.ofNat take)] ++ plain " OFFSET " ++ [.argument (.ofNat skip)]
  | some take, none => plain " LIMIT " ++ [.argument (.ofNat take)]
  | none, some skip =>
    (match unlimited with
      | some all => plain " LIMIT " ++ plain all
      | none => []) ++ plain " OFFSET " ++ [.argument (.ofNat skip)]
  | none, none => []

def writtenOffsetFetch : Option Nat → Option Nat → Marked
  | some take, some skip =>
    plain " OFFSET " ++ [.argument (.ofNat skip)] ++ plain " ROWS FETCH NEXT " ++
      [.argument (.ofNat take)] ++ plain " ROWS ONLY"
  | some take, none =>
    plain " OFFSET 0 ROWS FETCH NEXT " ++ [.argument (.ofNat take)] ++ plain " ROWS ONLY"
  | none, some skip => plain " OFFSET " ++ [.argument (.ofNat skip)] ++ plain " ROWS"
  | none, none => []

/-- The clause that takes some rows and skips others, with the blank before it. -/
def writtenPage (dialect : Dialect) (take skip : Option Nat) : Marked :=
  match dialect with
  | mssql => writtenOffsetFetch take skip
  | d => writtenLimitOffset d.unlimited? take skip

end Dialect

mutual

def Subquery.written (dialect : Dialect) : Subquery → Marked
  | .select s => s.written dialect
  | .raw sql => sql.written dialect

/-- The expression of a field, without its label. -/
def Field.written (dialect : Dialect) : Field → Marked
  | { query := some query, .. } => Marked.parenthesized (query.written dialect)
  | { table, column, query := none, label := _ } => plain (qualified (named? table) (column.getD ""))

/-- The fields of a projection. -/
def fieldsWritten (dialect : Dialect) : List Field → List Marked
  | [] => []
  | field :: rest =>
    Marked.labeled (field.written dialect) (field.label.or (field.query.bind Subquery.label?)) ::
      fieldsWritten dialect rest

/-- The fields of a GROUP BY. -/
def groupsWritten (dialect : Dialect) : List Field → List Marked
  | [] => []
  | field :: rest => field.written dialect :: groupsWritten dialect rest

def Table.written (dialect : Dialect) : Table → Marked
  | { name := _, query := some query, label } =>
    Marked.labeled (Marked.parenthesized (query.written dialect)) (label.or query.label?)
  | { name, query := none, label } => Marked.labeled (plain (name.getD "")) label

def tableWritten (dialect : Dialect) : Option Table → Marked
  | none => []
  | some table => table.written dialect

def joinsWritten (dialect : Dialect) : List Join → Marked
  | [] => []
  | { kind, table, condition } :: rest =>
    plain " " ++ plain kind.sql ++ plain " " ++ table.written dialect ++ plain " ON " ++
      condition.written dialect true ++ joinsWritten dialect rest

/-- The right-hand side of a condition, or none for a NULL check. -/
def Operand.written (dialect : Dialect) (operator : Operator) : Option Operand → Option Marked
  | some (.column table column) => some (plain (qualified table column))
  | some (.query query) => some (Marked.parenthesized (query.written dialect))
  | some (.literal value) => operator.written value
  | some .null | none => operator.written .null

def Filter.written (dialect : Dialect) (root : Bool) : Filter → Marked
  | .condition field operator value =>
    field.written dialect ++ plain " " ++ plain (dialect.operatorSql operator) ++
      match Operand.written dialect operator value with
      | some right => plain " " ++ right
      | none => []
  | .group logic filters =>
    let joined := Marked.separated s!" {logic.sql} " (filtersWritten dialect filters)
    if root then joined else Marked.parenthesized joined
  | .raw raw =>
    let sql := Marked.trim (raw.written dialect)
    if sql.isEmpty || root then sql else Marked.parenthesized sql

/-- The filters of a group that are not blank. -/
def filtersWritten (dialect : Dialect) : List Filter → List Marked
  | [] => []
  | filter :: rest =>
    let sql := Marked.trim (filter.written dialect false)
    if sql.isEmpty then filtersWritten dialect rest else sql :: filtersWritten dialect rest

def optionalWritten (dialect : Dialect) : Option Filter → Marked
  | none => []
  | some filter => filter.written dialect true

def sortsWritten (dialect : Dialect) : List SortKey → List Marked
  | [] => []
  | { field, direction } :: rest =>
    (field.written dialect ++ plain " " ++ plain direction.sql) :: sortsWritten dialect rest

def Select.written (dialect : Dialect) : Select → Marked
  | { distinct, fields, table, joins, filter, groupBy, having, sorts, take, skip, label := _ } =>
    plain "SELECT " ++ plain (if distinct then "DISTINCT " else "") ++
      Marked.commaList (fieldsWritten dialect fields) ++ plain " FROM " ++
      tableWritten dialect table ++ joinsWritten dialect joins ++
      Marked.clause "WHERE" (optionalWritten dialect filter) ++
      Marked.clause "GROUP BY" (Marked.commaList (groupsWritten dialect groupBy)) ++
      Marked.clause "HAVING" (optionalWritten dialect having) ++
      (if sorts.isEmpty && (take.isSome || skip.isSome) && dialect.pagesNeedOrder then
        plain " ORDER BY (SELECT NULL)"
      else Marked.clause "ORDER BY" (Marked.commaList (sortsWritten dialect sorts))) ++
      dialect.writtenPage take skip

end

def Insert.written (insert : Insert) : Marked :=
  plain "INSERT INTO " ++ Marked.trim (plain insert.table) ++ plain " (" ++
    Marked.commaList (insert.columns.map plain) ++ plain ") VALUES " ++
    Marked.commaList (insert.rows.map fun row =>
      Marked.parenthesized (Marked.commaList (row.map fun value => [.argument value])))

def Assignment.written (dialect : Dialect) (assignment : Assignment) : Marked :=
  plain assignment.column ++ plain " = " ++
    (Operand.written dialect .eq (some assignment.value)).getD []

def Update.written (dialect : Dialect) (update : Update) : Marked :=
  plain "UPDATE " ++ Marked.trim (plain update.table) ++ plain " SET " ++
    Marked.commaList (update.set.map (Assignment.written dialect)) ++
    Marked.clause "WHERE" (optionalWritten dialect update.filter)

def Delete.written (dialect : Dialect) (delete : Delete) : Marked :=
  plain "DELETE FROM " ++ Marked.trim (plain delete.table) ++
    Marked.clause "WHERE" (optionalWritten dialect delete.filter)

/-- The text of a statement with every bound value in place. -/
def Statement.written (dialect : Dialect) : Statement → Marked
  | .select s => s.written dialect
  | .insert s => s.written
  | .update s => s.written dialect
  | .delete s => s.written dialect
  | .raw sql => sql.written dialect

end BoundSql
