import BoundSql.Compile

/-! Shapes. The shape of a statement is what is left of it when every value that it binds is replaced by
    one that says nothing. What remains is the kind of a value where an operator asks for one, how many
    values there are, and whether there are any: an array keeps its length, a pattern stays a string and a
    page keeps which of its numbers it has. Two statements of one shape differ only in what they bind. -/

namespace BoundSql
open Json (Value)

/-- As many values that say nothing. -/
def blankValues (values : List Value) : List Value := values.map fun _ => .null

@[simp] theorem length_blankValues (values : List Value) : (blankValues values).length = values.length := by
  simp [blankValues]

def RawSql.shape (raw : RawSql) : RawSql := { raw with args := blankValues raw.args }

/-- A literal to the right of an operator without its value. One that the operator refuses or does not bind
    stays as it is. -/
def Operator.shape (operator : Operator) (value : Value) : Value :=
  if operator.isNullCheck then value
  else if operator.isList then
    match value with
    | .array items => .array (blankValues items)
    | value => value
  else if operator.isLike then
    match value with
    | .string _ => .string ""
    | value => value
  else .null

mutual

def Subquery.shape : Subquery → Subquery
  | .select s => .select s.shape
  | .raw sql => .raw sql.shape

def Subquery.shapeOptional : Option Subquery → Option Subquery
  | none => none
  | some query => some query.shape

def Field.shape : Field → Field
  | { table, column, query, label } => { table, column, query := Subquery.shapeOptional query, label }

def Field.shapes : List Field → List Field
  | [] => []
  | field :: rest => field.shape :: Field.shapes rest

def Table.shape : Table → Table
  | { name, query, label } => { name, query := Subquery.shapeOptional query, label }

def Table.shapeOptional : Option Table → Option Table
  | none => none
  | some table => some table.shape

def Join.shapes : List Join → List Join
  | [] => []
  | { kind, table, condition } :: rest =>
    { kind, table := table.shape, condition := condition.shape } :: Join.shapes rest

def Operand.shape (operator : Operator) : Operand → Operand
  | .column table column => .column table column
  | .query query => .query query.shape
  | .literal value => .literal (operator.shape value)
  | .null => .null

def Operand.shapeOptional (operator : Operator) : Option Operand → Option Operand
  | none => none
  | some value => some (value.shape operator)

def Filter.shape : Filter → Filter
  | .condition field operator value =>
    .condition field.shape operator (Operand.shapeOptional operator value)
  | .group logic filters => .group logic (Filter.shapes filters)
  | .raw sql => .raw sql.shape

def Filter.shapes : List Filter → List Filter
  | [] => []
  | filter :: rest => filter.shape :: Filter.shapes rest

def Filter.shapeOptional : Option Filter → Option Filter
  | none => none
  | some filter => some filter.shape

def SortKey.shapes : List SortKey → List SortKey
  | [] => []
  | { field, direction } :: rest => { field := field.shape, direction } :: SortKey.shapes rest

def Select.shape : Select → Select
  | { distinct, fields, table, joins, filter, groupBy, having, sorts, take, skip, label } =>
    { distinct
      fields := Field.shapes fields
      table := Table.shapeOptional table
      joins := Join.shapes joins
      filter := Filter.shapeOptional filter
      groupBy := Field.shapes groupBy
      having := Filter.shapeOptional having
      sorts := SortKey.shapes sorts
      take := take.map fun _ => 0
      skip := skip.map fun _ => 0
      label }

end

def Insert.shape (insert : Insert) : Insert := { insert with rows := insert.rows.map blankValues }

def Assignment.shape (assignment : Assignment) : Assignment :=
  { assignment with value := assignment.value.shape .eq }

def Update.shape (update : Update) : Update :=
  { update with set := update.set.map Assignment.shape, filter := Filter.shapeOptional update.filter }

def Delete.shape (delete : Delete) : Delete :=
  { delete with filter := Filter.shapeOptional delete.filter }

/-- The statement without the values that it binds. -/
def Statement.shape : Statement → Statement
  | .select s => .select s.shape
  | .insert s => .insert s.shape
  | .update s => .update s.shape
  | .delete s => .delete s.shape
  | .raw sql => .raw sql.shape

end BoundSql
