import BoundSql.Statement

/-! Statements as JSON. Fields are written in a fixed order, absent optional ones are left out, and
    operators and other small choices are written in lower case. A filter carries its form under
    the key `type`; a statement, a subquery and an operand are objects with one member. -/

namespace BoundSql
open Json (Value)

/-! ### Small choices -/

/-- The names of an operator, of which the last is written. -/
def Operator.names : Operator → List String
  | .isIn => ["IN", "in"]
  | .notIn => ["NOT IN", "not in"]
  | .like => ["LIKE", "like"]
  | .notLike => ["NOT LIKE", "not like"]
  | .isNull => ["IS NULL", "is null"]
  | .isNotNull => ["IS NOT NULL", "is not null"]
  | op => [op.sql]

def Operator.name (op : Operator) : String := op.names.getLastD ""

def Logic.name : Logic → String
  | and => "and"
  | or => "or"

def JoinKind.name : JoinKind → String
  | inner => "inner"
  | left => "left"
  | right => "right"

def Direction.name : Direction → String
  | asc => "asc"
  | desc => "desc"

/-! ### Members of an object -/

def stringMember (key : String) : Option String → List (String × Value)
  | some s => [(key, .string s)]
  | none => []

def naturalMember (key : String) : Option Nat → List (String × Value)
  | some n => [(key, .ofNat n)]
  | none => []

def RawSql.members (raw : RawSql) : List (String × Value) :=
  [("sql", .string raw.sql), ("args", .array raw.args)]

def RawSql.toJson (raw : RawSql) : Value := .object raw.members

/-! ### Parts of a statement -/

mutual

def Field.toJson : Field → Value
  | { table, column, query, label } =>
    .object (stringMember "table" table ++ stringMember "column" column
      ++ subqueryMember query ++ stringMember "alias" label)

def Table.toJson : Table → Value
  | { name, query, label } =>
    .object (stringMember "name" name ++ subqueryMember query ++ stringMember "alias" label)

def subqueryMember : Option Subquery → List (String × Value)
  | some query => [("query", query.toJson)]
  | none => []

def Join.toJson : Join → Value
  | { kind, table, condition } =>
    .object [("type", .string kind.name), ("table", table.toJson), ("on", condition.toJson)]

def Filter.toJson : Filter → Value
  | .condition field operator value =>
    .object ([("type", .string "condition"), ("field", field.toJson),
      ("operator", .string operator.name)] ++ operandMember value)
  | .group logic filters =>
    .object [("type", .string "group"), ("logic", .string logic.name),
      ("filters", .array (filtersToJson filters))]
  | .raw sql => .object (("type", .string "raw") :: sql.members)

def filtersToJson : List Filter → List Value
  | [] => []
  | filter :: rest => filter.toJson :: filtersToJson rest

def filterMember (key : String) : Option Filter → List (String × Value)
  | some filter => [(key, filter.toJson)]
  | none => []

def Operand.toJson : Operand → Value
  | .column table column =>
    .object [("column", .object (stringMember "table" table ++ [("column", .string column)]))]
  | .query query => .object [("query", query.toJson)]
  | .literal value => .object [("literal", value)]
  | .null => .string "null"

def operandMember : Option Operand → List (String × Value)
  | some value => [("value", value.toJson)]
  | none => []

def SortKey.toJson : SortKey → Value
  | { field, direction } =>
    .object [("field", field.toJson), ("direction", .string direction.name)]

def Subquery.toJson : Subquery → Value
  | .select s => .object [("select", s.toJson)]
  | .raw sql => .object [("raw", sql.toJson)]

def Select.toJson : Select → Value
  | { distinct, fields, table, joins, filter, groupBy, having, sorts, take, skip, label } =>
    .object ([("distinct", .bool distinct), ("fields", .array (fieldsToJson fields))]
      ++ tableMember table ++ [("joins", .array (joinsToJson joins))]
      ++ filterMember "filter" filter ++ [("group_by", .array (fieldsToJson groupBy))]
      ++ filterMember "having" having ++ [("sorts", .array (sortsToJson sorts))]
      ++ naturalMember "take" take ++ naturalMember "skip" skip ++ stringMember "alias" label)

def tableMember : Option Table → List (String × Value)
  | some table => [("table", table.toJson)]
  | none => []

def fieldsToJson : List Field → List Value
  | [] => []
  | field :: rest => field.toJson :: fieldsToJson rest

def joinsToJson : List Join → List Value
  | [] => []
  | join :: rest => join.toJson :: joinsToJson rest

def sortsToJson : List SortKey → List Value
  | [] => []
  | key :: rest => key.toJson :: sortsToJson rest

end

/-! ### Statements -/

def Insert.toJson (insert : Insert) : Value :=
  .object [("table", .string insert.table), ("columns", .array (insert.columns.map .string)),
    ("rows", .array (insert.rows.map .array))]

def Assignment.toJson (assignment : Assignment) : Value :=
  .object [("column", .string assignment.column), ("value", assignment.value.toJson)]

def Update.toJson (update : Update) : Value :=
  .object ([("table", .string update.table), ("set", .array (update.set.map Assignment.toJson))]
    ++ filterMember "filter" update.filter)

def Delete.toJson (delete : Delete) : Value :=
  .object (("table", .string delete.table) :: filterMember "filter" delete.filter)

def Statement.toJson : Statement → Value
  | .select s => .object [("select", s.toJson)]
  | .insert s => .object [("insert", s.toJson)]
  | .update s => .object [("update", s.toJson)]
  | .delete s => .object [("delete", s.toJson)]
  | .raw s => .object [("raw", s.toJson)]

def Query.toJson (query : Query) : Value :=
  .object [("sql", .string query.sql), ("args", .array query.args)]

end BoundSql
