import BoundSql.Dialect

/-! Compilation: the SQL text of a statement in a dialect. The clauses are compiled in the order
    in which they stand in the text, all over the same bindings, so that placeholders are handed
    out from left to right; a subquery goes on where the text around it has stopped. The first
    fault ends the compilation. Main functions: `Select.compile`, `Filter.compile` and
    `Statement.compile`. -/

namespace BoundSql
open Json (Value)

/-! ### Text of names and lists -/

/-- `table.column`, or the column alone. -/
def qualified : Option String → String → String
  | some table, column => s!"{table}.{column}"
  | none, column => column

def parenthesized (sql : String) : String := s!"({sql})"

def commaList (items : List String) : String := ", ".intercalate items

def labeled (sql : String) : Option String → String
  | some label => s!"{sql} AS {label}"
  | none => sql

/-- A clause with its keyword; without text there is no clause. -/
def clause (keyword sql : String) : String :=
  if sql.isEmpty then "" else s!" {keyword} {sql}"

/-- A name that is not blank. -/
def named? : Option String → Option String
  | some name => if Text.isBlank name then none else some name
  | none => none

/-- The text of a field that is not a subquery alone. A blank table is dropped, a blank column is
    none. -/
def columnText (table column : Option String) (hasQuery : Bool) : Except FieldDefect String :=
  match table, column, hasQuery with
  | _, some _, true => .error .columnAndQuery
  | table, some column, false =>
    if Text.isBlank column then .error .empty else .ok (qualified (named? table) column)
  | some table, none, false => .error (.noColumn table)
  | some _, none, true => .error .qualifiedQuery
  | none, none, _ => .error .empty

/-! ### Statements and their parts -/

mutual

/-- The text of an embedded statement, without parentheses. -/
def Subquery.compile (dialect : Dialect) : Subquery → Compile String
  | .select s => s.compile dialect
  | .raw sql => Compile.splice sql

/-- The expression of a field, without its label. -/
def Field.expression (dialect : Dialect) (refuse : FieldDefect → SqlError) : Field → Compile String
  | { table := none, column := none, query := some query, label := _ } => do
    return parenthesized (← query.compile dialect)
  | { table, column, query, label := _ } =>
    match columnText table column query.isSome with
    | .ok sql => return sql
    | .error defect => throw (refuse defect)

/-- A projected field. A subquery without a label takes that of its own statement. -/
def Field.compile (dialect : Dialect) : Field → Compile String
  | { table := none, column := none, query := some query, label } => do
    return labeled (parenthesized (← query.compile dialect)) (label.or query.label?)
  | { table, column, query, label } =>
    match columnText table column query.isSome with
    | .ok sql => return labeled sql label
    | .error defect => throw (.invalidField defect)

def compileFields (dialect : Dialect) : List Field → Compile (List String)
  | [] => return []
  | field :: rest => do return (← field.compile dialect) :: (← compileFields dialect rest)

/-- The fields of a GROUP BY, whose labels do not count. -/
def groupFields (dialect : Dialect) : List Field → Compile (List String)
  | [] => return []
  | field :: rest => do
    return (← field.expression dialect .invalidField) :: (← groupFields dialect rest)

/-- A source of rows. -/
def Table.compile (dialect : Dialect) : Table → Compile String
  | { name, query, label } =>
    match named? name, query with
    | some name, none => return labeled name label
    | none, some query => do
      return labeled (parenthesized (← query.compile dialect)) (label.or query.label?)
    | some _, some _ => throw (.invalidTable .nameAndQuery)
    | none, none => throw (.invalidTable .empty)

def Join.compile (dialect : Dialect) : Join → Compile String
  | { kind, table, condition } => do
    let table ← table.compile dialect
    let condition ← condition.compile dialect true
    Compile.require (!condition.isEmpty) .filtersRequired
    return s!"{kind.sql} {table} ON {condition}"

def compileJoins (dialect : Dialect) : List Join → Compile (List String)
  | [] => return []
  | join :: rest => do return (← join.compile dialect) :: (← compileJoins dialect rest)

/-- The right-hand side of a condition, or none for a NULL check. A column reference comes first: it
    binds nothing, whatever the operator. -/
def Operand.compile (dialect : Dialect) (operator : Operator) :
    Option Operand → Compile (Option String)
  | some (.column table column) => return some (qualified table column)
  | value =>
    if operator.isNullCheck then
      if value.all Operand.isNull then return none
      else throw (.invalidFilter (.valueForNullCheck operator))
    else if operator.isList then
      match value with
      | some (.literal (.array [])) => throw (.itemsRequired operator)
      | some (.literal (.array items)) => do
        return some (parenthesized (commaList (← items.mapM Compile.bindValue)))
      | _ => throw (.arrayRequired operator)
    else if operator.isLike then
      match value with
      | some (.literal (.string pattern)) => some <$> Compile.bindValue (.string s!"%{pattern}%")
      | _ => throw (.stringRequired operator)
    else
      match value with
      | some (.query query) => do return some (parenthesized (← query.compile dialect))
      | some (.literal value) => some <$> Compile.bindValue value
      | _ => some <$> Compile.bindValue .null

/-- The text of a filter. Below the root, groups and raw SQL stand in parentheses; at the root
    they stand bare. -/
def Filter.compile (dialect : Dialect) (root : Bool) : Filter → Compile String
  | .condition field operator value => do
    let left ← field.expression dialect fun defect => .invalidFilter (.field defect)
    match ← Operand.compile dialect operator value with
    | some right => return s!"{left} {dialect.operatorSql operator} {right}"
    | none => return s!"{left} {dialect.operatorSql operator}"
  | .group logic filters => do
    let parts ← compileFilters dialect filters
    Compile.require (!parts.isEmpty) .filtersRequired
    let joined := s!" {logic.sql} ".intercalate parts
    return if root then joined else parenthesized joined
  | .raw raw => do
    let sql := Text.trim (← Compile.splice raw)
    return if sql.isEmpty || root then sql else parenthesized sql

/-- The texts of the filters of a group, without the blank ones. -/
def compileFilters (dialect : Dialect) : List Filter → Compile (List String)
  | [] => return []
  | filter :: rest => do
    let sql := Text.trim (← filter.compile dialect false)
    let parts ← compileFilters dialect rest
    return if sql.isEmpty then parts else sql :: parts

/-- The text of a filter that may be absent; without a filter it is empty. -/
def compileOptional (dialect : Dialect) : Option Filter → Compile String
  | none => return ""
  | some filter => filter.compile dialect true

def compileSorts (dialect : Dialect) : List SortKey → Compile (List String)
  | [] => return []
  | { field, direction } :: rest => do
    let key ← field.expression dialect .invalidField
    return s!"{key} {direction.sql}" :: (← compileSorts dialect rest)

/-- The text of a SELECT. -/
def Select.compile (dialect : Dialect) : Select → Compile String
  | { distinct, fields, table, joins, filter, groupBy, having, sorts, take, skip, label := _ } => do
    Compile.require (!fields.isEmpty) .fieldsRequired
    match table with
    | none => throw .tableRequired
    | some table => do
      let columns ← compileFields dialect fields
      let source ← table.compile dialect
      let joins ← compileJoins dialect joins
      let filter ← compileOptional dialect filter
      let groups ← groupFields dialect groupBy
      let having ← compileOptional dialect having
      let keys ← compileSorts dialect sorts
      let page ← dialect.page take skip
      let paged := take.isSome || skip.isSome
      let order :=
        if keys.isEmpty && paged && dialect.pagesNeedOrder then "(SELECT NULL)" else commaList keys
      return "SELECT " ++ (if distinct then "DISTINCT " else "") ++ commaList columns
        ++ " FROM " ++ source ++ String.join (joins.map fun join => " " ++ join)
        ++ clause "WHERE" filter ++ clause "GROUP BY" (commaList groups) ++ clause "HAVING" having
        ++ clause "ORDER BY" order ++ (if page.isEmpty then "" else " " ++ page)

end

/-! ### Lists of clauses on their own -/

/-- The projection of a SELECT, which has at least one field. -/
def projection (dialect : Dialect) (fields : List Field) : Compile String := do
  Compile.require (!fields.isEmpty) .fieldsRequired
  return commaList (← compileFields dialect fields)

/-- The body of a GROUP BY. -/
def grouping (dialect : Dialect) (fields : List Field) : Compile String :=
  commaList <$> groupFields dialect fields

/-- The body of an ORDER BY. -/
def ordering (dialect : Dialect) (sorts : List SortKey) : Compile String :=
  commaList <$> compileSorts dialect sorts

/-! ### Statements that write -/

/-- The name of the table that a statement writes to, without the blanks around it. -/
def targetTable (table : String) : Compile String :=
  let name := Text.trim table
  if name.isEmpty then throw .tableRequired else pure name

/-- The rows of an INSERT from the given index on. The length of a row is checked before its values
    are bound. -/
def compileRows (width : Nat) (index : Nat) : List (List Value) → Compile (List String)
  | [] => return []
  | row :: rest => do
    Compile.require (row.length = width) (.rowLength index width row.length)
    let tokens ← row.mapM Compile.bindValue
    return parenthesized (commaList tokens) :: (← compileRows width (index + 1) rest)

def Insert.compile (insert : Insert) : Compile String := do
  let table ← targetTable insert.table
  Compile.require (!insert.columns.isEmpty) .columnsRequired
  Compile.require (!insert.rows.isEmpty) .valuesRequired
  let rows ← compileRows insert.columns.length 0 insert.rows
  return s!"INSERT INTO {table} ({commaList insert.columns}) VALUES {commaList rows}"

def Assignment.compile (dialect : Dialect) (assignment : Assignment) : Compile String := do
  let value ← Operand.compile dialect .eq (some assignment.value)
  return assignment.column ++ " = " ++ value.getD ""

def Update.compile (dialect : Dialect) (update : Update) : Compile String := do
  let table ← targetTable update.table
  Compile.require (!update.set.isEmpty) .valuesRequired
  let assignments ← update.set.mapM (Assignment.compile dialect)
  let filter ← compileOptional dialect update.filter
  return s!"UPDATE {table} SET {commaList assignments}" ++ clause "WHERE" filter

def Delete.compile (dialect : Dialect) (delete : Delete) : Compile String := do
  let table ← targetTable delete.table
  let filter ← compileOptional dialect delete.filter
  return s!"DELETE FROM {table}" ++ clause "WHERE" filter

def Statement.compile (dialect : Dialect) : Statement → Compile String
  | .select s => s.compile dialect
  | .insert s => s.compile
  | .update s => s.compile dialect
  | .delete s => s.compile dialect
  | .raw sql => Compile.splice sql

/-- The query of a statement in a dialect. -/
def Statement.toQuery (dialect : Dialect) (statement : Statement) : Except SqlError Query :=
  Compile.toQuery dialect.style (statement.compile dialect)

def Select.toQuery (dialect : Dialect) (select : Select) : Except SqlError Query :=
  Compile.toQuery dialect.style (select.compile dialect)

end BoundSql
