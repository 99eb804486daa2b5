import BoundSql.Json.Reader
import BoundSql.Statement

/-! Errors of statements: why a request is refused or a statement cannot be compiled. Each has a
    code that stays the same and a message. -/

namespace BoundSql

/-- What is wrong with a field. -/
inductive FieldDefect where
  | columnAndQuery
  | noColumn (table : String)
  | qualifiedQuery
  | empty
deriving DecidableEq, Repr, Inhabited

def FieldDefect.message : FieldDefect → String
  | columnAndQuery => "field sets both a column and a subquery"
  | noColumn table => s!"field on table {table} has no column"
  | qualifiedQuery => "a subquery field cannot be qualified by a table"
  | empty => "field sets neither a column nor a subquery"

/-- What is wrong with a condition. -/
inductive FilterDefect where
  | field (defect : FieldDefect)
  /-- A NULL check is given a value. -/
  | valueForNullCheck (operator : Operator)
deriving DecidableEq, Repr, Inhabited

def FilterDefect.message : FilterDefect → String
  | field defect => defect.message
  | valueForNullCheck operator => s!"{operator.sql} does not take a value"

/-- What is wrong with a table. -/
inductive TableDefect where
  | nameAndQuery
  | empty
deriving DecidableEq, Repr, Inhabited

def TableDefect.message : TableDefect → String
  | nameAndQuery => "table sets both a name and a subquery"
  | empty => "table sets neither a name nor a subquery"

inductive SqlError where
  | invalidField (defect : FieldDefect)
  | invalidFilter (defect : FilterDefect)
  | invalidTable (defect : TableDefect)
  | arrayRequired (operator : Operator)
  | itemsRequired (operator : Operator)
  | stringRequired (operator : Operator)
  | unsupportedDialect (tag : String)
  | filtersRequired
  | fieldsRequired
  | tableRequired
  | columnsRequired
  | valuesRequired
  /-- A row of an INSERT, counted from zero, has another length than the column list. -/
  | rowLength (row expected actual : Nat)
  | invalidPlaceholder (token : String)
  | requestTooLarge (limit : Nat)
  | invalidRequest (error : Json.DecodeError)
deriving Repr, Inhabited

namespace SqlError

def code : SqlError → String
  | invalidField _ => "INVALID_FIELD"
  | invalidFilter _ => "INVALID_FILTER"
  | invalidTable _ => "INVALID_TABLE"
  | arrayRequired _ => "OPERATOR_REQUIRES_ARRAY"
  | itemsRequired _ => "OPERATOR_REQUIRES_NON_EMPTY_ARRAY"
  | stringRequired _ => "LIKE_VALUE_TYPE_MISMATCH"
  | unsupportedDialect _ => "UNSUPPORTED_DIALECT"
  | filtersRequired => "FILTERS_REQUIRED"
  | fieldsRequired => "FIELDS_REQUIRED"
  | tableRequired => "TABLE_REQUIRED"
  | columnsRequired => "COLUMNS_REQUIRED"
  | valuesRequired => "VALUES_REQUIRED"
  | rowLength _ _ _ => "ROW_LENGTH_MISMATCH"
  | invalidPlaceholder _ => "INVALID_PLACEHOLDER"
  | requestTooLarge _ => "REQUEST_TOO_LARGE"
  | invalidRequest _ => "INVALID_REQUEST"

def message : SqlError → String
  | invalidField defect => s!"Invalid field: {defect.message}"
  | invalidFilter defect => s!"Invalid filter: {defect.message}"
  | invalidTable defect => s!"Invalid table: {defect.message}"
  | arrayRequired operator => s!"Operator {operator.sql} requires an array value"
  | itemsRequired operator => s!"Operator {operator.sql} requires a non-empty array value"
  | stringRequired operator => s!"Operator {operator.sql} requires a string value"
  | unsupportedDialect tag => s!"Unsupported dialect: {tag}"
  | filtersRequired => "Filter group requires at least one filter"
  | fieldsRequired => "At least one field is required"
  | tableRequired => "A table is required"
  | columnsRequired => "At least one column is required"
  | valuesRequired => "At least one value is required"
  | rowLength row expected actual => s!"Row {row} has {actual} values, expected {expected}"
  | invalidPlaceholder token => s!"Invalid placeholder {token} in raw SQL"
  | requestTooLarge limit => s!"Request exceeds maximum size of {limit} bytes"
  | invalidRequest error => s!"Invalid request: {error.message}"

end SqlError
end BoundSql
