import BoundSql.Statement

/-! Building statements step by step. The steps only put a statement together; whether it makes
    sense shows when it is compiled. Filters that are added one after another are joined by
    AND. -/

namespace BoundSql
open Json (Value)

/-! ### Fields and tables -/

namespace Field

def ofColumn (column : String) : Field := { column := some column }

def ofQuery (query : Subquery) : Field := { query := some query }

def withLabel (field : Field) (label : String) : Field := { field with label := some label }

end Field

namespace Table

def ofName (name : String) : Table := { name := some name }

def ofQuery (query : Subquery) : Table := { query := some query }

def withLabel (table : Table) (label : String) : Table := { table with label := some label }

end Table

/-! ### Filters -/

namespace Filter

def compare (field : Field) (operator : Operator) (value : Value) : Filter :=
  .condition field operator (some (.literal value))

def isIn (field : Field) (values : List Value) : Filter := compare field .isIn (.array values)

def notIn (field : Field) (values : List Value) : Filter := compare field .notIn (.array values)

/-- The pattern is found anywhere in the text: it is put between wildcards when it is compiled. -/
def like (field : Field) (pattern : String) : Filter := compare field .like (.string pattern)

def notLike (field : Field) (pattern : String) : Filter := compare field .notLike (.string pattern)

def isNull (field : Field) : Filter := .condition field .isNull none

def isNotNull (field : Field) : Filter := .condition field .isNotNull none

/-- Both sides are equal, as in the condition of a join. -/
def columnEq (field : Field) (right : Operand) : Filter := .condition field .eq (some right)

def all (filters : List Filter) : Filter := .group .and filters

def any (filters : List Filter) : Filter := .group .or filters

/-- Both filters. A group of AND takes the other filter in, rather than become a part of a new
    group. -/
def andAlso : Filter → Filter → Filter
  | .group .and filters, other => .group .and (filters ++ [other])
  | filter, other => .group .and [filter, other]

/-- An optional filter and another one. -/
def join : Option Filter → Filter → Filter
  | some filter, other => filter.andAlso other
  | none, other => other

end Filter

/-! ### Statements -/

namespace Select

def ofTable (table : Table) : Select := { table := some table }

/-- Replaces the projection. -/
def project (select : Select) (fields : List Field) : Select := { select with fields }

def addField (select : Select) (field : Field) : Select :=
  { select with fields := select.fields ++ [field] }

def withDistinct (select : Select) : Select := { select with distinct := true }

def addJoin (select : Select) (join : Join) : Select :=
  { select with joins := select.joins ++ [join] }

def addFilter (select : Select) (filter : Filter) : Select :=
  { select with filter := some (Filter.join select.filter filter) }

def addHaving (select : Select) (filter : Filter) : Select :=
  { select with having := some (Filter.join select.having filter) }

def addGroup (select : Select) (field : Field) : Select :=
  { select with groupBy := select.groupBy ++ [field] }

def addSort (select : Select) (field : Field) (direction : Direction) : Select :=
  { select with sorts := select.sorts ++ [{ field, direction }] }

def withTake (select : Select) (take : Nat) : Select := { select with take := some take }

def withSkip (select : Select) (skip : Nat) : Select := { select with skip := some skip }

def withLabel (select : Select) (label : String) : Select := { select with label := some label }

end Select

namespace Insert

def withColumns (insert : Insert) (columns : List String) : Insert := { insert with columns }

def addRow (insert : Insert) (row : List Value) : Insert :=
  { insert with rows := insert.rows ++ [row] }

end Insert

namespace Update

def assign (update : Update) (column : String) (value : Operand) : Update :=
  { update with set := update.set ++ [{ column, value }] }

def addFilter (update : Update) (filter : Filter) : Update :=
  { update with filter := some (Filter.join update.filter filter) }

end Update

namespace Delete

def addFilter (delete : Delete) (filter : Filter) : Delete :=
  { delete with filter := some (Filter.join delete.filter filter) }

end Delete
end BoundSql
