import BoundSql.Json.Value

/-! Statements as data: what a SELECT, INSERT, UPDATE or DELETE is to do, free of any dialect.
    Values stand in a statement as JSON; a compiled query binds them to placeholders. SQL that is
    written by hand comes with its own arguments, and its placeholders count from the dialect's
    first index. -/

namespace BoundSql
open Json (Value)

/-! ### Operators and other small choices -/

inductive Operator where
  | eq | ne | bangEq | gt | ge | lt | le
  | isIn | notIn | like | notLike | isNull | isNotNull
deriving DecidableEq, Repr, Inhabited

namespace Operator

def all : List Operator :=
  [eq, ne, bangEq, gt, ge, lt, le, isIn, notIn, like, notLike, isNull, isNotNull]

def sql : Operator → String
  | eq => "="
  | ne => "<>"
  | bangEq => "!="
  | gt => ">"
  | ge => ">="
  | lt => "<"
  | le => "<="
  | isIn => "IN"
  | notIn => "NOT IN"
  | like => "LIKE"
  | notLike => "NOT LIKE"
  | isNull => "IS NULL"
  | isNotNull => "IS NOT NULL"

/-- A NULL check takes no value. -/
def isNullCheck : Operator → Bool
  | isNull | isNotNull => true
  | _ => false

/-- A list operator takes an array. -/
def isList : Operator → Bool
  | isIn | notIn => true
  | _ => false

/-- A pattern operator takes a string. -/
def isLike : Operator → Bool
  | like | notLike => true
  | _ => false

end Operator

inductive Logic where
  | and | or
deriving DecidableEq, Repr, Inhabited

def Logic.all : List Logic := [and, or]

def Logic.sql : Logic → String
  | and => "AND"
  | or => "OR"

inductive JoinKind where
  | inner | left | right
deriving DecidableEq, Repr, Inhabited

def JoinKind.all : List JoinKind := [inner, left, right]

def JoinKind.sql : JoinKind → String
  | inner => "INNER JOIN"
  | left => "LEFT JOIN"
  | right => "RIGHT JOIN"

inductive Direction where
  | asc | desc
deriving DecidableEq, Repr, Inhabited

def Direction.all : List Direction := [asc, desc]

def Direction.sql : Direction → String
  | asc => "ASC"
  | desc => "DESC"

/-! ### Parts of a statement -/

/-- SQL text with its own arguments. -/
structure RawSql where
  sql : String
  args : List Value := []
deriving Repr, BEq, Inhabited

mutual

/-- A projected column or subquery. Only a column, which a table may qualify, or a subquery alone
    can be compiled. -/
structure Field where
  table : Option String := none
  column : Option String := none
  query : Option Subquery := none
  /-- The name after `AS`. -/
  label : Option String := none

/-- A source of rows: a named table or a subquery, of which exactly one can be compiled. -/
structure Table where
  name : Option String := none
  query : Option Subquery := none
  /-- The name after `AS`. -/
  label : Option String := none

structure Join where
  kind : JoinKind := .inner
  table : Table
  condition : Filter

inductive Filter where
  /-- A field compared with a value; an absent value is NULL. -/
  | condition (field : Field) (operator : Operator) (value : Option Operand)
  | group (logic : Logic) (filters : List Filter)
  | raw (sql : RawSql)

/-- The right-hand side of a condition or an assignment. -/
inductive Operand where
  | column (table : Option String) (column : String)
  | query (query : Subquery)
  | literal (value : Value)
  | null

structure SortKey where
  field : Field
  direction : Direction := .asc

/-- A statement inside another. -/
inductive Subquery where
  | select (select : Select)
  | raw (sql : RawSql)

structure Select where
  distinct : Bool := false
  fields : List Field := []
  table : Option Table := none
  joins : List Join := []
  filter : Option Filter := none
  groupBy : List Field := []
  having : Option Filter := none
  sorts : List SortKey := []
  take : Option Nat := none
  skip : Option Nat := none
  /-- The label of the statement when it is a subquery. -/
  label : Option String := none

end

instance : Inhabited Field := ⟨{}⟩
instance : Inhabited Table := ⟨{}⟩
instance : Inhabited Filter := ⟨.raw default⟩
instance : Inhabited Operand := ⟨.null⟩
instance : Inhabited Select := ⟨{}⟩

/-- The label that an embedding field or table takes when it has none of its own. -/
def Subquery.label? : Subquery → Option String
  | select { label, .. } => label
  | raw _ => none

/-- NULL, or a literal null. -/
def Operand.isNull : Operand → Bool
  | null | literal .null => true
  | _ => false

/-! ### Statements -/

structure Insert where
  table : String
  columns : List String := []
  rows : List (List Value) := []
deriving Repr, BEq, Inhabited

structure Assignment where
  column : String
  value : Operand
deriving Inhabited

structure Update where
  table : String
  set : List Assignment := []
  filter : Option Filter := none
deriving Inhabited

structure Delete where
  table : String
  filter : Option Filter := none
deriving Inhabited

inductive Statement where
  | select (select : Select)
  | insert (insert : Insert)
  | update (update : Update)
  | delete (delete : Delete)
  | raw (sql : RawSql)
deriving Inhabited

/-- SQL text and the values of its placeholders in order. -/
structure Query where
  sql : String
  args : List Value := []
deriving Repr, BEq, Inhabited

end BoundSql
