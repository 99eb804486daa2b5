import BoundSql.Bindings
import BoundSql.Text.Blank

/-! Dialects: what differs between databases. These are the placeholders, the case-insensitive
    pattern operators, and the clause that takes some rows and skips others. -/

namespace BoundSql
open Json (Value)

inductive Dialect where
  | mysql | sqlite | postgres | mssql
deriving DecidableEq, Repr

instance : Inhabited Dialect := ⟨.postgres⟩

namespace Dialect

def all : List Dialect := [mysql, sqlite, postgres, mssql]

def name : Dialect → String
  | mysql => "mysql"
  | sqlite => "sqlite"
  | postgres => "postgres"
  | mssql => "mssql"

/-- The tags of a dialect, in lower case. -/
def tags : Dialect → List String
  | mysql => ["mysql"]
  | sqlite => ["sqlite", "sqlite3"]
  | postgres => ["postgres", "postgresql", "pg"]
  | mssql => ["mssql", "sqlserver"]

/-- The dialect of a tag in any case, blanks around it ignored. Tags are ASCII, and no other
    character has a lower case that is a letter of a tag, so that ASCII case is enough. -/
def ofTag (tag : String) : Except SqlError Dialect :=
  match all.find? fun d => d.tags.contains (Text.trim tag).toLower with
  | some d => .ok d
  | none => .error (.unsupportedDialect tag)

/-- In JSON a dialect goes by its name alone. -/
def reader (depth : Nat) : Json.Reader Dialect :=
  .choice depth (Json.Reader.bareVariants all fun d => [d.name])

def style : Dialect → Style
  | mysql | sqlite => .fixed "?"
  | postgres => .oneBased "$"
  | mssql => .zeroBased "@p"

def operatorSql : Dialect → Operator → String
  | postgres, .like => "ILIKE"
  | postgres, .notLike => "NOT ILIKE"
  | _, op => op.sql

/-- Whether rows can be skipped only after an ORDER BY. -/
def pagesNeedOrder : Dialect → Bool
  | mssql => true
  | _ => false

/-! ### Pages -/

/-- The limit that takes all rows, for dialects that skip rows only behind a limit. -/
def unlimited? : Dialect → Option String
  | mysql => some "18446744073709551615"
  | sqlite => some "-1"
  | postgres | mssql => none

/-- `LIMIT` and `OFFSET`, bound in this order. -/
def limitOffset (unlimited : Option String) : Option Nat → Option Nat → Compile String
  | some take, some skip => do
    let limit ← Compile.bindValue (.ofNat take)
    let offset ← Compile.bindValue (.ofNat skip)
    return s!"LIMIT {limit} OFFSET {offset}"
  | some take, none => do return "LIMIT " ++ (← Compile.bindValue (.ofNat take))
  | none, some skip => do
    let offset ← Compile.bindValue (.ofNat skip)
    match unlimited with
    | some all => return s!"LIMIT {all} OFFSET {offset}"
    | none => return s!"OFFSET {offset}"
  | none, none => return ""

/-- `OFFSET` and `FETCH`, bound in this order. -/
def offsetFetch : Option Nat → Option Nat → Compile String
  | none, none => return ""
  | take, skip => do
    let offset ← match skip with
      | some skip => Compile.bindValue (.ofNat skip)
      | none => pure "0"
    match take with
    | some take => do
      let count ← Compile.bindValue (.ofNat take)
      return s!"OFFSET {offset} ROWS FETCH NEXT {count} ROWS ONLY"
    | none => return s!"OFFSET {offset} ROWS"

/-- The clause that takes `take` rows after `skip` others; empty if neither is given. -/
def page (dialect : Dialect) (take skip : Option Nat) : Compile String :=
  match dialect with
  | mssql => offsetFetch take skip
  | d => limitOffset d.unlimited? take skip

end Dialect
end BoundSql
