import BoundSql.Error
import BoundSql.Placeholder.Renumber

/-! Bindings: the arguments of one statement in the order in which they are bound, with the cursor
    that hands out their placeholders. Compilation runs over bindings; one that fails leaves
    behind what it has bound until then. -/

namespace BoundSql
open Json (Value)

structure Bindings where
  values : Array Value := #[]
  cursor : Cursor
deriving Inhabited

namespace Bindings

def fresh (style : Style) : Bindings := { cursor := .fresh style }

end Bindings

/-- A computation that binds arguments and may fail. The bindings outlive a failure. -/
abbrev Compile (α : Type) := ExceptT SqlError (StateM Bindings) α

namespace Compile

/-- Binds a value and gives the placeholder for it. -/
def bindValue (value : Value) : Compile String := do
  let bindings ← get
  let (token, cursor) := bindings.cursor.next
  set { values := bindings.values.push value, cursor : Bindings }
  return token

/-- Binds values whose placeholders are in the text already. -/
def bindPlaced (values : List Value) : Compile Unit :=
  modify fun b => { values := b.values ++ values.toArray, cursor := b.cursor.advance values.length }

/-- SQL written by hand, with its placeholders shifted to the cursor. It binds all its arguments,
    however often the text names them. -/
def splice (raw : RawSql) : Compile String := do
  let cursor := (← get).cursor
  match Placeholder.renumber cursor.style cursor.position raw.args.length raw.sql with
  | .ok sql =>
    bindPlaced raw.args
    return sql
  | .error token => throw (.invalidPlaceholder token)

/-- Goes on only if the condition holds. -/
def require (condition : Bool) (error : SqlError) : Compile Unit :=
  if condition then pure () else throw error

/-- What a computation gives from fresh bindings, with the arguments that it binds. -/
def toQuery (style : Style) (sql : Compile String) : Except SqlError Query :=
  match sql.run (Bindings.fresh style) with
  | (.ok sql, bindings) => .ok { sql, args := bindings.values.toList }
  | (.error e, _) => .error e

end Compile
end BoundSql
