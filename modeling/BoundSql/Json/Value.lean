import BoundSql.Json.Binary64

/-! JSON values. An object keeps its members in the order of their keys' first appearance, and a key
    that is given again takes the later value in its first place. -/

namespace BoundSql.Json

/-- A number is an integer or, with a fraction, an exponent or too many digits, a double. -/
inductive Number where
  | integer (n : Int)
  | double (x : Binary64)
deriving DecidableEq, Repr, Inhabited

def Number.toText : Number → String
  | .integer n => toString n
  | .double x => x.toText

inductive Value where
  | null
  | bool (b : Bool)
  | number (n : Number)
  | string (s : String)
  | array (items : List Value)
  | object (members : List (String × Value))
deriving Repr, BEq, Inhabited

namespace Value

/-- The members with `key` set to `value`: in its place if it is there, at the end if not. -/
def put (members : List (String × Value)) (key : String) (value : Value) : List (String × Value) :=
  if members.any (·.1 == key) then members.map fun m => if m.1 == key then (key, value) else m
  else members ++ [(key, value)]

def get? (members : List (String × Value)) (key : String) : Option Value :=
  (members.find? (·.1 == key)).map (·.2)

def ofNat (n : Nat) : Value := .number (.integer n)

end Value
end BoundSql.Json
