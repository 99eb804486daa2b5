import BoundSql.Json.Value

/-! The text of JSON values, on one line without spaces or over several lines with an indent of two
    spaces. Each writer adds to the text that it is given. -/

namespace BoundSql.Json

/-! ### Strings -/

def hexDigit (n : Nat) : Char := Nat.digitChar (n % 16)

/-- A character inside a string: quote, backslash and control characters are escaped. -/
def escapeChar (c : Char) : List Char :=
  match c with
  | '"' => ['\\', '"']
  | '\\' => ['\\', '\\']
  | '\x08' => ['\\', 'b']
  | '\t' => ['\\', 't']
  | '\n' => ['\\', 'n']
  | '\x0c' => ['\\', 'f']
  | '\r' => ['\\', 'r']
  | c =>
    if c.toNat < 0x20 then ['\\', 'u', '0', '0', hexDigit (c.toNat / 16), hexDigit c.toNat] else [c]

def stringText (s : String) : String :=
  String.ofList (['"'] ++ s.toList.flatMap escapeChar ++ ['"'])

namespace Value

/-- The text of a value that holds no other value. -/
def scalarText : Value → String
  | .null => "null"
  | .bool true => "true"
  | .bool false => "false"
  | .number n => n.toText
  | .string s => stringText s
  | .array _ | .object _ => ""

/-! ### One line -/

mutual
def writeCompact (out : String) : Value → String
  | .array items => writeItems (out ++ "[") "" items ++ "]"
  | .object members => writeMembers (out ++ "\x7b") "" members ++ "\x7d"
  | v => out ++ v.scalarText

def writeItems (out separator : String) : List Value → String
  | [] => out
  | v :: rest => writeItems (writeCompact (out ++ separator) v) "," rest

def writeMembers (out separator : String) : List (String × Value) → String
  | [] => out
  | (key, v) :: rest =>
    writeMembers (writeCompact (out ++ separator ++ stringText key ++ ":") v) "," rest
end

def compact (v : Value) : String := writeCompact "" v

/-! ### Indented -/

/-- A line break and the indent of the given level. -/
def lineBreak (level : Nat) : String := String.ofList ('\n' :: List.replicate (2 * level) ' ')

mutual
def writeIndented (out : String) (level : Nat) : Value → String
  | .array [] => out ++ "[]"
  | .object [] => out ++ "\x7b\x7d"
  | .array (v :: rest) =>
    let first := writeIndented (out ++ "[" ++ lineBreak (level + 1)) (level + 1) v
    indentItems first (level + 1) rest ++ lineBreak level ++ "]"
  | .object ((key, v) :: rest) =>
    let start := out ++ "\x7b" ++ lineBreak (level + 1) ++ stringText key ++ ": "
    let first := writeIndented start (level + 1) v
    indentMembers first (level + 1) rest ++ lineBreak level ++ "\x7d"
  | v => out ++ v.scalarText

def indentItems (out : String) (level : Nat) : List Value → String
  | [] => out
  | v :: rest => indentItems (writeIndented (out ++ "," ++ lineBreak level) level v) level rest

def indentMembers (out : String) (level : Nat) : List (String × Value) → String
  | [] => out
  | (key, v) :: rest =>
    let start := out ++ "," ++ lineBreak level ++ stringText key ++ ": "
    indentMembers (writeIndented start level v) level rest
end

def indented (v : Value) : String := writeIndented "" 0 v

end Value
end BoundSql.Json
