import BoundSql.Text.Word
import BoundSql.Json.Value

/-! The tokens of JSON text. Text that is not well formed still gives tokens up to the first place
    where nothing can go on; what is wrong there is part of the last token. A few literals can be
    passed over though they have no value: a number beyond the greatest double and a string with
    half a surrogate pair. -/

namespace BoundSql.Json

/-- What is wrong with a text that is not JSON. -/
inductive Fault where
  | endInValue | endInString | endInList | endInObject
  | expectedValue | expectedWord | expectedColon | expectedListEnd | expectedObjectEnd
  | keyNotString | trailingComma | trailingCharacters
  | invalidNumber | numberOutOfRange
  | invalidEscape | loneSurrogate | endOfHexEscape | controlCharacter
  | recursionLimit
deriving DecidableEq, Repr, Inhabited

def Fault.message : Fault → String
  | endInValue => "EOF while parsing a value"
  | endInString => "EOF while parsing a string"
  | endInList => "EOF while parsing a list"
  | endInObject => "EOF while parsing an object"
  | expectedValue => "expected value"
  | expectedWord => "expected ident"
  | expectedColon => "expected `:`"
  | expectedListEnd => "expected `,` or `]`"
  | expectedObjectEnd => "expected `,` or `\x7d`"
  | keyNotString => "key must be a string"
  | trailingComma => "trailing comma"
  | trailingCharacters => "trailing characters"
  | invalidNumber => "invalid number"
  | numberOutOfRange => "number out of range"
  | invalidEscape => "invalid escape"
  | loneSurrogate => "lone leading surrogate in hex escape"
  | endOfHexEscape => "unexpected end of hex escape"
  | controlCharacter => "control character (\\u0000-\\u001F) found while parsing a string"
  | recursionLimit => "recursion limit exceeded"

/-- Why a literal has no value: the fault that its reader meets, and the one that ends the text
    for a reader who only passes over it, if there is one. -/
structure Defect where
  read : Fault
  skip : Option Fault
deriving DecidableEq, Repr, Inhabited

def Defect.both (fault : Fault) : Defect := ⟨fault, some fault⟩

inductive Token where
  | openList | closeList | openObject | closeObject | comma | colon
  | null
  | bool (b : Bool)
  | number (n : Number)
  | string (s : String)
  | badString (d : Defect)
  /-- A number, `true` or `false` that is cut short or misspelt. -/
  | badLiteral (d : Defect)
  /-- A `null` that is cut short or misspelt. -/
  | badNull (d : Defect)
  /-- A character that starts no token. -/
  | stray
deriving DecidableEq, Repr, Inhabited

/-! ### Strings -/

/-- A part of a string literal: a character, or the UTF-16 unit of a hex escape. -/
inductive Piece where
  | char (c : Char)
  | unit (n : Nat)
deriving DecidableEq, Repr, Inhabited

/-- How the parts of a string literal come to an end. A hex escape that is not one is told apart,
    because a surrogate before it looks into it. -/
inductive Ending where
  | closed (rest : List Char)
  | fault (f : Fault)
  | hexFault (f : Fault)
deriving Repr, Inhabited

def hexValue? (c : Char) : Option Nat :=
  if Text.isAsciiDigit c then some (c.toNat - 0x30)
  else if 'a' ≤ c && c ≤ 'f' then some (c.toNat - 0x61 + 10)
  else if 'A' ≤ c && c ≤ 'F' then some (c.toNat - 0x41 + 10)
  else none

def hexUnit? (a b c d : Char) : Option Nat := do
  return (((← hexValue? a) * 16 + (← hexValue? b)) * 16 + (← hexValue? c)) * 16 + (← hexValue? d)

def isHigh (unit : Nat) : Bool := 0xd800 ≤ unit && unit < 0xdc00

def isLow (unit : Nat) : Bool := 0xdc00 ≤ unit && unit < 0xe000

def escaped? : Char → Option Char
  | '"' => some '"'
  | '\\' => some '\\'
  | '/' => some '/'
  | 'b' => some '\x08'
  | 'f' => some '\x0c'
  | 'n' => some '\n'
  | 'r' => some '\r'
  | 't' => some '\t'
  | _ => none

/-- The fault of a hex escape without four characters: the text has ended if fewer than four bytes
    are left. -/
def shortHexFault (rest : List Char) : Fault :=
  if (String.ofList rest).utf8ByteSize < 4 then .endInString else .invalidEscape

/-- The parts of a string literal after its opening quote, those read so far last first. -/
def scanPieces (before : List Piece) : List Char → List Piece × Ending
  | [] => (before.reverse, .fault .endInString)
  | '"' :: rest => (before.reverse, .closed rest)
  | '\\' :: 'u' :: a :: b :: c :: d :: rest =>
    match hexUnit? a b c d with
    | some unit => scanPieces (.unit unit :: before) rest
    | none => (before.reverse, .hexFault .invalidEscape)
  | '\\' :: 'u' :: rest => (before.reverse, .hexFault (shortHexFault rest))
  | ['\\'] => (before.reverse, .hexFault .endInString)
  | '\\' :: c :: rest =>
    match escaped? c with
    | some e => scanPieces (.char e :: before) rest
    | none => (before.reverse, .fault .invalidEscape)
  | c :: rest =>
    if c.toNat < 0x20 then (before.reverse, .fault .controlCharacter)
    else scanPieces (.char c :: before) rest

def surrogatePair (high low : Nat) : Char :=
  Char.ofNat (0x10000 + (high - 0xd800) * 0x400 + (low - 0xdc00))

/-- The characters of the parts, those joined so far last first, or the fault at the first half
    of a pair that stands alone. At the end of the parts a high half looks at what follows them. -/
def joinPieces (ending : Ending) (before : List Char) : List Piece → Except Fault (List Char)
  | [] => .ok before.reverse
  | .char c :: rest => joinPieces ending (c :: before) rest
  | .unit n :: rest =>
    if isLow n then .error .loneSurrogate
    else if !isHigh n then joinPieces ending (Char.ofNat n :: before) rest
    else
      match rest, ending with
      | .unit m :: rest, _ =>
        if isLow m then joinPieces ending (surrogatePair n m :: before) rest
        else .error .loneSurrogate
      | .char _ :: _, _ => .error .endOfHexEscape
      | [], .hexFault f => .error f
      | [], .fault .endInString => .error .endInString
      | [], _ => .error .endOfHexEscape

/-- A string literal after its opening quote, and the text behind it unless it is broken. -/
def scanString (cs : List Char) : Except Defect String × Option (List Char) :=
  let (pieces, ending) := scanPieces [] cs
  let joined := joinPieces ending [] pieces
  match ending, joined with
  | .closed rest, .ok chars => (.ok (String.ofList chars), some rest)
  | .closed rest, .error f => (.error ⟨f, none⟩, some rest)
  | .fault f, .ok _ | .hexFault f, .ok _ => (.error (.both f), none)
  | .fault f, .error g | .hexFault f, .error g => (.error ⟨g, some f⟩, none)

/-! ### Numbers -/

/-- A part of a number that needs a digit: absent digits are a fault for the reader, at the end of
    the text as at any other character. -/
def digitsFault (rest : List Char) : Defect :=
  ⟨if rest.isEmpty then .endInValue else .invalidNumber, some .invalidNumber⟩

def splitDigits (cs : List Char) : List Char × List Char :=
  (cs.takeWhile Text.isAsciiDigit, cs.dropWhile Text.isAsciiDigit)

def digitsValue (ds : List Char) : Nat := (Text.decimalValue? ds).getD 0

/-- The digits after a point; without a point there are none. -/
def scanFraction : List Char → Except Defect (Option (List Char) × List Char)
  | '.' :: rest =>
    let (ds, rest) := splitDigits rest
    if ds.isEmpty then .error (digitsFault rest) else .ok (some ds, rest)
  | rest => .ok (none, rest)

def scanExponent : List Char → Except Defect (Option Int × List Char)
  | c :: rest =>
    if c = 'e' || c = 'E' then
      let (negative, rest) :=
        match rest with
        | '+' :: r => (false, r)
        | '-' :: r => (true, r)
        | r => (false, r)
      let (ds, rest) := splitDigits rest
      if ds.isEmpty then .error (digitsFault rest)
      else .ok (some (if negative then -(digitsValue ds : Int) else digitsValue ds), rest)
    else .ok (none, c :: rest)
  | [] => .ok (none, [])

/-- The digits that are taken in behind those of `n`, and the ones left over: 64 bits hold no more once a
    digit finds no room. -/
def takeDigits (n : Nat) : List Char → Nat × List Char
  | [] => (n, [])
  | d :: ds =>
    let m := 10 * n + digitsValue [d]
    if m < Nat.pow 2 64 then takeDigits m ds else (n, d :: ds)

/-- The number of a literal. An integer of 64 bits stays one, signed when negative; minus zero
    and all others are doubles. Of a double the digits left over count for nothing but their places. -/
def numberOf? (negative : Bool) (whole : List Char) (fraction : Option (List Char))
    (exponent : Option Int) : Option Number :=
  let double := fun _ : Unit =>
    let fraction := fraction.getD []
    let (n, left) := takeDigits 0 whole
    let (n, behind) := takeDigits n fraction
    let places : Int := fraction.length - behind.length
    (Binary64.ofDecimal? negative n (exponent.getD 0 + left.length - places)).map .double
  match fraction, exponent with
  | none, none =>
    let n := digitsValue whole
    if negative then
      if n ≠ 0 && n ≤ Nat.pow 2 63 then some (.integer (-n)) else double ()
    else if n < Nat.pow 2 64 then some (.integer n) else double ()
  | _, _ => double ()

/-- A number literal after its sign. -/
def scanNumber (negative : Bool) (cs : List Char) : Except Defect Number × Option (List Char) :=
  let (whole, rest) := splitDigits cs
  if whole.isEmpty then (.error (digitsFault rest), none)
  else if whole.head? = some '0' && 1 < whole.length then (.error (.both .invalidNumber), none)
  else
    match scanFraction rest with
    | .error d => (.error d, none)
    | .ok (fraction, rest) =>
      match scanExponent rest with
      | .error d => (.error d, none)
      | .ok (exponent, rest) =>
        match numberOf? negative whole fraction exponent with
        | some n => (.ok n, some rest)
        | none => (.error ⟨.numberOutOfRange, none⟩, some rest)

/-! ### Words and tokens -/

/-- A word whose first letter has been read: the letters that must follow. -/
def scanWord (token : Token) (bad : Defect → Token) :
    (letters : List Char) → List Char → Token × Option (List Char)
  | [], rest => (token, some rest)
  | _ :: _, [] => (bad (.both .endInValue), none)
  | l :: letters, c :: rest =>
    if l = c then scanWord token bad letters rest else (bad (.both .expectedWord), none)

def isSpace (c : Char) : Bool := c = ' ' || c = '\t' || c = '\n' || c = '\r'

/-- The token that starts with `c`, and the text behind it unless the token is broken. -/
def scanToken (c : Char) (rest : List Char) : Token × Option (List Char) :=
  let number (r : Except Defect Number × Option (List Char)) : Token × Option (List Char) :=
    match r with
    | (.ok n, rest) => (.number n, rest)
    | (.error d, rest) => (.badLiteral d, rest)
  match c with
  | '[' => (.openList, some rest)
  | ']' => (.closeList, some rest)
  | '\x7b' => (.openObject, some rest)
  | '\x7d' => (.closeObject, some rest)
  | ',' => (.comma, some rest)
  | ':' => (.colon, some rest)
  | 'n' => scanWord .null .badNull ['u', 'l', 'l'] rest
  | 't' => scanWord (.bool true) .badLiteral ['r', 'u', 'e'] rest
  | 'f' => scanWord (.bool false) .badLiteral ['a', 'l', 's', 'e'] rest
  | '-' => number (scanNumber true rest)
  | '"' =>
    match scanString rest with
    | (.ok s, rest) => (.string s, rest)
    | (.error d, rest) => (.badString d, rest)
  | c => if Text.isAsciiDigit c then number (scanNumber false (c :: rest)) else (.stray, none)

/-- The tokens of a text, those read so far last first. Every token takes at least one character, so
    as many steps as there are characters are enough. -/
def scanTokens (before : List Token) : Nat → List Char → List Token
  | 0, _ => before.reverse
  | _ + 1, [] => before.reverse
  | steps + 1, c :: rest =>
    if isSpace c then scanTokens before steps rest
    else
      match scanToken c rest with
      | (token, some rest) => scanTokens (token :: before) steps rest
      | (token, none) => (token :: before).reverse

def tokens (text : String) : List Token :=
  let cs := text.toList
  scanTokens [] cs.length cs

end BoundSql.Json
