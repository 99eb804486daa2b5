import BoundSql.Text.Word

/-! Files of environment variables. An entry is `KEY=VALUE`, with or without `export` in front and
    quotes around parts of the value; comments start with `#`. An entry goes on over the ends of
    lines while a quote is open, and its value may refer to variables that are set already.
    Reading stops at the first entry that makes no sense. -/

namespace BoundSql.Command

/-! ### Entries -/

/-- Where in an entry the end of a line would fall. -/
inductive Place where
  | plain | space | escaped | single | singleEscaped | double | doubleEscaped
deriving DecidableEq, Repr, Inhabited

/-- Where a character outside quotes leads. -/
def Place.outside (c : Char) : Place :=
  if c = '\\' then .escaped
  else if c = '"' then .double
  else if c = '\'' then .single
  else .plain

/-- The place behind a character. -/
def Place.next (place : Place) (c : Char) : Place :=
  match place with
  | .plain => if Text.isBlankChar c && c ≠ '\n' && c ≠ '\r' then .space else outside c
  | .space => outside c
  | .escaped => .plain
  | .single => if c = '\\' then .singleEscaped else if c = '\'' then .plain else .single
  | .singleEscaped => .single
  | .double => if c = '\\' then .doubleEscaped else if c = '"' then .plain else .double
  | .doubleEscaped => .double

/-- The characters of a line up to a comment, put before those of its entry so far, last first,
    and the place behind them. A comment ends the entry. -/
def takeLine (before : List Char) (place : Place) : List Char → List Char × Place
  | [] => (before, place)
  | c :: rest =>
    if place = .space && c = '#' then (before, .plain)
    else takeLine (c :: before) (place.next c) rest

/-- The entries of lines that still have their ends. At the end of the text an entry that would go
    on is broken. -/
def entries (before : List Char) (place : Place) : List (List Char) → List (Option (List Char))
  | [] => if place = .plain then [] else [none]
  | line :: rest =>
    if before.isEmpty && (line.dropWhile Text.isBlankChar).head? = some '#' then
      entries [] .plain rest
    else
      let (before, place) := takeLine before place line
      if place = .plain then some before.reverse :: entries [] .plain rest
      else entries before place rest

/-- The lines of a text, each with the break that ends it. -/
def linesOf (text : String) : List (List Char) :=
  let lines := text.splitOn "\n"
  let ended := lines.dropLast.map fun line => line.toList ++ ['\n']
  match lines.getLast? with
  | some "" | none => ended
  | some line => ended ++ [line.toList]

/-! ### Values -/

/-- A part of a value: a character, or what stands in for a variable. -/
inductive ValuePart where
  | char (c : Char)
  | reference (name : String)
deriving DecidableEq, Repr, Inhabited

/-- Where in a value its reader is. -/
inductive Quote where
  | none
  | single
  | double
  /-- Behind the value, where only a comment may follow. -/
  | behind
deriving DecidableEq, Repr, Inhabited

/-- What a reader of a value is in the middle of: nothing, an escape, or a reference with the name
    so far, last character first. -/
inductive Unfinished where
  | none
  | escape
  | bare (name : List Char)
  | braced (name : List Char)
deriving DecidableEq, Repr, Inhabited

def isInlineSpace (c : Char) : Bool := c = ' ' || c = '\t'

/-- The names of bare references are made of letters and digits. -/
def isReferenceChar (c : Char) : Bool := Text.isWordChar c && c ≠ '_'

/-- The characters that a backslash leaves as they are. -/
def escapable : List Char := ['\\', '\'', '"', '$', ' ']

def referenceTo (name : List Char) : ValuePart := .reference (String.ofList name.reverse)

/-- The parts of a value, those read so far last first. Single quotes hold any text; in double
    quotes and in bare text a backslash escapes and a dollar sign refers to a variable. The
    character behind a bare reference is text, whatever it is. -/
def scanValue (before : List ValuePart) (quote : Quote) (unfinished : Unfinished) :
    List Char → Option (List ValuePart)
  | [] =>
    match quote, unfinished with
    | .single, _ | .double, _ | _, .braced _ => none
    | _, .bare name => some (referenceTo name :: before).reverse
    | _, _ => some before.reverse
  | c :: rest =>
    match quote, unfinished with
    | .behind, _ =>
      if isInlineSpace c then scanValue before quote .none rest
      else if c = '#' then some before.reverse
      else none
    | _, .escape =>
      if c = 'n' then scanValue (.char '\n' :: before) quote .none rest
      else if escapable.contains c then scanValue (.char c :: before) quote .none rest
      else none
    | _, .bare name =>
      if isReferenceChar c then scanValue before quote (.bare (c :: name)) rest
      else if c = '\x7b' && name.isEmpty then scanValue before quote (.braced []) rest
      else if c = '$' then scanValue (referenceTo name :: before) quote (.bare []) rest
      else scanValue (.char c :: referenceTo name :: before) quote .none rest
    | _, .braced name =>
      if c = '\x7d' then scanValue (referenceTo name :: before) quote .none rest
      else scanValue before quote (.braced (c :: name)) rest
    | .single, .none =>
      if c = '\'' then scanValue before .none .none rest
      else scanValue (.char c :: before) quote .none rest
    | .double, .none =>
      if c = '$' then scanValue before quote (.bare []) rest
      else if c = '"' then scanValue before .none .none rest
      else if c = '\\' then scanValue before quote .escape rest
      else scanValue (.char c :: before) quote .none rest
    | .none, .none =>
      if c = '$' then scanValue before quote (.bare []) rest
      else if c = '\'' then scanValue before .single .none rest
      else if c = '"' then scanValue before .double .none rest
      else if c = '\\' then scanValue before quote .escape rest
      else if isInlineSpace c then scanValue before .behind .none rest
      else scanValue (.char c :: before) quote .none rest

/-! ### Keys -/

def isKeyStart (c : Char) : Bool :=
  c = '_' || ('a' ≤ c && c ≤ 'z') || ('A' ≤ c && c ≤ 'Z')

def isKeyChar (c : Char) : Bool := isKeyStart c || Text.isAsciiDigit c || c = '.'

/-- The key at the start of an entry, and the text behind it and the space after it. -/
def scanKey (entry : List Char) : Option (String × List Char) :=
  match entry with
  | c :: _ =>
    if isKeyStart c then
      some (String.ofList (entry.takeWhile isKeyChar),
        (entry.dropWhile isKeyChar).dropWhile Text.isBlankChar)
    else none
  | [] => none

/-- A key and the value behind an equals sign. -/
def assigned (key : String) : List Char → Option (String × List ValuePart)
  | '=' :: rest =>
    match rest.dropWhile Text.isBlankChar with
    | [] | '#' :: _ => some (key, [])
    | value => (scanValue [] .none .none value).map fun parts => (key, parts)
  | _ => none

/-- The key and the value of an entry. `export` in front of a key is passed over, but it may be a
    key too. -/
def assignment (entry : List Char) : Option (String × List ValuePart) := do
  let (key, rest) ← scanKey entry
  if key = "export" && rest.head? ≠ some '=' then
    let (key, rest) ← scanKey rest
    assigned key rest
  else assigned key rest

/-! ### Variables -/

section Variables

variable {m : Type → Type} [Monad m]

/-- The text of a value. A variable that is set counts before one of the file; one that is neither
    is empty. -/
def expand (environment : String → m (Option String)) (earlier : List (String × String)) :
    List ValuePart → m String
  | [] => pure ""
  | .char c :: rest => do return c.toString ++ (← expand environment earlier rest)
  | .reference name :: rest => do
    let text ← match ← environment name with
      | some text => pure text
      | none => pure (((earlier.find? (·.1 == name)).map (·.2)).getD "")
    return text ++ (← expand environment earlier rest)

/-- The variables that entries set, behind the earlier ones, up to the first that makes no sense. -/
def setVariables (environment : String → m (Option String)) (earlier : List (String × String)) :
    List (Option (List Char)) → m (List (String × String))
  | [] | none :: _ => pure earlier
  | some entry :: rest =>
    match Text.trimChars entry with
    | [] | '#' :: _ => setVariables environment earlier rest
    | text =>
      match assignment text with
      | some (key, parts) => do
        let value ← expand environment earlier parts
        setVariables environment (earlier ++ [(key, value)]) rest
      | none => pure earlier

/-- The variables of a file, which may start with a byte order mark. -/
def variablesOfText (environment : String → m (Option String)) (text : String) :
    m (List (String × String)) :=
  setVariables environment [] (entries [] .plain (linesOf ((text.dropPrefix "\uFEFF").toString)))

end Variables

end BoundSql.Command
