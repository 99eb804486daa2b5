import BoundSql.Dialect

/-! The arguments of the program. Four options may stand before or after the subcommand and have
    an environment variable each; the input option belongs to one subcommand. Arguments are taken
    from left to right, and an option that waits for a value is settled when the next one starts.
    Main function: `parse`. -/

namespace BoundSql.Command

/-! ### What can be given -/

/-- How a query is printed. -/
inductive Format where
  | text | json
deriving DecidableEq, Repr, Inhabited

def Format.name : Format → String
  | text => "text"
  | json => "json"

def Format.all : List Format := [text, json]

/-- The settings that one source gives. -/
structure Layer where
  dialect : Option Dialect := none
  limit : Option Nat := none
  format : Option Format := none
deriving DecidableEq, Repr, Inhabited

inductive Subcommand where
  | compile (input : Option String)
  | dialects
deriving DecidableEq, Repr, Inhabited

/-- What the arguments and the environment ask for. -/
structure Request where
  settings : Layer := {}
  config : Option String := none
  subcommand : Subcommand := .compile none
deriving DecidableEq, Repr, Inhabited

inductive Opt where
  | dialect | config | output | limit | input
deriving DecidableEq, Repr, Inhabited

namespace Opt

def long : Opt → String
  | dialect => "dialect"
  | config => "config"
  | output => "output"
  | limit => "max-request-bytes"
  | input => "input"

def short? : Opt → Option Char
  | dialect => some 'd'
  | config => some 'c'
  | output => some 'o'
  | limit => none
  | input => some 'i'

/-- The environment variable that stands in for the option. -/
def variableName? : Opt → Option String
  | dialect => some "SQLWEAVE_DIALECT"
  | config => some "SQLWEAVE_CONFIG"
  | output => some "SQLWEAVE_OUTPUT"
  | limit => some "SQLWEAVE_MAX_REQUEST_BYTES"
  | input => none

/-- The option with its value, as messages show it. -/
def usage : Opt → String
  | dialect => "--dialect <DIALECT>"
  | config => "--config <CONFIG>"
  | output => "--output <OUTPUT>"
  | limit => "--max-request-bytes <MAX_REQUEST_BYTES>"
  | input => "--input <INPUT>"

def shared : List Opt := [dialect, config, output, limit]

end Opt

/-! ### Errors -/

/-- What is wrong with a number. -/
inductive NumberDefect where
  | empty | invalidDigit | tooLarge
deriving DecidableEq, Repr, Inhabited

def NumberDefect.message : NumberDefect → String
  | empty => "cannot parse integer from empty string"
  | invalidDigit => "invalid digit found in string"
  | tooLarge => "number too large to fit in target type"

inductive UsageError where
  | badDialect (value : String)
  | badFormat (value : String)
  | badNumber (value : String) (defect : NumberDefect)
  | noValue (opt : Opt)
  | repeated (opt : Opt)
  | valueForFlag (value flag : String)
  | unexpected (argument : String)
  | unknownSubcommand (name : String)
deriving DecidableEq, Repr, Inhabited

/-- A value that an option does not take, and why. -/
def invalidValue (value : String) (opt : Opt) (reason : String) : String :=
  s!"invalid value '{value}' for '{opt.usage}': {reason}"

def UsageError.message : UsageError → String
  | badDialect value =>
    invalidValue value .dialect
      s!"Invalid dialect '{value}'. Valid options: mysql, sqlite, postgres, mssql"
  | badFormat value =>
    invalidValue value .output s!"Invalid output format '{value}'. Valid options: text, json"
  | badNumber value defect => invalidValue value .limit defect.message
  | noValue opt => s!"a value is required for '{opt.usage}' but none was supplied"
  | repeated opt => s!"the argument '{opt.usage}' cannot be used multiple times"
  | valueForFlag value flag =>
    s!"unexpected value '{value}' for '{flag}' found; no more were expected"
  | unexpected argument => s!"unexpected argument '{argument}' found"
  | unknownSubcommand name => s!"unrecognized subcommand '{name}'"

/-- Why the arguments lead to no request. -/
inductive Stop where
  | error (e : UsageError)
  | version
  | help
deriving DecidableEq, Repr, Inhabited

/-! ### Values -/

/-- The digits of a number of 64 bits, from left to right: a character that is no digit counts
    before a number that grows too large. -/
def numberFrom (value : Nat) : List Char → Except NumberDefect Nat
  | [] => .ok value
  | c :: rest =>
    if !Text.isAsciiDigit c then .error .invalidDigit
    else
      let next := 10 * value + (c.toNat - 0x30)
      if next < 2 ^ 64 then numberFrom next rest else .error .tooLarge

/-- A number may have a plus sign. -/
def number? (text : String) : Except NumberDefect Nat :=
  match text.toList with
  | [] => .error .empty
  | ['+'] => .error .invalidDigit
  | '+' :: digits => numberFrom 0 digits
  | digits => numberFrom 0 digits

def format? (text : String) : Option Format := Format.all.find? (·.name == text.toLower)

/-- A value, and whether an argument gives it rather than the environment. -/
structure Given (α : Type) where
  value : α
  explicit : Bool
deriving DecidableEq, Repr, Inhabited

/-- The options that one level of arguments gives. -/
structure Values where
  dialect : Option (Given Dialect) := none
  config : Option (Given String) := none
  output : Option (Given Format) := none
  limit : Option (Given Nat) := none
  input : Option (Given String) := none
deriving Inhabited

def Values.has (values : Values) : Opt → Bool
  | .dialect => values.dialect.isSome
  | .config => values.config.isSome
  | .output => values.output.isSome
  | .limit => values.limit.isSome
  | .input => values.input.isSome

/-- A path is not empty. -/
def path? (opt : Opt) (value : String) : Except UsageError String :=
  if value.isEmpty then .error (.noValue opt) else .ok value

/-- Sets an option from its text. -/
def Values.put (values : Values) (explicit : Bool) (opt : Opt) (text : String) :
    Except UsageError Values :=
  match opt with
  | .dialect =>
    match Dialect.ofTag text with
    | .ok value => .ok { values with dialect := some { value, explicit } }
    | .error _ => .error (.badDialect text)
  | .config => do return { values with config := some { value := ← path? opt text, explicit } }
  | .output =>
    match format? text with
    | some value => .ok { values with output := some { value, explicit } }
    | none => .error (.badFormat text)
  | .limit =>
    match number? text with
    | .ok value => .ok { values with limit := some { value, explicit } }
    | .error defect => .error (.badNumber text defect)
  | .input => do return { values with input := some { value := ← path? opt text, explicit } }

/-- Sets an option that may be given only once. -/
def Values.putOnce (values : Values) (opt : Opt) (text : String) : Except Stop Values :=
  if values.has opt then .error (.error (.repeated opt))
  else (values.put true opt text).mapError .error

/-! ### One level of arguments -/

/-- An option whose value has not been looked at yet. -/
inductive Pending where
  | none
  | waiting (opt : Opt)
  | filled (opt : Opt) (text : String)
deriving DecidableEq, Repr, Inhabited

structure Progress where
  values : Values := {}
  pending : Pending := .none

/-- Settles the option that is still open. -/
def Progress.settle (p : Progress) : Except Stop Progress :=
  match p.pending with
  | .none => .ok p
  | .waiting opt => .error (.error (.noValue opt))
  | .filled opt text => do return { values := ← p.values.putOnce opt text }

/-- An option starts, with its value if it is attached. -/
def Progress.start (p : Progress) (opt : Opt) (attached : Option String) :
    Except Stop Progress := do
  let p ← p.settle
  match attached with
  | some text => return { p with values := ← p.values.putOnce opt text }
  | none => return { p with pending := .waiting opt }

def Progress.stop {α : Type} (p : Progress) (stop : Stop) : Except Stop α := do
  let _ ← p.settle
  throw stop

/-- The level of the program itself, or that of a subcommand with its options. -/
inductive Scope where
  | program
  | compile
  | dialects
deriving DecidableEq, Repr, Inhabited

def Scope.options : Scope → List Opt
  | compile => .input :: Opt.shared
  | program | dialects => Opt.shared

/-- An argument that starts with two dashes. -/
def longArgument (scope : Scope) (p : Progress) (body : List Char) : Except Stop Progress :=
  let name := String.ofList (body.takeWhile (· ≠ '='))
  let attached :=
    match body.dropWhile (· ≠ '=') with
    | _ :: text => some (String.ofList text)
    | [] => none
  let flag (stop : Stop) : Except Stop Progress :=
    match attached with
    | some text => .error (.error (.valueForFlag text ("--" ++ name)))
    | none => p.stop stop
  match scope.options.find? (·.long == name) with
  | some opt => p.start opt attached
  | none =>
    if name = "help" then flag .help
    else if name = "version" && scope = .program then flag .version
    else .error (.error (.unexpected ("--" ++ name)))

/-- An argument that starts with one dash; the text behind an option's letter is its value. -/
def shortArgument (scope : Scope) (p : Progress) (letter : Char) (behind : List Char) :
    Except Stop Progress :=
  match scope.options.find? (·.short? == some letter) with
  | some opt =>
    match behind with
    | [] => p.start opt none
    | '=' :: text => p.start opt (some (String.ofList text))
    | text => p.start opt (some (String.ofList text))
  | none =>
    if letter = 'h' then p.stop .help
    else if letter = 'V' && scope = .program then p.stop .version
    else .error (.error (.unexpected (String.ofList ['-', letter])))

/-- What a subcommand goes by, and the one that explains the others. -/
def subcommandNames : List String := ["compile", "dialects", "help"]

/-- An argument that is no option and no value of one. -/
def strayArgument (scope : Scope) (escaped : Bool) (argument : String) : Stop :=
  if scope = .program && !(escaped && subcommandNames.contains argument) then
    .error (.unknownSubcommand argument)
  else .error (.unexpected argument)

/-- An argument of a level, before any `--`. -/
def argument (scope : Scope) (p : Progress) (text : String) : Except Stop Progress :=
  match text.toList with
  | '-' :: '-' :: body => longArgument scope p body
  | '-' :: letter :: behind => shortArgument scope p letter behind
  | _ =>
    match p.pending with
    | .waiting opt => .ok { p with pending := .filled opt text }
    | _ => .error (strayArgument scope false text)

/-- Sets the options that no argument gives from the environment. -/
def fromEnvironment (environment : String → Option String) (values : Values) : Except Stop Values :=
  Opt.shared.foldlM (fun values opt =>
    match opt.variableName?.bind environment with
    | some text =>
      if values.has opt then .ok values else (values.put false opt text).mapError .error
    | none => .ok values) values

/-- The arguments of a subcommand. After `--` there is nothing that it takes. -/
def level (scope : Scope) (environment : String → Option String) (p : Progress) :
    List String → Except Stop Values
  | [] => do fromEnvironment environment (← p.settle).values
  | ["--"] => do fromEnvironment environment (← p.settle).values
  | "--" :: text :: _ => .error (strayArgument scope true text)
  | text :: rest => do level scope environment (← argument scope p text) rest

/-! ### All arguments -/

/-- A value of the program's level and one of the subcommand's. The subcommand's counts, unless only
    the program's comes from an argument. -/
def prefer {α : Type} (outer inner : Option (Given α)) : Option α :=
  match outer, inner with
  | some o, some i => some (if o.explicit && !i.explicit then o.value else i.value)
  | some o, none => some o.value
  | none, i => i.map (·.value)

def request (outer inner : Values) (subcommand : Subcommand) : Request where
  settings :=
    { dialect := prefer outer.dialect inner.dialect
      limit := prefer outer.limit inner.limit
      format := prefer outer.output inner.output }
  config := prefer outer.config inner.config
  subcommand := subcommand

/-- What is asked of `help`: at most one subcommand, since none has others below it. -/
def helpFor : List String → Stop
  | [] => .help
  | name :: rest =>
    if subcommandNames.contains name then
      match rest with
      | [] => .help
      | other :: _ => .error (.unknownSubcommand other)
    else .error (.unknownSubcommand name)

/-- The arguments of the program. The level of a subcommand is settled before what has come before
    it. -/
def parseFrom (environment : String → Option String) (p : Progress) :
    List String → Except Stop Request
  | [] => do
    return request (← level .program environment p []) {} (.compile none)
  | "--" :: rest => do
    return request (← level .program environment p ("--" :: rest)) {} (.compile none)
  | text :: rest =>
    let waiting := match p.pending with
      | .waiting _ => true
      | _ => false
    if text = "compile" && !waiting then do
      let inner ← level .compile environment {} rest
      let outer ← level .program environment p []
      return request outer inner (.compile (inner.input.map (·.value)))
    else if text = "dialects" && !waiting then do
      let inner ← level .dialects environment {} rest
      let outer ← level .program environment p []
      return request outer inner .dialects
    else if text = "help" && !waiting then .error (helpFor rest)
    else do parseFrom environment (← argument .program p text) rest

/-- What the arguments ask for, with the environment standing in for options that are not given. -/
def parse (environment : String → Option String) (arguments : List String) : Except Stop Request :=
  parseFrom environment {} arguments

end BoundSql.Command
