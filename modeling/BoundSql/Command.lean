import BoundSql.Command.Settings
import BoundSql.Command.Variables
import BoundSql.Compile
import BoundSql.Json.Writer

/-! The program: it reads a statement as JSON and prints its query in a dialect, or lists the
    dialects. Results go to the standard output, a failure and the log to the standard error. Main
    function: `run`. -/

namespace BoundSql.Command
open Json

/-! ### What is printed -/

/-- A query as text has the SQL first and the arguments in the last line. -/
def render (format : Format) (query : Query) : String :=
  match format with
  | .text => query.sql ++ "\n" ++ (Value.array query.args).compact
  | .json => query.toJson.indented

/-- A dialect with its first two placeholders. -/
def dialectLine (dialect : Dialect) : String :=
  let style := dialect.style
  let name := dialect.name.toList
  let column := String.ofList (name ++ List.replicate (10 - name.length) ' ')
  column ++ " " ++ style.token style.start ++ ", " ++ style.token (style.start + 1) ++ ", ...\n"

def dialectList : String := String.join (Dialect.all.map dialectLine)

def versionText : String := programName ++ " 0.1.0\n"

def helpText : String :=
  "Compile JSON statement descriptions into parameterized SQL\n\nUsage: " ++ programName
    ++ " [OPTIONS] [COMMAND]\n"

/-- What a run leaves behind. -/
structure Outcome where
  exit : UInt32
  output : String := ""
  errors : String := ""
  log : List LogLine := []
deriving Inhabited

section Run

variable {m : Type → Type} [Monad m]

/-! ### Environment -/

/-- A directory and those above it, the nearest first. -/
def ancestors (directory : String) : List String :=
  let names := directory.splitOn "/"
  (List.range names.length).map fun up => "/".intercalate (names.take (names.length - up))

/-- The text of the nearest file of variables. -/
def nearestVariables (host : Host m) : List String → m String
  | [] => pure ""
  | directory :: rest => do
    match ← host.fileText (directory ++ "/.env") with
    | .ok text => pure text
    | .error _ => nearestVariables host rest

/-- The surroundings with the variables of a file for those that are not set. -/
def Host.withVariables (host : Host m) (pairs : List (String × String)) : Host m :=
  { host with
    environment := fun name => do
      match ← host.environment name with
      | some value => pure (some value)
      | none => pure ((pairs.find? (·.1 == name)).map (·.2)) }

/-- The variables of the options, read once. -/
def optionVariables (host : Host m) : m (String → Option String) := do
  let names := Opt.shared.filterMap Opt.variableName?
  let values ← names.mapM host.environment
  return fun name => ((names.zip values).find? (·.1 == name)).bind (·.2)

/-! ### Running -/

/-- The text of the request: a file, or the standard input. -/
def readRequest (host : Host m) : Option String → Run m Failure String
  | some path =>
    if path = "-" then Run.effect host.input
    else do
      match ← Run.effect (host.fileText path) with
      | .ok text => return text
      | .error reason => throw (.requestUnreadable path reason)
  | none => Run.effect host.input

/-- Compiles the request and gives what is printed. -/
def compileRequest (host : Host m) (settings : Settings) (input : Option String) :
    Run m Failure String := do
  let text ← readRequest host input
  let statement ← match Statement.ofText settings.limit text with
    | .ok statement => pure statement
    | .error error => throw (.requestRefused error)
  let query ← match statement.toQuery settings.dialect with
    | .ok query => pure query
    | .error error => throw (.notCompiled settings.dialect error)
  let counts := s!"dialect={settings.dialect.name} args={query.args.length}"
  Run.log .debug s!"Compiled statement {counts}"
  Run.log .info s!"Statement compiled {counts}"
  return render settings.format query ++ "\n"

/-- Does what a request asks for. -/
def perform (host : Host m) (request : Request) : Run m Failure String := do
  match request.subcommand with
  | .dialects => return dialectList
  | .compile input => do
    let home := (← Run.effect (host.environment "HOME")).filter (!·.isEmpty)
    let settings ← Settings.load host home request
    compileRequest host settings input

/-- A run of the program. -/
def run (host : Host m) (arguments : List String) : m Outcome := do
  let file ← nearestVariables host (ancestors (← host.directory))
  let host := host.withVariables (← variablesOfText host.environment file)
  let filter := (← host.environment "SQLWEAVE_LOG").getD defaultFilter
  let log : List LogLine := [{ level := .debug, text := "Application starting" }]
  let started := shown filter log
  match parse (← optionVariables host) arguments with
  | .error .version => return { exit := 0, output := versionText, log := started }
  | .error .help => return { exit := 0, output := helpText, log := started }
  | .error (.error e) => return { exit := 2, errors := s!"error: {e.message}\n", log := started }
  | .ok request => do
    let (result, log) ← (perform host request).run log
    match result with
    | .ok output => return { exit := 0, output, log := shown filter log }
    | .error failure =>
      return { exit := 1, errors := s!"\nError: {failure.message}\n\n", log := shown filter log }

end Run

end BoundSql.Command
