import BoundSql.Command.Arguments
import BoundSql.Command.Host
import BoundSql.Json.Reader
import BoundSql.Statement.Reader

/-! Settings come in layers. An argument or its environment variable comes first, then the file
    that is named by an argument or lies in the current directory, then the file in the home
    directory, then the defaults. Each setting is taken from the first layer that has it. Main
    function: `Settings.load`. -/

namespace BoundSql.Command
open Json

/-! ### Layers -/

namespace Layer

/-- The settings of the upper layer, and of the lower one what the upper leaves open. -/
def above (upper lower : Layer) : Layer where
  dialect := upper.dialect.or lower.dialect
  limit := upper.limit.or lower.limit
  format := upper.format.or lower.format

end Layer

structure Settings where
  dialect : Dialect := .postgres
  limit : Nat := defaultRequestLimit
  format : Format := .text
deriving DecidableEq, Repr, Inhabited

/-- The settings of a layer, with the defaults below it. -/
def Layer.settings (layer : Layer) : Settings where
  dialect := layer.dialect.getD ({} : Settings).dialect
  limit := layer.limit.getD ({} : Settings).limit
  format := layer.format.getD ({} : Settings).format

/-! ### Files -/

def Format.reader (depth : Nat) : Reader Format :=
  .choice depth (Reader.bareVariants Format.all fun f => [f.name])

/-- A layer from a file, and the keys that name no setting. -/
structure FileLayer where
  layer : Layer := {}
  unknown : List String := []
deriving Repr, Inhabited

namespace FileLayer

def slots (depth : Nat) : List (Reader.Slot Layer) :=
  [.of "dialect" (.optional (Dialect.reader depth)) fun l dialect => { l with dialect },
   .of "max_request_bytes" (.optional (.natural "usize")) fun l limit => { l with limit },
   .of "output" (.optional (Format.reader depth)) fun l format => { l with format }]

/-- The layer after one member, with the settings given so far. An unknown key is kept, its value
    has to be well formed. -/
def member (depth : Nat) (state : FileLayer × List String) (m : Key × Node) :
    Except DecodeError (FileLayer × List String) := do
  let name ← Reader.key m.1
  if (slots depth).any (·.name == name) then
    let (layer, seen) ← Reader.member (slots depth) .stream (state.1.layer, state.2) m
    return ({ state.1 with layer }, seen)
  else
    let _ ← Reader.lift (m.2.toValue depth)
    let unknown := state.1.unknown
    let unknown := if unknown.contains name then unknown else unknown ++ [name]
    return ({ state.1 with unknown }, state.2)

/-- A file of settings is an object. -/
def reader (depth : Nat) : Reader FileLayer := fun _ node =>
  match node with
  | .object members close => do
    Reader.enter depth
    let (file, _) ← members.foldlM (member (depth - 1)) ({}, [])
    Reader.check (close.objectFault? members.isEmpty)
    return file
  | node => Reader.mismatch "struct FileConfig" node

end FileLayer

/-! ### Loading -/

/-- Why a run fails. -/
inductive Failure where
  | configMissing (path : String)
  | configUnreadable (path reason : String)
  | configMalformed (path : String) (error : DecodeError)
  | limitZero
  | requestUnreadable (path reason : String)
  | requestRefused (error : SqlError)
  | notCompiled (dialect : Dialect) (error : SqlError)
deriving Repr, Inhabited

def Failure.message : Failure → String
  | configMissing path => s!"Config file not found: {path}"
  | configUnreadable path reason => s!"Failed to read config file: {path}: {reason}"
  | configMalformed path error => s!"Failed to parse config file: {path}: {error.message}"
  | limitZero => "max_request_bytes must be greater than 0"
  | requestUnreadable path reason => s!"Failed to read request file: {path}: {reason}"
  | requestRefused error => s!"Failed to parse statement request: {error.message}"
  | notCompiled dialect error => s!"Failed to compile statement for {dialect.name}: {error.message}"

def settingsFile : String := programName ++ ".json"

/-- A path below a directory; an absolute path stands for itself. -/
def joinPath (directory path : String) : String :=
  if "/".isPrefixOf path || directory.isEmpty then path
  else if directory.endsWith "/" then directory ++ path
  else directory ++ "/" ++ path

/-- A path without the blanks around it, with a leading `~` for the home directory. -/
def expandPath (home : Option String) (path : String) : String :=
  let path := Text.trim path
  match home, path.toList with
  | some home, ['~'] => home
  | some home, '~' :: '/' :: rest => joinPath home (String.ofList rest)
  | _, _ => path

section Load

variable {m : Type → Type} [Monad m]

/-- Reads a file of settings. Unknown keys are logged as possible misspellings. -/
def loadFile (host : Host m) (path : String) : Run m Failure Layer := do
  Run.log .debug s!"Loading config file path={path}"
  match ← Run.effect (host.fileText path) with
  | .error reason => throw (.configUnreadable path reason)
  | .ok text =>
    match Reader.ofText (FileLayer.reader depthLimit) text with
    | .error error => throw (.configMalformed path error)
    | .ok file => do
      if !file.unknown.isEmpty then
        let names := ", ".intercalate file.unknown
        Run.log .warn s!"Unknown fields in config file (possible typos) fields={names}"
      return file.layer

/-- The layer of a file, or nothing if there is no such file. -/
def loadIfExists (host : Host m) (path : String) : Run m Failure (Option Layer) := do
  if ← Run.effect (host.fileExists path) then some <$> loadFile host path else return none

/-- The layer of the file in the home directory. -/
def loadHome (host : Host m) (home : Option String) : Run m Failure (List (String × Layer)) := do
  match home with
  | none => return []
  | some home => do
    let path := joinPath (joinPath home ("." ++ programName)) settingsFile
    return ((← loadIfExists host path).map fun layer => (path, layer)).toList

/-- The layer of the file that is named, which must exist, or else of the one in the current
    directory. -/
def loadNear (host : Host m) (home config : Option String) :
    Run m Failure (List (String × Layer)) := do
  match config with
  | some config => do
    let path := expandPath home config
    match ← loadIfExists host path with
    | some layer => return [(path, layer)]
    | none => throw (.configMissing path)
  | none =>
    return ((← loadIfExists host settingsFile).map fun layer => (settingsFile, layer)).toList

/-- The settings of a run. A limit of zero is refused only after all layers have been joined. -/
def Settings.load (host : Host m) (home : Option String) (request : Request) :
    Run m Failure Settings := do
  Run.log .debug "Loading application configuration"
  let far ← loadHome host home
  let near ← loadNear host home request.config
  let paths := (far ++ near).map fun file => Text.quoted file.1
  Run.log .debug ("Config files loaded configs=[" ++ ", ".intercalate paths ++ "]")
  let layer := (near ++ far).foldl (fun upper file => upper.above file.2) request.settings
  let settings := layer.settings
  if settings.limit = 0 then throw .limitZero
  Run.log .debug ("Configuration resolved dialect=" ++ settings.dialect.name
    ++ " output=" ++ settings.format.name ++ " max_request_bytes=" ++ toString settings.limit)
  return settings

end Load

end BoundSql.Command
