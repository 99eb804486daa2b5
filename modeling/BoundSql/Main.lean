import BoundSql.Command

/-! The program with its real surroundings. -/

open BoundSql.Command

/-- The reason why a file cannot be read. -/
def readFailure : IO.Error → String
  | .noFileOrDirectory .. => "No such file or directory (os error 2)"
  | .permissionDenied .. => "Permission denied (os error 13)"
  | .inappropriateType .. => "Is a directory (os error 21)"
  | other => toString other

def fileText (path : String) : IO (Except String String) := do
  try
    return .ok (← IO.FS.readFile path)
  catch e => return .error (readFailure e)

/-- A path that cannot be opened for any other reason than its absence exists. -/
def pathIsThere (path : String) : IO Bool := do
  match ← fileText path with
  | .ok _ => return true
  | .error reason => return reason != readFailure (.noFileOrDirectory "" 0 "")

def surroundings : Host IO where
  environment := fun name => IO.getEnv name
  directory := do return (← IO.currentDir).toString
  fileExists := pathIsThere
  fileText := fileText
  input := do (← IO.getStdin).readToEnd

def main (arguments : List String) : IO UInt32 := do
  let outcome ← run surroundings arguments
  for line in outcome.log do
    IO.eprintln line.render
  IO.print outcome.output
  IO.eprint outcome.errors
  return outcome.exit
