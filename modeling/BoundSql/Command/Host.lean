import BoundSql.Command.Log

/-! The surroundings of a run: environment, files and standard input, over any monad, so that a
    run can be looked at without any effects. -/

namespace BoundSql.Command

structure Host (m : Type → Type) where
  environment : String → m (Option String)
  /-- The absolute path of the current directory. -/
  directory : m String
  fileExists : String → m Bool
  /-- The text of a file, or the reason why it cannot be read. -/
  fileText : String → m (Except String String)
  input : m String

/-- A computation that writes to the log and may fail. The log outlives a failure. -/
abbrev Run (m : Type → Type) (ε α : Type) := ExceptT ε (StateT (List LogLine) m) α

namespace Run

variable {m : Type → Type} {ε : Type} [Monad m]

def log (level : Level) (text : String) : Run m ε Unit := modify (· ++ [{ level, text }])

/-- An effect of the surroundings. -/
def effect {α : Type} (x : m α) : Run m ε α := liftM x

end Run
end BoundSql.Command
