/-! The log of a run: lines with a level, of which a filter shows those that are severe enough. A
    filter is a list of levels, for the program or for all others. -/

namespace BoundSql.Command

/-- The name of the program in paths and filters. -/
def programName : String := "sqlweave"

inductive Level where
  | error | warn | info | debug | trace
deriving DecidableEq, Repr, Inhabited

namespace Level

/-- Less severe levels rank higher. -/
def rank : Level → Nat
  | error => 1
  | warn => 2
  | info => 3
  | debug => 4
  | trace => 5

def name : Level → String
  | error => "ERROR"
  | warn => "WARN"
  | info => "INFO"
  | debug => "DEBUG"
  | trace => "TRACE"

def all : List Level := [error, warn, info, debug, trace]

/-- The rank of a level's name in any case, or of its rank as a number; that of `off` shows
    nothing. -/
def rankOf? (text : String) : Option Nat :=
  if text.toLower = "off" then some 0
  else if let some rank := (List.range 6).find? fun rank => toString rank == text then some rank
  else (all.find? fun l => l.name == text.toUpper).map rank

end Level

structure LogLine where
  level : Level
  text : String
deriving DecidableEq, Repr, Inhabited

def LogLine.render (line : LogLine) : String := s!"{line.level.name} {line.text}"

/-- One part of a filter: the start of the names it is about, and the greatest rank it shows. A
    part that is no level names what it is about and shows all of it. -/
def directive (text : String) : String × Nat :=
  match text.splitOn "=" with
  | [target, level] => (target, (Level.rankOf? level).getD Level.trace.rank)
  | _ =>
    match Level.rankOf? text with
    | some rank => ("", rank)
    | none => (text, Level.trace.rank)

/-- The greatest rank that a filter shows of the program's lines. The longest matching name
    decides, and of several equal ones the last. An empty filter shows errors. -/
def shownRank (filter : String) : Nat :=
  match (filter.splitOn ",").filter (!·.isEmpty) with
  | [] => Level.error.rank
  | parts =>
    let matching := (parts.map directive).filter fun d => d.1.isPrefixOf programName
    let best := matching.foldl (fun b d => if b.1.length ≤ d.1.length then d else b) ("", 0)
    best.2

def defaultFilter : String := "warn," ++ programName ++ "=info"

/-- The lines that a filter shows. -/
def shown (filter : String) (lines : List LogLine) : List LogLine :=
  lines.filter fun line => line.level.rank ≤ shownRank filter

end BoundSql.Command
