import BoundSql.Placeholder
import BoundSql.Text.Word

/-! Renumbering. SQL that is written by hand counts its placeholders from the first index of the
    style; within a larger statement they are shifted to start at another. A placeholder is the
    prefix and the longest run of decimal digits behind it, if no word character follows the run. -/

namespace BoundSql.Placeholder

/-- Indices are numbers of 64 bits. -/
def indexBound : Nat := Nat.pow 2 64

/-! ### Scanning -/

/-- A part of SQL text: a character, or the digits of a placeholder. -/
inductive Part where
  | literal (c : Char)
  | index (digits : List Char)
deriving DecidableEq, Repr, Inhabited

/-- The digits of a placeholder at the start of the text, and the text behind it. -/
def atStart? (leading text : List Char) : Option (List Char × List Char) :=
  if leading.isPrefixOf text then
    let behind := text.drop leading.length
    let digits := behind.takeWhile Text.isDecimal
    let rest := behind.dropWhile Text.isDecimal
    if digits.isEmpty || rest.head?.any Text.isWordChar then none else some (digits, rest)
  else none

/-- The parts of a text, those found so far last first. Every part takes at least one character,
    so as many steps as there are characters are enough. -/
def scanParts (leading : List Char) (before : List Part) : Nat → List Char → List Part
  | 0, _ => before.reverse
  | _ + 1, [] => before.reverse
  | steps + 1, c :: rest =>
    match atStart? leading (c :: rest) with
    | some (digits, behind) => scanParts leading (.index digits :: before) steps behind
    | none => scanParts leading (.literal c :: before) steps rest

/-- The leftmost placeholders of a text, and the characters between them. -/
def parts (leading text : List Char) : List Part := scanParts leading [] text.length text

/-! ### Rewriting -/

/-- Where a placeholder moves that counts from `start` among `count` arguments; absent if it names
    no argument or moves beyond the greatest index. -/
def moved? (start offset count : Nat) (digits : List Char) : Option Nat := do
  let value ← Text.decimalValue? digits
  guard (start ≤ value && value - start < count && offset + (value - start) < indexBound)
  return offset + (value - start)

/-- The text of a part whose placeholders are shifted, or the placeholder that cannot be. -/
def shiftPart (style : Style) (offset count : Nat) : Part → Except String (List Char)
  | .literal c => .ok [c]
  | .index digits =>
    match moved? style.start offset count digits with
    | some index => .ok (style.token index).toList
    | none => .error (style.leading ++ String.ofList digits)

/-- The text with its placeholders shifted so that the first index becomes `offset`, or else the
    first placeholder that cannot be shifted. Fixed markers have no index and stay as they are. -/
def renumber (style : Style) (offset count : Nat) (sql : String) : Except String String :=
  if style.isIndexed then do
    let shifted ← (parts style.leading.toList sql.toList).mapM (shiftPart style offset count)
    return String.ofList shifted.flatten
  else .ok sql

end BoundSql.Placeholder
