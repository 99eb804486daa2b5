/-! Placeholders: how SQL text marks the place of an argument. A fixed marker binds by its place
    in the text, an indexed one by the number behind its prefix. A cursor hands out the
    placeholders of one statement in order. -/

namespace BoundSql

/-- How placeholders are written: always the same marker, or a prefix and an index that counts from
    one or from zero. -/
inductive Style where
  | fixed (marker : String)
  | oneBased (leading : String)
  | zeroBased (leading : String)
deriving DecidableEq, Repr, Inhabited

namespace Style

/-- The first index. -/
def start : Style → Nat
  | oneBased _ => 1
  | fixed _ | zeroBased _ => 0

/-- The marker or the prefix. -/
def leading : Style → String
  | fixed s | oneBased s | zeroBased s => s

def isIndexed : Style → Bool
  | fixed _ => false
  | oneBased _ | zeroBased _ => true

/-- The placeholder with the given index. -/
def token (style : Style) (index : Nat) : String :=
  match style with
  | fixed marker => marker
  | oneBased leading | zeroBased leading => leading ++ toString index

end Style

/-- The index of the next placeholder of a statement. -/
structure Cursor where
  style : Style
  position : Nat
deriving DecidableEq, Repr, Inhabited

namespace Cursor

def fresh (style : Style) : Cursor := ⟨style, style.start⟩

/-- The next placeholder and the cursor behind it. A fixed marker moves the cursor too. -/
def next (cursor : Cursor) : String × Cursor :=
  (cursor.style.token cursor.position, { cursor with position := cursor.position + 1 })

/-- Passes over `count` placeholders. -/
def advance (cursor : Cursor) (count : Nat) : Cursor :=
  { cursor with position := cursor.position + count }

/-- How many placeholders have been handed out since the first index. -/
def allocated (cursor : Cursor) : Nat := cursor.position - cursor.style.start

end Cursor
end BoundSql
