import BoundSql.Json.Document
import BoundSql.Text.Quoted

/-! Readers: typed values from the nodes of a document. A record is read from an object, or from a
    list of its fields in order; a choice from a string or from an object with one member. A
    reader either reads the text as it comes, so that a fault in it counts only when it gets
    there, or it reads a part that is already held in full; the two differ in a few messages. -/

namespace BoundSql.Json

/-! ### Errors -/

/-- What was found in the place of something else. -/
inductive Found where
  | null
  | bool (b : Bool)
  | number (n : Number)
  | string (s : String)
  | sequence
  | map
  | unitVariant
deriving Repr, Inhabited

def Found.text : Found → String
  | null => "null"
  | bool b => s!"boolean `{b}`"
  | number (.integer n) => s!"integer `{n}`"
  | number (.double x) => s!"floating point `{x.toText}`"
  | string s => "string " ++ Text.quoted s
  | sequence => "sequence"
  | map => "map"
  | unitVariant => "unit variant"

inductive DecodeError where
  | malformed (fault : Fault)
  | invalidType (found : Found) (expected : String)
  | invalidValue (found : Found) (expected : String)
  | invalidLength (length : Nat) (expected : String)
  | missingField (name : String)
  | duplicateField (name : String)
  | unknownVariant (name : String) (names : List String)
deriving Repr, Inhabited

def DecodeError.message : DecodeError → String
  | malformed fault => fault.message
  | invalidType found expected => s!"invalid type: {found.text}, expected {expected}"
  | invalidValue found expected => s!"invalid value: {found.text}, expected {expected}"
  | invalidLength length expected => s!"invalid length {length}, expected {expected}"
  | missingField name => s!"missing field `{name}`"
  | duplicateField name => s!"duplicate field `{name}`"
  | unknownVariant name names =>
    let quoted := names.map fun n => s!"`{n}`"
    let expected := match quoted with
      | [a, b] => s!"{a} or {b}"
      | _ => "one of " ++ ", ".intercalate quoted
    s!"unknown variant `{name}`, expected {expected}"

/-- A number of list elements in words. -/
def elementCount (n : Nat) : String := if n = 1 then "1 element" else s!"{n} elements"

/-! ### Single values -/

/-- Whether the text is read as it comes or is already held in full. -/
inductive Mode where
  | stream
  | held
deriving DecidableEq, Repr, Inhabited

abbrev Reader (α : Type) := Mode → Node → Except DecodeError α

namespace Reader

def malformed {α : Type} (fault : Fault) : Except DecodeError α := .error (.malformed fault)

def lift {α : Type} (result : Except Fault α) : Except DecodeError α := result.mapError .malformed

/-- Fails with the fault, if there is one. -/
def check (fault : Option Fault) : Except DecodeError Unit := lift (orFault fault)

def key (k : Key) : Except DecodeError String := k.mapError fun d => .malformed d.read

/-- The error for a node of the wrong kind. A literal is read before it is refused, a list or an
    object is not looked into. -/
def mismatch {α : Type} (expected : String) : Node → Except DecodeError α
  | .null => .error (.invalidType .null expected)
  | .bool b => .error (.invalidType (.bool b) expected)
  | .number n => .error (.invalidType (.number n) expected)
  | .string s => .error (.invalidType (.string s) expected)
  | .list _ _ => .error (.invalidType .sequence expected)
  | .object _ _ => .error (.invalidType .map expected)
  | .badString d | .badLiteral d | .badNull d => malformed d.read
  | .missing fault => malformed fault

/-- A bracket may be opened only while `depth` is not used up. -/
def enter (depth : Nat) : Except DecodeError Unit :=
  if depth = 0 then malformed .recursionLimit else .ok ()

def string : Reader String := fun _ node =>
  match node with
  | .string s => .ok s
  | node => mismatch "a string" node

def bool : Reader Bool := fun _ node =>
  match node with
  | .bool b => .ok b
  | node => mismatch "a boolean" node

/-- A natural number, which messages call `expected`. Integers have at most 64 bits. -/
def natural (expected : String) : Reader Nat := fun _ node =>
  match node with
  | .number (.integer n) =>
    if n < 0 then .error (.invalidValue (.number (.integer n)) expected) else .ok n.toNat
  | node => mismatch expected node

/-- An empty object counts as nothing only when it is already held. -/
def unit : Reader Unit := fun mode node =>
  match mode, node with
  | _, .null => .ok ()
  | .held, .object [] _ => .ok ()
  | _, node => mismatch "unit" node

def value (depth : Nat) : Reader Value := fun _ node => lift (node.toValue depth)

def optional {α : Type} (reader : Reader α) : Reader (Option α) := fun mode node =>
  match node with
  | .null => .ok none
  | .badNull d => malformed d.read
  | node => some <$> reader mode node

def listOf {α : Type} (depth : Nat) (item : Reader α) : Reader (List α) := fun mode node =>
  match node with
  | .list items close => do
    enter depth
    let values ← items.mapM (item mode)
    check close.listFault?
    return values
  | node => mismatch "a sequence" node

/-! ### Records -/

/-- A field of a record: how its node changes the record. A field that is not required keeps its
    default when it is absent. -/
structure Slot (α : Type) where
  name : String
  required : Bool := false
  read : α → Mode → Node → Except DecodeError α

def Slot.of {α β : Type} (name : String) (reader : Reader β) (set : α → β → α) : Slot α :=
  { name, read := fun record mode node => set record <$> reader mode node }

def Slot.must {α β : Type} (name : String) (reader : Reader β) (set : α → β → α) : Slot α :=
  { Slot.of name reader set with required := true }

/-- The record after one member, and the names of the fields given so far. -/
def member {α : Type} (slots : List (Slot α)) (mode : Mode) (state : α × List String)
    (m : Key × Node) : Except DecodeError (α × List String) := do
  let (record, seen) := state
  let name ← key m.1
  match slots.find? (·.name == name) with
  | none =>
    lift m.2.skip
    return state
  | some slot =>
    if seen.contains name then throw (.duplicateField name)
    return (← slot.read record mode m.2, name :: seen)

/-- A record from the members of an object. -/
def ofMembers {α : Type} (slots : List (Slot α)) (initial : α) (mode : Mode)
    (members : List (Key × Node)) (close : Close) : Except DecodeError α := do
  let (record, seen) ← members.foldlM (member slots mode) (initial, [])
  check (close.objectFault? members.isEmpty)
  match slots.find? fun slot => slot.required && !seen.contains slot.name with
  | some slot => throw (.missingField slot.name)
  | none => return record

/-- The record after the fields that the list holds, and the items that are left. -/
def fields {α : Type} (title : String) (count : Nat) (mode : Mode) (close : Close) (index : Nat)
    (record : α) : List (Slot α) → List Node → Except DecodeError (α × List Node)
  | [], items => .ok (record, items)
  | slot :: slots, [] => do
    check close.listFault?
    if slot.required then throw (.invalidLength index s!"{title} with {elementCount count}")
    fields title count mode close (index + 1) record slots []
  | slot :: slots, node :: items => do
    fields title count mode close (index + 1) (← slot.read record mode node) slots items

/-- A record from a list of its fields. -/
def ofItems {α : Type} (title : String) (slots : List (Slot α)) (initial : α) (mode : Mode)
    (items : List Node) (close : Close) : Except DecodeError α := do
  let (record, left) ← fields title slots.length mode close 0 initial slots items
  match mode with
  | .stream => check (close.listLeftFault? left.length)
  | .held =>
    if !left.isEmpty then
      throw (.invalidLength items.length s!"{elementCount slots.length} in sequence")
  return record

/-- A record, which messages call `title`. -/
def record {α : Type} (depth : Nat) (title : String) (slots : List (Slot α)) (initial : α) :
    Reader α := fun mode node =>
    match node with
    | .object members close => do
      enter depth
      ofMembers slots initial mode members close
    | .list items close => do
      enter depth
      ofItems title slots initial mode items close
    | node => mismatch title node

/-! ### Choices -/

/-- What a variant holds: nothing, or something that a reader reads. Messages call it `kind`. -/
inductive Form (α : Type) where
  | bare (a : α)
  | holding (kind : String) (reader : Reader α)

structure Variant (α : Type) where
  names : List String
  form : Form α

/-- The variants of an enumeration, whose values hold nothing. -/
def bareVariants {α : Type} (all : List α) (names : α → List String) : List (Variant α) :=
  all.map fun a => { names := names a, form := .bare a }

/-- A variant whose fields are given like those of a record. -/
def Form.ofRecord {α : Type} (reader : Reader α) : Form α :=
  .holding "struct variant" fun mode node =>
    match mode, node with
    | .held, .object _ _ | .held, .list _ _ | .stream, _ => reader mode node
    | .held, node => mismatch "struct variant" node

def Form.ofReader {α : Type} (reader : Reader α) : Form α := .holding "newtype variant" reader

/-- A variant that is named without anything that it could hold. -/
def Form.alone {α : Type} : Form α → Except DecodeError α
  | bare a => .ok a
  | holding kind _ => .error (.invalidType .unitVariant kind)

def Form.read {α : Type} (mode : Mode) (node : Node) : Form α → Except DecodeError α
  | bare a => (fun _ => a) <$> unit mode node
  | holding _ reader => reader mode node

def form {α : Type} (variants : List (Variant α)) (name : String) : Except DecodeError (Form α) :=
  match variants.find? (·.names.contains name) with
  | some v => .ok v.form
  | none => .error (.unknownVariant name (variants.flatMap (·.names)))

/-- The one member of an object that names a variant. -/
def ofMember {α : Type} (variants : List (Variant α)) (mode : Mode) (m : Key × Node) :
    Except DecodeError α := do
  (← form variants (← key m.1)).read mode m.2

/-- The fault of an object that names a variant, once its first member has been read. -/
def singleFault? (others : List (Key × Node)) (close : Close) : Option Fault :=
  if !others.isEmpty then some .expectedValue
  else
    match close with
    | .closed | .broken => none
    | .ended => some .endInObject
    | .stray | .commaClosed | .commaEnded | .commaStray => some .expectedValue

def choice {α : Type} (depth : Nat) (variants : List (Variant α)) : Reader α := fun mode node =>
  match mode, node with
  | _, .string name => do (← form variants name).alone
  | .stream, .object members close => do
    enter depth
    match members with
    | [] =>
      match close with
      | .closed => malformed .expectedValue
      | .ended => malformed .endInObject
      | _ => malformed .keyNotString
    | m :: others => do
      let a ← ofMember variants mode m
      check (singleFault? others close)
      return a
  | .held, .object members _ =>
    match members with
    | [m] => ofMember variants mode m
    | _ => .error (.invalidValue .map "map with a single key")
  | .stream, .badString d => malformed d.read
  | .stream, .missing fault => malformed fault
  | .stream, _ => malformed .expectedValue
  | .held, node => mismatch "string or map" node

end Reader

/-- Reads a text that is one document and nothing else. -/
def Reader.ofText {α : Type} (reader : Reader α) (text : String) : Except DecodeError α := do
  let document := Document.ofText text
  let a ← reader .stream document.root
  if document.trailing then malformed .trailingCharacters
  return a

/-- How many brackets a text may nest. -/
def depthLimit : Nat := 127

end BoundSql.Json
