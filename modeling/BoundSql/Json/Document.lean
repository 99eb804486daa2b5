import BoundSql.Json.Token

/-! Documents: the tree of a JSON text, well formed or not. A text that is cut short or goes wrong
    still has a tree, in which the place of the fault is marked; what a reader says about it
    depends on what it was doing when it came there. Main function: `Document.ofText`. -/

namespace BoundSql.Json

/-- How a list or an object comes to an end. -/
inductive Close where
  /-- With its bracket. -/
  | closed
  /-- The text ends where a comma or the bracket may stand. -/
  | ended
  /-- Something else stands where a comma or the bracket may stand. -/
  | stray
  /-- The bracket follows a comma. -/
  | commaClosed
  /-- The text ends after a comma. -/
  | commaEnded
  /-- After a comma stands something that is no key. -/
  | commaStray
  /-- The last item is broken, so that nothing is read behind it. -/
  | broken
deriving DecidableEq, Repr, Inhabited

/-- A key, or the reason why it cannot be read. -/
abbrev Key := Except Defect String

inductive Node where
  | null
  | bool (b : Bool)
  | number (n : Number)
  | string (s : String)
  | badString (d : Defect)
  | badLiteral (d : Defect)
  | badNull (d : Defect)
  /-- No value starts where one must stand. -/
  | missing (fault : Fault)
  | list (items : List Node) (close : Close)
  | object (members : List (Key × Node)) (close : Close)
deriving Inhabited

/-- A document: its tree, and whether more text follows it. -/
structure Document where
  root : Node
  trailing : Bool := false
deriving Inhabited

namespace Document

/-! ### Building a tree from tokens -/

/-- A bracket that is still open: what stands before the value that comes next, last first. -/
inductive Frame where
  | list (before : List Node)
  | object (before : List (Key × Node)) (key : Key)
deriving Inhabited

/-- What may come next. -/
inductive Progress where
  | value (frames : List Frame)
  /-- A bracket has just been opened: a value or the closing bracket. -/
  | firstItem (frames : List Frame)
  /-- A brace has just been opened: a key or the closing brace. -/
  | firstKey (frames : List Frame)
  | key (before : List (Key × Node)) (frames : List Frame)
  | colon (before : List (Key × Node)) (key : Key) (frames : List Frame)
  /-- After a comma in a list: a value; a bracket here is a fault of its own. -/
  | nextItem (before : List Node) (frames : List Frame)
  | after (node : Node) (frames : List Frame)
  | done (document : Document)
deriving Inhabited

/-- The document whose innermost node can go no further. -/
def stuck (node : Node) : List Frame → Document
  | [] => ⟨node, false⟩
  | .list before :: frames => stuck (.list (node :: before).reverse .broken) frames
  | .object before key :: frames => stuck (.object ((key, node) :: before).reverse .broken) frames

/-- A node has been read; a broken one ends the document. -/
def placed (node : Node) (defect : Defect) (frames : List Frame) : Progress :=
  if defect.skip.isSome then .done (stuck node frames) else .after node frames

/-- A value starts with `token`. -/
def start (frames : List Frame) (token : Token) : Progress :=
  match token with
  | .null => .after .null frames
  | .bool b => .after (.bool b) frames
  | .number n => .after (.number n) frames
  | .string s => .after (.string s) frames
  | .badString d => placed (.badString d) d frames
  | .badLiteral d => placed (.badLiteral d) d frames
  | .badNull d => placed (.badNull d) d frames
  | .openList => .firstItem frames
  | .openObject => .firstKey frames
  | .closeList | .closeObject | .comma | .colon | .stray =>
    .done (stuck (.missing .expectedValue) frames)

/-- A key is `token`, or else the object ends there with `close`. -/
def startKey (before : List (Key × Node)) (frames : List Frame) (close : Close) (token : Token) :
    Progress :=
  match token with
  | .string s => .colon before (.ok s) frames
  | .badString d =>
    if d.skip.isSome then
      .done (stuck (.object ((.error d, .missing .expectedColon) :: before).reverse .broken) frames)
    else .colon before (.error d) frames
  | _ => .done (stuck (.object before.reverse close) frames)

def step (progress : Progress) (token : Token) : Progress :=
  match progress with
  | .value frames => start frames token
  | .firstItem frames =>
    if token = .closeList then .after (.list [] .closed) frames
    else start (.list [] :: frames) token
  | .firstKey frames =>
    if token = .closeObject then .after (.object [] .closed) frames
    else startKey [] frames .stray token
  | .key before frames =>
    startKey before frames (if token = .closeObject then .commaClosed else .commaStray) token
  | .colon before key frames =>
    if token = .colon then .value (.object before key :: frames)
    else .done (stuck (.missing .expectedColon) (.object before key :: frames))
  | .nextItem before frames =>
    if token = .closeList then .done (stuck (.list before.reverse .commaClosed) frames)
    else start (.list before :: frames) token
  | .after node [] => .done ⟨node, true⟩
  | .after node (.list before :: frames) =>
    match token with
    | .comma => .nextItem (node :: before) frames
    | .closeList => .after (.list (node :: before).reverse .closed) frames
    | _ => .done (stuck (.list (node :: before).reverse .stray) frames)
  | .after node (.object before key :: frames) =>
    match token with
    | .comma => .key ((key, node) :: before) frames
    | .closeObject => .after (.object ((key, node) :: before).reverse .closed) frames
    | _ => .done (stuck (.object ((key, node) :: before).reverse .stray) frames)
  | .done document => .done document

/-- The document if the text ends here. -/
def finish : Progress → Document
  | .value frames => stuck (.missing .endInValue) frames
  | .firstItem frames => stuck (.list [] .ended) frames
  | .firstKey frames => stuck (.object [] .ended) frames
  | .key before frames => stuck (.object before.reverse .commaEnded) frames
  | .colon before key frames => stuck (.missing .endInObject) (.object before key :: frames)
  | .nextItem before frames => stuck (.list before.reverse .commaEnded) frames
  | .after node [] => ⟨node, false⟩
  | .after node (.list before :: frames) => stuck (.list (node :: before).reverse .ended) frames
  | .after node (.object before key :: frames) =>
    stuck (.object ((key, node) :: before).reverse .ended) frames
  | .done document => document

def ofTokens (tokens : List Token) : Document := finish (tokens.foldl step (.value []))

def ofText (text : String) : Document := ofTokens (tokens text)

end Document

/-! ### What a reader says about an end -/

namespace Close

/-- A reader wants another item of a list that holds no more. -/
def listFault? : Close → Option Fault
  | closed | broken => none
  | ended => some .endInList
  | stray => some .expectedListEnd
  | commaClosed => some .trailingComma
  | commaEnded => some .endInValue
  | commaStray => some .expectedValue

/-- A reader who has all it wants finds `remaining` items before the end of the list. -/
def listLeftFault? (remaining : Nat) (close : Close) : Option Fault :=
  if 0 < remaining then some .trailingCharacters
  else
    match close with
    | closed | broken => none
    | ended => some .endInList
    | commaClosed => some .trailingComma
    | stray | commaEnded | commaStray => some .trailingCharacters

/-- A reader wants another member of an object that holds no more; `first` when it held none. -/
def objectFault? (first : Bool) : Close → Option Fault
  | closed | broken => none
  | ended => some .endInObject
  | stray => some (if first then .keyNotString else .expectedObjectEnd)
  | commaClosed => some .trailingComma
  | commaEnded => some .endInValue
  | commaStray => some .keyNotString

/-- Passing over a list, a reader does not look ahead behind a comma. -/
def listSkipFault? : Close → Option Fault
  | commaClosed => some .expectedValue
  | close => close.listFault?

def objectSkipFault? (first : Bool) : Close → Option Fault
  | commaClosed => some .keyNotString
  | commaEnded => some .endInObject
  | close => close.objectFault? first

end Close

/-- Fails with the fault, if there is one. -/
def orFault : Option Fault → Except Fault Unit
  | none => .ok ()
  | some fault => .error fault

/-! ### Passing over a node -/

namespace Node

def skipDefect (d : Defect) : Except Fault Unit := orFault d.skip

mutual
/-- Whether the node is well formed for a reader who does not want its value: numbers may be
    out of range, surrogates may stand alone, and depth does not matter. -/
def skip : Node → Except Fault Unit
  | .badString d | .badLiteral d | .badNull d => skipDefect d
  | .missing fault => .error fault
  | .list items close => do
    skipItems items
    orFault close.listSkipFault?
  | .object members close => do
    skipMembers members
    orFault (close.objectSkipFault? members.isEmpty)
  | _ => .ok ()

def skipItems : List Node → Except Fault Unit
  | [] => .ok ()
  | node :: rest => do
    skip node
    skipItems rest

def skipMembers : List (Key × Node) → Except Fault Unit
  | [] => .ok ()
  | (key, node) :: rest => do
    match key with
    | .ok _ => pure ()
    | .error d => skipDefect d
    skip node
    skipMembers rest
end

/-! ### Reading a node as a value -/

mutual
/-- The value of a node. It may open `depth` more brackets inside one another. -/
def toValue (depth : Nat) : Node → Except Fault Value
  | .null => .ok .null
  | .bool b => .ok (.bool b)
  | .number n => .ok (.number n)
  | .string s => .ok (.string s)
  | .badString d | .badLiteral d | .badNull d => .error d.read
  | .missing fault => .error fault
  | .list items close =>
    if depth = 0 then .error .recursionLimit
    else do
      let values ← toItems (depth - 1) [] items
      orFault close.listFault?
      return .array values
  | .object members close =>
    if depth = 0 then .error .recursionLimit
    else do
      let pairs ← toMembers (depth - 1) [] members
      orFault (close.objectFault? members.isEmpty)
      return .object pairs

/-- The values of list items, those read so far last first. -/
def toItems (depth : Nat) (before : List Value) : List Node → Except Fault (List Value)
  | [] => .ok before.reverse
  | node :: rest => do
    let value ← toValue depth node
    toItems depth (value :: before) rest

def toMembers (depth : Nat) (before : List (String × Value)) :
    List (Key × Node) → Except Fault (List (String × Value))
  | [] => .ok before
  | (key, node) :: rest => do
    let name ← match key with
      | .ok name => pure name
      | .error d => throw d.read
    let value ← toValue depth node
    toMembers depth (Value.put before name value) rest
end

end Node

/-- The value of a text that may nest `depth` brackets. -/
def Value.ofText (depth : Nat) (text : String) : Except Fault Value := do
  let document := Document.ofText text
  let value ← document.root.toValue depth
  if document.trailing then throw .trailingCharacters
  return value

end BoundSql.Json
