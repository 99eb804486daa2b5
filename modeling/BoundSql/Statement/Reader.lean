import BoundSql.Error
import BoundSql.Statement.Writer

/-! Statements from JSON. The parts of a statement contain one another, so their readers are made
    level by level: the readers for text that may open one more bracket are built from those for
    the text inside it. A filter is held in full before it is read, because the key that tells its
    form may stand anywhere in it. Main function: `Statement.ofText`. -/

namespace BoundSql
open Json

/-! ### Small choices -/

def Operator.reader (depth : Nat) : Reader Operator :=
  .choice depth (Reader.bareVariants Operator.all Operator.names)

def Logic.reader (depth : Nat) : Reader Logic :=
  .choice depth (Reader.bareVariants Logic.all fun l => [l.sql, l.name])

def JoinKind.reader (depth : Nat) : Reader JoinKind :=
  .choice depth (Reader.bareVariants JoinKind.all fun k => [k.name])

def Direction.reader (depth : Nat) : Reader Direction :=
  .choice depth (Reader.bareVariants Direction.all fun d => [d.sql, d.name])

/-! ### Parts without nested statements -/

def valuesReader (depth : Nat) : Reader (List Value) := .listOf depth (.value (depth - 1))

/-- The fields of SQL written by hand, inside a bracket after which `depth` more may be opened. -/
def RawSql.slots (depth : Nat) : List (Reader.Slot RawSql) :=
  [.must "sql" .string fun raw sql => { raw with sql },
   .of "args" (valuesReader depth) fun raw args => { raw with args }]

def RawSql.title : String := "struct RawSql"

def RawSql.reader (depth : Nat) : Reader RawSql :=
  .record depth RawSql.title (RawSql.slots (depth - 1)) { sql := "" }

/-! ### Filters -/

/-- The forms of a filter, as its tag names them. -/
inductive FilterForm where
  | condition | group | raw
deriving DecidableEq, Repr, Inhabited

namespace FilterForm

def all : List FilterForm := [condition, group, raw]

def name : FilterForm → String
  | condition => "condition"
  | group => "group"
  | raw => "raw"

/-- A tag is a name; the tag of a filter that is held already may also be the number of the form. -/
def reader : Reader FilterForm := fun mode node =>
  match mode, node with
  | _, .string s =>
    match all.find? (·.name == s) with
    | some form => .ok form
    | none => .error (.unknownVariant s (all.map name))
  | .held, .number (.integer n) =>
    if n < 0 then Reader.mismatch "variant identifier" node
    else
      match all[n.toNat]? with
      | some form => .ok form
      | none => .error (.invalidValue (.number (.integer n)) "variant index 0 <= i < 3")
  | _, node => Reader.mismatch "variant identifier" node

/-- The tag after one member. All other members are held for later, which needs them well formed. -/
def tagMember (depth : Nat) (mode : Mode) (tag : Option FilterForm) (m : Key × Node) :
    Except DecodeError (Option FilterForm) := do
  if (← Reader.key m.1) == "type" then
    if tag.isSome then throw (.duplicateField "type")
    return some (← reader mode m.2)
  else
    let _ ← Reader.lift (m.2.toValue depth)
    return tag

end FilterForm

/-! ### Readers by depth -/

/-- The readers of all parts that can contain a statement. -/
structure Readers where
  field : Reader Field
  fields : Reader (List Field)
  table : Reader Table
  join : Reader Join
  joins : Reader (List Join)
  filter : Reader Filter
  filters : Reader (List Filter)
  operand : Reader Operand
  sort : Reader SortKey
  sorts : Reader (List SortKey)
  subquery : Reader Subquery
  select : Reader Select

namespace Readers

/-- Readers of a text that is nested too deep. -/
def refusing : Readers :=
  let refuse {α : Type} : Reader α := fun _ _ => Reader.malformed .recursionLimit
  { field := refuse, fields := refuse, table := refuse, join := refuse, joins := refuse
    filter := refuse, filters := refuse, operand := refuse, sort := refuse, sorts := refuse
    subquery := refuse, select := refuse }

section Level

/- The readers of text that may open `depth` brackets, the `inner` ones being for the text inside
   one of them. -/
variable (depth : Nat) (inner : Readers)

def fieldReader : Reader Field :=
  .record depth "struct Field"
    [.of "table" (.optional .string) fun f table => { f with table },
     .of "column" (.optional .string) fun f column => { f with column },
     .of "query" (.optional inner.subquery) fun f query => { f with query },
     .of "alias" (.optional .string) fun f label => { f with label }]
    {}

def tableReader : Reader Table :=
  .record depth "struct Table"
    [.of "name" (.optional .string) fun t name => { t with name },
     .of "query" (.optional inner.subquery) fun t query => { t with query },
     .of "alias" (.optional .string) fun t label => { t with label }]
    {}

def joinReader : Reader Join :=
  .record depth "struct Join"
    [.of "type" (JoinKind.reader (depth - 1)) fun j kind => { j with kind },
     .must "table" inner.table fun j table => { j with table },
     .must "on" inner.filter fun j condition => { j with condition }]
    { table := {}, condition := default }

def sortReader : Reader SortKey :=
  .record depth "struct Sort"
    [.must "field" inner.field fun s field => { s with field },
     .of "direction" (Direction.reader (depth - 1)) fun s direction => { s with direction }]
    { field := {} }

/-- The parts of a condition, before they are put together. -/
structure Condition where
  field : Field := {}
  operator : Operator := .eq
  value : Option Operand := none

def conditionSlots : List (Reader.Slot Condition) :=
  [.must "field" inner.field fun c field => { c with field },
   .must "operator" (Operator.reader (depth - 1)) fun c operator => { c with operator },
   .of "value" (.optional inner.operand) fun c value => { c with value }]

def groupSlots : List (Reader.Slot (Logic × List Filter)) :=
  [.must "logic" (Logic.reader (depth - 1)) fun g logic => (logic, g.2),
   .must "filters" inner.filters fun g filters => (g.1, filters)]

def conditionFilter (c : Condition) : Filter := .condition c.field c.operator c.value

def groupFilter (g : Logic × List Filter) : Filter := .group g.1 g.2

/-- The filter of the given form whose fields are the members of an object. -/
def filterOfMembers (members : List (Key × Node)) (close : Close) :
    FilterForm → Except DecodeError Filter
  | .condition =>
    conditionFilter <$> Reader.ofMembers (conditionSlots depth inner) {} .held members close
  | .group =>
    groupFilter <$> Reader.ofMembers (groupSlots depth inner) (.and, []) .held members close
  | .raw =>
    Filter.raw <$> Reader.ofMembers (RawSql.slots (depth - 1)) { sql := "" } .held members close

/-- The filter of the given form whose fields are the items of a list. -/
def filterOfItems (items : List Node) (close : Close) : FilterForm → Except DecodeError Filter
  | .condition =>
    conditionFilter <$> Reader.ofItems "struct variant Filter::Condition"
      (conditionSlots depth inner) {} .held items close
  | .group =>
    groupFilter <$> Reader.ofItems "struct variant Filter::Group"
      (groupSlots depth inner) (.and, []) .held items close
  | .raw =>
    Filter.raw <$> Reader.ofItems RawSql.title (RawSql.slots (depth - 1)) { sql := "" } .held
      items close

def filterReader : Reader Filter := fun mode node =>
  match node with
  | .object members close => do
    Reader.enter depth
    let tag ← members.foldlM (FilterForm.tagMember (depth - 1) mode) none
    Reader.check (close.objectFault? members.isEmpty)
    match tag with
    | some form => filterOfMembers depth inner members close form
    | none => throw (.missingField "type")
  | .list items close => do
    Reader.enter depth
    match items with
    | [] => do
      Reader.check close.listFault?
      throw (.missingField "type")
    | first :: rest => do
      let form ← FilterForm.reader mode first
      rest.forM fun node => do let _ ← Reader.lift (node.toValue (depth - 1))
      Reader.check close.listFault?
      filterOfItems depth inner rest close form
  | node => Reader.mismatch "internally tagged enum Filter" node

/-- The fields of a column reference. -/
def columnReader : Reader Operand :=
  .record depth "struct variant FilterValue::Column"
    [.of "table" (.optional .string) fun
      | .column _ column, table => .column table column
      | other, _ => other,
     .must "column" .string fun
      | .column table _, column => .column table column
      | other, _ => other]
    (.column none "")

def operandReader : Reader Operand :=
  .choice depth
    [{ names := ["column"], form := .ofRecord (columnReader (depth - 1)) },
     { names := ["query"], form := .ofReader fun mode node => .query <$> inner.subquery mode node },
     { names := ["literal"],
       form := .ofReader fun mode node => .literal <$> Reader.value (depth - 1) mode node },
     { names := ["null"], form := .bare .null }]

def subqueryReader : Reader Subquery :=
  .choice depth
    [{ names := ["select"], form := .ofReader fun mode node => .select <$> inner.select mode node },
     { names := ["raw"],
       form := .ofReader fun mode node => .raw <$> RawSql.reader (depth - 1) mode node }]

def selectReader : Reader Select :=
  .record depth "struct SelectRequest"
    [.of "distinct" .bool fun s distinct => { s with distinct },
     .of "fields" inner.fields fun s fields => { s with fields },
     .of "table" (.optional inner.table) fun s table => { s with table },
     .of "joins" inner.joins fun s joins => { s with joins },
     .of "filter" (.optional inner.filter) fun s filter => { s with filter },
     .of "group_by" inner.fields fun s groupBy => { s with groupBy },
     .of "having" (.optional inner.filter) fun s having => { s with having },
     .of "sorts" inner.sorts fun s sorts => { s with sorts },
     .of "take" (.optional (.natural "u64")) fun s take => { s with take },
     .of "skip" (.optional (.natural "u64")) fun s skip => { s with skip },
     .of "alias" (.optional .string) fun s label => { s with label }]
    {}

/-- The readers one level further out. -/
def around : Readers where
  field := fieldReader depth inner
  fields := .listOf depth inner.field
  table := tableReader depth inner
  join := joinReader depth inner
  joins := .listOf depth inner.join
  filter := filterReader depth inner
  filters := .listOf depth inner.filter
  operand := operandReader depth inner
  sort := sortReader depth inner
  sorts := .listOf depth inner.sort
  subquery := subqueryReader depth inner
  select := selectReader depth inner

end Level

/-- The readers of text that may open `depth` brackets inside one another. -/
def ofDepth : Nat → Readers
  | 0 => around 0 refusing
  | depth + 1 => around (depth + 1) (ofDepth depth)

end Readers

/-! ### Statements -/

def Insert.reader (depth : Nat) : Reader Insert :=
  .record depth "struct InsertRequest"
    [.must "table" .string fun i table => { i with table },
     .must "columns" (.listOf (depth - 1) .string) fun i columns => { i with columns },
     .must "rows" (.listOf (depth - 1) (valuesReader (depth - 2))) fun i rows => { i with rows }]
    { table := "" }

def Assignment.reader (depth : Nat) : Reader Assignment :=
  .record depth "struct Assignment"
    [.must "column" .string fun a column => { a with column },
     .must "value" (Readers.ofDepth (depth - 1)).operand fun a value => { a with value }]
    { column := "", value := .null }

def Update.reader (depth : Nat) : Reader Update :=
  .record depth "struct UpdateRequest"
    [.must "table" .string fun u table => { u with table },
     .must "set" (.listOf (depth - 1) (Assignment.reader (depth - 2))) fun u set => { u with set },
     .of "filter" (.optional (Readers.ofDepth (depth - 1)).filter) fun u filter =>
       { u with filter }]
    { table := "" }

def Delete.reader (depth : Nat) : Reader Delete :=
  .record depth "struct DeleteRequest"
    [.must "table" .string fun d table => { d with table },
     .of "filter" (.optional (Readers.ofDepth (depth - 1)).filter) fun d filter =>
       { d with filter }]
    { table := "" }

def Statement.reader (depth : Nat) : Reader Statement :=
  let inner := depth - 1
  .choice depth
    [{ names := ["select"],
       form := .ofReader fun mode node => .select <$> (Readers.ofDepth inner).select mode node },
     { names := ["insert"],
       form := .ofReader fun mode node => .insert <$> Insert.reader inner mode node },
     { names := ["update"],
       form := .ofReader fun mode node => .update <$> Update.reader inner mode node },
     { names := ["delete"],
       form := .ofReader fun mode node => .delete <$> Delete.reader inner mode node },
     { names := ["raw"],
       form := .ofReader fun mode node => .raw <$> RawSql.reader inner mode node }]

/-! ### Requests -/

/-- The greatest size of a request in bytes, unless another is given. -/
def defaultRequestLimit : Nat := 1048576

/-- The statement that a text of at most `limit` bytes describes. -/
def Statement.ofText (limit : Nat) (text : String) : Except SqlError Statement :=
  if limit < text.utf8ByteSize then .error (.requestTooLarge limit)
  else (Reader.ofText (Statement.reader depthLimit) text).mapError .invalidRequest

end BoundSql
