import BoundSql.Compile

/-! What stands in a statement, free of any computation. `All` says of all its identifiers and of all its
    fragments of raw SQL that they have some property. `arguments` lists the values that it binds, in the
    order of the text: a walk over the statement that knows no cursor. Of a part that cannot be compiled
    it may list anything. -/

namespace BoundSql
open Json (Value)

/-! ### Identifiers and raw SQL -/

mutual

/-- Every identifier below satisfies `P`, and every fragment of raw SQL `Q`. -/
def Subquery.All (P : String → Prop) (Q : RawSql → Prop) : Subquery → Prop
  | .select s => s.All P Q
  | .raw sql => Q sql

def Subquery.AllOptional (P : String → Prop) (Q : RawSql → Prop) : Option Subquery → Prop
  | none => True
  | some query => query.All P Q

def Field.All (P : String → Prop) (Q : RawSql → Prop) : Field → Prop
  | { table, column, query, label } =>
    (∀ n ∈ table, P n) ∧ (∀ n ∈ column, P n) ∧ (∀ n ∈ label, P n) ∧ Subquery.AllOptional P Q query

def Field.AllIn (P : String → Prop) (Q : RawSql → Prop) : List Field → Prop
  | [] => True
  | field :: rest => field.All P Q ∧ Field.AllIn P Q rest

def Table.All (P : String → Prop) (Q : RawSql → Prop) : Table → Prop
  | { name, query, label } => (∀ n ∈ name, P n) ∧ (∀ n ∈ label, P n) ∧ Subquery.AllOptional P Q query

def Table.AllOptional (P : String → Prop) (Q : RawSql → Prop) : Option Table → Prop
  | none => True
  | some table => table.All P Q

def Join.All (P : String → Prop) (Q : RawSql → Prop) : Join → Prop
  | { kind := _, table, condition } => table.All P Q ∧ condition.All P Q

def Join.AllIn (P : String → Prop) (Q : RawSql → Prop) : List Join → Prop
  | [] => True
  | join :: rest => join.All P Q ∧ Join.AllIn P Q rest

def Operand.All (P : String → Prop) (Q : RawSql → Prop) : Operand → Prop
  | .column table column => (∀ n ∈ table, P n) ∧ P column
  | .query query => query.All P Q
  | .literal _ | .null => True

def Operand.AllOptional (P : String → Prop) (Q : RawSql → Prop) : Option Operand → Prop
  | none => True
  | some value => value.All P Q

def Filter.All (P : String → Prop) (Q : RawSql → Prop) : Filter → Prop
  | .condition field _ value => field.All P Q ∧ Operand.AllOptional P Q value
  | .group _ filters => Filter.AllIn P Q filters
  | .raw sql => Q sql

def Filter.AllIn (P : String → Prop) (Q : RawSql → Prop) : List Filter → Prop
  | [] => True
  | filter :: rest => filter.All P Q ∧ Filter.AllIn P Q rest

def Filter.AllOptional (P : String → Prop) (Q : RawSql → Prop) : Option Filter → Prop
  | none => True
  | some filter => filter.All P Q

def SortKey.AllIn (P : String → Prop) (Q : RawSql → Prop) : List SortKey → Prop
  | [] => True
  | { field, direction := _ } :: rest => field.All P Q ∧ SortKey.AllIn P Q rest

def Select.All (P : String → Prop) (Q : RawSql → Prop) : Select → Prop
  | { distinct := _, fields, table, joins, filter, groupBy, having, sorts, take := _, skip := _, label } =>
    Field.AllIn P Q fields ∧ Table.AllOptional P Q table ∧ Join.AllIn P Q joins ∧
      Filter.AllOptional P Q filter ∧ Field.AllIn P Q groupBy ∧ Filter.AllOptional P Q having ∧
      SortKey.AllIn P Q sorts ∧ ∀ n ∈ label, P n

end

def Insert.All (P : String → Prop) (insert : Insert) : Prop :=
  P insert.table ∧ ∀ n ∈ insert.columns, P n

def Assignment.All (P : String → Prop) (Q : RawSql → Prop) (assignment : Assignment) : Prop :=
  P assignment.column ∧ assignment.value.All P Q

def Update.All (P : String → Prop) (Q : RawSql → Prop) (update : Update) : Prop :=
  P update.table ∧ (∀ a ∈ update.set, a.All P Q) ∧ Filter.AllOptional P Q update.filter

def Delete.All (P : String → Prop) (Q : RawSql → Prop) (delete : Delete) : Prop :=
  P delete.table ∧ Filter.AllOptional P Q delete.filter

/-- Every identifier of a statement satisfies `P`, and every fragment of raw SQL `Q`. -/
def Statement.All (P : String → Prop) (Q : RawSql → Prop) : Statement → Prop
  | .select s => s.All P Q
  | .insert s => s.All P
  | .update s => s.All P Q
  | .delete s => s.All P Q
  | .raw sql => Q sql

/-! ### Nothing asked -/

mutual

theorem Subquery.all_true : (query : Subquery) → query.All (fun _ => True) fun _ => True
  | .select s => s.all_true
  | .raw _ => trivial

theorem Subquery.allOptional_true : (query : Option Subquery) →
    Subquery.AllOptional (fun _ => True) (fun _ => True) query
  | none => trivial
  | some query => query.all_true

theorem Field.all_true : (field : Field) → field.All (fun _ => True) fun _ => True
  | ⟨_, _, query, _⟩ =>
    ⟨fun _ _ => trivial, fun _ _ => trivial, fun _ _ => trivial, Subquery.allOptional_true query⟩

theorem Field.allIn_true : (fields : List Field) → Field.AllIn (fun _ => True) (fun _ => True) fields
  | [] => trivial
  | field :: rest => ⟨field.all_true, Field.allIn_true rest⟩

theorem Table.all_true : (table : Table) → table.All (fun _ => True) fun _ => True
  | ⟨_, query, _⟩ => ⟨fun _ _ => trivial, fun _ _ => trivial, Subquery.allOptional_true query⟩

theorem Table.allOptional_true : (table : Option Table) →
    Table.AllOptional (fun _ => True) (fun _ => True) table
  | none => trivial
  | some table => table.all_true

theorem Join.allIn_true : (joins : List Join) → Join.AllIn (fun _ => True) (fun _ => True) joins
  | [] => trivial
  | ⟨_, table, condition⟩ :: rest => ⟨⟨table.all_true, condition.all_true⟩, Join.allIn_true rest⟩

theorem Operand.all_true : (value : Operand) → value.All (fun _ => True) fun _ => True
  | .column _ _ => ⟨fun _ _ => trivial, trivial⟩
  | .query query => query.all_true
  | .literal _ => trivial
  | .null => trivial

theorem Operand.allOptional_true : (value : Option Operand) →
    Operand.AllOptional (fun _ => True) (fun _ => True) value
  | none => trivial
  | some value => value.all_true

theorem Filter.all_true : (filter : Filter) → filter.All (fun _ => True) fun _ => True
  | .condition field _ value => ⟨field.all_true, Operand.allOptional_true value⟩
  | .group _ filters => Filter.allIn_true filters
  | .raw _ => trivial

theorem Filter.allIn_true : (filters : List Filter) → Filter.AllIn (fun _ => True) (fun _ => True) filters
  | [] => trivial
  | filter :: rest => ⟨filter.all_true, Filter.allIn_true rest⟩

theorem Filter.allOptional_true : (filter : Option Filter) →
    Filter.AllOptional (fun _ => True) (fun _ => True) filter
  | none => trivial
  | some filter => filter.all_true

theorem SortKey.allIn_true : (sorts : List SortKey) → SortKey.AllIn (fun _ => True) (fun _ => True) sorts
  | [] => trivial
  | ⟨field, _⟩ :: rest => ⟨field.all_true, SortKey.allIn_true rest⟩

theorem Select.all_true : (select : Select) → select.All (fun _ => True) fun _ => True
  | ⟨_, fields, table, joins, filter, groupBy, having, sorts, _, _, _⟩ =>
    ⟨Field.allIn_true fields, Table.allOptional_true table, Join.allIn_true joins,
      Filter.allOptional_true filter, Field.allIn_true groupBy, Filter.allOptional_true having,
      SortKey.allIn_true sorts, fun _ _ => trivial⟩

end

/-- What asks nothing of identifiers and raw SQL holds of every statement. -/
theorem Statement.all_true (statement : Statement) : statement.All (fun _ => True) fun _ => True := by
  cases statement with
  | select s => exact s.all_true
  | insert s => exact ⟨trivial, fun _ _ => trivial⟩
  | update s =>
    exact ⟨trivial, fun a _ => ⟨trivial, a.value.all_true⟩, Filter.allOptional_true s.filter⟩
  | delete s => exact ⟨trivial, Filter.allOptional_true s.filter⟩
  | raw sql => trivial

/-! ### Labels -/

section Labels
variable {P : String → Prop} {Q : RawSql → Prop}

theorem Subquery.All.label {query : Subquery} (h : query.All P Q) :
    ∀ l ∈ query.label?, P l := by
  cases query with
  | select s =>
    obtain ⟨distinct, fields, table, joins, filter, groupBy, having, sorts, take, skip, label⟩ := s
    simp only [Subquery.All, Select.All] at h
    exact h.2.2.2.2.2.2.2
  | raw sql => simp [Subquery.label?]

/-- The label of a field, or the one that its subquery lends it. -/
theorem Field.All.label {field : Field} (h : field.All P Q) :
    ∀ l ∈ field.label.or (field.query.bind Subquery.label?), P l := by
  obtain ⟨table, column, query, label⟩ := field
  simp only [Field.All] at h
  intro l hl
  cases label with
  | some label => exact h.2.2.1 l hl
  | none =>
    obtain ⟨query, rfl, hq⟩ := Option.bind_eq_some_iff.mp hl
    exact Subquery.All.label h.2.2.2 l hq

/-- The label of a table, or the one that its subquery lends it. -/
theorem Table.All.label {name label : Option String} {query : Subquery}
    (h : (∀ n ∈ name, P n) ∧ (∀ n ∈ label, P n) ∧ query.All P Q) : ∀ l ∈ label.or query.label?, P l := by
  intro l hl
  cases label with
  | some label => exact h.2.1 l hl
  | none => exact h.2.2.label l hl

end Labels

/-! ### Arguments -/

/-- What a literal binds: the items of a list, a pattern between wildcards, or itself. -/
def Operator.arguments (operator : Operator) (value : Value) : List Value :=
  if operator.isNullCheck then []
  else if operator.isList then
    match value with
    | .array items => items
    | _ => []
  else if operator.isLike then
    match value with
    | .string pattern => [.string s!"%{pattern}%"]
    | _ => []
  else [value]

/-- The numbers of a page in the order of its text: SQL Server writes the rows to skip first. -/
def Dialect.pageArguments (dialect : Dialect) (take skip : Option Nat) : List Value :=
  match dialect with
  | mssql => (skip.toList ++ take.toList).map .ofNat
  | _ => (take.toList ++ skip.toList).map .ofNat

mutual

/-- The values that an embedded statement binds, in the order of its text. -/
def Subquery.arguments (dialect : Dialect) : Subquery → List Value
  | .select s => s.arguments dialect
  | .raw sql => sql.args

def Field.arguments (dialect : Dialect) : Field → List Value
  | { query := some query, .. } => query.arguments dialect
  | { query := none, .. } => []

def fieldsArguments (dialect : Dialect) : List Field → List Value
  | [] => []
  | field :: rest => field.arguments dialect ++ fieldsArguments dialect rest

def Table.arguments (dialect : Dialect) : Table → List Value
  | { query := some query, .. } => query.arguments dialect
  | { query := none, .. } => []

def tableArguments (dialect : Dialect) : Option Table → List Value
  | none => []
  | some table => table.arguments dialect

def joinsArguments (dialect : Dialect) : List Join → List Value
  | [] => []
  | { kind := _, table, condition } :: rest =>
    table.arguments dialect ++ condition.arguments dialect ++ joinsArguments dialect rest

def Operand.arguments (dialect : Dialect) (operator : Operator) : Option Operand → List Value
  | some (.column _ _) => []
  | some (.query query) => query.arguments dialect
  | some (.literal value) => operator.arguments value
  | some .null | none => operator.arguments .null

def Filter.arguments (dialect : Dialect) : Filter → List Value
  | .condition field operator value =>
    field.arguments dialect ++ Operand.arguments dialect operator value
  | .group _ filters => filtersArguments dialect filters
  | .raw sql => sql.args

def filtersArguments (dialect : Dialect) : List Filter → List Value
  | [] => []
  | filter :: rest => filter.arguments dialect ++ filtersArguments dialect rest

def optionalArguments (dialect : Dialect) : Option Filter → List Value
  | none => []
  | some filter => filter.arguments dialect

def sortsArguments (dialect : Dialect) : List SortKey → List Value
  | [] => []
  | { field, direction := _ } :: rest => field.arguments dialect ++ sortsArguments dialect rest

def Select.arguments (dialect : Dialect) : Select → List Value
  | { distinct := _, fields, table, joins, filter, groupBy, having, sorts, take, skip, label := _ } =>
    fieldsArguments dialect fields ++ (tableArguments dialect table ++
      (joinsArguments dialect joins ++ (optionalArguments dialect filter ++
      (fieldsArguments dialect groupBy ++ (optionalArguments dialect having ++
      (sortsArguments dialect sorts ++ dialect.pageArguments take skip))))))

end

/-- The values that a statement binds, in the order of its text. -/
def Statement.arguments (dialect : Dialect) : Statement → List Value
  | .select s => s.arguments dialect
  | .insert s => s.rows.flatten
  | .update s =>
    (s.set.flatMap fun a => Operand.arguments dialect .eq (some a.value)) ++
      optionalArguments dialect s.filter
  | .delete s => optionalArguments dialect s.filter
  | .raw sql => sql.args

end BoundSql
