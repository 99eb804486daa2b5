import BoundSql.Proofs.Equations

/-! Spellings of null. On the right of an operator an absent value, a null and a literal null are one and the same,
    for every operator and wherever the condition stands; in an assignment, a null and a literal null are. To
    compare statements, `spelled` writes each of these nulls as a literal null and leaves all else as it is:
    statements that are then equal have the same query or the same error (`Statement.toQuery_of_spelled_eq`). -/

namespace BoundSql

/-! ### Nulls as literals -/

mutual

def Subquery.spelled : Subquery → Subquery
  | .select s => .select s.spelled
  | .raw sql => .raw sql

def Subquery.spelledOptional : Option Subquery → Option Subquery
  | none => none
  | some query => some query.spelled

def Field.spelled : Field → Field
  | { table, column, query, label } => { table, column, query := Subquery.spelledOptional query, label }

def Field.spelledAll : List Field → List Field
  | [] => []
  | field :: rest => field.spelled :: Field.spelledAll rest

def Table.spelled : Table → Table
  | { name, query, label } => { name, query := Subquery.spelledOptional query, label }

def Table.spelledOptional : Option Table → Option Table
  | none => none
  | some table => some table.spelled

def Join.spelledAll : List Join → List Join
  | [] => []
  | { kind, table, condition } :: rest =>
    { kind, table := table.spelled, condition := condition.spelled } :: Join.spelledAll rest

def Operand.spelled : Operand → Operand
  | .column table column => .column table column
  | .query query => .query query.spelled
  | .literal value => .literal value
  | .null => .literal .null

/-- The right-hand side of a condition; an absent one is null as well. -/
def Operand.spelledOptional : Option Operand → Option Operand
  | none => some (.literal .null)
  | some value => some value.spelled

def Filter.spelled : Filter → Filter
  | .condition field operator value => .condition field.spelled operator (Operand.spelledOptional value)
  | .group logic filters => .group logic (Filter.spelledAll filters)
  | .raw sql => .raw sql

def Filter.spelledAll : List Filter → List Filter
  | [] => []
  | filter :: rest => filter.spelled :: Filter.spelledAll rest

def Filter.spelledOptional : Option Filter → Option Filter
  | none => none
  | some filter => some filter.spelled

def SortKey.spelledAll : List SortKey → List SortKey
  | [] => []
  | { field, direction } :: rest => { field := field.spelled, direction } :: SortKey.spelledAll rest

def Select.spelled : Select → Select
  | { distinct, fields, table, joins, filter, groupBy, having, sorts, take, skip, label } =>
    { distinct
      fields := Field.spelledAll fields
      table := Table.spelledOptional table
      joins := Join.spelledAll joins
      filter := Filter.spelledOptional filter
      groupBy := Field.spelledAll groupBy
      having := Filter.spelledOptional having
      sorts := SortKey.spelledAll sorts
      take, skip, label }

end

def Assignment.spelled (assignment : Assignment) : Assignment :=
  { assignment with value := assignment.value.spelled }

/-- The statement with each of its nulls written as a literal null. -/
def Statement.spelled : Statement → Statement
  | .select s => .select s.spelled
  | .insert s => .insert s
  | .update s => .update { s with set := s.set.map Assignment.spelled, filter := Filter.spelledOptional s.filter }
  | .delete s => .delete { s with filter := Filter.spelledOptional s.filter }
  | .raw sql => .raw sql

/-! ### Compilation

A null meets its operator in one place only, as the literal null (`Operand.compile_null`, `Operand.compile_none`).
All the rest carries this equality through the parts of a statement. -/

theorem Subquery.label?_spelled (query : Subquery) : query.spelled.label? = query.label? := by
  rcases query with ⟨⟨_, _, _, _, _, _, _, _, _, _, _⟩⟩ | raw <;> rfl

theorem Field.isEmpty_spelledAll (fields : List Field) : (Field.spelledAll fields).isEmpty = fields.isEmpty := by
  cases fields <;> rfl

variable (dialect : Dialect)

mutual

theorem Subquery.compile_spelled : ∀ query : Subquery, query.spelled.compile dialect = query.compile dialect
  | .select s => by
    rw [Subquery.spelled, Subquery.compile, Subquery.compile]
    exact s.compile_spelled
  | .raw sql => by rw [Subquery.spelled]

theorem Field.expression_spelled (refuse : FieldDefect → SqlError) : ∀ field : Field,
    field.spelled.expression dialect refuse = field.expression dialect refuse
  | ⟨table, column, some query, label⟩ => by
    rw [Field.spelled, Subquery.spelledOptional, Field.expression_of_query, Field.expression_of_query,
      query.compile_spelled]
  | ⟨table, column, none, label⟩ => by rw [Field.spelled, Subquery.spelledOptional]

theorem Field.compile_spelledAll : ∀ fields : List Field,
    compileFields dialect (Field.spelledAll fields) = compileFields dialect fields
  | [] => by rw [Field.spelledAll]
  | field :: rest => by
    have hlabel : field.spelled.label.or (field.spelled.query.bind Subquery.label?) =
        field.label.or (field.query.bind Subquery.label?) := by
      obtain ⟨table, column, _ | query, label⟩ := field
      · rfl
      · simp [Field.spelled, Subquery.spelledOptional, Subquery.label?_spelled]
    rw [Field.spelledAll, compileFields, compileFields, Field.compile_eq, Field.compile_eq, hlabel,
      field.expression_spelled, Field.compile_spelledAll rest]

theorem Field.group_spelledAll : ∀ fields : List Field,
    groupFields dialect (Field.spelledAll fields) = groupFields dialect fields
  | [] => by rw [Field.spelledAll]
  | field :: rest => by
    rw [Field.spelledAll, groupFields, groupFields, field.expression_spelled, Field.group_spelledAll rest]

theorem Table.compile_spelled : ∀ table : Table, table.spelled.compile dialect = table.compile dialect
  | ⟨name, some query, label⟩ => by
    rw [Table.spelled, Subquery.spelledOptional, Table.compile_of_query, Table.compile_of_query,
      Subquery.label?_spelled, query.compile_spelled]
  | ⟨name, none, label⟩ => by rw [Table.spelled, Subquery.spelledOptional]

theorem Join.compile_spelledAll : ∀ joins : List Join,
    compileJoins dialect (Join.spelledAll joins) = compileJoins dialect joins
  | [] => by rw [Join.spelledAll]
  | ⟨kind, table, condition⟩ :: rest => by
    rw [Join.spelledAll, compileJoins, compileJoins, Join.compile, Join.compile, table.compile_spelled,
      condition.compile_spelled, Join.compile_spelledAll rest]

/-- A right-hand side is the same to every operator in any spelling. -/
theorem Operand.compile_spelled (operator : Operator) : ∀ value : Operand,
    Operand.compile dialect operator (some value.spelled) = Operand.compile dialect operator (some value)
  | .column table column => by rw [Operand.spelled]
  | .query query => by
    rw [Operand.spelled, Operand.compile_query, Operand.compile_query, query.compile_spelled]
  | .literal value => by rw [Operand.spelled]
  | .null => by rw [Operand.spelled, Operand.compile_literal, Operand.compile_null]

theorem Operand.compile_spelledOptional (operator : Operator) : ∀ value : Option Operand,
    Operand.compile dialect operator (Operand.spelledOptional value) = Operand.compile dialect operator value
  | none => by rw [Operand.spelledOptional, Operand.compile_literal, Operand.compile_none]
  | some value => by rw [Operand.spelledOptional, value.compile_spelled]

theorem Filter.compile_spelled (root : Bool) : ∀ filter : Filter,
    filter.spelled.compile dialect root = filter.compile dialect root
  | .condition field operator value => by
    rw [Filter.spelled, Filter.compile, Filter.compile, field.expression_spelled,
      Operand.compile_spelledOptional operator value]
  | .group logic filters => by
    rw [Filter.spelled, Filter.compile, Filter.compile, Filter.compile_spelledAll filters]
  | .raw sql => by rw [Filter.spelled]

theorem Filter.compile_spelledAll : ∀ filters : List Filter,
    compileFilters dialect (Filter.spelledAll filters) = compileFilters dialect filters
  | [] => by rw [Filter.spelledAll]
  | filter :: rest => by
    rw [Filter.spelledAll, compileFilters, compileFilters, filter.compile_spelled, Filter.compile_spelledAll rest]

theorem Filter.compile_spelledOptional : ∀ filter : Option Filter,
    compileOptional dialect (Filter.spelledOptional filter) = compileOptional dialect filter
  | none => by rw [Filter.spelledOptional]
  | some filter => by rw [Filter.spelledOptional, compileOptional, compileOptional, filter.compile_spelled]

theorem SortKey.compile_spelledAll : ∀ sorts : List SortKey,
    compileSorts dialect (SortKey.spelledAll sorts) = compileSorts dialect sorts
  | [] => by rw [SortKey.spelledAll]
  | ⟨field, direction⟩ :: rest => by
    rw [SortKey.spelledAll, compileSorts, compileSorts, field.expression_spelled, SortKey.compile_spelledAll rest]

theorem Select.compile_spelled : ∀ select : Select, select.spelled.compile dialect = select.compile dialect
  | ⟨distinct, fields, none, joins, filter, groupBy, having, sorts, take, skip, label⟩ => by
    rw [Select.spelled, Table.spelledOptional, Select.compile.eq_def, Select.compile.eq_def]
    simp only [Field.isEmpty_spelledAll]
  | ⟨distinct, fields, some table, joins, filter, groupBy, having, sorts, take, skip, label⟩ => by
    rw [Select.spelled, Table.spelledOptional, Select.compile.eq_def, Select.compile.eq_def]
    simp only [Field.isEmpty_spelledAll, Field.compile_spelledAll fields, table.compile_spelled,
      Join.compile_spelledAll joins, Filter.compile_spelledOptional filter, Field.group_spelledAll groupBy,
      Filter.compile_spelledOptional having, SortKey.compile_spelledAll sorts]

end

/-! ### Statements -/

theorem Assignment.compile_spelled (assignment : Assignment) :
    assignment.spelled.compile dialect = assignment.compile dialect := by
  rw [Assignment.compile, Assignment.compile, Assignment.spelled, Operand.compile_spelled]

theorem Statement.compile_spelled (statement : Statement) :
    statement.spelled.compile dialect = statement.compile dialect := by
  cases statement with
  | select s => exact s.compile_spelled dialect
  | insert s => rfl
  | update s =>
    have hset : (s.set.map Assignment.spelled).mapM (Assignment.compile dialect) =
        s.set.mapM (Assignment.compile dialect) := by
      rw [List.mapM_map]
      exact congrArg (s.set.mapM ·) (funext fun assignment => assignment.compile_spelled dialect)
    simp only [Statement.spelled, Statement.compile, Update.compile, List.isEmpty_map, hset,
      Filter.compile_spelledOptional]
  | delete s => simp only [Statement.spelled, Statement.compile, Delete.compile, Filter.compile_spelledOptional]
  | raw sql => rfl

/-- Statements that differ only in how they spell their nulls have the same query, or fail with the same error. -/
theorem Statement.toQuery_of_spelled_eq {s t : Statement} (h : s.spelled = t.spelled) :
    s.toQuery dialect = t.toQuery dialect := by
  rw [Statement.toQuery, Statement.toQuery, ← s.compile_spelled, h, t.compile_spelled]

/-- Ends the memberships in retired plans; `ended` is the null that is assigned, `absent` the one that is compared. -/
def membershipsToEnd (ended : Operand) (absent : Option Operand) : Statement :=
  .update {
    table := "memberships"
    set := [{ column := "plan", value := ended }]
    filter := some (.group .and [
      .condition { column := some "left_at" } .isNull absent,
      .condition { column := some "plan" } .eq (some (.query (.select {
        fields := [{ column := some "id" }]
        table := some { name := some "plans" }
        having := some (.condition { column := some "retired_at" } .ne absent) })))]) }

set_option maxRecDepth 20000 in
theorem membershipsToEnd_query : (membershipsToEnd .null none).toQuery .postgres =
    .ok ⟨"UPDATE memberships SET plan = $1 WHERE left_at IS NULL AND " ++
      "plan = (SELECT id FROM plans HAVING retired_at <> $2)", [.null, .null]⟩ := by
  have hspelled : (membershipsToEnd .null none).spelled =
      (membershipsToEnd (.literal .null) (some .null)).spelled := rfl
  rw [Statement.toQuery_of_spelled_eq .postgres hspelled]
  rfl

end BoundSql
