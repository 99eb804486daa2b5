import BoundSql.Compile

/-! The equations of compilation in the form in which proofs use them: a field, a table and an operand
    each come down to a few cases, told apart by whether they hold a subquery. `Operator.compileLiteral`
    is the only place where a value meets an operator; an absent value is a literal null
    (`Operand.compile_null`, `Operand.compile_none`). -/

namespace BoundSql
open Json (Value)
variable {dialect : Dialect} {refuse : FieldDefect → SqlError}

/-! ### Fields -/

theorem columnText_eq_ok {table column : Option String} {sql : String}
    (h : columnText table column false = .ok sql) :
    ∃ name, column = some name ∧ sql = qualified (named? table) name := by
  cases column with
  | none => cases table <;> cases h
  | some name =>
    rw [columnText] at h
    split at h
    · cases h
    · cases h
      exact ⟨name, rfl, rfl⟩

theorem Field.expression_of_query (table column : Option String) (query : Subquery) (label : Option String) :
    Field.expression dialect refuse ⟨table, column, some query, label⟩ =
      match table, column with
      | none, none => do return parenthesized (← query.compile dialect)
      | _, some _ => throw (refuse .columnAndQuery)
      | some _, none => throw (refuse .qualifiedQuery) := by
  cases table <;> cases column <;> rfl

theorem Field.expression_of_column (table column label : Option String) :
    Field.expression dialect refuse ⟨table, column, none, label⟩ =
      match columnText table column false with
      | .ok sql => pure sql
      | .error defect => throw (refuse defect) := by
  cases table <;> cases column <;> rfl

/-- A projected field is its expression with a label; a subquery lends its own. -/
theorem Field.compile_eq (field : Field) :
    field.compile dialect = do
      let sql ← field.expression dialect .invalidField
      return labeled sql (field.label.or (field.query.bind Subquery.label?)) := by
  obtain ⟨table, column, _ | query, label⟩ := field
  · rw [Field.expression_of_column]
    have hc : Field.compile dialect ⟨table, column, none, label⟩ =
        match columnText table column false with
        | .ok sql => pure (labeled sql label)
        | .error defect => throw (.invalidField defect) := by
      cases table <;> cases column <;> rfl
    rw [hc]
    cases columnText table column false with
    | error defect => rfl
    | ok sql => simp
  · rw [Field.expression_of_query]
    cases table <;> cases column
    · simp [Field.compile]
    all_goals rfl

/-! ### Tables -/

theorem Table.compile_of_query (name : Option String) (query : Subquery) (label : Option String) :
    Table.compile dialect ⟨name, some query, label⟩ =
      match named? name with
      | none => do return labeled (parenthesized (← query.compile dialect)) (label.or query.label?)
      | some _ => throw (.invalidTable .nameAndQuery) := by
  rw [Table.compile.eq_def]
  dsimp only
  cases named? name <;> rfl

theorem Table.compile_of_name (name label : Option String) :
    Table.compile dialect ⟨name, none, label⟩ =
      match named? name with
      | none => throw (.invalidTable .empty)
      | some name => pure (labeled name label) := by
  rw [Table.compile.eq_def]
  dsimp only
  cases named? name <;> rfl

theorem named?_eq_some {name : Option String} {n : String} (h : named? name = some n) : name = some n := by
  cases name with
  | none => cases h
  | some m =>
    rw [named?] at h
    split at h
    · cases h
    · exact h

/-! ### Operands -/

/-- A literal to the right of an operator, or none for a NULL check. -/
def Operator.compileLiteral (operator : Operator) (value : Value) : Compile (Option String) :=
  if operator.isNullCheck then
    if Operand.isNull (.literal value) then return none
    else throw (.invalidFilter (.valueForNullCheck operator))
  else if operator.isList then
    match value with
    | .array [] => throw (.itemsRequired operator)
    | .array items => do return some (parenthesized (commaList (← items.mapM Compile.bindValue)))
    | _ => throw (.arrayRequired operator)
  else if operator.isLike then
    match value with
    | .string pattern => do return some (← Compile.bindValue (.string s!"%{pattern}%"))
    | _ => throw (.stringRequired operator)
  else do return some (← Compile.bindValue value)

theorem Operand.compile_column (operator : Operator) (table : Option String) (column : String) :
    Operand.compile dialect operator (some (.column table column)) =
      pure (some (qualified table column)) := by
  rw [Operand.compile]

/-- A subquery stands only to the right of a comparison. -/
theorem Operand.compile_query (operator : Operator) (query : Subquery) :
    Operand.compile dialect operator (some (.query query)) =
      if operator.isNullCheck then throw (.invalidFilter (.valueForNullCheck operator))
      else if operator.isList then throw (.arrayRequired operator)
      else if operator.isLike then throw (.stringRequired operator)
      else do return some (parenthesized (← query.compile dialect)) := by
  rw [Operand.compile.eq_def]
  rfl

theorem Operand.compile_literal (operator : Operator) (value : Value) :
    Operand.compile dialect operator (some (.literal value)) = operator.compileLiteral value := by
  rw [Operand.compile.eq_def, Operator.compileLiteral.eq_def]
  cases value with
  | array items => cases items <;> rfl
  | _ => rfl

theorem Operand.compile_null (operator : Operator) :
    Operand.compile dialect operator (some .null) = operator.compileLiteral .null := by
  rw [Operand.compile.eq_def]
  rfl

theorem Operand.compile_none (operator : Operator) :
    Operand.compile dialect operator none = operator.compileLiteral .null := by
  rw [Operand.compile.eq_def]
  rfl

/-! ### Lists -/

theorem compileFields_eq_mapM (fields : List Field) :
    compileFields dialect fields = fields.mapM (Field.compile dialect) := by
  induction fields with
  | nil => rfl
  | cons field rest ih => rw [compileFields, List.mapM_cons, ih]

theorem groupFields_eq_mapM (fields : List Field) :
    groupFields dialect fields = fields.mapM (Field.expression dialect .invalidField) := by
  induction fields with
  | nil => rfl
  | cons field rest ih => rw [groupFields, List.mapM_cons, ih]

theorem compileJoins_eq_mapM (joins : List Join) :
    compileJoins dialect joins = joins.mapM (Join.compile dialect) := by
  induction joins with
  | nil => rfl
  | cons join rest ih => rw [compileJoins, List.mapM_cons, ih]

/-- The body of a sort key. -/
def SortKey.compile (dialect : Dialect) (key : SortKey) : Compile String := do
  return s!"{← key.field.expression dialect .invalidField} {key.direction.sql}"

theorem compileSorts_eq_mapM (sorts : List SortKey) :
    compileSorts dialect sorts = sorts.mapM (SortKey.compile dialect) := by
  induction sorts with
  | nil => rfl
  | cons key rest ih =>
    obtain ⟨field, direction⟩ := key
    rw [compileSorts, List.mapM_cons, ih, SortKey.compile]
    simp only [bind_assoc, pure_bind]

/-- The filters of a group are all compiled before the blank ones are dropped. -/
theorem compileFilters_eq_mapM (filters : List Filter) :
    compileFilters dialect filters = do
      let parts ← filters.mapM fun filter => do return Text.trim (← filter.compile dialect false)
      return parts.filter fun part => !part.isEmpty := by
  induction filters with
  | nil => rfl
  | cons filter rest ih =>
    rw [compileFilters, List.mapM_cons, ih]
    simp only [bind_assoc, pure_bind, List.filter_cons]
    refine bind_congr fun sql => bind_congr fun parts => ?_
    cases (Text.trim sql).isEmpty <;> rfl

end BoundSql
