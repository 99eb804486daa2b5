import BoundSql.Proofs.NullCheck

/-! Columns on both sides of a comparison. In front of an operator a column is a field; behind it, and in an
    assignment, it is an operand. A field drops a blank table and refuses a blank column, whereas an operand is
    written as it stands, so that `BothSidesAgree` holds of those references alone that have no blank name
    (`bothSidesAgree_iff`). -/

namespace BoundSql
variable {dialect : Dialect} {table label : Option String} {column : String}

/-! ### Sides of a comparison -/

/-- The text of a condition, from the texts of its sides and its operator. -/
def conditionText (left operator : String) : Option String → String
  | some right => s!"{left} {operator} {right}"
  | none => s!"{left} {operator}"

theorem Filter.compile_condition (root : Bool) (field : Field) (operator : Operator) (value : Option Operand) :
    (Filter.condition field operator value).compile dialect root = do
      let left ← field.checked dialect
      return conditionText left (dialect.operatorSql operator) (← Operand.compile dialect operator value) := by
  rw [Filter.compile]
  refine bind_congr fun left => bind_congr fun right => ?_
  cases right <;> rfl

/-- In front of an operator the field is written as `text`, whatever the condition. -/
def Field.Renders (dialect : Dialect) (field : Field) (text : String) : Prop :=
  ∀ root operator value, (Filter.condition field operator value).compile dialect root = do
    return conditionText text (dialect.operatorSql operator) (← Operand.compile dialect operator value)

/-- Every condition on the field is refused. -/
def Field.Refused (dialect : Dialect) (field : Field) : Prop :=
  ∃ e, ∀ root operator value, (Filter.condition field operator value).compile dialect root = throw e

/-- The operand is written as `text`, behind every operator and in every assignment. -/
def Operand.Renders (dialect : Dialect) (value : Operand) (text : String) : Prop :=
  (∀ root field operator, (Filter.condition field operator (some value)).compile dialect root = do
    return conditionText (← field.checked dialect) (dialect.operatorSql operator) (some text)) ∧
  ∀ target, (Assignment.mk target value).compile dialect = pure (target ++ " = " ++ text)

/-- Every condition and every assignment with the operand is refused. -/
def Operand.Refused (dialect : Dialect) (value : Operand) : Prop :=
  (∀ root field operator b, ∃ e c,
    ((Filter.condition field operator (some value)).compile dialect root).outcome b = (.error e, c)) ∧
  ∀ target b, ∃ e c, ((Assignment.mk target value).compile dialect).outcome b = (.error e, c)

theorem Field.Renders.unique {field : Field} {text text' : String} (h : field.Renders dialect text)
    (h' : field.Renders dialect text') : text = text' := by
  have heq := congrArg (Compile.outcome · (.fresh dialect.style))
    ((h true .isNull none).symm.trans (h' true .isNull none))
  have htext : conditionText text (dialect.operatorSql .isNull) none =
      conditionText text' (dialect.operatorSql .isNull) none := Except.ok.inj (Prod.mk.inj heq).1
  simpa [conditionText, toString, String.append_assoc] using htext

theorem Field.Renders.not_refused {field : Field} {text : String} (h : field.Renders dialect text) :
    ¬ field.Refused dialect := by
  rintro ⟨e, he⟩
  have heq := congrArg (Compile.outcome · (.fresh dialect.style))
    ((h true .isNull none).symm.trans (he true .isNull none))
  cases heq

theorem Operand.Renders.unique {value : Operand} {text text' : String} (h : value.Renders dialect text)
    (h' : value.Renders dialect text') : text = text' := by
  have heq := congrArg (Compile.outcome · (.fresh dialect.style)) ((h.2 "").symm.trans (h'.2 ""))
  have htext : "" ++ " = " ++ text = "" ++ " = " ++ text' := Except.ok.inj (Prod.mk.inj heq).1
  simpa using htext

theorem Operand.Renders.not_refused {value : Operand} {text : String} (h : value.Renders dialect text) :
    ¬ value.Refused dialect := by
  intro hr
  obtain ⟨e, c, he⟩ := hr.2 "" (.fresh dialect.style)
  rw [h.2] at he
  cases he

/-! ### Columns -/

/-- A column that is not blank is written without a blank table. -/
theorem Field.renders_column (h : Text.isBlank column = false) :
    Field.Renders dialect ⟨table, some column, none, label⟩ (qualified (named? table) column) := by
  intro root operator value
  have hfield : Field.checked dialect ⟨table, some column, none, label⟩ =
      pure (qualified (named? table) column) := by
    rw [Field.checked, Field.expression_of_column, columnText, if_neg (by simp [h])]
  rw [Filter.compile_condition, hfield, pure_bind]

theorem Field.refused_column (h : Text.isBlank column = true) :
    Field.Refused dialect ⟨table, some column, none, label⟩ := by
  refine ⟨.invalidFilter (.field .empty), fun root operator value => ?_⟩
  have hfield : Field.checked dialect ⟨table, some column, none, label⟩ =
      throw (.invalidFilter (.field .empty)) := by
    rw [Field.checked, Field.expression_of_column, columnText, if_pos h]
  rw [Filter.compile_condition, hfield]
  rfl

/-- A reference is written as it stands, with blank names as with others. -/
theorem Operand.renders_column (dialect : Dialect) (table : Option String) (column : String) :
    (Operand.column table column).Renders dialect (qualified table column) := by
  refine ⟨fun root field operator => ?_, fun target => ?_⟩
  · rw [Filter.compile_condition, Operand.compile_column]
    simp only [pure_bind]
  · rw [Assignment.compile, Operand.compile_column, pure_bind]
    rfl

theorem qualified_named?_eq_iff (column : String) :
    qualified (named? table) column = qualified table column ↔ ∀ name ∈ table, Text.isBlank name = false := by
  cases table with
  | none => simp [named?]
  | some name =>
    simp only [named?, Option.mem_some_iff, forall_eq']
    cases h : Text.isBlank name with
    | false => simp
    | true =>
      -- with its table the text is longer by the point at least
      have hne : column ≠ s!"{name}.{column}" := by
        intro heq
        have hlen := congrArg String.length heq
        simp [toString] at hlen
      simpa [qualified] using hne

/-- A reference has one text on both sides, or both sides refuse it. -/
def BothSidesAgree (dialect : Dialect) (table : Option String) (column : String) : Prop :=
  ∀ label, (∃ text, Field.Renders dialect ⟨table, some column, none, label⟩ text ∧
      (Operand.column table column).Renders dialect text) ∨
    Field.Refused dialect ⟨table, some column, none, label⟩ ∧ (Operand.column table column).Refused dialect

/-- In front of an operator a reference loses its table if that is blank, and is refused if its column is; behind
    it, and in an assignment, it is written as it stands. Hence the sides agree just for the references without
    blank names. -/
theorem bothSidesAgree_iff (dialect : Dialect) (table : Option String) (column : String) :
    (∀ label, if Text.isBlank column then Field.Refused dialect ⟨table, some column, none, label⟩
      else Field.Renders dialect ⟨table, some column, none, label⟩ (qualified (named? table) column)) ∧
    (Operand.column table column).Renders dialect (qualified table column) ∧
    (BothSidesAgree dialect table column ↔ Text.isBlank column = false ∧ ∀ name ∈ table, Text.isBlank name = false) := by
  have hright := Operand.renders_column dialect table column
  refine ⟨fun label => ?_, hright, fun hagree => ?_, fun ⟨hcolumn, htable⟩ label => ?_⟩
  · cases hcolumn : Text.isBlank column with
    | true => exact Field.refused_column hcolumn
    | false => exact Field.renders_column hcolumn
  · rcases hagree none with ⟨text, hleft, htext⟩ | ⟨-, hrefused⟩
    · have hcolumn : Text.isBlank column = false := by
        rw [Bool.eq_false_iff]
        exact fun hblank => hleft.not_refused (Field.refused_column hblank)
      refine ⟨hcolumn, (qualified_named?_eq_iff column).mp ?_⟩
      exact ((Field.renders_column hcolumn).unique hleft).trans (htext.unique hright)
    · exact absurd hrefused hright.not_refused
  · refine Or.inl ⟨_, Field.renders_column hcolumn, ?_⟩
    rw [(qualified_named?_eq_iff column).mpr htable]
    exact hright

/-- A reference to `id` in a table whose name is a blank is `id` on the left and ` .id` on the right. -/
theorem blankTable_disagrees : ¬ ∀ (dialect : Dialect) (table : Option String) (column : String),
    BothSidesAgree dialect table column := by
  intro h
  have hright := Operand.renders_column .postgres (some " ") "id"
  rcases h .postgres (some " ") "id" none with ⟨text, hleft, htext⟩ | ⟨-, hrefused⟩
  · have heq : qualified (named? (some " ")) "id" = qualified (some " ") "id" :=
      ((Field.renders_column rfl).unique hleft).trans (htext.unique hright)
    revert heq
    decide
  · exact hright.not_refused hrefused

end BoundSql
