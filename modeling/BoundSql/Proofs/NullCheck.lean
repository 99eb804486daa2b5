import BoundSql.Proofs.Equations
import BoundSql.Proofs.Run

/-! NULL checks. `IS NULL` and `IS NOT NULL` stand behind a field and take no operand: an absent value and both
    spellings of null leave nothing behind the operator, and subqueries and other literals are refused. A column
    is not refused; it is written behind the operator, where it makes no sense (`Filter.compile_nullCheck`).
    Whatever the value, nothing is bound but what the field binds. -/

namespace BoundSql
open Compile (yields_bind)
variable {operator : Operator}

theorem Dialect.operatorSql_of_isNullCheck (dialect : Dialect) (h : operator.isNullCheck = true) :
    dialect.operatorSql operator = operator.sql := by
  cases operator
  case isNull => cases dialect <;> rfl
  case isNotNull => cases dialect <;> rfl
  all_goals cases h

/-! ### Right-hand sides -/

theorem Operator.compileLiteral_null (h : operator.isNullCheck = true) :
    operator.compileLiteral .null = pure none := by
  unfold compileLiteral
  rw [if_pos h]
  rfl

theorem Operator.compileLiteral_of_ne_null (h : operator.isNullCheck = true) {value : Json.Value}
    (hvalue : value ≠ .null) :
    operator.compileLiteral value = throw (.invalidFilter (.valueForNullCheck operator)) := by
  have hnull : ¬ Operand.isNull (.literal value) = true := by
    cases value <;> simp_all [Operand.isNull]
  unfold compileLiteral
  rw [if_pos h, if_neg hnull]

/-- What a NULL check makes of a value that is not a column: nothing of null, in any spelling, and else it is
    refused. -/
theorem Operand.compile_of_nullCheck (dialect : Dialect) (h : operator.isNullCheck = true) {value : Option Operand}
    (hvalue : ∀ table column, value ≠ some (.column table column)) :
    (Operand.compile dialect operator value = pure none ∧ ∀ v ∈ value, v = .null ∨ v = .literal .null) ∨
      (Operand.compile dialect operator value = throw (.invalidFilter (.valueForNullCheck operator)) ∧
        ∃ v, value = some v ∧ v ≠ .null ∧ v ≠ .literal .null) := by
  rcases value with _ | ⟨table, column⟩ | query | value | _
  · left
    rw [Operand.compile_none, Operator.compileLiteral_null h]
    exact ⟨rfl, fun v hv => by cases hv⟩
  · exact absurd rfl (hvalue table column)
  · right
    rw [Operand.compile_query, if_pos h]
    exact ⟨rfl, _, rfl, nofun, nofun⟩
  · rw [Operand.compile_literal]
    by_cases hnull : value = .null
    · left
      rw [hnull, Operator.compileLiteral_null h]
      exact ⟨rfl, fun v hv => by cases hv; exact Or.inr rfl⟩
    · right
      rw [Operator.compileLiteral_of_ne_null h hnull]
      exact ⟨rfl, _, rfl, nofun, fun heq => hnull (Operand.literal.inj heq)⟩
  · left
    rw [Operand.compile_null, Operator.compileLiteral_null h]
    exact ⟨rfl, fun v hv => by cases hv; exact Or.inl rfl⟩

/-! ### Conditions -/

section Conditions
variable (dialect : Dialect) (field : Field) (value : Option Operand) (root : Bool)

/-- The field of a condition. -/
def Field.checked (dialect : Dialect) (field : Field) : Compile String :=
  field.expression dialect fun defect => .invalidFilter (.field defect)

/-- The three ways in which a NULL check is compiled: with a column behind it, with nothing behind it, or not. -/
theorem Filter.nullCheck_cases (h : operator.isNullCheck = true) :
    (∃ table column, value = some (.column table column) ∧
      (Filter.condition field operator value).compile dialect root = do
        return s!"{← field.checked dialect} {operator.sql} {qualified table column}") ∨
    ((∀ v ∈ value, v = .null ∨ v = .literal .null) ∧
      (Filter.condition field operator value).compile dialect root = do
        return s!"{← field.checked dialect} {operator.sql}") ∨
    ((∃ v, value = some v ∧ v ≠ .null ∧ v ≠ .literal .null ∧ ∀ table column, v ≠ .column table column) ∧
      (Filter.condition field operator value).compile dialect root = do
        let _ ← field.checked dialect
        throw (.invalidFilter (.valueForNullCheck operator))) := by
  rw [Filter.compile, dialect.operatorSql_of_isNullCheck h]
  by_cases hcolumn : ∃ table column, value = some (.column table column)
  · obtain ⟨table, column, rfl⟩ := hcolumn
    refine Or.inl ⟨table, column, rfl, ?_⟩
    simp only [Operand.compile_column, pure_bind]
    rfl
  · simp only [not_exists] at hcolumn
    rcases Operand.compile_of_nullCheck dialect h hcolumn with ⟨hc, hnull⟩ | ⟨hc, v, rfl, hn, hl⟩
    · refine Or.inr (Or.inl ⟨hnull, ?_⟩)
      simp only [hc, pure_bind]
      rfl
    · refine Or.inr (Or.inr ⟨⟨v, rfl, hn, hl, fun table column heq => hcolumn table column (by rw [heq])⟩, ?_⟩)
      simp only [hc]
      rfl

variable {b : Bindings}

/-- A NULL check that is compiled is its field and its operator; only a column is written behind it. If the field
    is compiled, the check fails for every other value that is there and is not null, in either spelling, and for
    no other reason. It binds what the field binds. -/
theorem Filter.compile_nullCheck (h : operator.isNullCheck = true) :
    (∀ sql c, ((Filter.condition field operator value).compile dialect root).Yields b sql c →
      ∃ left, (field.checked dialect).Yields b left c ∧
        ((∀ table column, value ≠ some (.column table column)) → sql = s!"{left} {operator.sql}") ∧
        ∀ table column, value = some (.column table column) →
          sql = s!"{left} {operator.sql} {qualified table column}") ∧
    ∀ left c, (field.checked dialect).Yields b left c →
      ((∃ e d, ((Filter.condition field operator value).compile dialect root).outcome b = (.error e, d)) ↔
        ∃ v, value = some v ∧ v ≠ .null ∧ v ≠ .literal .null ∧ ∀ table column, v ≠ .column table column) ∧
      ∀ e d, ((Filter.condition field operator value).compile dialect root).outcome b = (.error e, d) →
        e = .invalidFilter (.valueForNullCheck operator) ∧ d = c := by
  rcases Filter.nullCheck_cases dialect field value root h with ⟨table, column, rfl, hc⟩ | ⟨hnull, hc⟩ | ⟨hvalue, hc⟩
  · rw [hc]
    refine ⟨fun sql c hy => ?_, fun left c hy => ?_⟩
    · obtain ⟨left, b₁, hleft, hy⟩ := yields_bind.mp hy
      obtain ⟨rfl, rfl⟩ := Compile.yields_pure.mp hy
      refine ⟨left, hleft, fun hne => absurd rfl (hne table column), fun table' column' heq => ?_⟩
      cases heq
      rfl
    · rw [Compile.outcome_bind, hy]
      refine ⟨⟨?_, ?_⟩, ?_⟩
      · rintro ⟨e, d, ⟨⟩⟩
      · rintro ⟨v, hv, -, -, hne⟩
        cases hv
        exact absurd rfl (hne table column)
      · rintro e d ⟨⟩
  · rw [hc]
    refine ⟨fun sql c hy => ?_, fun left c hy => ?_⟩
    · obtain ⟨left, b₁, hleft, hy⟩ := yields_bind.mp hy
      obtain ⟨rfl, rfl⟩ := Compile.yields_pure.mp hy
      refine ⟨left, hleft, fun _ => rfl, fun table column heq => ?_⟩
      rcases hnull _ heq with hv | hv <;> cases hv
    · rw [Compile.outcome_bind, hy]
      refine ⟨⟨?_, ?_⟩, ?_⟩
      · rintro ⟨e, d, ⟨⟩⟩
      · rintro ⟨v, hv, hn, hl, -⟩
        rcases hnull v hv with heq | heq
        · exact absurd heq hn
        · exact absurd heq hl
      · rintro e d ⟨⟩
  · rw [hc]
    refine ⟨fun sql c hy => ?_, fun left c hy => ?_⟩
    · obtain ⟨left, b₁, -, hy⟩ := yields_bind.mp hy
      exact absurd hy Compile.yields_throw
    · rw [Compile.outcome_bind, hy]
      refine ⟨⟨fun _ => hvalue, fun _ => ⟨_, _, rfl⟩⟩, ?_⟩
      rintro e d ⟨⟩
      exact ⟨rfl, rfl⟩

end Conditions

/-- The latest order of a person, as a field with an argument of its own. -/
def latestOrder : Field where
  query := some (.raw { sql := "SELECT max(id) FROM orders WHERE owner = $1", args := [.ofNat 7] })

def latestOrderText : String := "(SELECT max(id) FROM orders WHERE owner = $1)"

/-- A null may be spelled out; a number is refused when the field has been compiled. -/
theorem latestOrder_nullCheck :
    (∃ left, (latestOrder.checked .postgres).Yields (.fresh Dialect.postgres.style) left
        ((Bindings.fresh Dialect.postgres.style).extend [.ofNat 7]) ∧
      latestOrderText ++ " IS NULL" = s!"{left} {Operator.isNull.sql}") ∧
    ∃ e d, ((Filter.condition latestOrder .isNull (some (.literal (.ofNat 0)))).compile .postgres true).outcome
      (.fresh Dialect.postgres.style) = (.error e, d) := by
  have hcheck : Operator.isNull.isNullCheck = true := rfl
  have hy : ((Filter.condition latestOrder .isNull (some (.literal .null))).compile .postgres true).Yields
      (.fresh Dialect.postgres.style) (latestOrderText ++ " IS NULL")
      ((Bindings.fresh Dialect.postgres.style).extend [.ofNat 7]) := rfl
  have hfield : (latestOrder.checked .postgres).Yields (.fresh Dialect.postgres.style) latestOrderText
      ((Bindings.fresh Dialect.postgres.style).extend [.ofNat 7]) := rfl
  obtain ⟨hnull, -⟩ := Filter.compile_nullCheck .postgres latestOrder (some (.literal .null)) true hcheck
  obtain ⟨-, hnumber⟩ := Filter.compile_nullCheck .postgres latestOrder (some (.literal (.ofNat 0))) true hcheck
  obtain ⟨left, hleft, htext, -⟩ := hnull _ _ hy
  refine ⟨⟨left, hleft, htext nofun⟩, ?_⟩
  exact (hnumber _ _ hfield).1.mpr ⟨_, rfl, nofun, nofun, nofun⟩

/-- A column that a NULL check is given stands behind it: `user_id IS NULL closed_at`. -/
theorem closedAt_behindNullCheck : ¬ ∀ (dialect : Dialect) (operator : Operator) (field : Field)
    (value : Option Operand) (root : Bool) (b c : Bindings) (sql : String), operator.isNullCheck = true →
    ((Filter.condition field operator value).compile dialect root).Yields b sql c →
    ∃ left, (field.checked dialect).Yields b left c ∧ sql = s!"{left} {operator.sql}" := by
  intro h
  have hy : ((Filter.condition { column := some "user_id" } .isNull (some (.column none "closed_at"))).compile
      .postgres true).Yields (.fresh Dialect.postgres.style) "user_id IS NULL closed_at"
      (.fresh Dialect.postgres.style) := rfl
  have hfield : (Field.checked .postgres { column := some "user_id" }).Yields (.fresh Dialect.postgres.style)
      "user_id" (.fresh Dialect.postgres.style) := rfl
  obtain ⟨left, hleft, hsql⟩ := h _ _ _ _ _ _ _ _ rfl hy
  cases hfield.symm.trans hleft
  revert hsql
  decide

end BoundSql
