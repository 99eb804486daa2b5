import BoundSql.Proofs.Equations
import BoundSql.Proofs.Run

/-! Growth. Compilation is put together from a few elementary steps (`Built`), and what these steps keep it keeps.
    Each hands out the indices that come next and binds as many values. So a computation, whether it succeeds
    or fails, hands out consecutive indices (`HandsOut.consecutive`) and leaves the bindings that it found with
    further values behind them and the cursor moved past these (`Grows`). -/

namespace BoundSql
open Json (Value)
variable {dialect : Dialect}

namespace Compile

/-- The computation is put together from elementary steps. -/
inductive Built : {α : Type} → Compile α → Prop
  | pure {α : Type} {a : α} : Built (pure a)
  | throw {α : Type} {e : SqlError} : Built (throw e : Compile α)
  | bindValue (v : Value) : Built (bindValue v)
  | bindPlaced (values : List Value) : Built (bindPlaced values)
  | splice (raw : RawSql) : Built (splice raw)
  | bind {α β : Type} {m : Compile α} {f : α → Compile β} : Built m → (∀ a, Built (f a)) → Built (m >>= f)

/-- The indices that a computation hands out from the given bindings, in order. A value that is bound gets the
    index of the cursor, values whose placeholders are in the text already get one each, and a computation
    that fails has handed out what it has until then. -/
inductive HandsOut : {α : Type} → Compile α → Bindings → List Nat → Prop
  | pure {α : Type} {a : α} {b : Bindings} : HandsOut (pure a) b []
  | throw {α : Type} {e : SqlError} {b : Bindings} : HandsOut (throw e : Compile α) b []
  | bindValue {v : Value} {b : Bindings} : HandsOut (bindValue v) b [b.cursor.position]
  | bindPlaced {values : List Value} {b : Bindings} :
      HandsOut (bindPlaced values) b (List.range' b.cursor.position values.length)
  | spliced {raw : RawSql} {b c : Bindings} {sql : String} : (splice raw).Yields b sql c →
      HandsOut (splice raw) b (List.range' b.cursor.position raw.args.length)
  | refused {raw : RawSql} {b c : Bindings} {e : SqlError} : (splice raw).outcome b = (.error e, c) →
      HandsOut (splice raw) b []
  | bind {α β : Type} {m : Compile α} {f : α → Compile β} {a : α} {b c : Bindings} {is js : List Nat} :
      HandsOut m b is → m.Yields b a c → HandsOut (f a) c js → HandsOut (m >>= f) b (is ++ js)
  | failed {α β : Type} {m : Compile α} {f : α → Compile β} {b c : Bindings} {e : SqlError} {is : List Nat} :
      HandsOut m b is → m.outcome b = (.error e, c) → HandsOut (m >>= f) b is

variable {α β : Type} {m : Compile α} {b c : Bindings} {a : α}

namespace Built

theorem map {k : α → β} (hm : Built m) : Built (do return k (← m)) :=
  hm.bind fun _ => .pure

protected theorem require (condition : Bool) (e : SqlError) : Built (require condition e) := by
  cases condition
  · exact .throw
  · exact .pure

protected theorem mapM {f : α → Compile β} (hf : ∀ a, Built (f a)) (as : List α) : Built (as.mapM f) := by
  induction as with
  | nil => exact .pure
  | cons a as ih =>
    rw [List.mapM_cons]
    exact (hf a).bind fun _ => ih.map

theorem handsOut (hm : Built m) : ∀ b, ∃ is, HandsOut m b is := by
  induction hm with
  | pure => exact fun _ => ⟨[], .pure⟩
  | throw => exact fun _ => ⟨[], .throw⟩
  | bindValue v => exact fun b => ⟨[b.cursor.position], .bindValue⟩
  | bindPlaced values => exact fun b => ⟨List.range' b.cursor.position values.length, .bindPlaced⟩
  | splice raw =>
    intro b
    rcases h : (Compile.splice raw).outcome b with ⟨e | sql, c⟩
    · exact ⟨[], .refused h⟩
    · exact ⟨List.range' b.cursor.position raw.args.length, .spliced h⟩
  | @bind α β m f _ _ ihm ihf =>
    intro b
    obtain ⟨is, hm⟩ := ihm b
    rcases h : m.outcome b with ⟨e | a, c⟩
    · exact ⟨is, hm.failed h⟩
    · obtain ⟨js, hf⟩ := ihf a c
      exact ⟨is ++ js, hm.bind h hf⟩

end Built

/-- The indices that are handed out follow on one another from the cursor's, one for each value that is
    bound. -/
theorem HandsOut.consecutive {is : List Nat} (h : HandsOut m b is) : ∃ values,
    (m.outcome b).2 = b.extend values ∧ is = List.range' b.cursor.position values.length := by
  induction h with
  | pure => exact ⟨[], (Bindings.extend_nil _).symm, rfl⟩
  | throw => exact ⟨[], (Bindings.extend_nil _).symm, rfl⟩
  | @bindValue v b => exact ⟨[v], by rw [outcome_bindValue], rfl⟩
  | @bindPlaced values b => exact ⟨values, rfl, rfl⟩
  | @spliced raw b c sql h =>
    refine ⟨raw.args, ?_, rfl⟩
    rw [h]
    exact (yields_splice.mp h).2
  | @refused raw b c e h =>
    refine ⟨[], ?_, rfl⟩
    rw [Bindings.extend_nil, outcome_splice]
    rw [outcome_splice] at h
    split at h
    · cases h
    · rfl
  | @bind α β m f a b c is js _ hy _ ihm ihf =>
    obtain ⟨vs, hvs, rfl⟩ := ihm
    obtain ⟨ws, hws, rfl⟩ := ihf
    rw [hy] at hvs
    obtain rfl : c = b.extend vs := hvs
    refine ⟨vs ++ ws, ?_, ?_⟩
    · rw [outcome_bind, hy, ← Bindings.extend_extend]
      exact hws
    · rw [List.length_append, Bindings.extend_cursor, Cursor.advance, List.range'_append_1]
  | @failed α β m f b c e is _ he ihm =>
    obtain ⟨vs, hvs, his⟩ := ihm
    refine ⟨vs, ?_, his⟩
    rw [outcome_bind, he, ← hvs, he]

/-- The computation adds to the bindings and takes nothing away, even where it fails. -/
def Grows (m : Compile α) : Prop := ∀ b : Bindings, ∃ values, (m.outcome b).2 = b.extend values

theorem Built.grows (hm : Built m) : Grows m := by
  intro b
  obtain ⟨is, his⟩ := hm.handsOut b
  obtain ⟨values, h, -⟩ := his.consecutive
  exact ⟨values, h⟩

namespace Grows

theorem of_yields (hm : Grows m) (hy : m.Yields b a c) : ∃ values, c = b.extend values := by
  obtain ⟨values, h⟩ := hm b
  rw [hy] at h
  exact ⟨values, h⟩

/-- The placeholders of what follows are of the same style. -/
theorem style_eq (hm : Grows m) (hy : m.Yields b a c) : c.cursor.style = b.cursor.style := by
  obtain ⟨values, rfl⟩ := hm.of_yields hy
  rfl

end Grows
end Compile

open Compile (Built)

theorem Operator.built (operator : Operator) (value : Value) : Built (operator.compileLiteral value) := by
  unfold Operator.compileLiteral
  split
  · split
    · exact .pure
    · exact .throw
  split
  · split
    · exact .throw
    · exact .map (.mapM Built.bindValue _)
    · exact .throw
  split
  · split
    · exact .map (.bindValue _)
    · exact .throw
  · exact .map (.bindValue _)

theorem Dialect.page_built (take skip : Option Nat) : Built (dialect.page take skip) := by
  have hlimit : ∀ unlimited, Built (limitOffset unlimited take skip) := by
    intro unlimited
    rcases take with _ | take <;> rcases skip with _ | skip
    · exact .pure
    · refine .bind (.bindValue _) fun _ => ?_
      cases unlimited <;> exact .pure
    · exact .map (.bindValue _)
    · exact .bind (.bindValue _) fun _ => .map (.bindValue _)
  cases dialect with
  | mssql =>
    unfold page offsetFetch
    rcases take with _ | take <;> rcases skip with _ | skip
    · exact .pure
    · exact .map (.bindValue _)
    · exact .bind .pure fun _ => .map (.bindValue _)
    · exact .bind (.bindValue _) fun _ => .map (.bindValue _)
  | mysql => exact hlimit mysql.unlimited?
  | sqlite => exact hlimit sqlite.unlimited?
  | postgres => exact hlimit postgres.unlimited?

mutual

theorem Subquery.built : (query : Subquery) → Built (query.compile dialect)
  | .select s => by
    rw [Subquery.compile]
    exact s.built
  | .raw raw => by
    rw [Subquery.compile]
    exact .splice raw

theorem Field.built (refuse : FieldDefect → SqlError) : (field : Field) →
    Built (field.expression dialect refuse)
  | ⟨table, column, some query, label⟩ => by
    rw [Field.expression_of_query]
    cases table <;> cases column
    · exact .map query.built
    all_goals exact .throw
  | ⟨table, column, none, label⟩ => by
    rw [Field.expression_of_column]
    cases columnText table column false with
    | error defect => exact .throw
    | ok sql => exact .pure

theorem Field.built_all : (fields : List Field) → Built (compileFields dialect fields)
  | [] => by
    rw [compileFields]
    exact .pure
  | field :: rest => by
    rw [compileFields, Field.compile_eq]
    exact .bind (.map (field.built .invalidField)) fun _ => .map (Field.built_all rest)

theorem Field.built_groups : (fields : List Field) → Built (groupFields dialect fields)
  | [] => by
    rw [groupFields]
    exact .pure
  | field :: rest => by
    rw [groupFields]
    exact .bind (field.built .invalidField) fun _ => .map (Field.built_groups rest)

theorem Table.built : (table : Table) → Built (table.compile dialect)
  | ⟨name, some query, label⟩ => by
    rw [Table.compile_of_query]
    cases named? name with
    | some name => exact .throw
    | none => exact .map query.built
  | ⟨name, none, label⟩ => by
    rw [Table.compile_of_name]
    cases named? name with
    | none => exact .throw
    | some name => exact .pure

theorem Join.built : (join : Join) → Built (join.compile dialect)
  | ⟨kind, table, condition⟩ => by
    rw [Join.compile]
    exact .bind table.built fun _ => .bind (condition.built true) fun _ => .bind (.require _ _) fun _ => .pure

theorem Join.built_all : (joins : List Join) → Built (compileJoins dialect joins)
  | [] => by
    rw [compileJoins]
    exact .pure
  | join :: rest => by
    rw [compileJoins]
    exact .bind join.built fun _ => .map (Join.built_all rest)

theorem Operand.built (operator : Operator) : (value : Option Operand) →
    Built (Operand.compile dialect operator value)
  | some (.column table column) => by
    rw [Operand.compile_column]
    exact .pure
  | some (.query query) => by
    rw [Operand.compile_query]
    split
    · exact .throw
    split
    · exact .throw
    split
    · exact .throw
    · exact .map query.built
  | some (.literal value) => by
    rw [Operand.compile_literal]
    exact operator.built value
  | some .null => by
    rw [Operand.compile_null]
    exact operator.built .null
  | none => by
    rw [Operand.compile_none]
    exact operator.built .null

theorem Filter.built (root : Bool) : (filter : Filter) → Built (filter.compile dialect root)
  | .condition field operator value => by
    rw [Filter.compile]
    refine .bind (field.built _) fun _ => .bind (Operand.built operator value) fun right => ?_
    cases right <;> exact .pure
  | .group logic filters => by
    rw [Filter.compile]
    exact .bind (Filter.built_all filters) fun _ => .bind (.require _ _) fun _ => .pure
  | .raw raw => by
    rw [Filter.compile]
    exact .map (.splice raw)

theorem Filter.built_all : (filters : List Filter) → Built (compileFilters dialect filters)
  | [] => by
    rw [compileFilters]
    exact .pure
  | filter :: rest => by
    rw [compileFilters]
    exact .bind (filter.built false) fun _ => .map (Filter.built_all rest)

theorem Filter.built_optional : (filter : Option Filter) → Built (compileOptional dialect filter)
  | none => by
    rw [compileOptional]
    exact .pure
  | some filter => by
    rw [compileOptional]
    exact filter.built true

theorem SortKey.built_all : (sorts : List SortKey) → Built (compileSorts dialect sorts)
  | [] => by
    rw [compileSorts]
    exact .pure
  | ⟨field, direction⟩ :: rest => by
    rw [compileSorts]
    exact .bind (field.built .invalidField) fun _ => .map (SortKey.built_all rest)

theorem Select.built : (select : Select) → Built (select.compile dialect)
  | ⟨distinct, fields, none, joins, filter, groupBy, having, sorts, take, skip, label⟩ => by
    rw [Select.compile.eq_def]
    exact .bind (.require _ _) fun _ => .throw
  | ⟨distinct, fields, some table, joins, filter, groupBy, having, sorts, take, skip, label⟩ => by
    rw [Select.compile.eq_def]
    exact .bind (.require _ _) fun _ => .bind (Field.built_all fields) fun _ => .bind table.built fun _ =>
      .bind (Join.built_all joins) fun _ => .bind (Filter.built_optional filter) fun _ =>
      .bind (Field.built_groups groupBy) fun _ => .bind (Filter.built_optional having) fun _ =>
      .bind (SortKey.built_all sorts) fun _ => .map (Dialect.page_built take skip)

end

theorem built_targetTable (table : String) : Built (targetTable table) := by
  unfold targetTable
  dsimp only
  split
  · exact .throw
  · exact .pure

theorem built_rows (width : Nat) (rows : List (List Value)) : ∀ index, Built (compileRows width index rows) := by
  induction rows with
  | nil => exact fun _ => .pure
  | cons row rest ih =>
    intro index
    exact .bind (.require _ _) fun _ => .bind (.mapM Built.bindValue row) fun _ => .map (ih (index + 1))

theorem Assignment.built (assignment : Assignment) : Built (assignment.compile dialect) :=
  .map (Operand.built .eq (some assignment.value))

/-- A statement is compiled in elementary steps. -/
theorem Statement.built (statement : Statement) : Built (statement.compile dialect) := by
  cases statement with
  | select s => exact s.built
  | insert s =>
    exact .bind (built_targetTable s.table) fun _ => .bind (.require _ _) fun _ =>
      .bind (.require _ _) fun _ => .map (built_rows _ s.rows 0)
  | update s =>
    exact .bind (built_targetTable s.table) fun _ => .bind (.require _ _) fun _ =>
      .bind (.mapM Assignment.built s.set) fun _ => .map (Filter.built_optional s.filter)
  | delete s => exact .bind (built_targetTable s.table) fun _ => .map (Filter.built_optional s.filter)
  | raw raw => exact .splice raw

end BoundSql
