import BoundSql.Proofs.Growth

/-! Sessions. Parts of statements are compiled one after another over the same bindings; a step may fail midway,
    which leaves what it has bound until then, and the session goes on. However it goes, the cursor stands as
    far behind the first index as there are values, values are only ever added, and each index is handed out
    once, to the value that it names (`Session.step_kept`). -/

namespace BoundSql
open Json (Value)
open Compile (Built)
variable {dialect : Dialect} {style : Style} {b c d : Bindings}

/-! ### Steps -/

/-- What can be done over shared bindings. -/
inductive Step where
  | bind (value : Value)
  | extend (values : List Value)
  | filter (filter : Option Filter) (root : Bool)
  | operand (operator : Operator) (value : Option Operand)
  | field (field : Field)
  | fields (fields : List Field)
  | table (table : Table)
  | join (join : Join)
  | groupBy (fields : List Field)
  | orderBy (sorts : List SortKey)
  | subquery (query : Subquery)
  | splice (raw : RawSql)
  | page (take skip : Option Nat)

namespace Step

/-- The computation of a step, with the text that it gives, if it gives one. -/
def compile (dialect : Dialect) : Step → Compile (Option String)
  | .bind v => do return some (← Compile.bindValue v)
  | .extend vs => do
    Compile.bindPlaced vs
    return none
  | .filter none _ => return some ""
  | .filter (some f) root => do return some (← f.compile dialect root)
  | .operand op v => Operand.compile dialect op v
  | .field f => do return some (← f.compile dialect)
  | .fields fs => do return some (← projection dialect fs)
  | .table t => do return some (← t.compile dialect)
  | .join j => do return some (← j.compile dialect)
  | .groupBy fs => do return some (← grouping dialect fs)
  | .orderBy keys => do return some (← ordering dialect keys)
  | .subquery q => do return some (← q.compile dialect)
  | .splice raw => do return some (← Compile.splice raw)
  | .page take skip => do return some (← dialect.page take skip)

theorem built (dialect : Dialect) (step : Step) : Built (step.compile dialect) := by
  cases step with
  | bind value => exact .map (.bindValue value)
  | extend values => exact .bind (.bindPlaced values) fun _ => .pure
  | filter filter root =>
    cases filter with
    | none => exact .pure
    | some filter => exact .map (filter.built root)
  | operand operator value => exact Operand.built operator value
  | field field =>
    rw [compile, Field.compile_eq]
    exact .map (.map (field.built _))
  | fields fields => exact .map (.bind (.require _ _) fun _ => .map (Field.built_all fields))
  | table table => exact .map table.built
  | join join => exact .map join.built
  | groupBy fields => exact .map (.map (Field.built_groups fields))
  | orderBy sorts => exact .map (.map (SortKey.built_all sorts))
  | subquery query => exact .map query.built
  | splice raw => exact .map (.splice raw)
  | page take skip => exact .map (Dialect.page_built take skip)

/-- The bindings that a step leaves, whether it succeeds or fails. -/
def next (dialect : Dialect) (step : Step) (b : Bindings) : Bindings := ((step.compile dialect).outcome b).2

theorem outcome_bind (v : Value) (b : Bindings) : ((bind v).compile dialect).outcome b =
    (.ok (some (b.cursor.style.token b.cursor.position)), b.extend [v]) := by
  rw [compile, Compile.outcome_bind, Compile.outcome_bindValue]
  rfl

/-- SQL whose placeholders do not fit binds nothing. -/
theorem next_of_splice_error {raw : RawSql} {e : SqlError}
    (h : (((splice raw).compile dialect).outcome b).1 = .error e) : (splice raw).next dialect b = b := by
  unfold next
  rw [compile, Compile.outcome_bind, Compile.outcome_splice] at h ⊢
  cases hr : Placeholder.renumber b.cursor.style b.cursor.position raw.args.length raw.sql with
  | error token => rfl
  | ok sql =>
    rw [hr] at h
    cases h

end Step

/-! ### Sessions -/

/-- The cursor stands behind the values, counted from the first index of the style. -/
structure Bindings.Aligned (style : Style) (b : Bindings) : Prop where
  style_eq : b.cursor.style = style
  position_eq : b.cursor.position = style.start + b.values.size

namespace Bindings.Aligned

theorem fresh (style : Style) : Aligned style (.fresh style) := ⟨rfl, rfl⟩

theorem extend (h : Aligned style b) (values : List Value) : Aligned style (b.extend values) where
  style_eq := h.style_eq
  position_eq := by
    have hsize : (b.extend values).values.size = b.values.size + values.length := by simp
    rw [hsize, ← Nat.add_assoc, ← h.position_eq]
    rfl

theorem allocated_eq (h : Aligned style b) : b.cursor.allocated = b.values.size := by
  rw [Cursor.allocated, h.style_eq, h.position_eq, Nat.add_sub_cancel_left]

theorem isEmpty_iff (h : Aligned style b) : b.values.isEmpty = true ↔ b.cursor.allocated = 0 := by
  rw [h.allocated_eq, Array.isEmpty_iff_size_eq_zero]

end Bindings.Aligned

namespace Session
open Bindings (Aligned)

/-- The bindings that the steps of a session leave. -/
def run (dialect : Dialect) (steps : List Step) (b : Bindings) : Bindings :=
  steps.foldl (fun b step => step.next dialect b) b

/-- The indices that the steps of a session hand out, in order. -/
inductive HandsOut (dialect : Dialect) : List Step → Bindings → List Nat → Prop
  | nil {b : Bindings} : HandsOut dialect [] b []
  | cons {step : Step} {steps : List Step} {b : Bindings} {is js : List Nat} :
      (step.compile dialect).HandsOut b is → HandsOut dialect steps (step.next dialect b) js →
      HandsOut dialect (step :: steps) b (is ++ js)

theorem exists_handsOut (dialect : Dialect) (steps : List Step) : ∀ b, ∃ is, HandsOut dialect steps b is := by
  induction steps with
  | nil => exact fun _ => ⟨[], .nil⟩
  | cons step steps ih =>
    intro b
    obtain ⟨is, his⟩ := (step.built dialect).handsOut b
    obtain ⟨js, hjs⟩ := ih (step.next dialect b)
    exact ⟨is ++ js, .cons his hjs⟩

/-- A session hands out consecutive indices, one for each value that it binds. -/
theorem HandsOut.consecutive {steps : List Step} {is : List Nat} (h : HandsOut dialect steps b is) :
    ∃ values, run dialect steps b = b.extend values ∧ is = List.range' b.cursor.position values.length := by
  induction h with
  | nil => exact ⟨[], (Bindings.extend_nil _).symm, rfl⟩
  | @cons step steps b is js his _ ih =>
    obtain ⟨vs, hvs, rfl⟩ := his.consecutive
    obtain ⟨ws, hws, rfl⟩ := ih
    have hnext : step.next dialect b = b.extend vs := hvs
    refine ⟨vs ++ ws, ?_, ?_⟩
    · rw [run, List.foldl_cons, ← Bindings.extend_extend, ← hnext]
      exact hws
    · rw [hnext, Bindings.extend_cursor, Cursor.advance, List.length_append, List.range'_append_1]

theorem exists_run_eq (dialect : Dialect) (steps : List Step) (b : Bindings) :
    ∃ values, run dialect steps b = b.extend values := by
  obtain ⟨is, his⟩ := exists_handsOut dialect steps b
  obtain ⟨values, h, -⟩ := his.consecutive
  exact ⟨values, h⟩

theorem run_aligned (dialect : Dialect) (style : Style) (steps : List Step) :
    Aligned style (run dialect steps (.fresh style)) := by
  obtain ⟨values, h⟩ := exists_run_eq dialect steps (.fresh style)
  rw [h]
  exact (Aligned.fresh style).extend values

/-- The value that a step binds is found under the index of its placeholder, then and at the end. -/
theorem values_of_bind {before after : List Step} {v : Value}
    (hb : run dialect before (.fresh style) = b) (hd : run dialect after ((Step.bind v).next dialect b) = d) :
    d.values[b.cursor.position - style.start]? = some v := by
  have haligned : Aligned style b := hb ▸ run_aligned dialect style before
  obtain ⟨values, h⟩ := exists_run_eq dialect after ((Step.bind v).next dialect b)
  rw [← hd, h, Step.next, Step.outcome_bind, haligned.position_eq, Nat.add_sub_cancel_left,
    Bindings.extend_extend, Bindings.extend_values]
  simp

/-- Whatever a session has done before a step and does after it, and whether or not the step fails: the cursor
    is aligned with the values behind it, and the step has taken no value away and not moved the cursor back;
    no index is handed out twice in all the session; a value that the step binds stands under the index of
    its placeholder, and SQL that is refused changes nothing. -/
theorem step_kept {before after : List Step} {step : Step} (hb : run dialect before (.fresh style) = b)
    (hc : step.next dialect b = c) (hd : run dialect after c = d) :
    c.cursor.position = style.start + c.values.size ∧ c.cursor.allocated = c.values.size ∧
      (c.values.isEmpty = true ↔ c.cursor.allocated = 0) ∧
      b.values.toList <+: c.values.toList ∧ b.cursor.position ≤ c.cursor.position ∧
      (∃ indices, HandsOut dialect (before ++ step :: after) (.fresh style) indices ∧
        indices = List.range' style.start d.values.size ∧ indices.Nodup) ∧
      (∀ v, step = .bind v →
        ((step.compile dialect).outcome b).1 = .ok (some (style.token b.cursor.position)) ∧
          d.values[b.cursor.position - style.start]? = some v) ∧
      ∀ raw e, step = .splice raw → ((step.compile dialect).outcome b).1 = .error e → c = b := by
  have haligned : Aligned style b := hb ▸ run_aligned dialect style before
  obtain ⟨values, hvalues⟩ := (step.built dialect).grows b
  have hnext : c = b.extend values := hc.symm.trans hvalues
  have haligned' : Aligned style c := hnext ▸ haligned.extend values
  have hrun : run dialect (before ++ step :: after) (.fresh style) = d := by
    rw [run, List.foldl_append, List.foldl_cons, ← hd, ← hc, ← hb]
    rfl
  refine ⟨haligned'.position_eq, haligned'.allocated_eq, haligned'.isEmpty_iff, ?_, ?_, ?_, ?_, ?_⟩
  · rw [hnext, Bindings.extend_values, Array.toList_append]
    exact List.prefix_append _ _
  · rw [hnext, Bindings.extend_cursor]
    exact Nat.le_add_right _ _
  · obtain ⟨indices, hindices⟩ := exists_handsOut dialect (before ++ step :: after) (.fresh style)
    obtain ⟨all, hall, hrange⟩ := hindices.consecutive
    have hsize : d.values.size = all.length := by
      rw [← hrun, hall, Bindings.extend_values]
      simp [Bindings.fresh]
    refine ⟨indices, hindices, ?_, ?_⟩
    · rw [hsize]
      exact hrange
    · rw [hrange]
      exact List.nodup_range'
  · rintro v rfl
    refine ⟨?_, values_of_bind hb (hc ▸ hd)⟩
    rw [Step.outcome_bind, haligned.style_eq]
  · rintro raw e rfl he
    rw [← hc]
    exact Step.next_of_splice_error he

/-- A group whose first condition binds a value and whose second one is refused. -/
def halfBound : Filter :=
  .group .and [
    .condition { column := some "owner" } .eq (some (.literal (.ofNat 2))),
    .condition { column := some "closed_at" } .isNull (some (.literal (.ofNat 3)))]

/-- Bindings that hold the values. -/
def holding (values : List Value) : Bindings := (Bindings.fresh (.oneBased "$")).extend values

/-- The index of the value that the group has bound is not handed out again. -/
theorem halfBound_kept : ∃ indices, indices = [1, 2, 3] ∧
    HandsOut .postgres [.bind (.ofNat 1), .filter (some halfBound) true, .bind (.ofNat 4)]
      (.fresh (.oneBased "$")) indices := by
  have hb : run .postgres [.bind (.ofNat 1)] (.fresh (.oneBased "$")) = holding [.ofNat 1] := rfl
  have hc : (Step.filter (some halfBound) true).next .postgres (holding [.ofNat 1]) =
      holding [.ofNat 1, .ofNat 2] := rfl
  have hd : run .postgres [.bind (.ofNat 4)] (holding [.ofNat 1, .ofNat 2]) =
      holding [.ofNat 1, .ofNat 2, .ofNat 4] := rfl
  obtain ⟨-, -, -, -, -, ⟨indices, h, hrange, -⟩, -⟩ := step_kept hb hc hd
  exact ⟨indices, hrange, h⟩

end Session
end BoundSql
