import BoundSql.Proofs.FirstFault

/-! Reach. A part of a statement that cannot be compiled on its own lets the statement fail with the same error,
    wherever it stands, if the compilation comes to it: if what encloses it is not refused first and what
    precedes it can be compiled (`Statement.toQuery_eq_error_iff`). -/

namespace BoundSql
open Placeholder (indexBound)
variable {dialect : Dialect} {inner outer : Phrase} {e : SqlError}

namespace Phrase

/-- The compilation of the outer phrase comes to the inner one: no phrase on the way is refused before its children
    are looked at, and the children before the one that leads on can be compiled. -/
inductive ReachedFrom (dialect : Dialect) (inner : Phrase) : Phrase → Prop
  | refl : ReachedFrom dialect inner inner
  | step {outer phrase : Phrase} (before : List Phrase) {after : List Phrase} :
      outer.refusal? (RawSql.fault? dialect.style) = none → outer.children = before ++ phrase :: after →
      (∀ child ∈ before, ∃ q, Compile.toQuery dialect.style (child.compile dialect) = .ok q) →
      ReachedFrom dialect inner phrase → ReachedFrom dialect inner outer

theorem fault?_of_toQuery {phrase : Phrase} {q : Query}
    (hq : Compile.toQuery dialect.style (phrase.compile dialect) = .ok q) :
    phrase.fault? (RawSql.fault? dialect.style) = none :=
  (phrase.judges (R := .bounded dialect) phrase.all_true _).eq_none_of_toQuery hq

theorem fault?_of_toQuery_error {phrase : Phrase}
    (hroom : dialect.style.start + (phrase.arguments dialect).length ≤ indexBound)
    (he : Compile.toQuery dialect.style (phrase.compile dialect) = .error e) :
    phrase.fault? (RawSql.fault? dialect.style) = some e :=
  ((phrase.judges (R := .bounded dialect) phrase.all_true _).toQuery_eq_error hroom).mp he

/-- A filter has the same fault at the root and below it. -/
theorem fault?_filter (filter : Filter) (root root' : Bool) (check : RawSql → Option SqlError) :
    (Phrase.filter root filter).fault? check = (Phrase.filter root' filter).fault? check := by
  rw [fault?_eq, fault?_eq]
  cases filter <;> rfl

/-- Behind phrases that can be compiled the first fault is the next one. -/
theorem findSome?_fault {phrase : Phrase} {before after : List Phrase}
    (hbefore : ∀ child ∈ before, ∃ q, Compile.toQuery dialect.style (child.compile dialect) = .ok q)
    (he : phrase.fault? (RawSql.fault? dialect.style) = some e) :
    (before ++ phrase :: after).findSome? (fault? (RawSql.fault? dialect.style)) = some e := by
  have hnone : before.findSome? (fault? (RawSql.fault? dialect.style)) = none := by
    rw [List.findSome?_eq_none_iff]
    intro child hc
    obtain ⟨q, hq⟩ := hbefore child hc
    exact fault?_of_toQuery hq
  rw [List.findSome?_append, findSome?_cons_or, hnone, he, Option.none_or, Option.some_or]

namespace ReachedFrom

/-- The fault of a phrase that is reached is the fault of the phrases around it. -/
theorem fault?_eq (h : inner.ReachedFrom dialect outer) (he : inner.fault? (RawSql.fault? dialect.style) = some e) :
    outer.fault? (RawSql.fault? dialect.style) = some e := by
  induction h with
  | refl => exact he
  | step before hrefusal hchildren hbefore _ ih =>
    rw [Phrase.fault?_eq, hrefusal, hchildren, findSome?_fault hbefore ih, Option.none_or, Option.some_or]

theorem length_arguments_le (h : inner.ReachedFrom dialect outer) :
    (inner.arguments dialect).length ≤ (outer.arguments dialect).length := by
  induction h with
  | refl => exact Nat.le_refl _
  | @step outer phrase before after _ hchildren _ _ ih =>
    have hphrase : phrase ∈ outer.children := by
      rw [hchildren]
      exact List.mem_append_right _ List.mem_cons_self
    exact Nat.le_trans ih (Phrase.length_arguments_le hphrase)

end ReachedFrom
end Phrase

namespace Statement
variable {statement : Statement}

/-- The compilation of the statement comes to the phrase. -/
def Reaches (dialect : Dialect) (statement : Statement) (inner : Phrase) : Prop :=
  ∃ phrase before after, statement.refusal? = none ∧ statement.children = before ++ phrase :: after ∧
    (∀ child ∈ before, ∃ q, Compile.toQuery dialect.style (child.compile dialect) = .ok q) ∧
    inner.ReachedFrom dialect phrase

theorem Reaches.fault?_eq (h : statement.Reaches dialect inner)
    (he : inner.fault? (RawSql.fault? dialect.style) = some e) :
    statement.fault? (RawSql.fault? dialect.style) = some e := by
  obtain ⟨phrase, before, after, hrefusal, hchildren, hbefore, hphrase⟩ := h
  rw [fault?, hrefusal, hchildren, Phrase.findSome?_fault hbefore (hphrase.fault?_eq he), Option.none_or]

theorem Reaches.length_arguments_le (h : statement.Reaches dialect inner) :
    (inner.arguments dialect).length ≤ (statement.arguments dialect).length := by
  obtain ⟨phrase, before, after, -, hchildren, -, hphrase⟩ := h
  have hlen := hphrase.length_arguments_le
  rw [arguments_eq, hchildren]
  simp
  omega

/-- A statement whose placeholders have room fails with the first fault that the walk finds in it, and is compiled
    if the walk finds none. So if a phrase that its compilation comes to fails on its own, the statement fails
    with the same error, whatever is bound before the phrase and whatever stands behind it; and a filter that
    fails at the root of a text fails below the root as well. -/
theorem toQuery_eq_error_iff (hroom : dialect.style.start + (statement.arguments dialect).length ≤ indexBound) :
    (∀ e, statement.toQuery dialect = .error e ↔ statement.fault? (RawSql.fault? dialect.style) = some e) ∧
      (∀ phrase e, statement.Reaches dialect phrase →
        Compile.toQuery dialect.style (phrase.compile dialect) = .error e → statement.toQuery dialect = .error e) ∧
      ∀ filter root root' e, statement.Reaches dialect (.filter root filter) →
        Compile.toQuery dialect.style (filter.compile dialect root') = .error e →
          statement.toQuery dialect = .error e := by
  have hfails : ∀ e, statement.toQuery dialect = .error e ↔
      statement.fault? (RawSql.fault? dialect.style) = some e := fun e =>
    (Statement.predicts (R := .bounded dialect) statement.all_true _).toQuery_eq_error hroom
  have hinner : ∀ {phrase : Phrase}, statement.Reaches dialect phrase →
      dialect.style.start + (phrase.arguments dialect).length ≤ indexBound := by
    intro phrase h
    have hlen := h.length_arguments_le
    omega
  refine ⟨hfails, ?_, ?_⟩
  · intro phrase e hreach he
    exact (hfails e).mpr (hreach.fault?_eq (Phrase.fault?_of_toQuery_error (hinner hreach) he))
  · intro filter root root' e hreach he
    have hlen : dialect.style.start + (filter.arguments dialect).length ≤ indexBound := hinner hreach
    have hfault : (Phrase.filter root' filter).fault? (RawSql.fault? dialect.style) = some e :=
      Phrase.fault?_of_toQuery_error hlen he
    rw [Phrase.fault?_filter filter root' root] at hfault
    exact (hfails e).mpr (hreach.fault?_eq hfault)

/-- A condition on a field that has a table and no column. -/
def columnless : Filter := .condition { table := some "people" } .eq (some (.literal (.ofNat 1)))

def activePeople : Select where
  fields := [{ column := some "id" }]
  table := some { name := some "people" }
  filter := some (.group .and [.condition { column := some "active" } .eq (some (.literal (.bool true))), columnless])

def ordersAbove (total : Nat) : Filter := .condition { column := some "total" } .gt (some (.literal (.ofNat total)))

/-- The condition stands in a subquery in a group, with arguments before it and behind it. -/
def ordersOfActivePeople : Statement :=
  .select {
    fields := [{ column := some "id" }]
    table := some { name := some "orders" }
    filter := some (.group .or [
      ordersAbove 100, .condition { column := some "owner" } .eq (some (.query (.select activePeople)))])
    take := some 10 }

theorem ordersOfActivePeople_reaches : ordersOfActivePeople.Reaches .postgres (.filter false columnless) := by
  refine ⟨_, [], [], rfl, rfl, List.forall_mem_nil _, ?_⟩
  -- Down from the statement: its filter, the second condition there and the value compared with it,
  refine .step [.field .invalidField { column := some "id" }, .table { name := some "orders" }] rfl rfl
    (List.forall_mem_cons.mpr ⟨⟨⟨"id", []⟩, rfl⟩, List.forall_mem_singleton.mpr ⟨⟨"orders", []⟩, rfl⟩⟩) ?_
  refine .step [.filter false (ordersAbove 100)] rfl rfl
    (List.forall_mem_singleton.mpr ⟨⟨"total > $1", [.ofNat 100]⟩, rfl⟩) ?_
  refine .step [.field (fun defect => .invalidFilter (.field defect)) { column := some "owner" }] rfl rfl
    (List.forall_mem_singleton.mpr ⟨⟨"owner", []⟩, rfl⟩) ?_
  refine .step [] rfl rfl (List.forall_mem_nil _) ?_
  -- and then the filter of the subquery and the second condition there.
  refine .step [.field .invalidField { column := some "id" }, .table { name := some "people" }] rfl rfl
    (List.forall_mem_cons.mpr ⟨⟨⟨"id", []⟩, rfl⟩, List.forall_mem_singleton.mpr ⟨⟨"people", []⟩, rfl⟩⟩) ?_
  exact .step [.filter false _] rfl rfl
    (List.forall_mem_singleton.mpr ⟨⟨"active = $1", [.bool true]⟩, rfl⟩) .refl

theorem ordersOfActivePeople_fails : ordersOfActivePeople.toQuery .postgres =
    .error (.invalidFilter (.field (.noColumn "people"))) := by
  have hroom : Dialect.postgres.style.start + (ordersOfActivePeople.arguments .postgres).length ≤ indexBound := by
    decide
  exact (toQuery_eq_error_iff hroom).2.1 _ _ ordersOfActivePeople_reaches rfl

end Statement
end BoundSql
