import BoundSql.Proofs.FirstFault
import BoundSql.Proofs.Independence
import BoundSql.Proofs.RowLimits

/-! Agreement. What the dialects have in common. They bind the values of a statement in the same order but for the
    numbers of a page, which SQL Server exchanges. They refuse a statement for the same fault, except that raw
    SQL is read by each with its own placeholders, and by MySQL and SQLite with none; these two also write
    the same text, row limits apart (`Statement.dialects_agree`). -/

namespace BoundSql
open Json (Value)
variable {dialect : Dialect}

/-! ### Values -/

/-- The values of a place, the rows to take first. -/
def Site.values : Site → List Value
  | .value v => [v]
  | .page take skip => (take.toList ++ skip.toList).map .ofNat

/-- The values of a place, those of a page that both takes and skips rows exchanged. -/
def Site.exchanged : Site → List Value
  | .page (some take) (some skip) => [.ofNat skip, .ofNat take]
  | .page take none => (Site.page take none).values
  | .page none skip => (Site.page none skip).values
  | .value v => (Site.value v).values

theorem Dialect.siteArguments_eq (dialect : Dialect) (site : Site) :
    dialect.siteArguments site = if dialect = .mssql then site.exchanged else site.values := by
  cases site with
  | value v => cases dialect <;> rfl
  | page take skip => cases dialect <;> cases take <;> cases skip <;> rfl

/-! ### Faults -/

/-- A relation between the faults of two walks that is kept where the walks go on. -/
structure Kept (r : Option SqlError → Option SqlError → Prop) : Prop where
  refl (x : Option SqlError) : r x x
  or {x x' y y' : Option SqlError} : r x x' → r y y' → r (x.or y) (x'.or y')

theorem kept_eq : Kept Eq where
  refl _ := rfl
  or hx hy := by rw [hx, hy]

/-- Where the first walk finds no fault the second finds none either. -/
theorem kept_sound : Kept fun x x' => x = none → x' = none where
  refl _ h := h
  or hx hy h := by
    obtain ⟨h₁, h₂⟩ := Option.or_eq_none_iff.mp h
    exact Option.or_eq_none_iff.mpr ⟨hx h₁, hy h₂⟩

section Walks
variable {r : Option SqlError → Option SqlError → Prop} {Q : RawSql → Prop}
  {check check' : RawSql → Option SqlError}

theorem Kept.findSome? (hr : Kept r) {α : Type} {f f' : α → Option SqlError} {as : List α}
    (h : ∀ a ∈ as, r (f a) (f' a)) : r (as.findSome? f) (as.findSome? f') := by
  induction as with
  | nil => exact hr.refl none
  | cons a as ih =>
    rw [findSome?_cons_or, findSome?_cons_or]
    exact hr.or (h a List.mem_cons_self) (ih fun a ha => h a (List.mem_cons_of_mem _ ha))

/-- Walks whose checks of raw SQL are related have related faults. -/
theorem Phrase.kept_fault? (hr : Kept r) (hcheck : ∀ raw, Q raw → r (check raw) (check' raw)) (phrase : Phrase) :
    phrase.All Q → r (phrase.fault? check) (phrase.fault? check') := by
  induction phrase using Phrase.induction with
  | step phrase ih =>
    intro hall
    rw [fault?_eq, fault?_eq]
    refine hr.or ?_ (hr.or (hr.findSome? fun child hc => ih child hc (hall.child child hc)) (hr.refl _))
    cases phrase with
    | raw sql => exact hcheck sql hall
    | select s => exact hr.refl _
    | field refuse f => exact hr.refl _
    | table t => exact hr.refl _
    | join j => exact hr.refl _
    | operand operator value => exact hr.refl _
    | filter root f => exact hr.refl _

theorem Statement.kept_fault? (hr : Kept r) (hcheck : ∀ raw, Q raw → r (check raw) (check' raw))
    {statement : Statement} (h : statement.All (fun _ => True) Q) :
    r (statement.fault? check) (statement.fault? check') :=
  hr.or (hr.refl _) (hr.findSome? fun child hc => child.kept_fault? hr hcheck (Statement.all_children h child hc))

end Walks

/-! ### Statements -/

namespace Statement
variable {statement : Statement}

/-- A query binds the values of its statement place by place. -/
theorem args_of_sites {q : Query} (hq : statement.toQuery dialect = .ok q) :
    q.args = statement.sites.flatMap (if dialect = .mssql then Site.exchanged else Site.values) := by
  rw [args_of_toQuery hq, arguments_eq_sites]
  refine List.flatMap_congr fun site _ => ?_
  rw [Dialect.siteArguments_eq]
  split <;> rfl

theorem fault?_of_toQuery {q : Query} (hq : statement.toQuery dialect = .ok q) :
    statement.fault? (RawSql.fault? dialect.style) = none :=
  (predicts (R := .bounded dialect) statement.all_true _).eq_none_of_toQuery hq

/-- Without raw SQL the fault is the same in every dialect. -/
theorem toQuery_of_structured (h : statement.All (fun _ => True) fun _ => False) :
    (∃ e, ∀ dialect, statement.toQuery dialect = .error e) ∨ ∀ dialect, ∃ q, statement.toQuery dialect = .ok q := by
  have hfault : ∀ dialect e, statement.toQuery dialect = .error e ↔ statement.fault? (fun _ => none) = some e := by
    intro dialect e
    have hsame : statement.fault? (RawSql.fault? dialect.style) = statement.fault? fun _ => none :=
      kept_fault? kept_eq (fun _ hraw => hraw.elim) h
    rw [← hsame]
    exact (predicts (R := .structured dialect) h _).toQuery_eq_error trivial
  cases hx : statement.fault? fun _ => none with
  | some e => exact Or.inl ⟨e, fun dialect => (hfault dialect e).mpr hx⟩
  | none =>
    refine Or.inr fun dialect => ?_
    rcases hq : statement.toQuery dialect with e | q
    · rw [hfault, hx] at hq
      cases hq
    · exact ⟨q, rfl⟩

/-- A statement that some dialect compiles is compiled where markers have no index. -/
theorem exists_toQuery_of_fixed {dialect' : Dialect} {q : Query} (hd : dialect.style.isIndexed = false)
    (hq : statement.toQuery dialect' = .ok q) : ∃ q', statement.toQuery dialect = .ok q' := by
  have hnone : statement.fault? (RawSql.fault? dialect.style) = none :=
    kept_fault? kept_sound (fun _ _ _ => RawSql.fault?_of_fixed hd) statement.all_true (fault?_of_toQuery hq)
  rcases hq' : statement.toQuery dialect with e | q'
  · have hfault := ((predicts (R := .fixed hd) statement.all_true _).toQuery_eq_error trivial).mp hq'
    rw [hnone] at hfault
    cases hfault
  · exact ⟨q', rfl⟩

theorem toQuery_mysql_sqlite (statement : Statement) :
    (∃ e, statement.toQuery .mysql = .error e ∧ statement.toQuery .sqlite = .error e) ∨
      ∃ q q', statement.toQuery .mysql = .ok q ∧ statement.toQuery .sqlite = .ok q' ∧ q.args = q'.args ∧
        Alike (statement.sites.countP Site.skipsOnly) q.sql q'.sql := by
  have hstyle : Dialect.sqlite.style = Dialect.mysql.style := rfl
  unfold toQuery
  rw [Compile.toQuery_eq, Compile.toQuery_eq, hstyle]
  rcases statement.agrees (.fresh Dialect.mysql.style) rfl with ⟨e, c, h, h'⟩ | ⟨s, t, c, h, h', -, hs⟩
  · rw [h, h']
    exact Or.inl ⟨e, rfl, rfl⟩
  · rw [h, h']
    exact Or.inr ⟨_, _, rfl, rfl, rfl, hs⟩

/-- The dialects agree. A query binds the values of its statement place by place; on SQL Server those of a page
    that both takes and skips rows are exchanged, and nothing else. Without raw SQL a statement is refused
    with one error everywhere, or compiled everywhere. With raw SQL, MySQL and SQLite still fail with the same
    error, or bind the same values and write texts that differ in the limits of the pages that only skip
    rows, in each of them; and both compile whatever another dialect compiles. -/
theorem dialects_agree (statement : Statement) :
    (∀ dialect q, statement.toQuery dialect = .ok q →
      q.args = statement.sites.flatMap (if dialect = .mssql then Site.exchanged else Site.values)) ∧
    (statement.All (fun _ => True) (fun _ => False) →
      (∃ e, ∀ dialect, statement.toQuery dialect = .error e) ∨ ∀ dialect, ∃ q, statement.toQuery dialect = .ok q) ∧
    ((∃ e, statement.toQuery .mysql = .error e ∧ statement.toQuery .sqlite = .error e) ∨
      ∃ q q', statement.toQuery .mysql = .ok q ∧ statement.toQuery .sqlite = .ok q' ∧ q.args = q'.args ∧
        Alike (statement.sites.countP Site.skipsOnly) q.sql q'.sql) ∧
    ∀ dialect q, statement.toQuery dialect = .ok q →
      (∃ q', statement.toQuery .mysql = .ok q') ∧ ∃ q', statement.toQuery .sqlite = .ok q' := by
  refine ⟨?_, ?_, statement.toQuery_mysql_sqlite, ?_⟩
  · exact fun dialect q hq => args_of_sites hq
  · exact toQuery_of_structured
  · exact fun dialect q hq => ⟨exists_toQuery_of_fixed rfl hq, exists_toQuery_of_fixed rfl hq⟩

/-- A page of a page. -/
def laterOrders : Statement :=
  .select {
    fields := [{ column := some "id" }]
    table := some { query := some (.select {
      fields := [{ column := some "id" }]
      table := some { name := some "orders" }
      take := some 5
      skip := some 10
      label := some "recent" }) }
    skip := some 2 }

theorem laterOrders_sites : laterOrders.sites = [.page (some 5) (some 10), .page none (some 2)] := by
  simp [laterOrders, sites, children, bound, Phrase.sites_eq, Phrase.children, Phrase.bound, Subquery.phrase]

theorem laterOrders_agrees : ∀ dialect, ∃ q, laterOrders.toQuery dialect = .ok q ∧
    q.args = if dialect = .mssql then [.ofNat 10, .ofNat 5, .ofNat 2] else [.ofNat 5, .ofNat 10, .ofNat 2] := by
  have hraw : laterOrders.All (fun _ => True) fun _ => False := by
    simp [laterOrders, Statement.All, Select.All, Field.AllIn, Field.All, Subquery.AllOptional, Subquery.All,
      Table.AllOptional, Table.All, Join.AllIn, Filter.AllOptional, SortKey.AllIn]
  obtain ⟨hargs, houtcome, -, -⟩ := dialects_agree laterOrders
  rcases houtcome hraw with ⟨e, he⟩ | hok
  · have hq : laterOrders.toQuery .mysql = .ok
        ⟨"SELECT id FROM (SELECT id FROM orders LIMIT ? OFFSET ?) AS recent LIMIT 18446744073709551615 OFFSET ?",
          [.ofNat 5, .ofNat 10, .ofNat 2]⟩ := rfl
    rw [he] at hq
    cases hq
  · intro dialect
    obtain ⟨q, hq⟩ := hok dialect
    refine ⟨q, hq, ?_⟩
    rw [hargs dialect q hq, laterOrders_sites]
    split <;> rfl

end Statement
end BoundSql
