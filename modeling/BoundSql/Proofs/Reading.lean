import BoundSql.Proofs.Equations
import BoundSql.Proofs.Marked
import BoundSql.Proofs.Run
import BoundSql.Proofs.Separators

/-! Readings. A reading relates SQL text to marked text: at a position of the cursor and with the values
    bound from there on, the text reads as the marked text. It has to hold of the pieces of text that
    compilation writes and to carry over when they are put together at a separator (`Reading`). Then
    whatever a statement compiles to reads as the statement written with its arguments in place, and it
    binds the arguments of the statement in order (`Statement.reads`). The proof follows the compiler; no
    clause may be bound before one that is printed earlier. -/

namespace BoundSql
open Json (Value)

/-- A reading of SQL text as marked text. -/
structure Reading (dialect : Dialect) where
  /-- At a position and with the values bound from there on, the text reads as the marked text. -/
  Reads : Nat → List Value → String → Marked → Prop
  /-- What is asked of an identifier. -/
  Name : String → Prop
  /-- What is asked of a fragment of raw SQL. -/
  Raw : RawSql → Prop
  inert {n : Nat} {s : String} : Inert s → Reads n [] s (plain s)
  name {n : Nat} {s : String} : Name s → Reads n [] s (plain s)
  token (n : Nat) (v : Value) : Reads n [v] (dialect.style.token n) [.argument v]
  raw {n : Nat} {r : RawSql} {s : String} : Raw r →
    Placeholder.renumber dialect.style n r.args.length r.sql = .ok s → Reads n r.args s (r.written dialect)
  append {n : Nat} {vs ws : List Value} {s t : String} {m k : Marked} : Reads n vs s m →
    Reads (n + vs.length) ws t k → Meets s t → Reads n (vs ++ ws) (s ++ t) (m ++ k)
  trim {n : Nat} {vs : List Value} {s : String} {m : Marked} :
    Reads n vs s m → Reads n vs (Text.trim s) m.trim
  eq_empty_iff {n : Nat} {vs : List Value} {s : String} {m : Marked} : Reads n vs s m → (s = "" ↔ m = [])

namespace Reading
variable {dialect : Dialect} {R : Reading dialect} {n : Nat} {vs ws : List Value} {s t : String}
  {m k : Marked}

/-! ### Putting text together -/

theorem empty : R.Reads n [] "" [] := R.inert (by decide)

/-- Text behind one without placeholders. -/
theorem behind (g : String) (ht : R.Reads n ws t k) (hi : Inert g) (hm : Meets g t) :
    R.Reads n ws (g ++ t) (plain g ++ k) :=
  R.append (R.inert hi) ht hm

/-- Text behind an opening one. -/
theorem opened (g : String) (ht : R.Reads n ws t k) (hg : Opening g := by decide) :
    R.Reads n ws (g ++ t) (plain g ++ k) :=
  behind g ht hg.1 (Or.inr (Or.inl hg.2))

/-- Text before a closing one. -/
theorem closed (g : String) (hs : R.Reads n vs s m) (hg : Closing g := by decide) :
    R.Reads n vs (s ++ g) (m ++ plain g) := by
  rw [← List.append_nil vs]
  exact R.append hs (R.inert hg.1) (Or.inr (Or.inr hg.2))

/-- Two texts around one that starts and ends with a separator. -/
theorem joined (g : String) (hs : R.Reads n vs s m) (ht : R.Reads (n + vs.length) ws t k)
    (hg : Separating g := by decide) : R.Reads n (vs ++ ws) (s ++ (g ++ t)) (m ++ (plain g ++ k)) :=
  R.append hs (opened g ht ⟨hg.1, hg.2.2⟩) (Or.inr (Or.inr (hg.follows_append t)))

/-- Text that can follow any other reads as marked text. -/
def Trails (R : Reading dialect) (n : Nat) (vs : List Value) (s : String) (m : Marked) : Prop :=
  R.Reads n vs s m ∧ Follows s

/-- Text before one that can follow it. -/
theorem followed (hs : R.Reads n vs s m) (ht : R.Trails (n + vs.length) ws t k) :
    R.Reads n (vs ++ ws) (s ++ t) (m ++ k) :=
  R.append hs ht.1 (Or.inr (Or.inr ht.2))

theorem Trails.append (hs : R.Trails n vs s m) (ht : R.Trails (n + vs.length) ws t k) :
    R.Trails n (vs ++ ws) (s ++ t) (m ++ k) :=
  ⟨followed hs.1 ht, Follows.append hs.2 ht.2⟩

/-- Values whose placeholders no text names are bound all the same. -/
theorem silent (hs : R.Reads n vs "" []) (ht : R.Reads (n + vs.length) ws t k) : R.Reads n (vs ++ ws) t k := by
  simpa using R.append hs ht (Or.inl rfl)

theorem isEmpty_eq (hs : R.Reads n vs s m) : s.isEmpty = m.isEmpty := by
  rw [Bool.eq_iff_iff, String.isEmpty_iff, List.isEmpty_iff]
  exact R.eq_empty_iff hs

theorem eq_empty (hs : R.Reads n vs s m) (he : m.isEmpty = true) : s = "" ∧ m = [] := by
  have hm := List.isEmpty_iff.mp he
  exact ⟨(R.eq_empty_iff hs).mpr hm, hm⟩

theorem parenthesized (hs : R.Reads n vs s m) :
    R.Reads n vs (BoundSql.parenthesized s) (Marked.parenthesized m) := by
  have h := closed ")" (opened "(" hs)
  simpa only [BoundSql.parenthesized, Marked.parenthesized, toString] using h

theorem labeled (hs : R.Reads n vs s m) {label : Option String} (hl : ∀ l ∈ label, R.Name l) :
    R.Reads n vs (BoundSql.labeled s label) (Marked.labeled m label) := by
  cases label with
  | none => exact hs
  | some l =>
    have h := joined " AS " hs (R.name (hl l rfl))
    simpa only [BoundSql.labeled, Marked.labeled, toString, List.append_nil, String.append_assoc,
      List.append_assoc] using h

theorem qualified {table : Option String} {column : String} (ht : ∀ name ∈ table, R.Name name)
    (hc : R.Name column) :
    R.Reads n [] (BoundSql.qualified table column) (plain (BoundSql.qualified table column)) := by
  cases table with
  | none => exact R.name hc
  | some name =>
    have h := joined "." (n := n) (R.name (ht name rfl)) (R.name hc)
    simpa only [BoundSql.qualified, toString, plain, String.toList_append, List.map_append, List.append_nil,
      String.append_assoc, List.append_assoc] using h

/-- A clause can follow any text. -/
theorem clause (keyword : String) (hs : R.Reads n vs s m) (hk : Inert keyword := by decide) :
    R.Trails n vs (BoundSql.clause keyword s) (Marked.clause keyword m) := by
  refine ⟨?_, follows_clause keyword s⟩
  unfold BoundSql.clause Marked.clause
  rw [isEmpty_eq hs]
  split
  · rename_i he
    obtain ⟨rfl, rfl⟩ := eq_empty hs he
    exact hs
  · have h := opened " " (joined " " (R.inert hk) hs)
    simpa only [toString, List.nil_append, String.append_assoc, List.append_assoc] using h

/-! ### Lists of text -/

/-- Each text reads as its marked text, with the values of the whole list shared out from left to right. -/
inductive Each (R : Reading dialect) : Nat → List Value → List String → List Marked → Prop
  /-- Values whose placeholders no text names may be left over. -/
  | nil {n : Nat} {vs : List Value} : R.Reads n vs "" [] → Each R n vs [] []
  | cons {n : Nat} {vs ws : List Value} {s : String} {m : Marked} {ss : List String} {ms : List Marked} :
    R.Reads n vs s m → Each R (n + vs.length) ws ss ms → Each R n (vs ++ ws) (s :: ss) (m :: ms)

namespace Each
variable {ss : List String} {ms : List Marked}

theorem silent (hs : R.Reads n vs "" []) (ht : Each R (n + vs.length) ws ss ms) :
    Each R n (vs ++ ws) ss ms := by
  cases ht with
  | nil h => exact nil (Reading.silent hs h)
  | cons h ht =>
    rw [← List.append_assoc]
    exact cons (Reading.silent hs h) (by rwa [List.length_append, ← Nat.add_assoc])

theorem isEmpty_eq (h : Each R n vs ss ms) : ss.isEmpty = ms.isEmpty := by
  cases h <;> rfl

/-- Names as a list. -/
theorem names {ss : List String} (h : ∀ s ∈ ss, R.Name s) : Each R n [] ss (ss.map plain) := by
  induction ss with
  | nil => exact nil empty
  | cons s ss ih =>
    rw [← List.append_nil []]
    exact cons (R.name (h s List.mem_cons_self)) (ih fun t ht => h t (List.mem_cons_of_mem _ ht))

theorem separated (g : String) (hg : Separating g) (h : Each R n vs ss ms) :
    R.Reads n vs (g.intercalate ss) (Marked.separated g ms) := by
  induction h with
  | nil h => exact h
  | cons hs ht ih =>
    cases ht with
    | nil hr =>
      have h := followed hs ⟨hr, by decide⟩
      simpa [Marked.separated] using h
    | cons hr ht =>
      rw [String.intercalate_cons_cons, Marked.separated, List.intercalate_cons_cons]
      have h := joined g hs ih hg
      simpa only [Marked.separated, String.append_assoc, List.append_assoc] using h

theorem commaList (h : Each R n vs ss ms) : R.Reads n vs (BoundSql.commaList ss) (Marked.commaList ms) :=
  h.separated ", " (by decide)

end Each

/-- The clause of a page, with a blank before it, can follow any text. -/
theorem page (g lead : String) (h : R.Reads n vs (lead ++ t) m) (hl : " " ++ g = lead := by decide)
    (hg : g ≠ "" := by decide) :
    R.Trails n vs (if (g ++ t).isEmpty then "" else " " ++ (g ++ t)) m := by
  have he : ¬ (g ++ t).isEmpty = true := by simp [hg]
  refine ⟨?_, follows_page _⟩
  rwa [if_neg he, ← String.append_assoc, hl]

/-- The right-hand side of a condition reads as marked text, or neither is there. -/
def Right (R : Reading dialect) (n : Nat) (vs : List Value) : Option String → Option Marked → Prop
  | some s, some m => R.Reads n vs s m
  | none, none => vs = []
  | _, _ => False

theorem Right.cases {right : Option String} {marked : Option Marked} (h : R.Right n vs right marked) :
    (right = none ∧ marked = none ∧ vs = []) ∨
      ∃ s m, right = some s ∧ marked = some m ∧ R.Reads n vs s m := by
  rcases right with _ | s <;> rcases marked with _ | m
  · exact Or.inl ⟨rfl, rfl, h⟩
  · exact absurd h id
  · exact absurd h id
  · exact Or.inr ⟨s, m, rfl, rfl, h⟩

end Reading

/-! ### Compilation

Every construct binds its own arguments from the position where it starts, so that what follows it starts
behind them: the position is that of the induction hypotheses, and no other part of the cursor matters. -/

open Compile (Binds)
variable {dialect : Dialect} (R : Reading dialect) (n : Nat)

theorem reads_bindValue (value : Value) :
    Binds dialect.style n (Compile.bindValue value) [value] fun s => R.Reads n [value] s [.argument value] := by
  intro b c s hb hy
  obtain ⟨hc, rfl⟩ := Binds.bindValue value hb hy
  exact ⟨hc, R.token n value⟩

theorem reads_bindValues (values : List Value) :
    ∀ n, Binds dialect.style n (values.mapM Compile.bindValue) values
      fun ss => Reading.Each R n values ss (values.map fun value => [.argument value]) := by
  induction values with
  | nil =>
    intro n
    exact .pure (.nil R.empty)
  | cons value values ih =>
    intro n
    rw [List.mapM_cons]
    exact .cons_bind (reads_bindValue R n value) fun s hs =>
      .map (ih (n + 1)) fun ss hss => .cons hs hss

theorem RawSql.reads (raw : RawSql) (h : R.Raw raw) :
    Binds dialect.style n (Compile.splice raw) raw.args
      fun s => R.Reads n raw.args s (raw.written dialect) := by
  intro b c s hb hy
  obtain ⟨hc, hr⟩ := Binds.splice raw hb hy
  exact ⟨hc, R.raw h hr⟩

theorem Operator.reads (operator : Operator) (value : Value) :
    Binds dialect.style n (operator.compileLiteral value) (operator.arguments value)
      fun s => R.Right n (operator.arguments value) s (operator.written value) := by
  unfold Operator.compileLiteral Operator.written Operator.arguments
  by_cases hn : operator.isNullCheck = true
  · simp only [hn, if_true]
    cases Operand.isNull (.literal value) with
    | false => exact .throw
    | true => exact .pure rfl
  by_cases hl : operator.isList = true
  · simp only [hn, hl, if_true]
    cases value with
    | array items =>
      cases items with
      | nil => exact .throw
      | cons item items =>
        exact .map (reads_bindValues R (item :: items) n) fun ss hss => Reading.parenthesized hss.commaList
    | _ => exact .throw
  by_cases hp : operator.isLike = true
  · simp only [hn, hl, hp, if_true]
    cases value with
    | string pattern => exact .map (reads_bindValue R n _) fun s hs => hs
    | _ => exact .throw
  · simp only [hn, hl, hp]
    exact .map (reads_bindValue R n value) fun s hs => hs

theorem Dialect.limitOffset_reads (unlimited : Option String) (hu : ∀ all ∈ unlimited, Inert all)
    (take skip : Option Nat) :
    Binds dialect.style n (limitOffset unlimited take skip) ((take.toList ++ skip.toList).map .ofNat) fun s =>
      R.Trails n ((take.toList ++ skip.toList).map .ofNat) (if s.isEmpty then "" else " " ++ s)
        (writtenLimitOffset unlimited take skip) := by
  rcases take with _ | take <;> rcases skip with _ | skip
  · exact .pure ⟨Reading.empty, by decide⟩
  · refine .bind_nil (reads_bindValue R n (.ofNat skip)) fun offset ho => ?_
    cases unlimited with
    | none =>
      refine .pure (Reading.page "OFFSET " " OFFSET " ?_)
      exact Reading.opened " OFFSET " ho
    | some all =>
      refine .pure ?_
      simp only [toString, String.append_assoc]
      refine Reading.page "LIMIT " " LIMIT " ?_
      have h := Reading.opened " LIMIT " (Reading.joined " OFFSET " (R.inert (hu all rfl)) ho)
      simp only [writtenLimitOffset, List.append_assoc]
      exact h
  · refine .map (reads_bindValue R n (.ofNat take)) fun limit hl => ?_
    refine Reading.page "LIMIT " " LIMIT " ?_
    exact Reading.opened " LIMIT " hl
  · refine .cons_bind (reads_bindValue R n (.ofNat take)) fun limit hl =>
      .map (reads_bindValue R _ (.ofNat skip)) fun offset ho => ?_
    simp only [toString, String.append_assoc]
    refine Reading.page "LIMIT " " LIMIT " ?_
    have h := Reading.opened " LIMIT " (Reading.joined " OFFSET " hl ho)
    simp only [writtenLimitOffset, List.append_assoc]
    exact h

theorem Dialect.offsetFetch_reads (take skip : Option Nat) :
    Binds dialect.style n (offsetFetch take skip) ((skip.toList ++ take.toList).map .ofNat) fun s =>
      R.Trails n ((skip.toList ++ take.toList).map .ofNat) (if s.isEmpty then "" else " " ++ s)
        (writtenOffsetFetch take skip) := by
  rcases take with _ | take <;> rcases skip with _ | skip
  · exact .pure ⟨Reading.empty, by decide⟩
  · refine .map (reads_bindValue R n (.ofNat skip)) fun offset ho => ?_
    simp only [toString, String.append_assoc]
    refine Reading.page "OFFSET " " OFFSET " ?_
    have h := Reading.opened " OFFSET " (Reading.closed " ROWS" ho)
    rw [writtenOffsetFetch, List.append_assoc]
    exact h
  · refine .nil_bind (.pure (p := (· = "0")) rfl) fun offset ho =>
      .map (reads_bindValue R n (.ofNat take)) fun count hc => ?_
    subst ho
    simp only [toString, String.append_assoc]
    refine Reading.page "OFFSET " " OFFSET " ?_
    have h := Reading.opened " OFFSET 0 ROWS FETCH NEXT " (Reading.closed " ROWS ONLY" hc)
    rw [writtenOffsetFetch, List.append_assoc]
    exact h
  · refine .cons_bind (reads_bindValue R n (.ofNat skip)) fun offset ho =>
      .map (reads_bindValue R _ (.ofNat take)) fun count hc => ?_
    simp only [toString, String.append_assoc]
    refine Reading.page "OFFSET " " OFFSET " ?_
    have hr := Reading.closed " ROWS ONLY" hc
    have h := Reading.opened " OFFSET " (Reading.joined " ROWS FETCH NEXT " ho hr)
    simp only [writtenOffsetFetch, List.append_assoc]
    exact h

theorem Dialect.page_reads (take skip : Option Nat) :
    Binds dialect.style n (dialect.page take skip) (dialect.pageArguments take skip) fun s =>
      R.Trails n (dialect.pageArguments take skip) (if s.isEmpty then "" else " " ++ s)
        (dialect.writtenPage take skip) := by
  cases dialect with
  | mssql => exact offsetFetch_reads R n take skip
  | mysql => exact limitOffset_reads R n _ (inert_unlimited? mysql) take skip
  | sqlite => exact limitOffset_reads R n _ (inert_unlimited? sqlite) take skip
  | postgres => exact limitOffset_reads R n _ (inert_unlimited? postgres) take skip

/-- The keys of a SELECT as its ORDER BY; a page may need one where there are no keys. -/
theorem SortKey.reads_order (sorts : List SortKey) (paged : Bool) {keys : List String}
    (h : R.Each n (sortsArguments dialect sorts) keys (sortsWritten dialect sorts)) :
    R.Trails n (sortsArguments dialect sorts)
      (clause "ORDER BY"
        (if keys.isEmpty && paged && dialect.pagesNeedOrder then "(SELECT NULL)" else commaList keys))
      (if sorts.isEmpty && paged && dialect.pagesNeedOrder then plain " ORDER BY (SELECT NULL)"
        else Marked.clause "ORDER BY" (Marked.commaList (sortsWritten dialect sorts))) := by
  have hs : (sortsWritten dialect sorts).isEmpty = sorts.isEmpty := by
    cases sorts with
    | nil => rfl
    | cons key rest => cases key; rfl
  rw [h.isEmpty_eq, hs]
  split
  · rename_i hc
    cases sorts with
    | cons key rest => simp at hc
    | nil => exact ⟨R.inert (by decide), by decide⟩
  · exact Reading.clause "ORDER BY" h.commaList

mutual

theorem Subquery.reads (n : Nat) : (query : Subquery) → query.All R.Name R.Raw →
    Binds dialect.style n (query.compile dialect) (query.arguments dialect)
      fun s => R.Reads n (query.arguments dialect) s (query.written dialect)
  | .select s, h => by
    rw [Subquery.compile, Subquery.arguments, Subquery.written]
    exact s.reads n h
  | .raw raw, h => by
    rw [Subquery.compile, Subquery.arguments, Subquery.written]
    exact raw.reads R n h

theorem Field.reads (n : Nat) (refuse : FieldDefect → SqlError) : (field : Field) → field.All R.Name R.Raw →
    Binds dialect.style n (field.expression dialect refuse) (field.arguments dialect)
      fun s => R.Reads n (field.arguments dialect) s (field.written dialect)
  | ⟨table, column, some query, label⟩, h => by
    rw [Field.expression_of_query]
    simp only [Field.All, Subquery.AllOptional] at h
    cases table <;> cases column
    · rw [Field.arguments, Field.written]
      exact .map (query.reads n h.2.2.2) fun s hs => Reading.parenthesized hs
    all_goals exact .throw
  | ⟨table, column, none, label⟩, h => by
    rw [Field.expression_of_column]
    simp only [Field.All] at h
    cases hc : columnText table column false with
    | error defect => exact .throw
    | ok sql =>
      obtain ⟨name, rfl, rfl⟩ := columnText_eq_ok hc
      rw [Field.arguments, Field.written]
      exact .pure (Reading.qualified (fun t ht => h.1 t (named?_eq_some ht)) (h.2.1 name rfl))

theorem Field.reads_all (n : Nat) : (fields : List Field) → Field.AllIn R.Name R.Raw fields →
    Binds dialect.style n (compileFields dialect fields) (fieldsArguments dialect fields)
      fun ss => R.Each n (fieldsArguments dialect fields) ss (fieldsWritten dialect fields)
  | [], _ => by
    rw [compileFields, fieldsArguments, fieldsWritten]
    exact .pure (.nil Reading.empty)
  | field :: rest, h => by
    rw [compileFields, fieldsArguments, fieldsWritten, Field.compile_eq]
    exact .bind (.map (field.reads n .invalidField h.1) fun s hs => Reading.labeled hs (Field.All.label h.1))
      fun s hs => .map (Field.reads_all _ rest h.2) fun ss hss => .cons hs hss

theorem Field.reads_groups (n : Nat) : (fields : List Field) → Field.AllIn R.Name R.Raw fields →
    Binds dialect.style n (groupFields dialect fields) (fieldsArguments dialect fields)
      fun ss => R.Each n (fieldsArguments dialect fields) ss (groupsWritten dialect fields)
  | [], _ => by
    rw [groupFields, fieldsArguments, groupsWritten]
    exact .pure (.nil Reading.empty)
  | field :: rest, h => by
    rw [groupFields, fieldsArguments, groupsWritten]
    exact .bind (field.reads n .invalidField h.1) fun s hs =>
      .map (Field.reads_groups _ rest h.2) fun ss hss => .cons hs hss

theorem Table.reads (n : Nat) : (table : Table) → table.All R.Name R.Raw →
    Binds dialect.style n (table.compile dialect) (table.arguments dialect)
      fun s => R.Reads n (table.arguments dialect) s (table.written dialect)
  | ⟨name, some query, label⟩, h => by
    simp only [Table.All, Subquery.AllOptional] at h
    rw [Table.compile_of_query, Table.arguments, Table.written]
    cases named? name with
    | some name => exact .throw
    | none =>
      exact .map (query.reads n h.2.2) fun s hs =>
        Reading.labeled (Reading.parenthesized hs) (Table.All.label h)
  | ⟨name, none, label⟩, h => by
    simp only [Table.All] at h
    rw [Table.compile_of_name, Table.arguments, Table.written]
    cases hn : named? name with
    | none => exact .throw
    | some name' =>
      obtain rfl := named?_eq_some hn
      exact .pure (Reading.labeled (R.name (h.1 name' rfl)) h.2.1)

theorem Join.reads (n : Nat) : (join : Join) → join.All R.Name R.Raw →
    Binds dialect.style n (join.compile dialect)
      (join.table.arguments dialect ++ join.condition.arguments dialect)
      fun s => R.Reads n (join.table.arguments dialect ++ join.condition.arguments dialect) (" " ++ s)
        (plain " " ++ plain join.kind.sql ++ plain " " ++ join.table.written dialect ++ plain " ON " ++
          join.condition.written dialect true)
  | ⟨kind, table, condition⟩, h => by
    simp only [Join.All] at h
    rw [Join.compile]
    refine .bind (table.reads n h.1) fun s hs => .bind_nil (condition.reads _ true h.2) fun t ht =>
      .require fun _ => .pure ?_
    have h := Reading.opened " " (Reading.joined " " (R.inert kind.inert_sql) (Reading.joined " ON " hs ht))
    simpa only [toString, List.nil_append, String.append_assoc, List.append_assoc] using h

theorem Join.reads_all (n : Nat) : (joins : List Join) → Join.AllIn R.Name R.Raw joins →
    Binds dialect.style n (compileJoins dialect joins) (joinsArguments dialect joins) fun ss =>
      R.Trails n (joinsArguments dialect joins) (String.join (ss.map fun s => " " ++ s))
        (joinsWritten dialect joins)
  | [], _ => by
    rw [compileJoins, joinsArguments, joinsWritten]
    exact .pure ⟨Reading.empty, by decide⟩
  | ⟨kind, table, condition⟩ :: rest, h => by
    rw [compileJoins, joinsArguments, joinsWritten]
    refine .bind (Join.reads n ⟨kind, table, condition⟩ h.1) fun s hs =>
      .map (Join.reads_all _ rest h.2) fun ss hss => ?_
    rw [List.map_cons, String.join_cons]
    exact .append ⟨hs, follows_blank _⟩ hss

theorem Operand.reads (n : Nat) (operator : Operator) : (value : Option Operand) →
    Operand.AllOptional R.Name R.Raw value →
    Binds dialect.style n (Operand.compile dialect operator value) (Operand.arguments dialect operator value)
      fun s => R.Right n (Operand.arguments dialect operator value) s (Operand.written dialect operator value)
  | some (.column table column), h => by
    simp only [Operand.AllOptional, Operand.All] at h
    rw [Operand.compile_column, Operand.arguments, Operand.written]
    exact .pure (Reading.qualified h.1 h.2)
  | some (.query query), h => by
    simp only [Operand.AllOptional, Operand.All] at h
    rw [Operand.compile_query, Operand.arguments, Operand.written]
    split
    · exact .throw
    split
    · exact .throw
    split
    · exact .throw
    · exact .map (query.reads n h) fun s hs => Reading.parenthesized hs
  | some (.literal value), _ => by
    rw [Operand.compile_literal, Operand.arguments, Operand.written]
    exact operator.reads R n value
  | some .null, _ => by
    rw [Operand.compile_null, Operand.arguments, Operand.written]
    exact operator.reads R n .null
  | none, _ => by
    rw [Operand.compile_none, Operand.arguments, Operand.written]
    exact operator.reads R n .null

theorem Filter.reads (n : Nat) (root : Bool) : (filter : Filter) → filter.All R.Name R.Raw →
    Binds dialect.style n (filter.compile dialect root) (filter.arguments dialect)
      fun s => R.Reads n (filter.arguments dialect) s (filter.written dialect root)
  | .condition field operator value, h => by
    simp only [Filter.All] at h
    rw [Filter.compile, Filter.arguments, Filter.written]
    refine .bind (field.reads n _ h.1) fun left hl =>
      .bind_nil (Operand.reads _ operator value h.2) fun right hr => ?_
    rcases hr.cases with ⟨rfl, hm, ha⟩ | ⟨right, m, rfl, hm, hr⟩
    · have h := Reading.joined " " hl (R.inert (dialect.inert_operatorSql operator))
      rw [hm, ha]
      refine .pure ?_
      simpa only [toString, List.append_nil, String.append_assoc, List.append_assoc] using h
    · have h := Reading.joined " " hl (Reading.joined " " (R.inert (dialect.inert_operatorSql operator)) hr)
      rw [hm]
      refine .pure ?_
      simpa only [toString, List.nil_append, String.append_assoc, List.append_assoc] using h
  | .group logic filters, h => by
    simp only [Filter.All] at h
    rw [Filter.compile, Filter.arguments, Filter.written]
    refine .bind_nil (Filter.reads_all n filters h) fun ss hss => .require fun _ => .pure ?_
    have hj := hss.separated s!" {logic.sql} " logic.separating_sql
    cases root with
    | false => exact Reading.parenthesized hj
    | true => exact hj
  | .raw raw, h => by
    rw [Filter.compile, Filter.arguments, Filter.written]
    refine .map (raw.reads R n h) fun s hs => ?_
    have hs := R.trim hs
    rw [Reading.isEmpty_eq hs]
    split
    · exact hs
    · exact Reading.parenthesized hs

theorem Filter.reads_all (n : Nat) : (filters : List Filter) → Filter.AllIn R.Name R.Raw filters →
    Binds dialect.style n (compileFilters dialect filters) (filtersArguments dialect filters)
      fun ss => R.Each n (filtersArguments dialect filters) ss (filtersWritten dialect filters)
  | [], _ => by
    rw [compileFilters, filtersArguments, filtersWritten]
    exact .pure (.nil Reading.empty)
  | filter :: rest, h => by
    rw [compileFilters, filtersArguments, filtersWritten]
    refine .bind (filter.reads n false h.1) fun s hs => .map (Filter.reads_all _ rest h.2) fun ss hss => ?_
    rw [Reading.isEmpty_eq (R.trim hs)]
    split
    · -- A blank filter leaves no text, but what it binds stays bound.
      rename_i he
      have hs := R.trim hs
      obtain ⟨ht, hm⟩ := Reading.eq_empty hs he
      rw [ht, hm] at hs
      exact .silent hs hss
    · exact .cons (R.trim hs) hss

theorem Filter.reads_optional (n : Nat) : (filter : Option Filter) → Filter.AllOptional R.Name R.Raw filter →
    Binds dialect.style n (compileOptional dialect filter) (optionalArguments dialect filter)
      fun s => R.Reads n (optionalArguments dialect filter) s (optionalWritten dialect filter)
  | none, _ => by
    rw [compileOptional, optionalArguments, optionalWritten]
    exact .pure Reading.empty
  | some filter, h => by
    rw [compileOptional, optionalArguments, optionalWritten]
    exact filter.reads n true h

theorem SortKey.reads_all (n : Nat) : (sorts : List SortKey) → SortKey.AllIn R.Name R.Raw sorts →
    Binds dialect.style n (compileSorts dialect sorts) (sortsArguments dialect sorts)
      fun ss => R.Each n (sortsArguments dialect sorts) ss (sortsWritten dialect sorts)
  | [], _ => by
    rw [compileSorts, sortsArguments, sortsWritten]
    exact .pure (.nil Reading.empty)
  | ⟨field, direction⟩ :: rest, h => by
    simp only [SortKey.AllIn] at h
    rw [compileSorts, sortsArguments, sortsWritten]
    refine .bind (field.reads n .invalidField h.1) fun s hs =>
      .map (SortKey.reads_all _ rest h.2) fun ss hss => .cons ?_ hss
    have h := Reading.joined " " hs (R.inert direction.inert_sql)
    simpa only [toString, List.append_nil, String.append_assoc, List.append_assoc] using h

theorem Select.reads (n : Nat) : (select : Select) → select.All R.Name R.Raw →
    Binds dialect.style n (select.compile dialect) (select.arguments dialect)
      fun s => R.Reads n (select.arguments dialect) s (select.written dialect)
  | ⟨distinct, fields, none, joins, filter, groupBy, having, sorts, take, skip, label⟩, _ => by
    rw [Select.compile.eq_def]
    exact .require fun _ => .throw
  | ⟨distinct, fields, some table, joins, filter, groupBy, having, sorts, take, skip, label⟩, h => by
    simp only [Select.All, Table.AllOptional] at h
    obtain ⟨hfields, htable, hjoins, hfilter, hgroup, hhaving, hsorts, -⟩ := h
    rw [Select.compile.eq_def, Select.arguments, Select.written, tableArguments, tableWritten]
    refine .require fun _ => .bind (Field.reads_all n fields hfields) fun columns hcolumns =>
      .bind (table.reads _ htable) fun source hsource => .bind (Join.reads_all _ joins hjoins) fun js hjs =>
      .bind (Filter.reads_optional _ filter hfilter) fun condition hcondition =>
      .bind (Field.reads_groups _ groupBy hgroup) fun groups hgroups =>
      .bind (Filter.reads_optional _ having hhaving) fun grouped hgrouped =>
      .bind (SortKey.reads_all _ sorts hsorts) fun keys hkeys =>
      .map (Dialect.page_reads R _ take skip) fun page hpage => ?_
    have hdistinct : Inert (if distinct then "DISTINCT " else "") := by cases distinct <;> decide
    have hwhere := Reading.clause "WHERE" hcondition
    have hby := Reading.clause "GROUP BY" hgroups.commaList
    have hhaving := Reading.clause "HAVING" hgrouped
    have horder := SortKey.reads_order R _ sorts (take.isSome || skip.isSome) hkeys
    have htail := hjs.append (hwhere.append (hby.append (hhaving.append (horder.append hpage))))
    have hbody := Reading.joined " FROM " hcolumns.commaList (Reading.followed hsource htail)
    have hmeets : ∀ t, Meets (if distinct then "DISTINCT " else "") t := by
      intro t
      cases distinct
      · exact Or.inl rfl
      · exact Or.inr (Or.inl (by decide))
    have h := Reading.opened "SELECT " (Reading.behind _ hbody hdistinct (hmeets _))
    simpa only [List.nil_append, String.append_assoc, List.append_assoc] using h

end

/-! ### Statements that write -/

theorem reads_targetTable (table : String) (h : R.Name table) :
    Binds dialect.style n (targetTable table) []
      fun s => R.Reads n [] s (Marked.trim (plain table)) := by
  unfold targetTable
  dsimp only
  split
  · exact .throw
  · exact .pure (R.trim (R.name h))

theorem reads_rows (width : Nat) (rows : List (List Value)) : ∀ n index,
    Binds dialect.style n (compileRows width index rows) rows.flatten fun ss =>
      R.Each n rows.flatten ss
        (rows.map fun row =>
          Marked.parenthesized (Marked.commaList (row.map fun value => [.argument value]))) := by
  induction rows with
  | nil =>
    intro n index
    exact .pure (.nil Reading.empty)
  | cons row rest ih =>
    intro n index
    exact .require fun _ => .bind (reads_bindValues R row n) fun ss hss =>
      .map (ih _ (index + 1)) fun ts hts => .cons (Reading.parenthesized hss.commaList) hts

theorem Insert.reads (insert : Insert) (h : insert.All R.Name) :
    Binds dialect.style n insert.compile insert.rows.flatten
      fun s => R.Reads n insert.rows.flatten s insert.written := by
  refine .nil_bind (reads_targetTable R n insert.table h.1) fun table ht => .require fun _ =>
    .require fun _ => .map (reads_rows R _ insert.rows n 0) fun rows hrows => ?_
  have hc : R.Reads n [] (commaList insert.columns) (Marked.commaList (insert.columns.map plain)) :=
    (Reading.Each.names h.2).commaList
  have h := Reading.opened "INSERT INTO " (Reading.joined " (" ht (Reading.joined ") VALUES " hc
    hrows.commaList))
  simpa only [Insert.written, toString, List.nil_append, String.append_assoc, List.append_assoc] using h

theorem Assignment.reads (assignment : Assignment) (h : assignment.All R.Name R.Raw) :
    Binds dialect.style n (assignment.compile dialect)
      (Operand.arguments dialect .eq (some assignment.value)) fun s =>
      R.Reads n (Operand.arguments dialect .eq (some assignment.value)) s (assignment.written dialect) := by
  refine .map (Operand.reads R n .eq (some assignment.value) h.2) fun right hr => ?_
  unfold Assignment.written
  have hv : R.Reads n (Operand.arguments dialect .eq (some assignment.value)) (right.getD "")
      ((Operand.written dialect .eq (some assignment.value)).getD []) := by
    rcases hr.cases with ⟨rfl, hm, ha⟩ | ⟨right, m, rfl, hm, hr⟩
    · rw [hm, ha]
      exact Reading.empty
    · rw [hm]
      exact hr
  have h := Reading.joined " = " (R.name h.1) hv
  simpa only [List.nil_append, String.append_assoc, List.append_assoc] using h

theorem Assignment.reads_all (set : List Assignment) (h : ∀ a ∈ set, a.All R.Name R.Raw) : ∀ n,
    Binds dialect.style n (set.mapM (Assignment.compile dialect))
      (set.flatMap fun a => Operand.arguments dialect .eq (some a.value)) fun ss =>
      R.Each n (set.flatMap fun a => Operand.arguments dialect .eq (some a.value)) ss
        (set.map (Assignment.written dialect)) := by
  induction set with
  | nil =>
    intro n
    exact .pure (.nil Reading.empty)
  | cons assignment rest ih =>
    intro n
    rw [List.mapM_cons]
    exact .bind (assignment.reads R n (h _ List.mem_cons_self)) fun s hs =>
      .map (ih (fun a ha => h a (List.mem_cons_of_mem _ ha)) _) fun ss hss => .cons hs hss

theorem Update.reads (update : Update) (h : update.All R.Name R.Raw) :
    Binds dialect.style n (update.compile dialect) ((Statement.update update).arguments dialect)
      fun s => R.Reads n ((Statement.update update).arguments dialect) s (update.written dialect) := by
  refine .nil_bind (reads_targetTable R n update.table h.1) fun table ht => .require fun _ =>
    .bind (Assignment.reads_all R update.set h.2.1 n) fun assignments ha =>
    .map (Filter.reads_optional R _ update.filter h.2.2) fun condition hc => ?_
  have hset := Reading.followed ha.commaList (Reading.clause "WHERE" hc)
  have h := Reading.opened "UPDATE " (Reading.joined " SET " ht hset)
  simpa only [Statement.arguments, Update.written, toString, List.nil_append, String.append_assoc,
    List.append_assoc] using h

theorem Delete.reads (delete : Delete) (h : delete.All R.Name R.Raw) :
    Binds dialect.style n (delete.compile dialect) (optionalArguments dialect delete.filter)
      fun s => R.Reads n (optionalArguments dialect delete.filter) s (delete.written dialect) := by
  refine .nil_bind (reads_targetTable R n delete.table h.1) fun table ht =>
    .map (Filter.reads_optional R _ delete.filter h.2) fun condition hc => ?_
  have h := Reading.opened "DELETE FROM " (Reading.followed ht (Reading.clause "WHERE" hc))
  simpa only [Delete.written, toString, List.nil_append, String.append_assoc, List.append_assoc] using h

/-- A statement binds its arguments in the order of its text, which reads as the statement with its
    arguments in place. -/
theorem Statement.reads (statement : Statement) (h : statement.All R.Name R.Raw) :
    Binds dialect.style n (statement.compile dialect) (statement.arguments dialect)
      fun s => R.Reads n (statement.arguments dialect) s (statement.written dialect) := by
  cases statement with
  | select s => exact s.reads R n h
  | insert s => exact s.reads R n h
  | update s => exact s.reads R n h
  | delete s => exact s.reads R n h
  | raw raw => exact raw.reads R n h

/-- The query of a statement, read at the first index. -/
theorem Statement.reads_toQuery {statement : Statement} {q : Query} (h : statement.All R.Name R.Raw)
    (hq : statement.toQuery dialect = .ok q) :
    q.args = statement.arguments dialect ∧
      R.Reads dialect.style.start q.args q.sql (statement.written dialect) := by
  obtain ⟨c, hy, hargs⟩ := Compile.toQuery_eq_ok.mp hq
  obtain ⟨rfl, hr⟩ := statement.reads R dialect.style.start h rfl hy
  have ha : q.args = statement.arguments dialect := by simpa [Bindings.fresh] using hargs
  exact ⟨ha, ha ▸ hr⟩

end BoundSql
