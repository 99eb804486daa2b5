import BoundSql.Proofs.Conjoined

/-! Statements that filters are added to. A draft is a statement of which one clause takes filters: the rows of a
    SELECT, UPDATE or DELETE, or the groups of a SELECT. Its text is that of its condition between a head and a
    tail that do not depend on it (`Draft.compile_eq`), and a draft without faults has those of its condition
    (`Draft.fault?_withCondition`). So filters that are added one after another are checked, bound and combined
    like the conditions of one AND (`Draft.toQuery_joined`). -/

namespace BoundSql
open Compile (yields_bind Built)
open Json (Value)
open Grammar (parse combine)
open Placeholder (indexBound)
variable {dialect : Dialect} {check : RawSql → Option SqlError}

/-! ### The pieces of a SELECT -/

namespace Select

/-- A SELECT up to its sources. -/
def opening (dialect : Dialect) (select : Select) : Compile String := do
  Compile.require (!select.fields.isEmpty) .fieldsRequired
  match select.table with
  | none => throw .tableRequired
  | some table => do
    let columns ← compileFields dialect select.fields
    let source ← table.compile dialect
    let joins ← compileJoins dialect select.joins
    return "SELECT " ++ (if select.distinct then "DISTINCT " else "") ++ commaList columns
      ++ " FROM " ++ source ++ String.join (joins.map fun join => " " ++ join)

/-- The order of a SELECT and its page. -/
def closing (dialect : Dialect) (select : Select) : Compile String := do
  let keys ← compileSorts dialect select.sorts
  let page ← dialect.page select.take select.skip
  let paged := select.take.isSome || select.skip.isSome
  let order :=
    if keys.isEmpty && paged && dialect.pagesNeedOrder then "(SELECT NULL)" else commaList keys
  return clause "ORDER BY" order ++ (if page.isEmpty then "" else " " ++ page)

theorem compile_eq (select : Select) : select.compile dialect = do
    let opening ← select.opening dialect
    let filter ← compileOptional dialect select.filter
    let groups ← grouping dialect select.groupBy
    let having ← compileOptional dialect select.having
    let closing ← select.closing dialect
    return opening ++ clause "WHERE" filter ++ clause "GROUP BY" groups ++ clause "HAVING" having ++ closing := by
  obtain ⟨distinct, fields, table, joins, filter, groupBy, having, sorts, take, skip, label⟩ := select
  rw [Select.compile.eq_def]
  cases table with
  | none =>
    simp only [opening, bind_assoc]
    rfl
  | some table =>
    simp only [opening, grouping, closing, bind_assoc, pure_bind, map_eq_pure_bind, String.append_assoc]

theorem opening_built (select : Select) : Built (select.opening dialect) := by
  obtain ⟨distinct, fields, table, joins, filter, groupBy, having, sorts, take, skip, label⟩ := select
  rw [opening]
  cases table with
  | none => exact .bind (.require _ _) fun _ => .throw
  | some table =>
    exact .bind (.require _ _) fun _ => .bind (Field.built_all fields) fun _ => .bind table.built fun _ =>
      .map (Join.built_all joins)

theorem closing_built (select : Select) : Built (select.closing dialect) :=
  .bind (SortKey.built_all select.sorts) fun _ => .map (Dialect.page_built select.take select.skip)

theorem grouping_built (fields : List Field) : Built (grouping dialect fields) :=
  .map (Field.built_groups fields)

end Select

/-- A statement and the clause of it that filters are added to. -/
inductive Draft where
  | selectWhere (select : Select)
  | selectHaving (select : Select)
  | updateWhere (update : Update)
  | deleteWhere (delete : Delete)

namespace Draft

def statement : Draft → Statement
  | selectWhere s | selectHaving s => .select s
  | updateWhere s => .update s
  | deleteWhere s => .delete s

/-- The filter that the clause has so far. -/
def condition? : Draft → Option Filter
  | selectWhere s => s.filter
  | selectHaving s => s.having
  | updateWhere s => s.filter
  | deleteWhere s => s.filter

def keyword : Draft → String
  | selectHaving _ => "HAVING"
  | selectWhere _ | updateWhere _ | deleteWhere _ => "WHERE"

/-- The step that adds a filter. -/
def addFilter : Draft → Filter → Draft
  | selectWhere s, filter => selectWhere (s.addFilter filter)
  | selectHaving s, filter => selectHaving (s.addHaving filter)
  | updateWhere s, filter => updateWhere (s.addFilter filter)
  | deleteWhere s, filter => deleteWhere (s.addFilter filter)

def withCondition (condition : Option Filter) : Draft → Draft
  | selectWhere s => selectWhere { s with filter := condition }
  | selectHaving s => selectHaving { s with having := condition }
  | updateWhere s => updateWhere { s with filter := condition }
  | deleteWhere s => deleteWhere { s with filter := condition }

/-- The text before the clause. -/
def head (dialect : Dialect) : Draft → Compile String
  | selectWhere s => s.opening dialect
  | selectHaving s => do
    let opening ← s.opening dialect
    let filter ← compileOptional dialect s.filter
    let groups ← grouping dialect s.groupBy
    return opening ++ clause "WHERE" filter ++ clause "GROUP BY" groups
  | updateWhere s => do
    let table ← targetTable s.table
    Compile.require (!s.set.isEmpty) .valuesRequired
    let assignments ← s.set.mapM (Assignment.compile dialect)
    return s!"UPDATE {table} SET {commaList assignments}"
  | deleteWhere s => do return s!"DELETE FROM {← targetTable s.table}"

/-- The text behind the clause. -/
def tail (dialect : Dialect) : Draft → Compile String
  | selectWhere s => do
    let groups ← grouping dialect s.groupBy
    let having ← compileOptional dialect s.having
    let closing ← s.closing dialect
    return clause "GROUP BY" groups ++ clause "HAVING" having ++ closing
  | selectHaving s => s.closing dialect
  | updateWhere _ | deleteWhere _ => return ""

variable {draft : Draft} {condition : Option Filter}

theorem addFilter_eq (draft : Draft) (filter : Filter) :
    draft.addFilter filter = draft.withCondition (some (Filter.join draft.condition? filter)) := by
  cases draft <;> rfl

/-- The steps that add filters one after another join them. -/
theorem foldl_addFilter {first : Filter} {rest : List Filter} (h : draft.condition? = none) :
    (first :: rest).foldl addFilter draft = draft.withCondition (some (first.joined rest)) := by
  have hnext : ∀ (rest : List Filter) (filter : Filter), rest.foldl addFilter (draft.withCondition (some filter)) =
      draft.withCondition (some (filter.joined rest)) := by
    intro rest
    induction rest with
    | nil => exact fun _ => rfl
    | cons next rest ih =>
      intro filter
      have hagain : (draft.withCondition (some filter)).addFilter next =
          draft.withCondition (some (filter.andAlso next)) := by
        cases draft <;> rfl
      rw [List.foldl_cons, hagain]
      exact ih _
  rw [List.foldl_cons, addFilter_eq, h]
  exact hnext rest first

/-! ### Text -/

/-- The condition of a draft is compiled between its head and its tail. -/
theorem compile_eq (draft : Draft) : draft.statement.compile dialect = do
    let head ← draft.head dialect
    let condition ← compileOptional dialect draft.condition?
    let tail ← draft.tail dialect
    return head ++ clause draft.keyword condition ++ tail := by
  cases draft with
  | selectWhere s =>
    rw [statement, Statement.compile, Select.compile_eq]
    simp only [head, tail, condition?, keyword, bind_assoc, pure_bind, String.append_assoc]
  | selectHaving s =>
    rw [statement, Statement.compile, Select.compile_eq]
    simp only [head, tail, condition?, keyword, bind_assoc, pure_bind, String.append_assoc]
  | updateWhere s =>
    simp only [statement, Statement.compile, Update.compile, head, tail, condition?, keyword, bind_assoc, pure_bind,
      String.append_empty]
  | deleteWhere s =>
    simp only [statement, Statement.compile, Delete.compile, head, tail, condition?, keyword, bind_assoc, pure_bind,
      String.append_empty]

theorem head_built (draft : Draft) : Built (draft.head dialect) := by
  cases draft with
  | selectWhere s => exact s.opening_built
  | selectHaving s =>
    exact .bind s.opening_built fun _ => .bind (Filter.built_optional s.filter) fun _ =>
      .map (Select.grouping_built s.groupBy)
  | updateWhere s =>
    exact .bind (built_targetTable s.table) fun _ => .bind (.require _ _) fun _ => .map (.mapM Assignment.built s.set)
  | deleteWhere s => exact .map (built_targetTable s.table)

theorem tail_built (draft : Draft) : Built (draft.tail dialect) := by
  cases draft with
  | selectWhere s =>
    exact .bind (Select.grouping_built s.groupBy) fun _ => .bind (Filter.built_optional s.having) fun _ =>
      .map s.closing_built
  | selectHaving s => exact s.closing_built
  | updateWhere s => exact .pure
  | deleteWhere s => exact .pure

/-! ### The condition -/

theorem condition?_withCondition (draft : Draft) : (draft.withCondition condition).condition? = condition := by
  cases draft <;> rfl

theorem keyword_withCondition (draft : Draft) : (draft.withCondition condition).keyword = draft.keyword := by
  cases draft <;> rfl

theorem head_withCondition (draft : Draft) : (draft.withCondition condition).head dialect = draft.head dialect := by
  cases draft <;> rfl

theorem tail_withCondition (draft : Draft) : (draft.withCondition condition).tail dialect = draft.tail dialect := by
  cases draft <;> rfl

/-- The phrases before the condition. -/
def before : Draft → List Phrase
  | selectWhere s => s.fields.map (.field .invalidField) ++ (s.table.toList.map .table ++ s.joins.map .join)
  | selectHaving s =>
    s.fields.map (.field .invalidField) ++ (s.table.toList.map .table ++ (s.joins.map .join ++
      (s.filter.toList.map (.filter true) ++ s.groupBy.map (.field .invalidField))))
  | updateWhere s => s.set.map fun a => .operand .eq (some a.value)
  | deleteWhere _ => []

/-- The phrases behind the condition. -/
def behind : Draft → List Phrase
  | selectWhere s =>
    s.groupBy.map (.field .invalidField) ++ (s.having.toList.map (.filter true) ++
      s.sorts.map fun key => .field .invalidField key.field)
  | selectHaving s => s.sorts.map fun key => .field .invalidField key.field
  | updateWhere _ | deleteWhere _ => []

/-- What is wrong with a draft before its phrases are looked at. -/
def refusal? (check : RawSql → Option SqlError) : Draft → Option SqlError
  | selectWhere s | selectHaving s => (Phrase.select s).refusal? check
  | updateWhere s => (Statement.update s).refusal?
  | deleteWhere s => (Statement.delete s).refusal?

theorem fault?_statement (draft : Draft) : draft.statement.fault? check = (draft.refusal? check).or
    ((draft.before ++ (draft.condition?.toList.map (Phrase.filter true) ++ draft.behind)).findSome?
      (Phrase.fault? check)) := by
  have hselect : ∀ s : Select, (Statement.select s).fault? check =
      ((Phrase.select s).refusal? check).or ((Phrase.select s).children.findSome? (Phrase.fault? check)) := by
    intro s
    rw [Statement.fault?, Statement.refusal?, Statement.children, findSome?_cons_or, List.findSome?_nil,
      Option.none_or, Option.or_none, Phrase.fault?_eq, Phrase.vacancy?, Option.or_none]
  cases draft with
  | selectWhere s =>
    rw [statement, hselect]
    simp only [refusal?, before, behind, condition?, Phrase.children, List.append_assoc]
  | selectHaving s =>
    rw [statement, hselect]
    simp only [refusal?, before, behind, condition?, Phrase.children, List.append_assoc]
  | updateWhere s =>
    simp only [statement, Statement.fault?, Statement.children, refusal?, before, behind, condition?, List.append_nil]
  | deleteWhere s =>
    simp only [statement, Statement.fault?, Statement.children, refusal?, before, behind, condition?, List.append_nil,
      List.nil_append]

/-- A draft that has no fault without a condition has that of its condition. -/
theorem fault?_withCondition {filter : Filter} (h : draft.condition? = none)
    (hsound : draft.statement.fault? check = none) :
    (draft.withCondition (some filter)).statement.fault? check = (Phrase.filter true filter).fault? check := by
  have hbefore : (draft.withCondition (some filter)).before = draft.before := by cases draft <;> rfl
  have hbehind : (draft.withCondition (some filter)).behind = draft.behind := by cases draft <;> rfl
  have hrefusal : (draft.withCondition (some filter)).refusal? check = draft.refusal? check := by cases draft <;> rfl
  rw [fault?_statement, h, Option.or_eq_none_iff, List.findSome?_append, Option.or_eq_none_iff] at hsound
  obtain ⟨hnone, hhead, htail⟩ := hsound
  rw [fault?_statement, hrefusal, hbefore, hbehind, condition?_withCondition, hnone, Option.none_or,
    List.findSome?_append, hhead, Option.none_or]
  simp only [Option.toList, List.map_cons, List.map_nil, List.singleton_append, List.nil_append] at htail ⊢
  rw [findSome?_cons_or, htail, Option.or_none]

/-- The walk over the condition predicts how a draft is compiled that has no fault without it. -/
theorem predicts_withCondition (h : draft.condition? = none)
    (hsound : draft.statement.fault? (RawSql.fault? dialect.style) = none) (filter : Filter) :
    (Regime.bounded dialect).Predicts dialect.style.start
      ((draft.withCondition (some filter)).statement.compile dialect)
      ((draft.withCondition (some filter)).statement.arguments dialect)
      ((Phrase.filter true filter).fault? (RawSql.fault? dialect.style)) := by
  rw [← fault?_withCondition h hsound]
  exact Statement.predicts (Statement.all_true _) _

theorem length_arguments_le (draft : Draft) (filter : Filter) : (filter.arguments dialect).length ≤
    ((draft.withCondition (some filter)).statement.arguments dialect).length := by
  cases draft <;>
    simp only [withCondition, statement, Statement.arguments, Select.arguments, optionalArguments,
      List.length_append] <;> omega

end Draft

/-! ### Filters on their own -/

namespace Filter
variable {filter : Filter} {filters : List Filter} {q : Query} {queries : List Query}

/-- The query of a filter that stands at the root of a text of its own. -/
def toQuery (dialect : Dialect) (filter : Filter) : Except SqlError Query :=
  Compile.toQuery dialect.style (filter.compile dialect true)

theorem of_toQuery (h : filter.toQuery dialect = .ok q) :
    (Phrase.filter true filter).fault? (RawSql.fault? dialect.style) = none ∧ q.args = filter.arguments dialect ∧
      Text.isBlank q.sql = filter.isBlankRaw := by
  obtain ⟨c, hy, hargs⟩ := Compile.toQuery_eq_ok.mp h
  obtain ⟨hfault, rfl⟩ := (filter.predicts true _).ok rfl hy
  exact ⟨hfault, by rw [hargs, Bindings.toList_extend_fresh], (isBlank_of_yields hy).1⟩

theorem of_forall_toQuery (h : List.Forall₂ (fun filter q => filter.toQuery dialect = .ok q) filters queries) :
    (∀ filter ∈ filters, (Phrase.filter true filter).fault? (RawSql.fault? dialect.style) = none) ∧
      queries.flatMap Query.args = filters.flatMap (arguments dialect) ∧
      ((∃ q ∈ queries, Text.isBlank q.sql = false) → ∃ filter ∈ filters, filter.isBlankRaw = false) := by
  induction h with
  | nil => simp
  | @cons filter q filters queries hq _ ih =>
    obtain ⟨hfault, hargs, hblank⟩ := of_toQuery hq
    obtain ⟨hfaults, hflat, htext⟩ := ih
    refine ⟨List.forall_mem_cons.mpr ⟨hfault, hfaults⟩, by rw [List.flatMap_cons, List.flatMap_cons, hargs, hflat], ?_⟩
    rintro ⟨q', hmem, hq'⟩
    rcases List.mem_cons.mp hmem with rfl | hmem
    · exact ⟨filter, List.mem_cons_self, hblank ▸ hq'⟩
    · obtain ⟨f, hf, hleft⟩ := htext ⟨q', hmem, hq'⟩
      exact ⟨f, List.mem_cons_of_mem _ hf, hleft⟩

/-- Filters without a fault can be compiled one after another, where there is room for their arguments. -/
theorem exists_texts {n : Nat} {b : Bindings} (hb : b.cursor = ⟨dialect.style, n⟩)
    (hfaults : ∀ filter ∈ filters, (Phrase.filter true filter).fault? (RawSql.fault? dialect.style) = none)
    (hroom : n + (filters.flatMap (arguments dialect)).length ≤ indexBound) :
    ∃ texts, (filters.mapM (compile dialect true)).Yields b texts (b.extend (filters.flatMap (arguments dialect))) := by
  have hpredicts : (Regime.bounded dialect).Predicts n (filters.mapM (compile dialect true))
      (filters.flatMap (arguments dialect))
      (filters.findSome? fun filter => (Phrase.filter true filter).fault? (RawSql.fault? dialect.style)) :=
    .mapM (fun filter _ n => filter.predicts true n) n
  rw [List.findSome?_eq_none_iff.mpr hfaults] at hpredicts
  exact hpredicts.exists_yields hb hroom

end Filter

/-! ### Filters that are added -/

namespace Draft
variable {draft : Draft} {filter : Filter} {d : Bindings} {sql : String}

/-- A draft binds the arguments of its condition between those of its head and of its tail. -/
theorem exists_pieces
    (hy : ((draft.withCondition (some filter)).statement.compile dialect).Yields (.fresh dialect.style) sql d) :
    ∃ (head condition tail : String) (before behind : List Value),
      (draft.head dialect).Yields (.fresh dialect.style) head ((Bindings.fresh dialect.style).extend before) ∧
      (filter.compile dialect true).Yields ((Bindings.fresh dialect.style).extend before) condition
        ((Bindings.fresh dialect.style).extend (before ++ filter.arguments dialect)) ∧
      (draft.tail dialect).Yields ((Bindings.fresh dialect.style).extend (before ++ filter.arguments dialect)) tail
        ((Bindings.fresh dialect.style).extend (before ++ filter.arguments dialect ++ behind)) ∧
      sql = head ++ clause draft.keyword condition ++ tail ∧
      d = (Bindings.fresh dialect.style).extend (before ++ filter.arguments dialect ++ behind) := by
  rw [compile_eq, head_withCondition, tail_withCondition, keyword_withCondition, condition?_withCondition,
    compileOptional] at hy
  obtain ⟨head, b, hhead, hy⟩ := yields_bind.mp hy
  obtain ⟨condition, c, hcondition, hy⟩ := yields_bind.mp hy
  obtain ⟨tail, d', htail, hy⟩ := yields_bind.mp hy
  obtain ⟨rfl, rfl⟩ := Compile.yields_pure.mp hy
  obtain ⟨before, rfl⟩ := draft.head_built.grows.of_yields hhead
  obtain ⟨-, rfl⟩ := (filter.predicts true _).ok rfl hcondition
  obtain ⟨behind, rfl⟩ := draft.tail_built.grows.of_yields htail
  simp only [Bindings.extend_extend, List.append_assoc] at hcondition htail ⊢
  exact ⟨head, condition, tail, before, behind, hhead, hcondition, htail, rfl, rfl⟩

/-- Filters are added one after another to a draft that can be compiled without them. If one of them cannot be
    compiled on its own, neither can the statement, and its error is that of the first such filter, unless that
    is a hollow group which takes in filters with text. If all can be compiled on their own and one has text,
    the statement can be compiled too. It binds their arguments in the order in which they were added, in the
    place of its condition, and the condition means that all those hold which have text, each as it reads at the
    root of its own text there, unless a fragment is itself in disorder. -/
theorem toQuery_joined {filters : List Filter} {q₀ : Query} (hne : filters ≠ []) (hnone : draft.condition? = none)
    (hrest : draft.statement.toQuery dialect = .ok q₀)
    (hroom : dialect.style.start + ((filters.foldl addFilter draft).statement.arguments dialect).length ≤ indexBound) :
    (∀ (earlier later : List Filter) (filter : Filter) (e : SqlError), filters = earlier ++ filter :: later →
      (∀ f ∈ earlier, ∃ q, f.toQuery dialect = .ok q) → filter.toQuery dialect = .error e →
      (earlier = [] → filter.isHollow = true → ∀ f ∈ later, f.isBlankRaw = true) →
        (filters.foldl addFilter draft).statement.toQuery dialect = .error e) ∧
    ∀ queries : List Query, List.Forall₂ (fun filter q => filter.toQuery dialect = .ok q) filters queries →
      (∃ q ∈ queries, Text.isBlank q.sql = false) →
        ∃ (head condition tail : String) (before behind : List Value) (texts : List String) (ts : List Fragments),
          let bound := queries.flatMap Query.args
          let b := (Bindings.fresh dialect.style).extend before
          let c := (Bindings.fresh dialect.style).extend (before ++ bound)
          let d := (Bindings.fresh dialect.style).extend (before ++ bound ++ behind)
          (draft.head dialect).Yields (.fresh dialect.style) head b ∧ (draft.tail dialect).Yields c tail d ∧
          (filters.foldl addFilter draft).statement.toQuery dialect =
            .ok ⟨head ++ s!" {draft.keyword} {condition}" ++ tail, before ++ bound ++ behind⟩ ∧
          Text.isBlank condition = false ∧
          (filters.mapM (Filter.compile dialect true)).Yields b texts c ∧
          (fragmentsOf dialect filters).Yields b ts c ∧
          (Fragments.LegibleIn ts → ∀ v, (parse condition.toList).value v =
            combine .and ((texts.filter fun sql => !Text.isBlank sql).map fun sql => (parse sql.toList).value v)) := by
  obtain ⟨first, rest, rfl⟩ := List.exists_cons_of_ne_nil hne
  rw [foldl_addFilter hnone] at hroom ⊢
  have hsound : draft.statement.fault? (RawSql.fault? dialect.style) = none :=
    (Statement.predicts (R := .bounded dialect) draft.statement.all_true _).eq_none_of_toQuery hrest
  have hpredicts := predicts_withCondition hnone hsound (first.joined rest)
  constructor
  · intro earlier later filter e hlist hearlier he hhollow
    have hlength : dialect.style.start + (filter.arguments dialect).length ≤ indexBound := by
      have hle := Nat.le_trans (Nat.add_le_add_left (draft.length_arguments_le (first.joined rest)) _) hroom
      rw [Filter.arguments_joined, hlist] at hle
      simp only [List.flatMap_append, List.flatMap_cons, List.length_append] at hle
      omega
    refine (hpredicts.toQuery_eq_error hroom).mpr
      (Filter.fault?_joined_of_fault (fun _ => RawSql.fault?_of_isBlank) hlist ?_ ?_ hhollow)
    · intro f hf
      obtain ⟨q, hq⟩ := hearlier f hf
      exact (Filter.of_toQuery hq).1
    · exact ((filter.predicts true _).toQuery_eq_error hlength).mp he
  · intro queries hqueries htext
    obtain ⟨hfaults, hflat, hleft⟩ := Filter.of_forall_toQuery hqueries
    have hfilter := hleft htext
    rw [Filter.fault?_joined_of_none hfaults hfilter] at hpredicts
    obtain ⟨sql, hy⟩ := hpredicts.exists_yields (b := .fresh dialect.style) rfl hroom
    obtain ⟨head, condition, tail, before, behind, hhead, hcondition, htail, rfl, hbound⟩ := exists_pieces hy
    obtain ⟨hblank, hempty⟩ := Filter.isBlank_of_yields hcondition
    rw [Filter.isBlankRaw_joined hfilter] at hblank hempty
    rw [Filter.arguments_joined] at hcondition htail hbound
    have hplace : dialect.style.start + before.length +
        ((first :: rest).flatMap (Filter.arguments dialect)).length ≤ indexBound := by
      rw [Bindings.extend_injective hbound] at hroom
      simp only [List.length_append] at hroom
      omega
    obtain ⟨texts, htexts⟩ := Filter.exists_texts (b := (Bindings.fresh dialect.style).extend before) rfl hfaults hplace
    obtain ⟨-, ts, hts, hvalue⟩ := Filter.value_joined hcondition htexts hfilter
    rw [Bindings.extend_extend] at htexts hts
    refine ⟨head, condition, tail, before, behind, texts, ts, ?_⟩
    rw [hflat]
    refine ⟨hhead, htail, ?_, hblank, htexts, hts, hvalue⟩
    rw [clause, hempty, if_neg Bool.false_ne_true, hbound] at hy
    rw [Statement.toQuery, Compile.toQuery_eq, hy]
    simp only [Bindings.toList_extend_fresh]

/-! ### Sessions to delete -/

/-- Sessions that filters are still to be added to. -/
def sessions : Draft := .deleteWhere { table := "sessions" }

/-- Raw SQL with a connective, a group of OR and a condition. -/
def expired : List Filter :=
  [.raw { sql := "a = $1 OR b", args := [.ofNat 4] },
    .group .or [.condition { column := some "c" } .isNull none, .condition { column := some "d" } .isNull none],
    .condition { column := some "expires_at" } .lt (some (.literal (.ofNat 7)))]

theorem sessions_expired :
    (expired.foldl addFilter sessions).statement.toQuery .postgres =
        .ok ⟨"DELETE FROM sessions WHERE (a = $1 OR b) AND (c IS NULL OR d IS NULL) AND expires_at < $2",
          [.ofNat 4, .ofNat 7]⟩ ∧
      ∀ v, (parse "(a = $1 OR b) AND (c IS NULL OR d IS NULL) AND expires_at < $2".toList).value v =
        combine .and [(parse "a = $1 OR b".toList).value v, (parse "c IS NULL OR d IS NULL".toList).value v,
          (parse "expires_at < $2".toList).value v] := by
  have hne : expired ≠ [] := List.cons_ne_nil _ _
  have hrest : sessions.statement.toQuery .postgres = .ok ⟨"DELETE FROM sessions", []⟩ := rfl
  have hroom : Dialect.postgres.style.start +
      ((expired.foldl addFilter sessions).statement.arguments .postgres).length ≤ indexBound := by decide
  have hqueries : List.Forall₂ (fun filter q => Filter.toQuery .postgres filter = .ok q) expired
      [⟨"a = $1 OR b", [.ofNat 4]⟩, ⟨"c IS NULL OR d IS NULL", []⟩, ⟨"expires_at < $1", [.ofNat 7]⟩] :=
    .cons rfl (.cons rfl (.cons rfl .nil))
  obtain ⟨head, condition, tail, before, behind, texts, ts, hhead, htail, hq, -, htexts, hts, hvalue⟩ :=
    (toQuery_joined hne rfl hrest hroom).2 _ hqueries ⟨_, List.mem_cons_self, by decide⟩
  -- Nothing is bound before the condition, and no text stands behind it.
  have hhead' : (sessions.head .postgres).Yields (.fresh Dialect.postgres.style) "DELETE FROM sessions"
      ((Bindings.fresh Dialect.postgres.style).extend []) := rfl
  obtain ⟨rfl, hb⟩ := hhead.unique hhead'
  obtain rfl := Bindings.extend_injective hb
  obtain ⟨rfl, -⟩ : tail = "" ∧ _ := Compile.yields_pure.mp htail
  have hquery : (expired.foldl addFilter sessions).statement.toQuery .postgres =
      .ok ⟨"DELETE FROM sessions WHERE (a = $1 OR b) AND (c IS NULL OR d IS NULL) AND expires_at < $2",
        [.ofNat 4, .ofNat 7]⟩ := rfl
  obtain rfl : condition = "(a = $1 OR b) AND (c IS NULL OR d IS NULL) AND expires_at < $2" := by
    rw [hquery, Except.ok.injEq, Query.mk.injEq] at hq
    have hsql : "DELETE FROM sessions WHERE " ++ "(a = $1 OR b) AND (c IS NULL OR d IS NULL) AND expires_at < $2" =
        "DELETE FROM sessions WHERE " ++ condition := by
      rw [← String.append_empty (s := "DELETE FROM sessions WHERE " ++ condition)]
      exact hq.1
    exact ((String.append_right_inj _).mp hsql).symm
  have htexts' : (expired.mapM (Filter.compile .postgres true)).Yields (.fresh Dialect.postgres.style)
      ["a = $1 OR b", "c IS NULL OR d IS NULL", "expires_at < $2"]
      ((Bindings.fresh Dialect.postgres.style).extend [.ofNat 4, .ofNat 7]) := rfl
  have hts' : (fragmentsOf .postgres expired).Yields (.fresh Dialect.postgres.style)
      [.raw "a = $1 OR b", .group .or [.condition "c IS NULL", .condition "d IS NULL"], .condition "expires_at < $2"]
      ((Bindings.fresh Dialect.postgres.style).extend [.ofNat 4, .ofNat 7]) := rfl
  obtain ⟨rfl, -⟩ := htexts.unique htexts'
  obtain ⟨rfl, -⟩ := hts.unique hts'
  have hcondition : ∀ {text : String}, Grammar.plain text.toList = true → Grammar.balanced text.toList = true →
      (Fragments.condition text).Legible := fun hp hb => ⟨hp, hb⟩
  have hraw : (Fragments.raw "a = $1 OR b").Legible := by
    rw [Fragments.Legible]
    decide
  refine ⟨hquery, hvalue ⟨hraw, ?_, hcondition (by decide) (by decide), trivial⟩⟩
  exact ⟨hcondition (by decide) (by decide), hcondition (by decide) (by decide), trivial⟩

/-- A hollow group that is added first is not refused once another filter is added, and a condition whose column
    holds a connective is taken apart by the AND that is put behind it. -/
theorem not_always_conjunction :
    (¬ ∀ (dialect : Dialect) (draft : Draft) (q₀ : Query) (filters : List Filter) (filter : Filter) (e : SqlError),
      draft.condition? = none → draft.statement.toQuery dialect = .ok q₀ →
      filters.head? = some filter → filter.toQuery dialect = .error e →
        (filters.foldl addFilter draft).statement.toQuery dialect = .error e) ∧
    ¬ ∀ (dialect : Dialect) (draft : Draft) (q₀ : Query) (filters : List Filter) (texts : List String)
      (condition : String) (b c : Bindings) (v : String → Grammar.Truth),
      draft.condition? = none → draft.statement.toQuery dialect = .ok q₀ →
      (filters.mapM (Filter.compile dialect true)).Yields b texts c →
      (∀ sql ∈ texts, Text.isBlank sql = false) →
      (compileOptional dialect (filters.foldl addFilter draft).condition?).Yields b condition c →
        (parse condition.toList).value v = combine .and (texts.map fun sql => (parse sql.toList).value v) := by
  constructor
  · intro h
    have he := h .postgres sessions ⟨"DELETE FROM sessions", []⟩
      [.group .and [], .condition { column := some "expires_at" } .lt (some (.literal (.ofNat 7)))] (.group .and [])
      .filtersRequired rfl rfl rfl rfl
    have hq : ([.group .and [], .condition { column := some "expires_at" } .lt (some (.literal (.ofNat 7)))].foldl
        addFilter sessions).statement.toQuery .postgres =
        .ok ⟨"DELETE FROM sessions WHERE expires_at < $1", [.ofNat 7]⟩ := rfl
    cases hq.symm.trans he
  · intro h
    have hv := h .postgres sessions ⟨"DELETE FROM sessions", []⟩
      [.condition { column := some "a OR b" } .isNull none, .condition { column := some "c" } .isNull none]
      ["a OR b IS NULL", "c IS NULL"] "a OR b IS NULL AND c IS NULL" (.fresh Dialect.postgres.style)
      (.fresh Dialect.postgres.style) (fun text => if text = "a" then .true else .false) rfl rfl rfl (by decide) rfl
    have hjoined : parse "a OR b IS NULL AND c IS NULL".toList =
        .binary .or (.leaf "a") (.binary .and (.leaf "b IS NULL") (.leaf "c IS NULL")) := by
      rw [Grammar.parse_eq]
      rfl
    have hfirst : parse "a OR b IS NULL".toList = .binary .or (.leaf "a") (.leaf "b IS NULL") := by
      rw [Grammar.parse_eq]
      rfl
    have hsecond : parse "c IS NULL".toList = .leaf "c IS NULL" := by
      rw [Grammar.parse_eq]
      rfl
    rw [List.map_cons, List.map_cons, List.map_nil, hjoined, hfirst, hsecond] at hv
    revert hv
    decide

end Draft
end BoundSql
