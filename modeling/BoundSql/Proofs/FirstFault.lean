import BoundSql.Proofs.Faults

/-! First faults. A compilation fails just where the walk over the statement finds a fault, and with that fault
    (`Statement.predicts`). `Predicts` says so of any computation, from any place in a text, and has a rule for
    each way in which computations are put together; the phrases then follow one kind after the other. -/

namespace BoundSql
open Json (Value)
open Compile (yields_bind)
open Placeholder (indexBound)
variable {dialect : Dialect}

/-! ### Predictions -/

/-- Conditions under which raw SQL is refused for nothing but its own fault. -/
structure Regime (dialect : Dialect) where
  /-- What raw SQL there is. -/
  Raw : RawSql → Prop
  /-- Whether the placeholders before a position have room. -/
  Room : Nat → Prop
  room_of_add {n k : Nat} : Room (n + k) → Room n
  refused {n : Nat} {raw : RawSql} {token : String} : Raw raw → Room (n + raw.args.length) →
    Placeholder.renumber dialect.style n raw.args.length raw.sql = .error token →
      raw.fault? dialect.style = some (.invalidPlaceholder token)

/-- As many placeholders as there are indices. -/
def Regime.bounded (dialect : Dialect) : Regime dialect where
  Raw _ := True
  Room n := n ≤ indexBound
  room_of_add h := Nat.le_trans (Nat.le_add_right _ _) h
  refused _ hroom hr := RawSql.fault?_of_renumber_error hroom hr

/-- No raw SQL. -/
def Regime.structured (dialect : Dialect) : Regime dialect where
  Raw _ := False
  Room _ := True
  room_of_add _ := trivial
  refused h := h.elim

/-- Markers that have no index. -/
def Regime.fixed (h : dialect.style.isIndexed = false) : Regime dialect where
  Raw _ := True
  Room _ := True
  room_of_add _ := trivial
  refused _ _ hr := by
    rw [Placeholder.renumber, if_neg (by simp [h])] at hr
    cases hr

variable {R : Regime dialect}

/-- From position `n` the computation fails with the fault, if there is one, and otherwise succeeds and binds
    `values`. -/
structure Regime.Predicts {α : Type} (R : Regime dialect) (n : Nat) (m : Compile α) (values : List Value)
    (fault : Option SqlError) : Prop where
  ok {b c : Bindings} {a : α} : b.cursor = ⟨dialect.style, n⟩ → m.Yields b a c → fault = none ∧ c = b.extend values
  error {b c : Bindings} {e : SqlError} : b.cursor = ⟨dialect.style, n⟩ → R.Room (n + values.length) →
    m.outcome b = (.error e, c) → fault = some e

namespace Regime.Predicts
variable {α β : Type} {n : Nat} {m : Compile α} {f : α → Compile β} {vs ws : List Value} {x y : Option SqlError}

protected theorem pure {a : α} : R.Predicts n (pure a) [] none where
  ok _ hy := ⟨rfl, by rw [Bindings.extend_nil]; exact (Compile.yields_pure.mp hy).2⟩
  error _ _ h := by cases h

protected theorem throw {e : SqlError} : R.Predicts n (throw e : Compile α) vs (some e) where
  ok _ hy := absurd hy Compile.yields_throw
  error _ _ h := by
    cases h
    rfl

/-- The fault of a sequence is that of its first part, or else that of what follows on its result. -/
theorem bind_yields (hm : R.Predicts n m vs x)
    (hf : ∀ {b c a}, b.cursor = ⟨dialect.style, n⟩ → m.Yields b a c → R.Predicts (n + vs.length) (f a) ws y) :
    R.Predicts n (m >>= f) (vs ++ ws) (x.or y) where
  ok {b c b'} hb hy := by
    obtain ⟨a, c, hya, hyb⟩ := yields_bind.mp hy
    obtain ⟨rfl, rfl⟩ := hm.ok hb hya
    obtain ⟨rfl, rfl⟩ := (hf hb hya).ok (by rw [Bindings.extend_cursor, hb, Cursor.advance]) hyb
    exact ⟨rfl, Bindings.extend_extend b vs ws⟩
  error {b c e} hb hroom h := by
    rw [List.length_append, ← Nat.add_assoc] at hroom
    rw [Compile.outcome_bind] at h
    rcases hm' : m.outcome b with ⟨e' | a, c'⟩
    · rw [hm'] at h
      cases h
      rw [hm.error hb (R.room_of_add hroom) hm', Option.some_or]
    · rw [hm'] at h
      obtain ⟨rfl, rfl⟩ := hm.ok hb hm'
      rw [Option.none_or]
      exact (hf hb hm').error (by rw [Bindings.extend_cursor, hb, Cursor.advance]) hroom h

protected theorem bind (hm : R.Predicts n m vs x) (hf : ∀ a, R.Predicts (n + vs.length) (f a) ws y) :
    R.Predicts n (m >>= f) (vs ++ ws) (x.or y) :=
  hm.bind_yields fun _ _ => hf _

/-- Computations that cannot fail any more. -/
theorem bind_none (hm : R.Predicts n m vs x) (hf : ∀ a, R.Predicts (n + vs.length) (f a) ws none) :
    R.Predicts n (m >>= f) (vs ++ ws) x := by
  rw [← @Option.or_none _ x]
  exact hm.bind hf

/-- Computations that neither fail nor bind any more. -/
theorem bind_nil (hm : R.Predicts n m vs x) (hf : ∀ a, R.Predicts (n + vs.length) (f a) [] none) :
    R.Predicts n (m >>= f) vs x := by
  rw [← List.append_nil vs]
  exact hm.bind_none hf

/-- Computations that end with a function of what they have computed. -/
theorem map {k : α → β} (hm : R.Predicts n m vs x) : R.Predicts n (do return k (← m)) vs x :=
  hm.bind_nil fun _ => .pure

theorem of_map {k : α → β} (h : R.Predicts n (do return k (← m)) vs x) : R.Predicts n m vs x where
  ok hb hy := h.ok hb (yields_bind.mpr ⟨_, _, hy, Compile.yields_pure.mpr ⟨rfl, rfl⟩⟩)
  error hb hroom he := h.error hb hroom (by rw [Compile.outcome_bind, he])

/-- What is refused where a test succeeds. -/
theorem reject {test : Bool} {e : SqlError} {f : Unit → Compile β} (hf : R.Predicts n (f ()) vs y) :
    R.Predicts n (Compile.require (!test) e >>= f) vs (if test then some e else y) := by
  cases test
  · exact hf
  · exact .throw

protected theorem bindValue (v : Value) : R.Predicts n (Compile.bindValue v) [v] none where
  ok _ hy := ⟨rfl, (Compile.yields_bindValue.mp hy).2⟩
  error _ _ h := by
    rw [Compile.outcome_bindValue] at h
    cases h

protected theorem splice {raw : RawSql} (hraw : R.Raw raw) :
    R.Predicts n (Compile.splice raw) raw.args (raw.fault? dialect.style) where
  ok hb hy := by
    obtain ⟨hr, hc⟩ := Compile.yields_splice.mp hy
    rw [hb] at hr
    exact ⟨RawSql.fault?_of_renumber hr, hc⟩
  error hb hroom h := by
    rw [Compile.outcome_splice, hb] at h
    split at h
    · cases h
    · rename_i hr
      cases h
      exact R.refused hraw hroom hr

protected theorem mapM {args : α → List Value} {fault : α → Option SqlError} {as : List α}
    (h : ∀ a ∈ as, ∀ n, R.Predicts n (f a) (args a) (fault a)) :
    ∀ n, R.Predicts n (as.mapM f) (as.flatMap args) (as.findSome? fault) := by
  induction as with
  | nil => exact fun n => .pure
  | cons a as ih =>
    intro n
    rw [List.mapM_cons, List.flatMap_cons, findSome?_cons_or]
    have hrest := ih fun a ha => h a (List.mem_cons_of_mem _ ha)
    exact (h a List.mem_cons_self n).bind fun _ => (hrest _).map

theorem bindValues (values : List Value) (n : Nat) : R.Predicts n (values.mapM Compile.bindValue) values none := by
  have h := Predicts.mapM (R := R) (fun v (_ : v ∈ values) n => .bindValue v) n
  rwa [List.flatMap_singleton', List.findSome?_eq_none_iff.mpr fun _ _ => rfl] at h

/-- Where there is room, a computation without a fault succeeds. -/
theorem exists_yields {b : Bindings} (h : R.Predicts n m vs none) (hb : b.cursor = ⟨dialect.style, n⟩)
    (hroom : R.Room (n + vs.length)) : ∃ a, m.Yields b a (b.extend vs) := by
  rcases ho : m.outcome b with ⟨e | a, c⟩
  · cases h.error hb hroom ho
  · obtain ⟨-, rfl⟩ := h.ok hb ho
    exact ⟨a, ho⟩

end Regime.Predicts

/-! ### Single phrases -/

theorem Field.expression_of_defect {refuse : FieldDefect → SqlError} {field : Field} {defect : FieldDefect}
    (h : field.defect? = some defect) : field.expression dialect refuse = throw (refuse defect) := by
  obtain ⟨table, column, query, label⟩ := field
  cases query with
  | none =>
    rw [Field.expression_of_column]
    cases column with
    | none =>
      cases table <;> cases h <;> rfl
    | some column =>
      rw [Field.defect?] at h
      split at h
      · rename_i hblank
        cases h
        rw [columnText, if_pos hblank]
      · cases h
  | some query =>
    rw [Field.expression_of_query]
    cases table <;> cases column <;> cases h <;> rfl

/-- A field without a defect is a column or a subquery. -/
theorem Field.expression_of_sound {refuse : FieldDefect → SqlError} {field : Field} (h : field.defect? = none) :
    (field.query = none ∧ ∃ sql, field.expression dialect refuse = pure sql) ∨
      ∃ query, field.query = some query ∧
        field.expression dialect refuse = do return parenthesized (← query.compile dialect) := by
  obtain ⟨table, column, query, label⟩ := field
  cases query with
  | none =>
    refine Or.inl ⟨rfl, ?_⟩
    rw [Field.expression_of_column]
    cases column with
    | none =>
      cases table <;> cases h
    | some column =>
      rw [Field.defect?] at h
      split at h
      · cases h
      · rename_i hblank
        rw [columnText, if_neg hblank]
        exact ⟨_, rfl⟩
  | some query =>
    refine Or.inr ⟨query, rfl, ?_⟩
    rw [Field.expression_of_query]
    cases table <;> cases column <;> cases h
    rfl

theorem Table.compile_of_defect {table : Table} {defect : TableDefect} (h : table.defect? = some defect) :
    table.compile dialect = throw (.invalidTable defect) := by
  obtain ⟨name, query, label⟩ := table
  rw [Table.defect?] at h
  cases query with
  | none =>
    rw [Table.compile_of_name]
    cases hn : named? name <;> rw [hn] at h <;> cases h
    rfl
  | some query =>
    rw [Table.compile_of_query]
    cases hn : named? name <;> rw [hn] at h <;> cases h
    rfl

/-- A table without a defect has a name or is a subquery. -/
theorem Table.compile_of_sound {table : Table} (h : table.defect? = none) :
    (table.query = none ∧ ∃ sql, table.compile dialect = pure sql) ∨
      ∃ query label, table.query = some query ∧
        table.compile dialect = do return labeled (parenthesized (← query.compile dialect)) label := by
  obtain ⟨name, query, label⟩ := table
  rw [Table.defect?] at h
  cases query with
  | none =>
    rw [Table.compile_of_name]
    cases hn : named? name <;> rw [hn] at h <;> cases h
    exact Or.inl ⟨rfl, _, rfl⟩
  | some query =>
    rw [Table.compile_of_query]
    cases hn : named? name <;> rw [hn] at h <;> cases h
    exact Or.inr ⟨query, _, rfl, rfl⟩

theorem Operator.predicts (operator : Operator) (value : Value) (n : Nat) :
    R.Predicts n (operator.compileLiteral value) (operator.arguments value) (operator.literalRefusal? value) := by
  unfold Operator.compileLiteral Operator.arguments Operator.literalRefusal?
  split
  · cases value with
    | null => exact .pure
    | _ => exact .throw
  split
  · cases value with
    | array items =>
      cases items with
      | nil => exact .throw
      | cons item items => exact .map (.bindValues (item :: items) n)
    | _ => exact .throw
  split
  · cases value with
    | string pattern => exact .map (.bindValue _)
    | _ => exact .throw
  · exact .map (.bindValue _)

theorem Dialect.page_predicts (take skip : Option Nat) (n : Nat) :
    R.Predicts n (dialect.page take skip) (dialect.pageArguments take skip) none := by
  have hlimit : ∀ unlimited,
      R.Predicts n (limitOffset unlimited take skip) ((take.toList ++ skip.toList).map .ofNat) none := by
    intro unlimited
    rcases take with _ | take <;> rcases skip with _ | skip
    · exact .pure
    · refine .bind (.bindValue _) fun _ => ?_
      cases unlimited <;> exact .pure
    · exact .map (.bindValue _)
    · exact .bind (.bindValue _) fun _ => .map (.bindValue _)
  cases dialect with
  | mssql =>
    rw [page, pageArguments]
    unfold offsetFetch
    rcases take with _ | take <;> rcases skip with _ | skip
    · exact .pure
    · exact .map (.bindValue _)
    · exact .bind .pure fun _ => .map (.bindValue _)
    · exact .bind (.bindValue _) fun _ => .map (.bindValue _)
  | mysql => exact hlimit mysql.unlimited?
  | sqlite => exact hlimit sqlite.unlimited?
  | postgres => exact hlimit postgres.unlimited?

/-! ### Phrases

The fault of a phrase is predicted from those of its children; there is one case for each kind of phrase. -/

/-- From any place in a text the walk predicts how the phrase is compiled. -/
def Regime.Judges (R : Regime dialect) (phrase : Phrase) : Prop := ∀ n,
  R.Predicts n (phrase.compile dialect) (phrase.arguments dialect) (phrase.fault? (RawSql.fault? dialect.style))

namespace Regime.Judges
variable {α β : Type} {n : Nat}

/-- Phrases that are compiled one after another. -/
theorem mapM {phrase : α → Phrase} {f : α → Compile β} {as : List α}
    (h : ∀ a ∈ as, ∀ n, R.Predicts n (f a) ((phrase a).arguments dialect)
      ((phrase a).fault? (RawSql.fault? dialect.style))) :
    R.Predicts n (as.mapM f) ((as.map phrase).flatMap (Phrase.arguments dialect))
      ((as.map phrase).findSome? (Phrase.fault? (RawSql.fault? dialect.style))) := by
  rw [List.flatMap_map, List.findSome?_map]
  exact Predicts.mapM h n

theorem optional {filter : Option Filter} (h : ∀ f ∈ filter, R.Judges (.filter true f)) :
    R.Predicts n (compileOptional dialect filter)
      ((filter.toList.map (Phrase.filter true)).flatMap (Phrase.arguments dialect))
      ((filter.toList.map (Phrase.filter true)).findSome? (Phrase.fault? (RawSql.fault? dialect.style))) := by
  cases filter with
  | none =>
    rw [compileOptional]
    exact .pure
  | some f =>
    have hf := h f rfl n
    rw [Phrase.compile] at hf
    rw [compileOptional]
    simpa using hf

theorem subquery {query : Subquery} (h : R.Judges query.phrase) :
    R.Predicts n (query.compile dialect) (query.arguments dialect)
      (query.phrase.fault? (RawSql.fault? dialect.style)) := by
  rw [← query.arguments_phrase]
  cases query with
  | select s =>
    rw [Subquery.compile]
    exact h n
  | raw sql =>
    rw [Subquery.compile]
    exact h n

theorem raw {sql : RawSql} (h : R.Raw sql) : R.Judges (.raw sql) := by
  intro n
  rw [Phrase.compile, Phrase.arguments, Phrase.fault?_eq, Phrase.refusal?, Phrase.vacancy?, Phrase.children, List.findSome?_nil,
    Option.or_none, Option.or_none]
  exact .splice h

theorem field {refuse : FieldDefect → SqlError} {f : Field}
    (h : ∀ child ∈ (Phrase.field refuse f).children, R.Judges child) : R.Judges (.field refuse f) := by
  intro n
  rw [Phrase.compile, Phrase.arguments, Phrase.fault?_eq, Phrase.refusal?, Phrase.vacancy?, Option.or_none]
  cases hd : f.defect? with
  | some defect =>
    rw [Field.expression_of_defect hd]
    exact .throw
  | none =>
    obtain ⟨table, column, query, label⟩ := f
    rcases Field.expression_of_sound hd with ⟨rfl, sql, he⟩ | ⟨query, rfl, he⟩
    · rw [he, Field.arguments]
      exact .pure
    · rw [he, Field.arguments]
      have hq := subquery (n := n) (h query.phrase (List.mem_singleton_self _))
      simpa [Phrase.children] using hq.map

theorem table {t : Table} (h : ∀ child ∈ (Phrase.table t).children, R.Judges child) : R.Judges (.table t) := by
  intro n
  rw [Phrase.compile, Phrase.arguments, Phrase.fault?_eq, Phrase.refusal?, Phrase.vacancy?, Option.or_none]
  cases hd : t.defect? with
  | some defect =>
    rw [Table.compile_of_defect hd]
    exact .throw
  | none =>
    obtain ⟨name, query, label⟩ := t
    rcases Table.compile_of_sound hd with ⟨rfl, sql, he⟩ | ⟨query, label', rfl, he⟩
    · rw [he, Table.arguments]
      exact .pure
    · rw [he, Table.arguments]
      have hq := subquery (n := n) (h query.phrase (List.mem_singleton_self _))
      simpa [Phrase.children] using hq.map

theorem operand {operator : Operator} {value : Option Operand}
    (h : ∀ child ∈ (Phrase.operand operator value).children, R.Judges child) : R.Judges (.operand operator value) := by
  intro n
  rw [Phrase.compile, Phrase.arguments, Phrase.fault?_eq, Phrase.refusal?, Phrase.vacancy?, Option.or_none]
  refine Predicts.map ?_
  rcases value with _ | ⟨t, column⟩ | query | value | _
  · rw [Operand.compile_none, Operand.arguments, Operator.refusal?]
    simpa [Phrase.children] using operator.predicts .null n
  · rw [Operand.compile_column]
    exact .pure
  · rw [Operand.compile_query, Operand.arguments, Operator.refusal?]
    split
    · exact .throw
    split
    · exact .throw
    split
    · exact .throw
    · have hq := subquery (n := n) (h query.phrase (List.mem_singleton_self _))
      simpa [Phrase.children] using hq.map
  · rw [Operand.compile_literal, Operand.arguments, Operator.refusal?]
    simpa [Phrase.children] using operator.predicts value n
  · rw [Operand.compile_null, Operand.arguments, Operator.refusal?]
    simpa [Phrase.children] using operator.predicts .null n

theorem join {j : Join} (h : ∀ child ∈ (Phrase.join j).children, R.Judges child) : R.Judges (.join j) := by
  intro n
  obtain ⟨kind, t, condition⟩ := j
  have ht := h (.table t) List.mem_cons_self n
  have hc := h (.filter true condition) (List.mem_cons_of_mem _ (List.mem_singleton_self _))
  rw [Phrase.compile, Phrase.arguments] at ht
  rw [Phrase.compile, Join.compile, Phrase.arguments, Phrase.fault?_eq, Phrase.refusal?, Phrase.vacancy?, Phrase.children,
    findSome?_cons_or, findSome?_cons_or, List.findSome?_nil, Option.none_or, Option.or_none, Option.or_assoc,
    ← List.append_nil (condition.arguments dialect)]
  refine ht.bind fun source => (hc _).bind_yields fun _ hy => ?_
  rw [← (Filter.isBlank_of_yields hy).2]
  exact .reject .pure

theorem condition {root : Bool} {f : Field} {operator : Operator} {value : Option Operand}
    (h : ∀ child ∈ (Phrase.filter root (.condition f operator value)).children, R.Judges child) :
    R.Judges (.filter root (.condition f operator value)) := by
  intro n
  have hf := h (.field _ f) List.mem_cons_self n
  have hv := h (.operand operator value) (List.mem_cons_of_mem _ (List.mem_singleton_self _))
  rw [Phrase.compile, Phrase.arguments] at hf
  rw [Phrase.compile, Filter.compile, Phrase.arguments, Filter.arguments, Phrase.fault?_eq, Phrase.refusal?, Phrase.vacancy?,
    Phrase.children, findSome?_cons_or, findSome?_cons_or, List.findSome?_nil, Option.none_or, Option.or_none,
    Option.or_none]
  refine hf.bind fun left => (hv _).of_map.bind_nil fun right => ?_
  cases right <;> exact .pure

theorem group {root : Bool} {logic : Logic} {filters : List Filter}
    (h : ∀ child ∈ (Phrase.filter root (.group logic filters)).children, R.Judges child) :
    R.Judges (.filter root (.group logic filters)) := by
  intro n
  have hparts : R.Predicts n (compileFilters dialect filters)
      ((filters.map (Phrase.filter false)).flatMap (Phrase.arguments dialect))
      ((filters.map (Phrase.filter false)).findSome? (Phrase.fault? (RawSql.fault? dialect.style))) := by
    rw [compileFilters_eq_mapM]
    exact Predicts.map (Judges.mapM fun f hf n => (h _ (List.mem_map_of_mem hf) n).map)
  rw [Phrase.compile, Filter.compile, Phrase.arguments, Filter.arguments, filtersArguments_eq, Phrase.fault?_eq,
    Phrase.refusal?, Phrase.vacancy?, Option.none_or,
    ← List.append_nil ((filters.map (Phrase.filter false)).flatMap (Phrase.arguments dialect))]
  refine hparts.bind_yields fun _ hy => ?_
  rw [← isEmpty_of_compileFilters hy]
  exact .reject .pure

theorem rawFilter {root : Bool} {sql : RawSql}
    (h : ∀ child ∈ (Phrase.filter root (.raw sql)).children, R.Judges child) : R.Judges (.filter root (.raw sql)) := by
  intro n
  have hsql := h (.raw sql) (List.mem_singleton_self _) n
  rw [Phrase.compile, Phrase.arguments] at hsql
  rw [Phrase.compile, Filter.compile, Phrase.arguments, Filter.arguments, Phrase.fault?_eq, Phrase.refusal?, Phrase.vacancy?,
    Phrase.children, findSome?_cons_or, List.findSome?_nil, Option.none_or, Option.or_none, Option.or_none]
  exact hsql.map

/-- The clauses of a SELECT are compiled one after another. -/
theorem select {s : Select} (h : ∀ child ∈ (Phrase.select s).children, R.Judges child) : R.Judges (.select s) := by
  intro n
  obtain ⟨distinct, fields, table, joins, filter, groupBy, having, sorts, take, skip, label⟩ := s
  rw [Phrase.fault?_eq, Phrase.refusal?, Phrase.vacancy?, Option.or_none, Phrase.compile, Select.compile.eq_def]
  rcases fields with _ | ⟨f, fields⟩
  · exact .throw
  rcases table with _ | t
  · exact .throw
  simp only [Phrase.children, List.forall_mem_append, List.forall_mem_map] at h
  obtain ⟨hcolumns, htable, hjoins, hfilter, hgroups, hhaving, hsorts⟩ := h
  have hsource : ∀ n, R.Predicts n (t.compile dialect)
      (((some t).toList.map Phrase.table).flatMap (Phrase.arguments dialect))
      (((some t).toList.map Phrase.table).findSome? (Phrase.fault? (RawSql.fault? dialect.style))) := by
    intro n
    have ht := htable t (List.mem_singleton_self _) n
    rw [Phrase.compile] at ht
    simpa using ht
  rw [Phrase.arguments_eq]
  simp only [Phrase.children, Phrase.bound, compileFields_eq_mapM, groupFields_eq_mapM, compileJoins_eq_mapM,
    compileSorts_eq_mapM, Compile.require, List.isEmpty_cons, Bool.not_false, Bool.false_eq_true, if_true, if_false,
    Option.isNone_some, pure_bind, Option.none_or, List.flatMap_append, List.findSome?_append, List.append_assoc,
    List.flatMap_singleton, Dialect.siteArguments]
  have hfields : ∀ n, R.Predicts n ((f :: fields).mapM (Field.compile dialect)) _ _ := fun n =>
    Judges.mapM fun f hf n => by
      rw [Field.compile_eq]
      exact (hcolumns f hf n).map
  refine (hfields _).bind fun columns => (hsource _).bind fun source =>
    (Judges.mapM hjoins).bind fun joins => (Judges.optional ?_).bind fun filter =>
    (Judges.mapM hgroups).bind fun groups => (Judges.optional ?_).bind fun having =>
    (Judges.mapM fun key hkey n => (hsorts key hkey n).map).bind_none fun keys => (Dialect.page_predicts _ _ _).map
  · exact fun f hf => hfilter f (Option.mem_toList.mpr hf)
  · exact fun f hf => hhaving f (Option.mem_toList.mpr hf)

end Regime.Judges

/-- The walk predicts how a phrase is compiled, whatever stands before it in the text. -/
theorem Phrase.judges (phrase : Phrase) : phrase.All R.Raw → R.Judges phrase := by
  induction phrase using Phrase.induction with
  | step phrase ih =>
    intro hraw
    have h : ∀ child ∈ phrase.children, R.Judges child := fun child hc => ih child hc (hraw.child child hc)
    cases phrase with
    | select s => exact .select h
    | raw sql => exact .raw hraw
    | field refuse f => exact .field h
    | table t => exact .table h
    | join j => exact .join h
    | operand operator value => exact .operand h
    | filter root f =>
      cases f with
      | condition f operator value => exact .condition h
      | group logic filters => exact .group h
      | raw sql => exact .rawFilter h

/-- The walk predicts how a filter is compiled, whatever stands before it in the text. -/
theorem Filter.predicts (filter : Filter) (root : Bool) (n : Nat) :
    (Regime.bounded dialect).Predicts n (filter.compile dialect root) (filter.arguments dialect)
      ((Phrase.filter root filter).fault? (RawSql.fault? dialect.style)) := by
  have h := (Phrase.filter root filter).judges (R := .bounded dialect) (Phrase.all_true _) n
  rwa [Phrase.compile, Phrase.arguments] at h

/-! ### Statements -/

theorem ite_or (test : Bool) (e : SqlError) (x y : Option SqlError) :
    (if test then some e else x).or y = if test then some e else x.or y := by
  cases test <;> rfl

theorem predicts_targetTable {n : Nat} {vs : List Value} {y : Option SqlError} {table : String}
    {f : String → Compile String} (hf : ∀ name, R.Predicts n (f name) vs y) :
    R.Predicts n (targetTable table >>= f) vs (if Text.isBlank table then some .tableRequired else y) := by
  unfold targetTable
  dsimp only
  rw [Text.isEmpty_trim]
  cases Text.isBlank table
  · exact hf _
  · exact .throw

theorem predicts_rows (width : Nat) (rows : List (List Value)) : ∀ n index,
    R.Predicts n (compileRows width index rows) rows.flatten (rowsFault? width index rows) := by
  induction rows with
  | nil => exact fun _ _ => .pure
  | cons row rest ih =>
    intro n index
    rw [compileRows, rowsFault?, List.flatten_cons]
    split
    · rename_i hlen
      rw [decide_eq_true hlen, Compile.require, if_pos rfl, pure_bind]
      exact (Regime.Predicts.bindValues row n).bind fun _ => (ih _ _).map
    · rename_i hlen
      rw [decide_eq_false hlen]
      exact .throw

/-- The walk predicts how a statement is compiled. -/
theorem Statement.predicts {statement : Statement} (h : statement.All (fun _ => True) R.Raw) (n : Nat) :
    R.Predicts n (statement.compile dialect) (statement.arguments dialect)
      (statement.fault? (RawSql.fault? dialect.style)) := by
  have hc : ∀ child ∈ statement.children, R.Judges child := fun child hm =>
    child.judges (Statement.all_children h child hm)
  have hfilter : ∀ filter : Option Filter, (∀ child ∈ filter.toList.map (Phrase.filter true), R.Judges child) →
      ∀ n, R.Predicts n (compileOptional dialect filter) (optionalArguments dialect filter)
        ((filter.toList.map (Phrase.filter true)).findSome? (Phrase.fault? (RawSql.fault? dialect.style))) := by
    intro filter hf n
    rw [optionalArguments_eq]
    exact Regime.Judges.optional fun f hm => hf _ (List.mem_map_of_mem (Option.mem_toList.mpr hm))
  rw [fault?, refusal?.eq_def]
  cases statement with
  | select s =>
    have hs := hc _ (List.mem_singleton_self _) n
    rw [children, findSome?_cons_or, List.findSome?_nil, Option.none_or, Option.or_none]
    exact hs
  | insert s =>
    rw [compile, arguments, children, List.findSome?_nil, Option.or_none]
    exact predicts_targetTable fun table => .reject (.reject (predicts_rows _ _ _ _).map)
  | update s =>
    rw [children, List.forall_mem_append, List.forall_mem_map] at hc
    have hset : ∀ n, R.Predicts n (s.set.mapM (Assignment.compile dialect))
        (s.set.flatMap fun a => Operand.arguments dialect .eq (some a.value))
        ((s.set.map fun a => Phrase.operand .eq (some a.value)).findSome?
          (Phrase.fault? (RawSql.fault? dialect.style))) := by
      intro n
      rw [List.findSome?_map]
      exact .mapM (fun a ha n => (hc.1 a ha n).of_map.map) n
    rw [compile, arguments, children, List.findSome?_append, ite_or, ite_or, Option.none_or]
    exact predicts_targetTable fun table => .reject ((hset n).bind fun _ => (hfilter s.filter hc.2 _).map)
  | delete s =>
    rw [compile, arguments, children, ite_or, Option.none_or]
    exact predicts_targetTable fun table => (hfilter s.filter hc n).map
  | raw sql =>
    have hs := hc _ (List.mem_singleton_self _) n
    rw [children, findSome?_cons_or, List.findSome?_nil, Option.none_or, Option.or_none]
    exact hs

/-! ### Queries -/

section Queries
variable {m : Compile String} {vs : List Value} {x : Option SqlError}

theorem Regime.Predicts.eq_none_of_toQuery {q : Query} (h : R.Predicts dialect.style.start m vs x)
    (hq : Compile.toQuery dialect.style m = .ok q) : x = none := by
  obtain ⟨c, hy, -⟩ := Compile.toQuery_eq_ok.mp hq
  exact (h.ok rfl hy).1

theorem Regime.Predicts.toQuery_eq_error {e : SqlError} (h : R.Predicts dialect.style.start m vs x)
    (hroom : R.Room (dialect.style.start + vs.length)) :
    Compile.toQuery dialect.style m = .error e ↔ x = some e := by
  rw [Compile.toQuery_eq]
  rcases ho : m.outcome (.fresh dialect.style) with ⟨e' | sql, c⟩
  · rw [h.error rfl hroom ho, Option.some.injEq, Except.error.injEq]
  · rw [(h.ok rfl ho).1]
    constructor <;> intro he <;> cases he

end Queries

end BoundSql
