import BoundSql.Proofs.FirstFault

/-! Rows. An INSERT is compiled just where its table has a name and all its rows are as long as the column list, of
    which there are some; its values are then bound row after row, and the placeholder in column `j` of row `i` is
    that of the value there (`Insert.toQuery_rowMajor`). Any other INSERT is refused, for a row only where no
    earlier one is at fault. -/

namespace BoundSql
open Json (Value)
open Compile (yields_bind yields_pure yields_bindValue yields_require yields_mapM_nil yields_mapM_cons)

/-! ### Placeholders in a row -/

/-- So many placeholders in order. -/
def Style.tokens (style : Style) (first count : Nat) : List String :=
  (List.range count).map fun j => style.token (first + j)

@[simp] theorem Style.tokens_zero (style : Style) (first : Nat) : style.tokens first 0 = [] := rfl

theorem Style.tokens_succ (style : Style) (first count : Nat) :
    style.tokens first (count + 1) = style.token first :: style.tokens (first + 1) count := by
  rw [tokens, List.range_succ_eq_map, List.map_cons, List.map_map, Nat.add_zero]
  exact congrArg _ (List.map_congr_left fun j _ => congrArg style.token (by omega))

theorem yields_bindValues {values : List Value} : ∀ {tokens : List String} {b c : Bindings},
    (values.mapM Compile.bindValue).Yields b tokens c ↔
      tokens = b.cursor.style.tokens b.cursor.position values.length ∧ c = b.extend values := by
  induction values with
  | nil =>
    intro tokens b c
    rw [yields_mapM_nil, List.length_nil, Style.tokens_zero, Bindings.extend_nil]
  | cons value rest ih =>
    intro tokens b c
    rw [yields_mapM_cons, List.length_cons, Style.tokens_succ]
    constructor
    · rintro ⟨token, others, b', hv, hr, rfl⟩
      obtain ⟨rfl, rfl⟩ := yields_bindValue.mp hv
      obtain ⟨rfl, rfl⟩ := ih.mp hr
      exact ⟨rfl, Bindings.extend_extend b [value] rest⟩
    · rintro ⟨rfl, rfl⟩
      exact ⟨_, _, b.extend [value], yields_bindValue.mpr ⟨rfl, rfl⟩,
        ih.mpr ⟨rfl, (Bindings.extend_extend b [value] rest).symm⟩, rfl⟩

/-! ### Rows -/

/-- The placeholders of one row, in parentheses. -/
def Style.group (style : Style) (first width : Nat) : String := parenthesized (commaList (style.tokens first width))

/-- The rows are compiled just where they are all of one length; each takes up its placeholders where the one
    before it stops. -/
theorem yields_compileRows {width : Nat} {rows : List (List Value)} : ∀ {index : Nat} {groups : List String}
    {b c : Bindings}, (compileRows width index rows).Yields b groups c ↔ (∀ row ∈ rows, row.length = width) ∧
      groups = (List.range rows.length).map (fun i => b.cursor.style.group (b.cursor.position + i * width) width) ∧
      c = b.extend rows.flatten := by
  induction rows with
  | nil =>
    intro index groups b c
    rw [compileRows, yields_pure, List.flatten_nil, Bindings.extend_nil]
    simp
  | cons row rest ih =>
    intro index groups b c
    -- Behind the first row the others count from a position that is `width` further on.
    have hgroups : (List.range (rest.length + 1)).map
          (fun i => b.cursor.style.group (b.cursor.position + i * width) width) =
        b.cursor.style.group b.cursor.position width :: (List.range rest.length).map
          (fun i => b.cursor.style.group (b.cursor.position + width + i * width) width) := by
      rw [List.range_succ_eq_map, List.map_cons, List.map_map, Nat.zero_mul, Nat.add_zero]
      refine congrArg _ (List.map_congr_left fun i _ => ?_)
      rw [Function.comp_apply, Nat.succ_mul, Nat.add_assoc, Nat.add_comm width]
    rw [compileRows, List.forall_mem_cons, List.length_cons, hgroups, List.flatten_cons]
    constructor
    · intro hy
      obtain ⟨_, _, hrequire, hbound⟩ := yields_bind.mp hy
      obtain ⟨hlen, rfl⟩ := yields_require.mp hrequire
      obtain ⟨_, _, hvalues, hothers⟩ := yields_bind.mp hbound
      obtain ⟨rfl, rfl⟩ := yields_bindValues.mp hvalues
      obtain ⟨_, _, hcompiled, hpure⟩ := yields_bind.mp hothers
      obtain ⟨hrest, rfl, rfl⟩ := ih.mp hcompiled
      obtain ⟨rfl, rfl⟩ := yields_pure.mp hpure
      obtain rfl := of_decide_eq_true hlen
      exact ⟨⟨rfl, hrest⟩, rfl, Bindings.extend_extend _ row rest.flatten⟩
    · rintro ⟨⟨rfl, hrest⟩, rfl, rfl⟩
      exact yields_bind.mpr ⟨(), b, yields_require.mpr ⟨decide_eq_true rfl, rfl⟩,
        yields_bind.mpr ⟨_, b.extend row, yields_bindValues.mpr ⟨rfl, rfl⟩,
          yields_bind.mpr ⟨_, _, ih.mpr ⟨hrest, rfl, (Bindings.extend_extend b row rest.flatten).symm⟩,
            yields_pure.mpr ⟨rfl, rfl⟩⟩⟩⟩

/-- The first row of another length is the one that is refused, counted from `index`. -/
theorem rowsFault?_eq_some_iff {width : Nat} {rows : List (List Value)} {e : SqlError} : ∀ {index : Nat},
    rowsFault? width index rows = some e ↔ ∃ i row, rows[i]? = some row ∧ row.length ≠ width ∧
      (∀ k < i, ∀ earlier ∈ rows[k]?, earlier.length = width) ∧ e = .rowLength (index + i) width row.length := by
  induction rows with
  | nil =>
    intro index
    simp [rowsFault?]
  | cons first rest ih =>
    intro index
    rw [rowsFault?]
    split
    · rename_i hfirst
      rw [ih]
      constructor
      · rintro ⟨i, row, hrow, hlen, hbefore, rfl⟩
        refine ⟨i + 1, row, hrow, hlen, ?_, by rw [Nat.add_assoc, Nat.add_comm 1]⟩
        rintro (_ | k) hk earlier hearlier
        · cases hearlier
          exact hfirst
        · exact hbefore k (by omega) earlier hearlier
      · rintro ⟨_ | i, row, hrow, hlen, hbefore, rfl⟩
        · cases hrow
          exact absurd hfirst hlen
        · exact ⟨i, row, hrow, hlen, fun k hk => hbefore (k + 1) (by omega), by rw [Nat.add_assoc, Nat.add_comm 1]⟩
    · rename_i hfirst
      constructor
      · intro h
        cases h
        exact ⟨0, first, rfl, hfirst, fun k hk => absurd hk (by omega), rfl⟩
      · rintro ⟨_ | i, row, hrow, hlen, hbefore, rfl⟩
        · cases hrow
          rfl
        · exact absurd (hbefore 0 (by omega) first rfl) hfirst

/-- Rows of one length that stand one after the other have the value in column `j` of row `i` at `i * width + j`. -/
theorem getElem?_flatten_rows {α : Type} {width : Nat} {rows : List (List α)} (h : ∀ row ∈ rows, row.length = width) :
    ∀ {i j : Nat}, j < width → rows.flatten[i * width + j]? = rows[i]?.bind (·[j]?) := by
  induction rows with
  | nil => exact fun _ => rfl
  | cons first rest ih =>
    obtain ⟨rfl, hrest⟩ := List.forall_mem_cons.mp h
    rintro (_ | i) j hj
    · rw [List.flatten_cons, Nat.zero_mul, Nat.zero_add, List.getElem?_append_left hj]
      rfl
    · have hplace : (i + 1) * first.length + j = first.length + (i * first.length + j) := by
        rw [Nat.succ_mul, Nat.add_comm (i * first.length), Nat.add_assoc]
      rw [List.flatten_cons, hplace, List.getElem?_append_right (Nat.le_add_right _ _), Nat.add_sub_cancel_left,
        ih hrest hj]
      rfl

theorem length_flatten_rows {α : Type} {width : Nat} {rows : List (List α)} (h : ∀ row ∈ rows, row.length = width) :
    rows.flatten.length = rows.length * width := by
  rw [List.length_flatten, List.map_congr_left h, List.map_const', List.sum_replicate_nat]

/-! ### Statements -/

theorem yields_targetTable {table name : String} {b c : Bindings} : (targetTable table).Yields b name c ↔
    Text.trim table ≠ "" ∧ name = Text.trim table ∧ c = b := by
  unfold targetTable
  dsimp only
  split
  · rename_i h
    simp [String.isEmpty_iff.mp h]
  · rename_i h
    simp [mt String.isEmpty_iff.mpr h]

namespace Insert
variable {insert : Insert} {dialect : Dialect}

/-- A table with a name, and rows that fill the columns. -/
structure Filled (insert : Insert) : Prop where
  table : Text.trim insert.table ≠ ""
  columns : insert.columns ≠ []
  rows : insert.rows ≠ []
  width : ∀ row ∈ insert.rows, row.length = insert.columns.length

/-- The error of an INSERT that is refused. -/
inductive Refusal (insert : Insert) : SqlError → Prop
  | table : Text.trim insert.table = "" → Refusal insert .tableRequired
  | columns : Text.trim insert.table ≠ "" → insert.columns = [] → Refusal insert .columnsRequired
  | rows : Text.trim insert.table ≠ "" → insert.columns ≠ [] → insert.rows = [] → Refusal insert .valuesRequired
  | width {i : Nat} {row : List Value} : Text.trim insert.table ≠ "" → insert.columns ≠ [] →
      insert.rows[i]? = some row → row.length ≠ insert.columns.length →
      (∀ k < i, ∀ earlier ∈ insert.rows[k]?, earlier.length = insert.columns.length) →
      Refusal insert (.rowLength i insert.columns.length row.length)

/-- The placeholder in column `j` of row `i`. -/
def token (insert : Insert) (style : Style) (i j : Nat) : String :=
  style.token (style.start + (i * insert.columns.length + j))

/-- The placeholders of row `i`, one for each column. -/
def group (insert : Insert) (style : Style) (i : Nat) : String :=
  parenthesized (commaList ((List.range insert.columns.length).map (insert.token style i)))

/-- The groups of all rows in order. -/
def groups (insert : Insert) (style : Style) : List String := (List.range insert.rows.length).map (insert.group style)

/-- The text of an INSERT with the given groups of placeholders. -/
def text (insert : Insert) (groups : List String) : String :=
  s!"INSERT INTO {Text.trim insert.table} ({commaList insert.columns}) VALUES {commaList groups}"

/-- The text of an INSERT, row after row. -/
def rowMajor (insert : Insert) (style : Style) : String := insert.text (insert.groups style)

theorem groups_eq (insert : Insert) (style : Style) : insert.groups style = (List.range insert.rows.length).map
    fun i => style.group (style.start + i * insert.columns.length) insert.columns.length := by
  refine List.map_congr_left fun i _ => ?_
  unfold group token Style.group Style.tokens
  simp only [Nat.add_assoc]

/-- The text that is written from the start, where the rows fill the columns. -/
theorem yields_compile {sql : String} {c : Bindings} : insert.compile.Yields (.fresh dialect.style) sql c ↔
    insert.Filled ∧ sql = insert.rowMajor dialect.style ∧
      c = (Bindings.fresh dialect.style).extend insert.rows.flatten := by
  rewrite [rowMajor, groups_eq]
  constructor
  · intro hy
    obtain ⟨_, _, hname, hcolumns⟩ := yields_bind.mp hy
    obtain ⟨htable, rfl, rfl⟩ := yields_targetTable.mp hname
    obtain ⟨_, _, hrequire, hrows⟩ := yields_bind.mp hcolumns
    obtain ⟨hc, rfl⟩ := yields_require.mp hrequire
    obtain ⟨_, _, hrequire', hvalues⟩ := yields_bind.mp hrows
    obtain ⟨hr, rfl⟩ := yields_require.mp hrequire'
    obtain ⟨_, _, hcompiled, hpure⟩ := yields_bind.mp hvalues
    obtain ⟨hwidth, rfl, rfl⟩ := yields_compileRows.mp hcompiled
    obtain ⟨rfl, rfl⟩ := yields_pure.mp hpure
    exact ⟨⟨htable, by simpa using hc, by simpa using hr, hwidth⟩, rfl, rfl⟩
  · rintro ⟨⟨htable, hc, hr, hwidth⟩, rfl, rfl⟩
    exact yields_bind.mpr ⟨_, _, yields_targetTable.mpr ⟨htable, rfl, rfl⟩,
      yields_bind.mpr ⟨(), _, yields_require.mpr ⟨by simpa using hc, rfl⟩,
        yields_bind.mpr ⟨(), _, yields_require.mpr ⟨by simpa using hr, rfl⟩,
          yields_bind.mpr ⟨_, _, yields_compileRows.mpr ⟨hwidth, rfl, rfl⟩, yields_pure.mpr ⟨rfl, rfl⟩⟩⟩⟩⟩

theorem toQuery_eq_ok {q : Query} : (Statement.insert insert).toQuery dialect = .ok q ↔
    insert.Filled ∧ q = ⟨insert.rowMajor dialect.style, insert.rows.flatten⟩ := by
  rw [Statement.toQuery, Compile.toQuery_eq_ok]
  constructor
  · rintro ⟨c, hy, hargs⟩
    obtain ⟨hfilled, hsql, rfl⟩ := yields_compile.mp hy
    rw [Bindings.toList_extend_fresh] at hargs
    cases q
    cases hsql
    cases hargs
    exact ⟨hfilled, rfl⟩
  · rintro ⟨hfilled, rfl⟩
    exact ⟨_, yields_compile.mpr ⟨hfilled, rfl, rfl⟩, (Bindings.toList_extend_fresh _ _).symm⟩

/-- The first thing wrong with an INSERT, in the order of the checks. -/
theorem refusal?_eq_some {e : SqlError} : (Statement.insert insert).refusal? = some e ↔ insert.Refusal e := by
  rw [Statement.refusal?]
  constructor
  · intro h
    split at h
    · rename_i hblank
      cases h
      exact .table (Text.trim_eq_empty_iff.mpr hblank)
    rename_i hblank
    have htable : Text.trim insert.table ≠ "" := mt Text.trim_eq_empty_iff.mp hblank
    split at h
    · rename_i hcolumns
      cases h
      exact .columns htable (List.isEmpty_iff.mp hcolumns)
    rename_i hcolumns
    have hcolumns := mt List.isEmpty_iff.mpr hcolumns
    split at h
    · rename_i hrows
      cases h
      exact .rows htable hcolumns (List.isEmpty_iff.mp hrows)
    obtain ⟨i, row, hrow, hlen, hbefore, rfl⟩ := rowsFault?_eq_some_iff.mp h
    rw [Nat.zero_add]
    exact .width htable hcolumns hrow hlen hbefore
  · intro h
    cases h with
    | table htable => rw [if_pos (Text.trim_eq_empty_iff.mp htable)]
    | columns htable hcolumns =>
      rw [if_neg (mt Text.trim_eq_empty_iff.mpr htable), if_pos (List.isEmpty_iff.mpr hcolumns)]
    | rows htable hcolumns hrows =>
      rw [if_neg (mt Text.trim_eq_empty_iff.mpr htable), if_neg (mt List.isEmpty_iff.mp hcolumns),
        if_pos (List.isEmpty_iff.mpr hrows)]
    | @width i row htable hcolumns hrow hlen hbefore =>
      have hrows : insert.rows ≠ [] := List.ne_nil_of_mem (List.mem_of_getElem? hrow)
      rw [if_neg (mt Text.trim_eq_empty_iff.mpr htable), if_neg (mt List.isEmpty_iff.mp hcolumns),
        if_neg (mt List.isEmpty_iff.mp hrows), rowsFault?_eq_some_iff]
      exact ⟨i, row, hrow, hlen, hbefore, by rw [Nat.zero_add]⟩

theorem toQuery_eq_error {e : SqlError} :
    (Statement.insert insert).toQuery dialect = .error e ↔ insert.Refusal e := by
  have hpredicts := (Statement.insert insert).predicts (R := .structured dialect)
    ⟨trivial, fun _ _ => trivial⟩ dialect.style.start
  rw [Statement.toQuery, hpredicts.toQuery_eq_error trivial, Statement.fault?, Statement.children, List.findSome?_nil,
    Option.or_none, refusal?_eq_some]

/-- An INSERT has a query just where its rows fill its columns; then it binds its values row after row, and the
    placeholder in column `j` of row `i` names the value there. Otherwise the first thing wrong with it is its
    error. -/
theorem toQuery_rowMajor (insert : Insert) (dialect : Dialect) :
    ((∃ q, (Statement.insert insert).toQuery dialect = .ok q) ↔ insert.Filled) ∧
    (∀ q, (Statement.insert insert).toQuery dialect = .ok q →
      q.sql = insert.rowMajor dialect.style ∧ q.args = insert.rows.flatten ∧
      q.args.length = insert.rows.length * insert.columns.length ∧
      ∀ i j, j < insert.columns.length →
        q.args[i * insert.columns.length + j]? = insert.rows[i]?.bind (·[j]?)) ∧
    ∀ e, (Statement.insert insert).toQuery dialect = .error e ↔ insert.Refusal e := by
  refine ⟨⟨?_, ?_⟩, ?_, fun e => toQuery_eq_error⟩
  · rintro ⟨q, hq⟩
    exact (toQuery_eq_ok.mp hq).1
  · intro hfilled
    exact ⟨_, toQuery_eq_ok.mpr ⟨hfilled, rfl⟩⟩
  · intro q hq
    obtain ⟨hfilled, rfl⟩ := toQuery_eq_ok.mp hq
    exact ⟨rfl, rfl, length_flatten_rows hfilled.width, fun i j => getElem?_flatten_rows hfilled.width⟩

def tagsToInsert : Insert where
  table := " tags "
  columns := ["post", "tag"]
  rows := [[.ofNat 7, .string "lean"], [.ofNat 8, .null]]

set_option maxRecDepth 4000 in
theorem rowMajor_tagsToInsert : tagsToInsert.rowMajor Dialect.mssql.style =
    "INSERT INTO tags (post, tag) VALUES (@p0, @p1), (@p2, @p3)" := rfl

/-- The placeholders count on from row to row, and the first value of the second row is the third argument. -/
theorem tagsToInsert_rowMajor : ∃ q, (Statement.insert tagsToInsert).toQuery .mssql = .ok q ∧
    q.sql = "INSERT INTO tags (post, tag) VALUES (@p0, @p1), (@p2, @p3)" ∧
      q.args = [.ofNat 7, .string "lean", .ofNat 8, .null] ∧ q.args[1 * 2 + 0]? = some (.ofNat 8) := by
  obtain ⟨hcompiles, hquery, -⟩ := toQuery_rowMajor tagsToInsert .mssql
  have hfilled : tagsToInsert.Filled :=
    { table := by decide, columns := List.cons_ne_nil _ _, rows := List.cons_ne_nil _ _, width := by decide }
  obtain ⟨q, hq⟩ := hcompiles.mpr hfilled
  obtain ⟨hsql, hargs, -, hplace⟩ := hquery q hq
  exact ⟨q, hq, hsql.trans rowMajor_tagsToInsert, hargs, hplace 1 0 (by decide)⟩

end Insert
end BoundSql
