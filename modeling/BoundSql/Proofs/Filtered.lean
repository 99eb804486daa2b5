import BoundSql.Proofs.Blank
import BoundSql.Proofs.Growth
import BoundSql.Proofs.Renumber
import BoundSql.Proofs.Separators

/-! Filtered writes. A statement that changes or deletes rows under a filter says so behind `WHERE`, unless
    the filter is raw SQL of nothing but blanks: that is compiled to no text at all, and the statement
    applies to every row (`Statement.filtered_of_toQuery`). No other filter is without text. -/

namespace BoundSql
open Compile (yields_bind)
variable {dialect : Dialect} {b c : Bindings} {sql : String}

/-- Raw SQL of nothing but blanks. -/
def Filter.isBlankRaw : Filter → Bool
  | .raw { sql, .. } => Text.isBlank sql
  | .condition _ _ _ | .group _ _ => false

/-! ### The text of a filter -/

theorem Dialect.isBlank_operatorSql (dialect : Dialect) (operator : Operator) :
    Text.isBlank (dialect.operatorSql operator) = false := by
  cases dialect <;> cases operator <;> decide

/-- Raw SQL is blank before and after its placeholders are moved. -/
theorem isBlank_renumber {style : Style} {offset count : Nat} {raw : String}
    (h : Placeholder.renumber style offset count raw = .ok sql) : Text.isBlank sql = Text.isBlank raw := by
  cases hi : style.isIndexed with
  | false =>
    rw [Placeholder.renumber, if_neg (by simp [hi])] at h
    cases h
    rfl
  | true =>
    obtain ⟨-, hs⟩ := (Placeholder.renumber_eq_ok hi).mp h
    rw [Text.isBlank, hs, Placeholder.all_isBlankChar_rewrite fun _ => Placeholder.run_renamed, Text.isBlank]

theorem yields_compileFilters_nil {parts : List String} :
    (compileFilters dialect []).Yields b parts c ↔ parts = [] ∧ c = b := by
  rw [compileFilters, Compile.yields_pure]

/-- The first filter of a group is compiled below the root and counts only if it has text. -/
theorem yields_compileFilters_cons {filter : Filter} {rest : List Filter} {parts : List String} :
    (compileFilters dialect (filter :: rest)).Yields b parts c ↔ ∃ sql parts' b',
      (filter.compile dialect false).Yields b sql b' ∧ (compileFilters dialect rest).Yields b' parts' c ∧
        parts = if Text.isBlank sql then parts' else Text.trim sql :: parts' := by
  rw [compileFilters, yields_bind]
  constructor
  · rintro ⟨sql, b', hsql, hy⟩
    obtain ⟨parts', d, hrest, hpure⟩ := yields_bind.mp hy
    obtain ⟨rfl, rfl⟩ := Compile.yields_pure.mp hpure
    exact ⟨sql, parts', b', hsql, hrest, by rw [Text.isEmpty_trim]⟩
  · rintro ⟨sql, parts', b', hsql, hrest, rfl⟩
    refine ⟨sql, b', hsql, yields_bind.mpr ⟨parts', c, hrest, Compile.yields_pure.mpr ⟨?_, rfl⟩⟩⟩
    rw [Text.isEmpty_trim]

/-- The filters of a group that are left have text. -/
theorem isBlank_of_mem_compileFilters {filters : List Filter} {parts : List String}
    (hy : (compileFilters dialect filters).Yields b parts c) : ∀ part ∈ parts, Text.isBlank part = false := by
  induction filters generalizing b parts with
  | nil =>
    obtain ⟨rfl, -⟩ := yields_compileFilters_nil.mp hy
    exact List.forall_mem_nil _
  | cons filter rest ih =>
    obtain ⟨sql, parts', b', -, hrest, rfl⟩ := yields_compileFilters_cons.mp hy
    split
    · exact ih hrest
    · rename_i hne
      have hsql : Text.isBlank (Text.trim sql) = false := by
        rw [Text.isBlank_trim]
        simpa using hne
      exact List.forall_mem_cons.mpr ⟨hsql, ih hrest⟩

theorem isBlank_intercalate {separator : String} {parts : List String} (hne : parts ≠ [])
    (h : ∀ part ∈ parts, Text.isBlank part = false) : Text.isBlank (separator.intercalate parts) = false := by
  obtain ⟨part, parts, rfl⟩ := List.exists_cons_of_ne_nil hne
  have hp := h part List.mem_cons_self
  cases parts with
  | nil => simpa using hp
  | cons next parts =>
    rw [String.intercalate_cons_cons, Text.isBlank_append, Text.isBlank_append, hp]
    rfl

/-- A condition names its operator. -/
theorem Filter.isBlank_of_condition {field : Field} {operator : Operator} {value : Option Operand} {root : Bool}
    (hy : ((Filter.condition field operator value).compile dialect root).Yields b sql c) :
    Text.isBlank sql = false := by
  rw [Filter.compile] at hy
  obtain ⟨left, b₁, -, hy⟩ := yields_bind.mp hy
  obtain ⟨right, b₂, -, hy⟩ := yields_bind.mp hy
  cases right with
  | none =>
    obtain ⟨rfl, -⟩ := Compile.yields_pure.mp hy
    simp [toString, Dialect.isBlank_operatorSql]
  | some right =>
    obtain ⟨rfl, -⟩ := Compile.yields_pure.mp hy
    simp [toString, Dialect.isBlank_operatorSql]

theorem isBlank_parenthesized (s : String) : Text.isBlank (parenthesized s) = false := by
  have hopen : Text.isBlank "(" = false := by decide
  simp [parenthesized, toString, hopen]

/-- The text of a group stands for the filters of it that are left, of which there is one at least. -/
theorem Filter.yields_group {logic : Logic} {filters : List Filter} {root : Bool} :
    ((Filter.group logic filters).compile dialect root).Yields b sql c ↔
      ∃ parts, (compileFilters dialect filters).Yields b parts c ∧ parts ≠ [] ∧
        sql = if root then s!" {logic.sql} ".intercalate parts
          else parenthesized (s!" {logic.sql} ".intercalate parts) := by
  rw [Filter.compile]
  constructor
  · intro hy
    obtain ⟨parts, b₁, hparts, hy'⟩ := yields_bind.mp hy
    obtain ⟨_, b₂, hr, hy''⟩ := yields_bind.mp hy'
    obtain ⟨hne, rfl⟩ := Compile.yields_require.mp hr
    obtain ⟨rfl, rfl⟩ := Compile.yields_pure.mp hy''
    exact ⟨parts, hparts, by simpa using hne, rfl⟩
  · rintro ⟨parts, hparts, hne, rfl⟩
    refine yields_bind.mpr ⟨parts, c, hparts, yields_bind.mpr ⟨(), c, ?_, Compile.yields_pure.mpr ⟨rfl, rfl⟩⟩⟩
    exact Compile.yields_require.mpr ⟨by simpa using hne, rfl⟩

/-- Only blank raw SQL is compiled to blank text, and then to none. -/
theorem Filter.isBlank_of_yields {filter : Filter} {root : Bool}
    (hy : (filter.compile dialect root).Yields b sql c) :
    Text.isBlank sql = filter.isBlankRaw ∧ sql.isEmpty = filter.isBlankRaw := by
  have hempty : ∀ s, Text.isBlank s = false → s.isEmpty = false := by
    intro s hn
    rw [Bool.eq_false_iff, ne_eq, String.isEmpty_iff]
    rintro rfl
    cases hn
  cases filter with
  | condition field operator value =>
    have hblank := Filter.isBlank_of_condition hy
    exact ⟨hblank, hempty sql hblank⟩
  | group logic filters =>
    have hblank : Text.isBlank sql = false := by
      obtain ⟨parts, hparts, hne, rfl⟩ := Filter.yields_group.mp hy
      cases root with
      | false => exact isBlank_parenthesized _
      | true => exact isBlank_intercalate hne (isBlank_of_mem_compileFilters hparts)
    exact ⟨hblank, hempty sql hblank⟩
  | raw raw =>
    rw [Filter.compile] at hy
    obtain ⟨s, b₁, hs, hy⟩ := yields_bind.mp hy
    obtain ⟨rfl, -⟩ := Compile.yields_pure.mp hy
    obtain ⟨hr, -⟩ := Compile.yields_splice.mp hs
    have hraw : Text.isBlank s = (Filter.raw raw).isBlankRaw := isBlank_renumber hr
    split
    · rw [Text.isBlank_trim, Text.isEmpty_trim]
      exact ⟨hraw, hraw⟩
    · rename_i hne
      rw [Bool.or_eq_true, not_or, Text.isEmpty_trim, hraw] at hne
      rw [hempty _ (isBlank_parenthesized _), isBlank_parenthesized, eq_false_of_ne_true hne.1]
      exact ⟨rfl, rfl⟩

/-- A group is left without text if its filters are all blank. -/
theorem isEmpty_of_compileFilters {filters : List Filter} {parts : List String}
    (hy : (compileFilters dialect filters).Yields b parts c) : parts.isEmpty = filters.all Filter.isBlankRaw := by
  induction filters generalizing b parts with
  | nil =>
    obtain ⟨rfl, -⟩ := yields_compileFilters_nil.mp hy
    rfl
  | cons filter rest ih =>
    obtain ⟨sql, parts', b', hsql, hrest, rfl⟩ := yields_compileFilters_cons.mp hy
    rw [List.all_cons, ← ih hrest, ← (filter.isBlank_of_yields hsql).1]
    cases Text.isBlank sql <;> rfl

/-! ### Statements -/

namespace Statement

/-- The filter of a statement that changes or deletes rows. -/
def rowFilter? : Statement → Option Filter
  | .update s => s.filter
  | .delete s => s.filter
  | .select _ | .insert _ | .raw _ => none

/-- The statement without the filter of its rows. -/
def unfiltered : Statement → Statement
  | .update s => .update { s with filter := none }
  | .delete s => .delete { s with filter := none }
  | s => s

/-- The filter of the rows is compiled last, behind the text of the statement without it. -/
theorem compile_of_rowFilter? {statement : Statement} {filter : Filter}
    (h : statement.rowFilter? = some filter) :
    statement.compile dialect = do
      let head ← statement.unfiltered.compile dialect
      let condition ← filter.compile dialect true
      return head ++ clause "WHERE" condition := by
  have hnone : clause "WHERE" "" = "" := rfl
  cases statement with
  | select s => cases h
  | insert s => cases h
  | raw raw => cases h
  | update s =>
    obtain ⟨table, set, _⟩ := s
    cases h
    simp only [unfiltered, compile, Update.compile, compileOptional, bind_assoc, pure_bind, hnone,
      String.append_empty]
  | delete s =>
    obtain ⟨table, _⟩ := s
    cases h
    simp only [unfiltered, compile, Delete.compile, compileOptional, bind_assoc, pure_bind, hnone,
      String.append_empty]

/-- A statement whose rows are filtered is compiled to the text that it has without the filter and, behind
    `WHERE`, a condition that is not blank. Only a filter of blank raw SQL leaves the text as it is, so that
    the statement applies to every row. -/
theorem filtered_of_toQuery {statement : Statement} {filter : Filter} {q : Query}
    (h : statement.rowFilter? = some filter) (hq : statement.toQuery dialect = .ok q) :
    ∃ head args, statement.unfiltered.toQuery dialect = .ok ⟨head, args⟩ ∧
      if filter.isBlankRaw then q.sql = head
      else ∃ condition, Text.isBlank condition = false ∧ q.sql = head ++ " WHERE " ++ condition := by
  obtain ⟨c, hy, hargs⟩ := Compile.toQuery_eq_ok.mp hq
  rw [compile_of_rowFilter? h] at hy
  obtain ⟨head, b, hhead, hy⟩ := yields_bind.mp hy
  obtain ⟨condition, b', hcondition, hy⟩ := yields_bind.mp hy
  obtain ⟨hsql, -⟩ := Compile.yields_pure.mp hy
  obtain ⟨hblank, hempty⟩ := Filter.isBlank_of_yields hcondition
  refine ⟨head, b.values.toList, Compile.toQuery_eq_ok.mpr ⟨b, hhead, rfl⟩, ?_⟩
  rw [hsql, clause, hempty]
  split
  · exact String.append_empty
  · rename_i hne
    refine ⟨condition, ?_, ?_⟩
    · rw [hblank]
      simpa using hne
    · simp only [toString, String.append_assoc]
      rfl

/-- The sessions to delete. -/
def sessionsToDelete (filter : Filter) : Statement := .delete { table := "sessions", filter := some filter }

/-- A group of which one condition is left, its raw SQL being blank. -/
def expiredSessions : Filter :=
  .group .and [.raw { sql := " " }, .condition { column := some "expires_at" } .lt (some (.literal (.ofNat 7)))]

theorem sessionsToDelete_filtered : ∃ condition, Text.isBlank condition = false ∧
    "DELETE FROM sessions WHERE expires_at < $1" = "DELETE FROM sessions" ++ " WHERE " ++ condition := by
  have hq : (sessionsToDelete expiredSessions).toQuery .postgres =
      .ok ⟨"DELETE FROM sessions WHERE expires_at < $1", [.ofNat 7]⟩ := rfl
  have hfilter : (sessionsToDelete expiredSessions).rowFilter? = some expiredSessions := rfl
  obtain ⟨head, args, hhead, hcondition⟩ := filtered_of_toQuery hfilter hq
  have hunfiltered : (sessionsToDelete expiredSessions).unfiltered.toQuery .postgres =
      .ok ⟨"DELETE FROM sessions", []⟩ := rfl
  rw [hunfiltered] at hhead
  cases hhead
  exact hcondition

/-- A filter may be there and leave no trace: blank raw SQL deletes every session. -/
theorem sessionsToDelete_unfiltered : ¬ ∀ (dialect : Dialect) (statement : Statement) (filter : Filter) (q : Query),
    statement.rowFilter? = some filter → statement.toQuery dialect = .ok q →
    ∃ head condition, Text.isBlank condition = false ∧ q.sql = head ++ " WHERE " ++ condition := by
  intro h
  have hq : (sessionsToDelete (.raw { sql := "  " })).toQuery .postgres = .ok ⟨"DELETE FROM sessions", []⟩ := rfl
  obtain ⟨head, condition, -, hsql⟩ := h _ _ _ _ rfl hq
  have hmem : 'W' ∈ (head ++ " WHERE " ++ condition).toList := by simp
  rw [← hsql] at hmem
  revert hmem
  decide

end Statement
end BoundSql
