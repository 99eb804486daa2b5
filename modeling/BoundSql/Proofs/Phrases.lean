import BoundSql.Proofs.Walk
import Mathlib.Data.List.Basic

/-! Phrases. The parts of a statement that are compiled on their own are the phrases of a tree, and the children of a
    phrase stand in the order in which it compiles them. A fact about all parts of a statement is shown phrase by
    phrase, from the children upward (`Phrase.induction`). A phrase binds what its children bind and then what is
    its own (`Phrase.arguments_eq`). -/

namespace BoundSql
open Json (Value)

/-- A part of a statement. A field comes with what is made of a defect, which depends on its place. -/
inductive Phrase where
  | select (select : Select)
  | raw (sql : RawSql)
  | field (refuse : FieldDefect → SqlError) (field : Field)
  | table (table : Table)
  | join (join : Join)
  | operand (operator : Operator) (value : Option Operand)
  | filter (root : Bool) (filter : Filter)

def Subquery.phrase : Subquery → Phrase
  | .select s => .select s
  | .raw sql => .raw sql

namespace Phrase

/-- The text of a phrase. -/
def compile (dialect : Dialect) : Phrase → Compile String
  | .select s => s.compile dialect
  | .raw sql => Compile.splice sql
  | .field refuse f => f.expression dialect refuse
  | .table t => t.compile dialect
  | .join j => j.compile dialect
  | .operand operator value => do return (← Operand.compile dialect operator value).getD ""
  | .filter root f => f.compile dialect root

/-- The phrases right below a phrase, in the order in which they are compiled. -/
def children : Phrase → List Phrase
  | .select s =>
    s.fields.map (.field .invalidField) ++ (s.table.toList.map .table ++ (s.joins.map .join ++
      (s.filter.toList.map (.filter true) ++ (s.groupBy.map (.field .invalidField) ++
      (s.having.toList.map (.filter true) ++ s.sorts.map fun key => .field .invalidField key.field)))))
  | .raw _ => []
  | .field _ f => f.query.toList.map Subquery.phrase
  | .table t => t.query.toList.map Subquery.phrase
  | .join j => [.table j.table, .filter true j.condition]
  | .operand _ (some (.query query)) => [query.phrase]
  | .operand _ _ => []
  | .filter _ (.condition f operator value) =>
    [.field (fun defect => .invalidFilter (.field defect)) f, .operand operator value]
  | .filter _ (.group _ fs) => fs.map (.filter false)
  | .filter _ (.raw sql) => [.raw sql]

/-! ### Induction -/

theorem sizeOf_phrase_lt (query : Subquery) : sizeOf query.phrase < sizeOf (some query) := by
  cases query <;> simp [Subquery.phrase]

theorem sizeOf_lt_of_mem_children {phrase child : Phrase} (h : child ∈ phrase.children) : sizeOf child < sizeOf phrase := by
  cases phrase with
  | select s =>
    obtain ⟨distinct, fields, table, joins, filter, groupBy, having, sorts, take, skip, label⟩ := s
    simp only [children, List.mem_append, List.mem_map, Option.mem_toList] at h
    rcases h with ⟨f, hf, rfl⟩ | ⟨t, rfl, rfl⟩ | ⟨j, hj, rfl⟩ | ⟨f, rfl, rfl⟩ | ⟨f, hf, rfl⟩ | ⟨f, rfl, rfl⟩ |
      ⟨key, hkey, rfl⟩
    · have := List.sizeOf_lt_of_mem hf
      simp
      omega
    · simp
      omega
    · have := List.sizeOf_lt_of_mem hj
      simp
      omega
    · simp
      omega
    · have := List.sizeOf_lt_of_mem hf
      simp
      omega
    · simp
      omega
    · have := List.sizeOf_lt_of_mem hkey
      obtain ⟨field, direction⟩ := key
      simp at this ⊢
      omega
  | raw sql => cases h
  | field refuse f =>
    obtain ⟨table, column, query, label⟩ := f
    simp only [children, List.mem_map, Option.mem_toList] at h
    obtain ⟨query, rfl, rfl⟩ := h
    have := sizeOf_phrase_lt query
    simp at this ⊢
    omega
  | table t =>
    obtain ⟨name, query, label⟩ := t
    simp only [children, List.mem_map, Option.mem_toList] at h
    obtain ⟨query, rfl, rfl⟩ := h
    have := sizeOf_phrase_lt query
    simp at this ⊢
    omega
  | join j =>
    obtain ⟨kind, table, condition⟩ := j
    simp only [children, List.mem_cons, List.not_mem_nil, or_false] at h
    rcases h with rfl | rfl
    · simp
      omega
    · have : 0 < sizeOf kind := by cases kind <;> simp
      simp
      omega
  | operand operator value =>
    rcases value with _ | ⟨_, _⟩ | query | _ | _
    case some.query =>
      simp only [children, List.mem_singleton] at h
      subst h
      have := sizeOf_phrase_lt query
      simp at this ⊢
      omega
    all_goals cases h
  | filter root f =>
    cases f with
    | condition field operator value =>
      simp only [children, List.mem_cons, List.not_mem_nil, or_false] at h
      rcases h with rfl | rfl
      · simp
        omega
      · simp
        omega
    | group logic filters =>
      simp only [children, List.mem_map] at h
      obtain ⟨f, hf, rfl⟩ := h
      have := List.sizeOf_lt_of_mem hf
      simp
      omega
    | raw sql =>
      simp only [children, List.mem_singleton] at h
      subst h
      simp

/-- What holds of a phrase whenever it holds of its children holds of every phrase. -/
theorem induction {motive : Phrase → Prop} (step : ∀ phrase, (∀ child ∈ phrase.children, motive child) → motive phrase)
    (phrase : Phrase) : motive phrase :=
  step phrase fun child _ => induction step child
termination_by sizeOf phrase
decreasing_by exact sizeOf_lt_of_mem_children ‹_›

/-! ### Identifiers and raw SQL -/

/-- Every fragment of raw SQL in the phrase satisfies `Q`. -/
def All (Q : RawSql → Prop) : Phrase → Prop
  | .select s => s.All (fun _ => True) Q
  | .raw sql => Q sql
  | .field _ f => f.All (fun _ => True) Q
  | .table t => t.All (fun _ => True) Q
  | .join j => j.All (fun _ => True) Q
  | .operand _ value => Operand.AllOptional (fun _ => True) Q value
  | .filter _ f => f.All (fun _ => True) Q

theorem all_true (phrase : Phrase) : phrase.All fun _ => True := by
  cases phrase with
  | select s => exact s.all_true
  | raw sql => trivial
  | field refuse f => exact f.all_true
  | table t => exact t.all_true
  | join j =>
    obtain ⟨kind, t, condition⟩ := j
    exact ⟨t.all_true, condition.all_true⟩
  | operand operator value => exact Operand.allOptional_true value
  | filter root f => exact f.all_true

end Phrase

section All
variable {P : String → Prop} {Q : RawSql → Prop}

theorem Field.allIn_iff {fields : List Field} : Field.AllIn P Q fields ↔ ∀ f ∈ fields, f.All P Q := by
  induction fields with
  | nil => simp [Field.AllIn]
  | cons f rest ih => rw [Field.AllIn, ih, List.forall_mem_cons]

theorem Join.allIn_iff {joins : List Join} : Join.AllIn P Q joins ↔ ∀ j ∈ joins, j.All P Q := by
  induction joins with
  | nil => simp [Join.AllIn]
  | cons j rest ih => rw [Join.AllIn, ih, List.forall_mem_cons]

theorem Filter.allIn_iff {filters : List Filter} : Filter.AllIn P Q filters ↔ ∀ f ∈ filters, f.All P Q := by
  induction filters with
  | nil => simp [Filter.AllIn]
  | cons f rest ih => rw [Filter.AllIn, ih, List.forall_mem_cons]

theorem SortKey.allIn_iff {sorts : List SortKey} : SortKey.AllIn P Q sorts ↔ ∀ key ∈ sorts, key.field.All P Q := by
  induction sorts with
  | nil => simp [SortKey.AllIn]
  | cons key rest ih =>
    obtain ⟨field, direction⟩ := key
    rw [SortKey.AllIn, ih, List.forall_mem_cons]

theorem Subquery.all_phrase {query : Option Subquery} (h : Subquery.AllOptional (fun _ => True) Q query) :
    ∀ child ∈ query.toList.map Subquery.phrase, child.All Q := by
  intro child hc
  obtain ⟨query, hq, rfl⟩ := List.mem_map.mp hc
  obtain rfl := Option.mem_toList.mp hq
  cases query with
  | select s => exact h
  | raw sql => exact h

theorem Filter.all_phrase {filter : Option Filter} (h : Filter.AllOptional (fun _ => True) Q filter) :
    ∀ child ∈ filter.toList.map (Phrase.filter true), child.All Q := by
  intro child hc
  obtain ⟨filter, hf, rfl⟩ := List.mem_map.mp hc
  obtain rfl := Option.mem_toList.mp hf
  exact h

theorem Phrase.All.child {phrase : Phrase} (h : phrase.All Q) : ∀ child ∈ phrase.children, child.All Q := by
  cases phrase with
  | select s =>
    obtain ⟨distinct, fields, table, joins, filter, groupBy, having, sorts, take, skip, label⟩ := s
    simp only [Phrase.All, Select.All, Field.allIn_iff, Join.allIn_iff, SortKey.allIn_iff] at h
    obtain ⟨hfields, htable, hjoins, hfilter, hgroup, hhaving, hsorts, -⟩ := h
    simp only [Phrase.children, List.forall_mem_append, List.forall_mem_map]
    refine ⟨hfields, ?_, hjoins, ?_, hgroup, ?_, hsorts⟩
    · intro t ht
      obtain rfl := Option.mem_toList.mp ht
      exact htable
    · intro f hf
      obtain rfl := Option.mem_toList.mp hf
      exact hfilter
    · intro f hf
      obtain rfl := Option.mem_toList.mp hf
      exact hhaving
  | raw sql => exact fun _ hc => absurd hc List.not_mem_nil
  | field refuse f =>
    obtain ⟨table, column, query, label⟩ := f
    simp only [Phrase.All, Field.All] at h
    exact Subquery.all_phrase h.2.2.2
  | table t =>
    obtain ⟨name, query, label⟩ := t
    simp only [Phrase.All, Table.All] at h
    exact Subquery.all_phrase h.2.2
  | join j =>
    obtain ⟨kind, table, condition⟩ := j
    simp only [Phrase.All, Join.All] at h
    simpa [Phrase.children, Phrase.All] using h
  | operand operator value =>
    rcases value with _ | ⟨_, _⟩ | query | _ | _
    case some.query => exact @Subquery.all_phrase Q (some query) h
    all_goals exact fun _ hc => absurd hc List.not_mem_nil
  | filter root f =>
    cases f with
    | condition f operator value =>
      simp only [Phrase.All, Filter.All] at h
      simpa [Phrase.children, Phrase.All] using h
    | group logic filters =>
      simp only [Phrase.All, Filter.All, Filter.allIn_iff] at h
      simp only [Phrase.children, List.forall_mem_map]
      exact h
    | raw sql =>
      simp only [Phrase.All, Filter.All] at h
      simpa [Phrase.children, Phrase.All] using h

end All

/-! ### Arguments -/

/-- What is bound in one place: a value, or the numbers of a page, which dialects bind in different orders. -/
inductive Site where
  | value (value : Value)
  | page (take skip : Option Nat)

def Dialect.siteArguments (dialect : Dialect) : Site → List Value
  | .value v => [v]
  | .page take skip => dialect.pageArguments take skip

variable {dialect : Dialect}

theorem siteArguments_value (values : List Value) :
    (values.map Site.value).flatMap dialect.siteArguments = values := by
  rw [List.flatMap_map]
  exact List.flatMap_singleton' values

namespace Phrase

def arguments (dialect : Dialect) : Phrase → List Value
  | .select s => s.arguments dialect
  | .raw sql => sql.args
  | .field _ f => f.arguments dialect
  | .table t => t.arguments dialect
  | .join j => j.table.arguments dialect ++ j.condition.arguments dialect
  | .operand operator value => Operand.arguments dialect operator value
  | .filter _ f => f.arguments dialect

/-- What a phrase binds behind its children. -/
def bound : Phrase → List Site
  | .select s => [.page s.take s.skip]
  | .raw sql => sql.args.map .value
  | .operand operator (some (.literal value)) => (operator.arguments value).map .value
  | .operand operator (some .null) => (operator.arguments .null).map .value
  | .operand operator none => (operator.arguments .null).map .value
  | .operand _ _ => []
  | .field _ _ | .table _ | .join _ | .filter _ _ => []

end Phrase

theorem fieldsArguments_eq (refuse : FieldDefect → SqlError) (fields : List Field) :
    fieldsArguments dialect fields = (fields.map (Phrase.field refuse)).flatMap (Phrase.arguments dialect) := by
  induction fields with
  | nil => rfl
  | cons f rest ih =>
    rw [fieldsArguments, ih]
    rfl

theorem joinsArguments_eq (joins : List Join) :
    joinsArguments dialect joins = (joins.map Phrase.join).flatMap (Phrase.arguments dialect) := by
  induction joins with
  | nil => rfl
  | cons j rest ih =>
    obtain ⟨kind, table, condition⟩ := j
    rw [joinsArguments, ih]
    rfl

theorem filtersArguments_eq (filters : List Filter) :
    filtersArguments dialect filters = (filters.map (Phrase.filter false)).flatMap (Phrase.arguments dialect) := by
  induction filters with
  | nil => rfl
  | cons f rest ih =>
    rw [filtersArguments, ih]
    rfl

theorem Filter.arguments_group (logic : Logic) (filters : List Filter) :
    (Filter.group logic filters).arguments dialect = filters.flatMap (Filter.arguments dialect) := by
  rw [Filter.arguments, filtersArguments_eq, List.flatMap_map]
  rfl

theorem sortsArguments_eq (sorts : List SortKey) : sortsArguments dialect sorts =
    (sorts.map fun key => Phrase.field .invalidField key.field).flatMap (Phrase.arguments dialect) := by
  induction sorts with
  | nil => rfl
  | cons key rest ih =>
    obtain ⟨field, direction⟩ := key
    rw [sortsArguments, ih]
    rfl

theorem tableArguments_eq (table : Option Table) :
    tableArguments dialect table = (table.toList.map Phrase.table).flatMap (Phrase.arguments dialect) := by
  cases table <;> simp [tableArguments, Phrase.arguments]

theorem optionalArguments_eq (filter : Option Filter) :
    optionalArguments dialect filter = (filter.toList.map (Phrase.filter true)).flatMap (Phrase.arguments dialect) := by
  cases filter <;> simp [optionalArguments, Phrase.arguments]

theorem Subquery.arguments_phrase (query : Subquery) : query.phrase.arguments dialect = query.arguments dialect := by
  cases query with
  | select s => simp [Subquery.phrase, Phrase.arguments, Subquery.arguments]
  | raw sql => simp [Subquery.phrase, Phrase.arguments, Subquery.arguments]

namespace Phrase

/-- A phrase binds what its children bind, in their order, and then what is its own. -/
theorem arguments_eq (phrase : Phrase) : phrase.arguments dialect =
    phrase.children.flatMap (arguments dialect) ++ phrase.bound.flatMap dialect.siteArguments := by
  cases phrase with
  | select s =>
    obtain ⟨distinct, fields, table, joins, filter, groupBy, having, sorts, take, skip, label⟩ := s
    rw [arguments, Select.arguments]
    simp only [children, bound, List.flatMap_append, fieldsArguments_eq .invalidField, tableArguments_eq,
      joinsArguments_eq, optionalArguments_eq, sortsArguments_eq, List.flatMap_singleton, Dialect.siteArguments,
      List.append_assoc]
  | raw sql =>
    rw [arguments, bound, siteArguments_value]
    rfl
  | field refuse f =>
    obtain ⟨t, column, _ | query, label⟩ := f
    · simp [arguments, Field.arguments, children, bound]
    · rw [arguments, Field.arguments, ← query.arguments_phrase]
      simp [children, bound]
  | table t =>
    obtain ⟨name, _ | query, label⟩ := t
    · simp [arguments, Table.arguments, children, bound]
    · rw [arguments, Table.arguments, ← query.arguments_phrase]
      simp [children, bound]
  | join j => simp [arguments, children, bound]
  | operand operator value =>
    rcases value with _ | ⟨_, _⟩ | query | _ | _
    case some.query =>
      rw [arguments, Operand.arguments, ← query.arguments_phrase]
      simp [children, bound]
    all_goals simp [arguments, Operand.arguments, children, bound, siteArguments_value]
  | filter root f =>
    cases f with
    | condition f operator value => simp [arguments, Filter.arguments, children, bound]
    | group logic filters => simp [arguments, Filter.arguments, children, bound, filtersArguments_eq]
    | raw sql => simp [arguments, Filter.arguments, children, bound]

theorem length_arguments_le {phrase child : Phrase} (h : child ∈ phrase.children) :
    (child.arguments dialect).length ≤ (phrase.arguments dialect).length := by
  obtain ⟨before, after, hsplit⟩ := List.append_of_mem h
  rw [arguments_eq phrase, hsplit]
  simp
  omega

/-- What a phrase binds with all the phrases below it, place by place. -/
def sites (phrase : Phrase) : List Site :=
  (phrase.children.attach.flatMap fun child => sites child.1) ++ phrase.bound
termination_by sizeOf phrase
decreasing_by exact sizeOf_lt_of_mem_children child.2

theorem sites_eq (phrase : Phrase) : phrase.sites = phrase.children.flatMap sites ++ phrase.bound := by
  have hattach : (phrase.children.attach.flatMap fun child => sites child.1) = phrase.children.flatMap sites := by
    rw [← List.flatMap_map, List.attach_map_subtype_val]
  rw [sites, hattach]

/-- The dialects differ only in how they bind each place. -/
theorem arguments_eq_sites (phrase : Phrase) : phrase.arguments dialect = phrase.sites.flatMap dialect.siteArguments := by
  induction phrase using Phrase.induction with
  | step phrase ih =>
    rw [arguments_eq, sites_eq, List.flatMap_append, List.flatMap_assoc]
    congr 1
    exact List.flatMap_congr ih

end Phrase

/-! ### Statements -/

namespace Statement

/-- The phrases right below a statement, in the order in which they are compiled. -/
def children : Statement → List Phrase
  | .select s => [.select s]
  | .insert _ => []
  | .update s => s.set.map (fun a => .operand .eq (some a.value)) ++ s.filter.toList.map (.filter true)
  | .delete s => s.filter.toList.map (.filter true)
  | .raw sql => [.raw sql]

/-- What a statement binds apart from its phrases. -/
def bound : Statement → List Site
  | .insert s => s.rows.flatten.map .value
  | .select _ | .update _ | .delete _ | .raw _ => []

theorem all_children {Q : RawSql → Prop} {statement : Statement} (h : statement.All (fun _ => True) Q) :
    ∀ child ∈ statement.children, child.All Q := by
  cases statement with
  | select s => exact List.forall_mem_singleton.mpr h
  | insert s => exact fun _ hc => absurd hc List.not_mem_nil
  | update s =>
    obtain ⟨-, hset, hfilter⟩ := h
    rw [children, List.forall_mem_append, List.forall_mem_map]
    exact ⟨fun a ha => (hset a ha).2, Filter.all_phrase hfilter⟩
  | delete s => exact Filter.all_phrase h.2
  | raw sql => exact List.forall_mem_singleton.mpr h

/-- A statement binds what its phrases bind, in their order, or the values of its rows. -/
theorem arguments_eq (statement : Statement) : statement.arguments dialect =
    statement.children.flatMap (Phrase.arguments dialect) ++ statement.bound.flatMap dialect.siteArguments := by
  cases statement with
  | select s => simp [arguments, children, bound, Phrase.arguments]
  | insert s =>
    rw [bound, siteArguments_value]
    rfl
  | update s =>
    have hset : (s.set.map fun a => Phrase.operand .eq (some a.value)).flatMap (Phrase.arguments dialect) =
        s.set.flatMap fun a => Operand.arguments dialect .eq (some a.value) := List.flatMap_map ..
    rw [arguments, optionalArguments_eq, children, bound, List.flatMap_append, hset, List.flatMap_nil,
      List.append_nil]
  | delete s =>
    rw [arguments, optionalArguments_eq]
    simp [children, bound]
  | raw sql => simp [arguments, children, bound, Phrase.arguments]

/-- What a statement binds, place by place. -/
def sites (statement : Statement) : List Site := statement.children.flatMap Phrase.sites ++ statement.bound

theorem arguments_eq_sites (statement : Statement) :
    statement.arguments dialect = statement.sites.flatMap dialect.siteArguments := by
  rw [arguments_eq, sites, List.flatMap_append, List.flatMap_assoc]
  congr 1
  exact List.flatMap_congr fun phrase _ => phrase.arguments_eq_sites

end Statement
end BoundSql
