import BoundSql.Proofs.Binding

/-! Coverage. On a dialect whose placeholders have an index, the placeholders of a compiled statement name
    its arguments and nothing else; all of them, if its raw SQL names all of its own; and without raw SQL
    each of them once, from left to right (`Statement.indices_of_toQuery`). What is said of the indices of a
    text is a tally: it is known of the pieces that compilation writes and kept when they are put together. -/

namespace BoundSql
open Json (Value)
open Placeholder (Part parts)
variable {dialect : Dialect}

/-! ### The indices of a text -/

/-- The index that a part of a text names. -/
def Placeholder.Part.index? : Part → Option Nat
  | .literal _ => none
  | .index digits => Text.decimalValue? digits

/-- The indices that the placeholders of a text name, from left to right. -/
def Dialect.indices (dialect : Dialect) (sql : String) : List Nat :=
  (parts dialect.style.leading.toList sql.toList).filterMap Part.index?

theorem Dialect.indices_of_literal {sql : String}
    (h : parts dialect.style.leading.toList sql.toList = sql.toList.map .literal) :
    dialect.indices sql = [] := by
  rw [indices, h, List.filterMap_map, List.filterMap_eq_nil_iff]
  intro c _
  rfl

theorem Dialect.indices_of_free {sql : String} (h : dialect.Free sql) : dialect.indices sql = [] := by
  apply indices_of_literal
  apply Placeholder.parts_eq_map_literal
  intro digits hd
  cases h _ hd

theorem Dialect.indices_token (h : dialect.style.isIndexed = true) (n : Nat) :
    dialect.indices (dialect.style.token n) = [n] := by
  have hp : parts dialect.style.leading.toList (dialect.style.token n).toList =
      [.index (Nat.toDigits 10 n)] := by
    rw [Placeholder.toList_token h, ← List.append_nil (Nat.toDigits 10 n),
      Placeholder.parts_token (Placeholder.run_toDigits n) Placeholder.boundary_nil, Placeholder.parts_nil,
      List.append_nil]
  have hv : (Part.index (Nat.toDigits 10 n)).index? = some n := Placeholder.decimalValue?_toDigits n
  rw [indices, hp, List.filterMap_cons_some hv, List.filterMap_nil]

theorem Dialect.indices_append (h : dialect.style.isIndexed = true) {s t : String} (hm : Meets s t) :
    dialect.indices (s ++ t) = dialect.indices s ++ dialect.indices t := by
  rw [indices, parts_append (cuts_separator h) hm, List.filterMap_append]
  rfl

theorem Dialect.indices_trim (h : dialect.style.isIndexed = true) (s : String) :
    dialect.indices (Text.trim s) = dialect.indices s := by
  have hblank : ∀ part : Part, part.isBlank = true → part.index? = none := by
    intro part hp
    cases part with
    | literal c => rfl
    | index digits => cases hp
  rw [indices, Text.trim, String.toList_ofList,
    Placeholder.parts_trimChars (not_mem_leading_of_isBlankChar h), filterMap_trim hblank]
  rfl

/-- Renumbering moves every index of a text, all of which name arguments. -/
theorem Dialect.indices_renumber (h : dialect.style.isIndexed = true) {n count : Nat} {sql s : String}
    (hs : Placeholder.renumber dialect.style n count sql = .ok s) :
    (∀ i ∈ dialect.indices sql, dialect.style.start ≤ i ∧ i - dialect.style.start < count) ∧
      dialect.indices s = (dialect.indices sql).map fun i => n + (i - dialect.style.start) := by
  have hmoved := ((Placeholder.renumber_eq_ok h).mp hs).1
  constructor
  · intro i hi
    obtain ⟨part, hp, hv⟩ := List.mem_filterMap.mp hi
    cases part with
    | literal c => cases hv
    | index digits =>
      obtain ⟨index, hm⟩ := hmoved digits hp
      obtain ⟨value, hd, hlo, hhi, -, -⟩ := Placeholder.moved?_eq_some.mp hm
      rw [Part.index?, hd] at hv
      cases hv
      exact ⟨hlo, hhi⟩
  · rw [indices, indices, Placeholder.parts_renumber h hs, List.filterMap_map, List.map_filterMap]
    apply List.filterMap_congr
    intro part hp
    cases part with
    | literal c => rfl
    | index digits =>
      obtain ⟨index, hm⟩ := hmoved digits hp
      obtain ⟨value, hd, -⟩ := Placeholder.moved?_eq_some.mp hm
      rw [Function.comp_apply, Part.withDigits, Part.index?, Part.index?, Placeholder.decimalValue?_renamed, hd]
      rfl

/-! ### Tallies -/

/-- What is said of the indices that a text names where it starts at a position and binds so many
    arguments. -/
structure Tally where
  Says : Nat → Nat → List Nat → Prop
  nil (n : Nat) : Says n 0 []
  one (n : Nat) : Says n 1 [n]
  append {n j k : Nat} {is js : List Nat} : Says n j is → Says (n + j) k js → Says n (j + k) (is ++ js)

/-- From left to right, each index once. -/
def Tally.inOrder : Tally where
  Says n k is := is = List.range' n k
  nil _ := rfl
  one _ := rfl
  append {n j k is js} hi hj := by
    rw [hi, hj]
    exact List.range'_append_1

/-- Every index, and no other. -/
def Tally.complete : Tally where
  Says n k is := ∀ i, i ∈ is ↔ n ≤ i ∧ i < n + k
  nil _ _ := ⟨fun hi => absurd hi List.not_mem_nil, fun ⟨hlo, hhi⟩ => absurd hhi (Nat.not_lt.mpr hlo)⟩
  one n i := by
    rw [List.mem_singleton]
    omega
  append {n j k is js} hi hj i := by
    rw [List.mem_append, hi, hj]
    omega

/-- Reading placeholders by their index and keeping a tally of them. -/
def Tally.reading (T : Tally) (dialect : Dialect) (h : dialect.style.isIndexed = true) (Raw : RawSql → Prop)
    (hraw : ∀ n raw, Raw raw → (∀ i ∈ dialect.indices raw.sql,
      dialect.style.start ≤ i ∧ i - dialect.style.start < raw.args.length) →
        T.Says n raw.args.length ((dialect.indices raw.sql).map fun i => n + (i - dialect.style.start))) :
    Reading dialect where
  Reads n vs s m := (dialect.indexed h).Reads n vs s m ∧ T.Says n vs.length (dialect.indices s)
  Name := dialect.Free
  Raw
  inert {n s} hs := by
    rw [Dialect.indices_of_literal (parts_of_inert h hs)]
    exact ⟨(dialect.indexed h).inert hs, T.nil n⟩
  name {n s} hs := by
    rw [Dialect.indices_of_free hs]
    exact ⟨(dialect.indexed h).name hs, T.nil n⟩
  token n v := by
    rw [Dialect.indices_token h]
    exact ⟨(dialect.indexed h).token n v, T.one n⟩
  raw {n raw s} hr hs := by
    obtain ⟨hown, hs'⟩ := Dialect.indices_renumber h hs
    rw [hs']
    exact ⟨(dialect.indexed h).raw trivial hs, hraw n raw hr hown⟩
  append hs ht hm := by
    rw [Dialect.indices_append h hm, List.length_append]
    exact ⟨(dialect.indexed h).append hs.1 ht.1 hm, T.append hs.2 ht.2⟩
  trim hs := by
    rw [Dialect.indices_trim h]
    exact ⟨(dialect.indexed h).trim hs.1, hs.2⟩
  eq_empty_iff hs := (dialect.indexed h).eq_empty_iff hs.1

/-- Raw SQL that names each of its own arguments. -/
def RawSql.NamesAll (dialect : Dialect) (raw : RawSql) : Prop :=
  ∀ k < raw.args.length, dialect.style.start + k ∈ dialect.indices raw.sql

instance (dialect : Dialect) (raw : RawSql) : Decidable (raw.NamesAll dialect) :=
  inferInstanceAs (Decidable (∀ k < _, _))

/-- Spliced in anywhere, raw SQL that names each of its arguments names each of the indices that it takes. -/
theorem RawSql.NamesAll.complete {raw : RawSql} (n : Nat) (h : raw.NamesAll dialect)
    (hown : ∀ i ∈ dialect.indices raw.sql,
      dialect.style.start ≤ i ∧ i - dialect.style.start < raw.args.length) :
    Tally.complete.Says n raw.args.length
      ((dialect.indices raw.sql).map fun i => n + (i - dialect.style.start)) := by
  intro i
  rw [List.mem_map]
  constructor
  · rintro ⟨j, hj, rfl⟩
    have hlt := (hown j hj).2
    omega
  · rintro ⟨hlo, hhi⟩
    refine ⟨dialect.style.start + (i - n), h (i - n) (by omega), ?_⟩
    omega

/-- Every placeholder of a compiled statement names one of its arguments. If its raw SQL names all of its own
    arguments, then every argument is named; and if it has no raw SQL, then each is named once, from left to
    right. -/
theorem Statement.indices_of_toQuery {statement : Statement} {q : Query}
    (hd : dialect.style.isIndexed = true) (h : statement.All dialect.Free fun _ => True)
    (hq : statement.toQuery dialect = .ok q) :
    (∀ digits, .index digits ∈ parts dialect.style.leading.toList q.sql.toList →
      ∃ i, Text.decimalValue? digits = some i ∧ dialect.style.start ≤ i ∧
        i < dialect.style.start + q.args.length) ∧
    (statement.All dialect.Free (RawSql.NamesAll dialect) →
      ∀ i, i ∈ dialect.indices q.sql ↔
        dialect.style.start ≤ i ∧ i < dialect.style.start + q.args.length) ∧
    (statement.All dialect.Free (fun _ => False) →
      dialect.indices q.sql = List.range' dialect.style.start q.args.length) := by
  refine ⟨?_, ?_, ?_⟩
  · intro digits hm
    obtain ⟨index, hi, hlo, hhi⟩ := Statement.index_of_toQuery hd h hq hm
    exact ⟨index, hi, hlo, by omega⟩
  · intro hall
    let R := Tally.complete.reading dialect hd (RawSql.NamesAll dialect) fun n _ hr hown => hr.complete n hown
    exact (Statement.reads_toQuery R hall hq).2.2
  · intro hall
    let R := Tally.inOrder.reading dialect hd (fun _ => False) fun _ _ hr _ => hr.elim
    exact (Statement.reads_toQuery R hall hq).2.2

/-- A page of orders with subqueries among its fields and keys, and a filter of one's own. -/
def ordersPage (filter : Filter) : Statement :=
  .select {
    fields := [{ column := some "id" },
      { query := some (.select {
          fields := [{ column := some "name" }]
          table := some { name := some "people" }
          filter := some (.condition { column := some "id" } .eq (some (.literal (.ofNat 7)))) }) }]
    table := some { name := some "orders" }
    filter := some (.group .and [
      .condition { column := some "state" } .isIn (some (.literal (.array [.ofNat 1, .ofNat 2]))), filter])
    take := some 10
    skip := some 20 }

def ordersPageByRaw : Filter :=
  .raw { sql := "total > @p1 OR total < @p0 AND total <> @p1", args := [.ofNat 5, .ofNat 100] }

def ordersPageByOwner : Filter := .condition { column := some "owner" } .like (some (.literal (.string "x")))

def ordersPageSql (filter : String) (skip take : String) : String :=
  "SELECT id, (SELECT name FROM people WHERE id = @p0) FROM orders WHERE state IN (@p1, @p2) AND " ++
    filter ++ " ORDER BY (SELECT NULL) OFFSET " ++ skip ++ " ROWS FETCH NEXT " ++ take ++ " ROWS ONLY"

set_option maxRecDepth 20000 in
theorem ordersPage_indices :
    (∀ i, i ∈ Dialect.mssql.indices
        (ordersPageSql "(total > @p4 OR total < @p3 AND total <> @p4)" "@p5" "@p6") ↔ 0 ≤ i ∧ i < 0 + 7) ∧
      Dialect.mssql.indices (ordersPageSql "owner LIKE @p3" "@p4" "@p5") = List.range' 0 6 := by
  have hfree : ∀ name ∈ ["id", "name", "people", "orders", "state", "owner"], Dialect.mssql.Free name := by decide
  have hnames : ∀ filter Q, (ordersPage filter).All Dialect.mssql.Free Q ↔ filter.All Dialect.mssql.Free Q := by
    intro filter Q
    simp [ordersPage, Statement.All, Select.All, Field.AllIn, Field.All, Subquery.AllOptional, Subquery.All,
      Table.AllOptional, Table.All, Join.AllIn, Filter.AllOptional, Filter.All, Filter.AllIn,
      Operand.AllOptional, Operand.All, SortKey.AllIn, hfree]
  have hraw : ordersPageByRaw.All Dialect.mssql.Free (RawSql.NamesAll .mssql) := by
    rw [ordersPageByRaw, Filter.All]
    decide
  have howner : ∀ Q, ordersPageByOwner.All Dialect.mssql.Free Q := by
    intro Q
    simp [ordersPageByOwner, Filter.All, Field.All, Subquery.AllOptional, Operand.AllOptional, Operand.All,
      hfree]
  have hfirst : (ordersPage ordersPageByRaw).toQuery .mssql =
      .ok ⟨ordersPageSql "(total > @p4 OR total < @p3 AND total <> @p4)" "@p5" "@p6",
        [.ofNat 7, .ofNat 1, .ofNat 2, .ofNat 5, .ofNat 100, .ofNat 20, .ofNat 10]⟩ := rfl
  have hsecond : (ordersPage ordersPageByOwner).toQuery .mssql =
      .ok ⟨ordersPageSql "owner LIKE @p3" "@p4" "@p5",
        [.ofNat 7, .ofNat 1, .ofNat 2, .string "%x%", .ofNat 20, .ofNat 10]⟩ := rfl
  have hany : (ordersPage ordersPageByRaw).All Dialect.mssql.Free fun _ => True :=
    (hnames _ _).mpr (by rw [ordersPageByRaw, Filter.All]; trivial)
  constructor
  · exact (Statement.indices_of_toQuery rfl hany hfirst).2.1 ((hnames _ _).mpr hraw)
  · exact (Statement.indices_of_toQuery rfl ((hnames _ _).mpr (howner _)) hsecond).2.2
      ((hnames _ _).mpr (howner _))

end BoundSql
