import BoundSql.Proofs.Binding
import BoundSql.Proofs.Independence

/-! Embedding. A statement within another can be compiled where it stands, or on its own and then spliced in
    as raw SQL; both give the same text and bind the same values (`Subquery.compile_select_eq_raw`).
    Compiled further on in a text, a statement has its placeholders renamed, and splicing finds exactly
    these placeholders again. -/

namespace BoundSql
open Json (Value)
open Placeholder (parts renamed rewrite run_renamed)
variable {dialect : Dialect}

/-- Text whose placeholders are renamed, on a dialect where they have an index. -/
def Shift.further (dialect : Dialect) (h : dialect.style.isIndexed = true) (gap : Nat) : Shift dialect where
  gap
  text s := String.ofList (rewrite dialect.style.leading.toList (renamed 0 gap) s.toList)
  Room n := n + gap ≤ Placeholder.indexBound
  Name := dialect.Free
  room_of_add hroom := by omega
  inert {s} hs := by
    rw [Placeholder.rewrite_eq_self (parts_of_inert h hs), String.ofList_toList]
  name {s} hs := by
    rw [Placeholder.rewrite_eq_self (Placeholder.parts_eq_map_literal ?_), String.ofList_toList]
    intro digits hd
    cases hs _ hd
  token n := by
    rw [Placeholder.toList_token h, ← List.append_nil (Nat.toDigits 10 n),
      Placeholder.rewrite_token (Placeholder.run_toDigits n) Placeholder.boundary_nil, ← String.toList_inj,
      String.toList_ofList, Placeholder.toList_token h, renamed, Placeholder.decimalValue?_toDigits]
    simp [rewrite, Nat.add_comm]
  renumber sql hroom := Placeholder.renumber_further h sql hroom
  append {s t} hmeet := by
    rw [rewrite, parts_append (cuts_separator h) hmeet, List.flatMap_append, String.ofList_append]
    rfl
  trim s := by
    rw [Text.trim, Text.trim, String.toList_ofList, String.toList_ofList,
      Placeholder.rewrite_trimChars (not_mem_leading_of_isBlankChar h) fun _ => run_renamed]
  eq_empty_iff s := by
    rw [String.ofList_eq_empty_iff, Placeholder.rewrite_eq_nil fun _ => run_renamed, String.toList_eq_nil_iff]

/-- Further on in a text a SELECT binds the same values, and its text is that of its query with the
    placeholders changed. -/
theorem Select.yields_of_toQuery (S : Shift dialect) {select : Select} {q : Query} {b : Bindings}
    (hb : b.cursor = ⟨dialect.style, dialect.style.start + S.gap⟩)
    (hroom : S.Room (dialect.style.start + q.args.length)) (hnames : select.All S.Name fun _ => True)
    (hq : select.toQuery dialect = .ok q) :
    (select.compile dialect).Yields b (S.text q.sql) (b.extend q.args) := by
  have hs : (Statement.select select).toQuery dialect = .ok q := hq
  have hargs : q.args = select.arguments dialect := Statement.args_of_toQuery hs
  obtain ⟨c, hy, -⟩ := Compile.toQuery_eq_ok.mp hq
  rw [hargs] at hroom
  -- The statement on its own and its shape further on,
  rcases select.twin S _ hnames hroom (.fresh dialect.style) b rfl hb with
    ⟨e, c', c'', h₁, -⟩ | ⟨sql, h₁, h₂, -⟩
  · rw [hy] at h₁
    cases h₁
  rw [hy] at h₁
  cases h₁
  -- and there the statement and its shape.
  rcases select.twin (.still dialect 0 (Or.inl rfl)) _ select.all_true trivial b b hb hb with
    ⟨e, c', c'', -, h₄⟩ | ⟨sql, h₃, h₄, -⟩
  · rw [h₂] at h₄
    cases h₄
  · rw [h₂] at h₄
    cases h₄
    rw [hargs]
    exact h₃

/-- Raw SQL made of a query is spliced in with all its placeholders renamed. -/
theorem Select.renumber_of_toQuery {select : Select} {q : Query} {gap : Nat}
    (hd : dialect.style.isIndexed = true) (h : select.All dialect.Free fun _ => True)
    (hq : select.toQuery dialect = .ok q)
    (hroom : dialect.style.start + gap + q.args.length ≤ Placeholder.indexBound) :
    Placeholder.renumber dialect.style (dialect.style.start + gap) q.args.length q.sql =
      .ok ((Shift.further dialect hd gap).text q.sql) := by
  have hall : (Statement.select select).All dialect.Free fun _ => True := h
  have hs : (Statement.select select).toQuery dialect = .ok q := hq
  refine (Placeholder.renumber_eq_ok hd).mpr ⟨?_, ?_⟩
  · intro digits hm
    exact (Placeholder.exists_moved? hroom).mpr (Statement.index_of_toQuery hd hall hs hm)
  · rw [Shift.further, String.toList_ofList]
    refine Placeholder.rewrite_congr fun digits hm => ?_
    obtain ⟨index, hv, hlo, -⟩ := Statement.index_of_toQuery hd hall hs hm
    unfold renamed
    rw [hv, Option.getD_some]
    congr 1
    omega

/-- A SELECT that is compiled where it stands within a statement has the text and binds the values of its
    own query spliced in there as raw SQL. -/
theorem Subquery.compile_select_eq_raw {select : Select} {q : Query} {b : Bindings}
    (hstyle : b.cursor.style = dialect.style) (hstart : dialect.style.start ≤ b.cursor.position)
    (hroom : b.cursor.position + q.args.length ≤ Placeholder.indexBound)
    (hnames : dialect.style.isIndexed = true → select.All dialect.Free fun _ => True)
    (hq : select.toQuery dialect = .ok q) :
    ∃ sql, ((Subquery.select select).compile dialect).Yields b sql (b.extend q.args) ∧
      ((Subquery.raw { sql := q.sql, args := q.args }).compile dialect).Yields b sql (b.extend q.args) := by
  obtain ⟨gap, hgap⟩ := Nat.exists_eq_add_of_le hstart
  have hb : b.cursor = ⟨dialect.style, dialect.style.start + gap⟩ := by
    rw [← hgap, ← hstyle]
  rw [hgap] at hroom
  rw [Subquery.compile, Subquery.compile]
  simp only [Compile.yields_splice, and_true]
  rw [hstyle, hgap]
  cases hi : dialect.style.isIndexed with
  | false =>
    refine ⟨q.sql, select.yields_of_toQuery (.still dialect gap (Or.inr hi)) hb trivial select.all_true hq, ?_⟩
    rw [Placeholder.renumber, if_neg (by simp [hi])]
  | true =>
    have hroom' : dialect.style.start + q.args.length + gap ≤ Placeholder.indexBound := by omega
    exact ⟨_, select.yields_of_toQuery (.further dialect hi gap) hb hroom' (hnames hi) hq,
      Select.renumber_of_toQuery hi (hnames hi) hq hroom⟩

/-- A query with a raw part that names its arguments out of order, one of them twice and with a zero in
    front. -/
def cheapestOrders : Select where
  fields := [{ column := some "id" }]
  table := some { name := some "orders" }
  filter := some (.group .and [
    .condition { column := some "owner" } .eq (some (.literal (.ofNat 7))),
    .raw { sql := "total < $02 OR total < $1 + $2", args := [.ofNat 5, .ofNat 100] }])

def cheapestOrdersQuery : Query where
  sql := "SELECT id FROM orders WHERE owner = $1 AND (total < $3 OR total < $2 + $3)"
  args := [.ofNat 7, .ofNat 5, .ofNat 100]

/-- Bindings behind two placeholders. -/
def twoBound : Bindings := (Bindings.fresh (.oneBased "$")).extend [.null, .null]

set_option maxRecDepth 20000 in
theorem cheapestOrders_embeds : ∃ sql,
    ((Subquery.select cheapestOrders).compile .postgres).Yields twoBound sql
        (twoBound.extend cheapestOrdersQuery.args) ∧
      ((Subquery.raw ⟨cheapestOrdersQuery.sql, cheapestOrdersQuery.args⟩).compile .postgres).Yields twoBound sql
        (twoBound.extend cheapestOrdersQuery.args) := by
  have hnames : cheapestOrders.All Dialect.postgres.Free fun _ => True := by
    simp [cheapestOrders, Select.All, Field.AllIn, Field.All, Subquery.AllOptional, Table.AllOptional,
      Table.All, Join.AllIn, Filter.AllOptional, Filter.All, Filter.AllIn, Operand.AllOptional, Operand.All,
      SortKey.AllIn]
    decide
  have hq : cheapestOrders.toQuery .postgres = .ok cheapestOrdersQuery := rfl
  exact Subquery.compile_select_eq_raw rfl (by decide) (by decide) (fun _ => hnames) hq

end BoundSql
