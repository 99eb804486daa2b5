import BoundSql.Proofs.Twin

/-! Independence. Values are bound, never written: statements of one shape are refused for the same reason
    or compiled to the same text, and each query has the arguments of its own statement
    (`Statement.toQuery_of_shape_eq`). -/

namespace BoundSql
open Json (Value)

/-- Text that stays as it is, at the same place or on a dialect whose placeholders all look the same. -/
def Shift.still (dialect : Dialect) (gap : Nat) (h : gap = 0 ∨ dialect.style.isIndexed = false) :
    Shift dialect where
  gap
  text := id
  Room _ := True
  Name _ := True
  room_of_add _ := trivial
  inert _ := rfl
  name _ := rfl
  token n := by
    rcases h with rfl | h
    · rfl
    · rcases Dialect.fixed_cases h with rfl | rfl <;> rfl
  renumber {n count} sql _ := by
    have hid : ∀ x : Except String String, x.map id = x := by
      intro x
      cases x <;> rfl
    rw [hid]
    rcases h with rfl | h
    · rfl
    · rw [Placeholder.renumber, Placeholder.renumber, if_neg (by simp [h]), if_neg (by simp [h])]
  append _ := rfl
  trim _ := rfl
  eq_empty_iff _ := Iff.rfl

variable {dialect : Dialect}

/-- A statement and its shape fail with the same error, or their queries have the same text and bind as
    many values. -/
theorem Statement.toQuery_shape (dialect : Dialect) (statement : Statement) :
    (∃ e, statement.toQuery dialect = .error e ∧ statement.shape.toQuery dialect = .error e) ∨
      ∃ sql, statement.toQuery dialect = .ok ⟨sql, statement.arguments dialect⟩ ∧
        statement.shape.toQuery dialect = .ok ⟨sql, statement.shape.arguments dialect⟩ ∧
        (statement.arguments dialect).length = (statement.shape.arguments dialect).length := by
  have ht := statement.twin (Shift.still dialect 0 (Or.inl rfl)) dialect.style.start statement.all_true
  unfold toQuery
  rw [Compile.toQuery_eq, Compile.toQuery_eq]
  rcases ht trivial (.fresh dialect.style) (.fresh dialect.style) rfl rfl with
    ⟨e, c, c', h₁, h₂⟩ | ⟨sql, h₁, h₂, hlen⟩
  · rw [h₁, h₂]
    exact Or.inl ⟨e, rfl, rfl⟩
  · rw [h₁, h₂]
    exact Or.inr ⟨sql, by simp [Bindings.fresh], by simp [Bindings.fresh, Shift.still], hlen⟩

/-- A query binds what its statement has, in the order of the text. -/
theorem Statement.args_of_toQuery {statement : Statement} {q : Query}
    (hq : statement.toQuery dialect = .ok q) : q.args = statement.arguments dialect := by
  rcases statement.toQuery_shape dialect with ⟨e, h, -⟩ | ⟨sql, h, -⟩
  · rw [hq] at h
    cases h
  · rw [hq] at h
    cases h
    rfl

/-- Statements that differ only in the values they bind fail with the same error, or they are compiled to
    the same text; the arguments are then as many, and each query has those of its own statement. -/
theorem Statement.toQuery_of_shape_eq {s t : Statement} (h : s.shape = t.shape) (dialect : Dialect) :
    (∃ e, s.toQuery dialect = .error e ∧ t.toQuery dialect = .error e) ∨
      ∃ sql, s.toQuery dialect = .ok ⟨sql, s.arguments dialect⟩ ∧
        t.toQuery dialect = .ok ⟨sql, t.arguments dialect⟩ ∧
        (s.arguments dialect).length = (t.arguments dialect).length := by
  rcases s.toQuery_shape dialect with ⟨e, hs, hs'⟩ | ⟨sql, hs, hs', hlen⟩
  · rcases t.toQuery_shape dialect with ⟨e', ht, ht'⟩ | ⟨sql, ht, ht', -⟩
    · rw [h, ht'] at hs'
      cases hs'
      exact Or.inl ⟨e, hs, ht⟩
    · rw [h, ht'] at hs'
      cases hs'
  · rcases t.toQuery_shape dialect with ⟨e, ht, ht'⟩ | ⟨sql', ht, ht', hlen'⟩
    · rw [h, ht'] at hs'
      cases hs'
    · rw [h, ht'] at hs'
      cases hs'
      exact Or.inr ⟨sql, hs, ht, by rw [hlen, hlen', h]⟩

def ordersOwnedBy (owner : Value) : Statement :=
  .select {
    fields := [{ column := some "id" }]
    table := some { name := some "orders" }
    filter := some (.group .or [
      .condition { column := some "owner" } .eq (some (.literal owner)),
      .raw { sql := "shared_with = $1", args := [owner] }]) }

set_option maxRecDepth 20000 in
theorem ordersOwnedBy_independent : ∃ sql,
    (ordersOwnedBy (.ofNat 1)).toQuery .postgres = .ok ⟨sql, [.ofNat 1, .ofNat 1]⟩ ∧
      (ordersOwnedBy (.string "1 OR 1 = 1")).toQuery .postgres =
        .ok ⟨sql, [.string "1 OR 1 = 1", .string "1 OR 1 = 1"]⟩ := by
  have hshape : (ordersOwnedBy (.ofNat 1)).shape = (ordersOwnedBy (.string "1 OR 1 = 1")).shape := rfl
  have hok : (ordersOwnedBy (.ofNat 1)).toQuery .postgres =
      .ok ⟨"SELECT id FROM orders WHERE owner = $1 OR (shared_with = $2)", [.ofNat 1, .ofNat 1]⟩ := rfl
  rcases Statement.toQuery_of_shape_eq hshape .postgres with ⟨e, h, -⟩ | ⟨sql, h₁, h₂, -⟩
  · rw [hok] at h
    cases h
  · exact ⟨sql, h₁, h₂⟩

end BoundSql
