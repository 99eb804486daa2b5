import BoundSql.Compile

/-! Running computations. A computation over bindings either yields a result and the bindings behind it or
    fails. `yields_bind` takes a sequence apart, and the lemmas beside it say what each elementary step
    does. `Binds` says of a computation what it binds wherever it succeeds, and has one rule for each way
    in which computations are put together. -/

namespace BoundSql
open Json (Value)

/-! ### Bindings -/

namespace Bindings

/-- The bindings with further values behind those they have. -/
def extend (b : Bindings) (values : List Value) : Bindings :=
  { values := b.values ++ values.toArray, cursor := b.cursor.advance values.length }

@[simp] theorem extend_cursor (b : Bindings) (values : List Value) :
    (b.extend values).cursor = b.cursor.advance values.length := rfl

@[simp] theorem extend_values (b : Bindings) (values : List Value) :
    (b.extend values).values = b.values ++ values.toArray := rfl

@[simp] theorem extend_nil (b : Bindings) : b.extend [] = b := by
  cases b
  simp [extend, Cursor.advance]

theorem extend_extend (b : Bindings) (vs ws : List Value) :
    (b.extend vs).extend ws = b.extend (vs ++ ws) := by
  simp [extend, Cursor.advance, Nat.add_assoc]

theorem extend_injective {b : Bindings} {vs ws : List Value} (h : b.extend vs = b.extend ws) : vs = ws := by
  have hvalues := congrArg values h
  rw [extend_values, extend_values, Array.append_right_inj] at hvalues
  simpa using hvalues

theorem toList_extend_fresh (style : Style) (vs : List Value) : ((fresh style).extend vs).values.toList = vs := by
  simp [fresh]

end Bindings

/-! ### Elementary steps -/

namespace Compile
variable {α β : Type} {b c : Bindings}

/-- The result of a computation from the given bindings, with the bindings that it leaves. -/
def outcome (m : Compile α) (b : Bindings) : Except SqlError α × Bindings := m.run b

@[simp] theorem outcome_pure (a : α) (b : Bindings) : (pure a : Compile α).outcome b = (.ok a, b) := rfl

@[simp] theorem outcome_throw (e : SqlError) (b : Bindings) :
    (throw e : Compile α).outcome b = (.error e, b) := rfl

theorem outcome_bind (m : Compile α) (f : α → Compile β) (b : Bindings) :
    (m >>= f).outcome b = match m.outcome b with
      | (.ok a, c) => (f a).outcome c
      | (.error e, c) => (.error e, c) := by
  unfold outcome ExceptT.run
  simp only [bind, ExceptT.bind, ExceptT.mk, StateT.bind, ExceptT.bindCont]
  cases m b with
  | mk result c => cases result <;> rfl

theorem outcome_bindValue (v : Value) (b : Bindings) :
    (bindValue v).outcome b = (.ok (b.cursor.style.token b.cursor.position), b.extend [v]) := by
  show (Except.ok _, (_ : Bindings)) = _
  simp [Bindings.extend, Cursor.advance]

theorem outcome_splice (raw : RawSql) (b : Bindings) :
    (splice raw).outcome b =
      match Placeholder.renumber b.cursor.style b.cursor.position raw.args.length raw.sql with
      | .ok sql => (.ok sql, b.extend raw.args)
      | .error token => (.error (.invalidPlaceholder token), b) := by
  unfold splice
  rw [outcome_bind]
  show (match Placeholder.renumber b.cursor.style b.cursor.position raw.args.length raw.sql with
    | .ok sql => _
    | .error token => _ : Compile String).outcome b = _
  split <;> rfl

theorem outcome_require (condition : Bool) (e : SqlError) (b : Bindings) :
    (require condition e).outcome b = (if condition then .ok () else .error e, b) := by
  cases condition <;> rfl

/-- From bindings `b` the computation succeeds with `a` and leaves bindings `c`. -/
def Yields (m : Compile α) (b : Bindings) (a : α) (c : Bindings) : Prop := m.outcome b = (.ok a, c)

theorem Yields.unique {m : Compile α} {a a' : α} {c' : Bindings} (h : m.Yields b a c) (h' : m.Yields b a' c') :
    a = a' ∧ c = c' := by
  cases h.symm.trans h'
  exact ⟨rfl, rfl⟩

@[simp] theorem yields_pure {a x : α} : (pure a : Compile α).Yields b x c ↔ x = a ∧ c = b := by
  simp [Yields, eq_comm]

@[simp] theorem yields_throw {e : SqlError} {x : α} : ¬ (throw e : Compile α).Yields b x c := by
  simp [Yields]

theorem yields_bind {m : Compile α} {f : α → Compile β} {x : β} :
    (m >>= f).Yields b x c ↔ ∃ a b', m.Yields b a b' ∧ (f a).Yields b' x c := by
  unfold Yields
  rw [outcome_bind]
  rcases m.outcome b with ⟨_ | a, b'⟩
  · simp
  · simp [and_assoc]

theorem yields_mapM_nil {f : α → Compile β} {ys : List β} :
    (([] : List α).mapM f).Yields b ys c ↔ ys = [] ∧ c = b := by
  rw [List.mapM_nil, yields_pure]

theorem yields_mapM_cons {f : α → Compile β} {x : α} {xs : List α} {ys : List β} :
    ((x :: xs).mapM f).Yields b ys c ↔
      ∃ y zs b', (f x).Yields b y b' ∧ (xs.mapM f).Yields b' zs c ∧ ys = y :: zs := by
  rw [List.mapM_cons, yields_bind]
  constructor
  · rintro ⟨y, b', hy, hrest⟩
    obtain ⟨zs, d, hzs, hpure⟩ := yields_bind.mp hrest
    obtain ⟨rfl, rfl⟩ := yields_pure.mp hpure
    exact ⟨y, zs, b', hy, hzs, rfl⟩
  · rintro ⟨y, zs, b', hy, hzs, rfl⟩
    exact ⟨y, b', hy, yields_bind.mpr ⟨zs, c, hzs, yields_pure.mpr ⟨rfl, rfl⟩⟩⟩

theorem yields_mapM_append {f : α → Compile β} {xs xs' : List α} {ys ys' : List β} {b' : Bindings}
    (h : (xs.mapM f).Yields b ys b') (h' : (xs'.mapM f).Yields b' ys' c) :
    ((xs ++ xs').mapM f).Yields b (ys ++ ys') c := by
  rw [List.mapM_append]
  exact yields_bind.mpr ⟨ys, b', h, yields_bind.mpr ⟨ys', c, h', yields_pure.mpr ⟨rfl, rfl⟩⟩⟩

theorem yields_bindValue {v : Value} {x : String} :
    (bindValue v).Yields b x c ↔ x = b.cursor.style.token b.cursor.position ∧ c = b.extend [v] := by
  simp [Yields, outcome_bindValue, eq_comm]

theorem yields_splice {raw : RawSql} {x : String} :
    (splice raw).Yields b x c ↔
      Placeholder.renumber b.cursor.style b.cursor.position raw.args.length raw.sql = .ok x ∧
        c = b.extend raw.args := by
  rw [Yields, outcome_splice]
  split <;> rename_i h <;> simp [h, eq_comm]

@[simp] theorem yields_require {condition : Bool} {e : SqlError} {x : Unit} :
    (require condition e).Yields b x c ↔ condition = true ∧ c = b := by
  cases condition <;> simp [Yields, outcome_require, eq_comm]

theorem toQuery_eq (style : Style) (m : Compile String) :
    toQuery style m = match m.outcome (.fresh style) with
      | (.ok sql, c) => .ok { sql, args := c.values.toList }
      | (.error e, _) => .error e := rfl

theorem toQuery_eq_ok {style : Style} {m : Compile String} {q : Query} :
    toQuery style m = .ok q ↔ ∃ c, m.Yields (.fresh style) q.sql c ∧ q.args = c.values.toList := by
  rw [toQuery_eq]
  unfold Yields
  rcases m.outcome (.fresh style) with ⟨e | sql, c⟩
  · simp
  · cases q
    simp [and_assoc, eq_comm]

/-! ### What a computation binds -/

/-- Wherever a computation of the style starts at `position` and succeeds, it binds exactly `values`, and
    its result satisfies `post`. -/
def Binds (style : Style) (position : Nat) (m : Compile α) (values : List Value) (post : α → Prop) : Prop :=
  ∀ ⦃b c : Bindings⦄ ⦃a : α⦄, b.cursor = ⟨style, position⟩ → m.Yields b a c → c = b.extend values ∧ post a

namespace Binds
variable {style : Style} {position : Nat} {m : Compile α} {vs ws : List Value} {p : α → Prop} {q : β → Prop}

protected theorem pure {a : α} (h : p a) : Binds style position (pure a) [] p := by
  intro b c x _ hy
  obtain ⟨rfl, rfl⟩ := yields_pure.mp hy
  exact ⟨(Bindings.extend_nil _).symm, h⟩

protected theorem throw {e : SqlError} : Binds style position (throw e : Compile α) vs p :=
  fun _ _ _ _ hy => absurd hy yields_throw

protected theorem bind {f : α → Compile β} (hm : Binds style position m vs p)
    (hf : ∀ a, p a → Binds style (position + vs.length) (f a) ws q) :
    Binds style position (m >>= f) (vs ++ ws) q := by
  intro b c x hb hy
  obtain ⟨a, b', hya, hyx⟩ := yields_bind.mp hy
  obtain ⟨rfl, ha⟩ := hm hb hya
  obtain ⟨rfl, hx⟩ := hf a ha (by simp [hb, Cursor.advance]) hyx
  exact ⟨Bindings.extend_extend b vs ws, hx⟩

/-- A computation that binds nothing at first. -/
theorem nil_bind {f : α → Compile β} (hm : Binds style position m [] p)
    (hf : ∀ a, p a → Binds style position (f a) ws q) : Binds style position (m >>= f) ws q :=
  hm.bind hf

/-- A computation that binds one value at first. -/
theorem cons_bind {f : α → Compile β} {value : Value} (hm : Binds style position m [value] p)
    (hf : ∀ a, p a → Binds style (position + 1) (f a) ws q) :
    Binds style position (m >>= f) (value :: ws) q :=
  hm.bind hf

/-- A computation that goes on without binding more. -/
theorem bind_nil {f : α → Compile β} (hm : Binds style position m vs p)
    (hf : ∀ a, p a → Binds style (position + vs.length) (f a) [] q) : Binds style position (m >>= f) vs q := by
  rw [← List.append_nil vs]
  exact hm.bind hf

/-- A computation that ends with a function of what it has computed. -/
theorem map {f : α → β} (hm : Binds style position m vs p) (hf : ∀ a, p a → q (f a)) :
    Binds style position (do return f (← m)) vs q :=
  hm.bind_nil fun a ha => .pure (hf a ha)

theorem require {condition : Bool} {e : SqlError} {f : Unit → Compile β}
    (hf : condition = true → Binds style position (f ()) vs q) :
    Binds style position (Compile.require condition e >>= f) vs q := by
  intro b c x hb hy
  obtain ⟨_, b', hr, hyf⟩ := yields_bind.mp hy
  obtain ⟨hc, rfl⟩ := yields_require.mp hr
  exact hf hc hb hyf

protected theorem bindValue (v : Value) :
    Binds style position (bindValue v) [v] (· = style.token position) := by
  intro b c x hb hy
  obtain ⟨rfl, rfl⟩ := yields_bindValue.mp hy
  exact ⟨rfl, by rw [hb]⟩

protected theorem splice (raw : RawSql) :
    Binds style position (splice raw) raw.args
      fun sql => Placeholder.renumber style position raw.args.length raw.sql = .ok sql := by
  intro b c x hb hy
  obtain ⟨hr, rfl⟩ := yields_splice.mp hy
  rw [hb] at hr
  exact ⟨rfl, hr⟩

end Binds
end Compile
end BoundSql
