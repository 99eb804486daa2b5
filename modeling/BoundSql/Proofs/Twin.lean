import BoundSql.Proofs.Equations
import BoundSql.Proofs.Run
import BoundSql.Proofs.Separators
import BoundSql.Proofs.Shape
import BoundSql.Proofs.Walk

/-! Two runs. A statement and its shape are compiled side by side, the shape further on in the text. If
    text changes from the first run to the second piece by piece (`Shift`), then the runs stay in step:
    both fail with the same error, or both succeed, and then the text of the second run is that of the
    first one changed (`Statement.twin`). Neither the values nor the place of a statement have a part in
    what is compiled. -/

namespace BoundSql
open Json (Value)

/-- A change of text from a run to another that is `gap` placeholders further on. -/
structure Shift (dialect : Dialect) where
  gap : Nat
  text : String → String
  /-- Whether the placeholders before a position of the first run have room in the second. -/
  Room : Nat → Prop
  /-- What is asked of an identifier. -/
  Name : String → Prop
  room_of_add {n k : Nat} : Room (n + k) → Room n
  inert {s : String} : Inert s → text s = s
  name {s : String} : Name s → text s = s
  token (n : Nat) : text (dialect.style.token n) = dialect.style.token (n + gap)
  renumber {n count : Nat} (sql : String) : Room (n + count) →
    Placeholder.renumber dialect.style (n + gap) count sql =
      (Placeholder.renumber dialect.style n count sql).map text
  append {s t : String} : Meets s t → text (s ++ t) = text s ++ text t
  trim (s : String) : text (Text.trim s) = Text.trim (text s)
  eq_empty_iff (s : String) : text s = "" ↔ s = ""

namespace Shift
variable {dialect : Dialect} (S : Shift dialect)

/-! ### Runs in step -/

/-- From position `n` and from `gap` positions further on, both computations fail with the same error, or
    both succeed: the first one binds `vs`, the second one as many values `ws`, and its result is that of
    the first one changed by `g`. -/
def Twin {α : Type} (n : Nat) (m m' : Compile α) (vs ws : List Value) (g : α → α) : Prop :=
  S.Room (n + vs.length) → ∀ b b' : Bindings, b.cursor = ⟨dialect.style, n⟩ →
    b'.cursor = ⟨dialect.style, n + S.gap⟩ →
      (∃ e c c', m.outcome b = (.error e, c) ∧ m'.outcome b' = (.error e, c')) ∨
        ∃ a, m.outcome b = (.ok a, b.extend vs) ∧ m'.outcome b' = (.ok (g a), b'.extend ws) ∧
          vs.length = ws.length

namespace Twin
variable {S} {α β : Type} {n : Nat} {m m' : Compile α} {f f' : α → Compile β} {g : α → α} {h : β → β}
  {vs vs' ws ws' : List Value}

protected theorem pure {a a' : α} (ha : a' = g a) : S.Twin n (pure a) (pure a') [] [] g := by
  intro _ b b' _ _
  refine Or.inr ⟨a, ?_, ?_, rfl⟩
  · rw [Bindings.extend_nil]
    rfl
  · rw [Bindings.extend_nil, ha]
    rfl

protected theorem throw {e : SqlError} : S.Twin n (throw e) (throw e) vs ws g :=
  fun _ b b' _ _ => Or.inl ⟨e, b, b', rfl, rfl⟩

protected theorem bind (hm : S.Twin n m m' vs ws g)
    (hf : ∀ a, S.Twin (n + vs.length) (f a) (f' (g a)) vs' ws' h) :
    S.Twin n (m >>= f) (m' >>= f') (vs ++ vs') (ws ++ ws') h := by
  intro hroom b b' hb hb'
  rw [List.length_append, ← Nat.add_assoc] at hroom
  rw [Compile.outcome_bind, Compile.outcome_bind]
  rcases hm (S.room_of_add hroom) b b' hb hb' with ⟨e, c, c', h₁, h₂⟩ | ⟨a, h₁, h₂, hlen⟩
  · rw [h₁, h₂]
    exact Or.inl ⟨e, c, c', rfl, rfl⟩
  · rw [h₁, h₂]
    have hc : (b.extend vs).cursor = ⟨dialect.style, n + vs.length⟩ := by simp [hb, Cursor.advance]
    have hc' : (b'.extend ws).cursor = ⟨dialect.style, n + vs.length + S.gap⟩ := by
      simp [hb', Cursor.advance, hlen]
      omega
    rcases hf a hroom _ _ hc hc' with ⟨e, c, c', h₃, h₄⟩ | ⟨x, h₃, h₄, hlen'⟩
    · exact Or.inl ⟨e, c, c', h₃, h₄⟩
    · rw [Bindings.extend_extend] at h₃ h₄
      exact Or.inr ⟨x, h₃, h₄, by simp [hlen, hlen']⟩

/-- Computations that bind nothing at first. -/
theorem nil_bind (hm : S.Twin n m m' [] [] g) (hf : ∀ a, S.Twin n (f a) (f' (g a)) vs ws h) :
    S.Twin n (m >>= f) (m' >>= f') vs ws h :=
  hm.bind hf

/-- Computations that bind one value at first. -/
theorem cons_bind {v w : Value} (hm : S.Twin n m m' [v] [w] g)
    (hf : ∀ a, S.Twin (n + 1) (f a) (f' (g a)) vs ws h) :
    S.Twin n (m >>= f) (m' >>= f') (v :: vs) (w :: ws) h :=
  hm.bind hf

/-- Computations that go on without binding more. -/
theorem bind_nil (hm : S.Twin n m m' vs ws g)
    (hf : ∀ a, S.Twin (n + vs.length) (f a) (f' (g a)) [] [] h) : S.Twin n (m >>= f) (m' >>= f') vs ws h := by
  rw [← List.append_nil vs, ← List.append_nil ws]
  exact hm.bind hf

/-- Computations that end with a function of what they have computed. -/
theorem map {k k' : α → β} (hm : S.Twin n m m' vs ws g) (hk : ∀ a, k' (g a) = h (k a)) :
    S.Twin n (do return k (← m)) (do return k' (← m')) vs ws h :=
  hm.bind_nil fun a => .pure (hk a)

theorem require {c c' : Bool} {e : SqlError} {f f' : Unit → Compile β} (hc : c' = c)
    (hf : S.Twin n (f ()) (f' ()) vs ws h) :
    S.Twin n (Compile.require c e >>= f) (Compile.require c' e >>= f') vs ws h := by
  subst hc
  cases c'
  · exact .throw
  · exact hf

protected theorem bindValue (v w : Value) :
    S.Twin n (Compile.bindValue v) (Compile.bindValue w) [v] [w] S.text := by
  intro _ b b' hb hb'
  rw [Compile.outcome_bindValue, Compile.outcome_bindValue, hb, hb']
  exact Or.inr ⟨_, rfl, by rw [S.token], rfl⟩

protected theorem splice (raw : RawSql) :
    S.Twin n (Compile.splice raw) (Compile.splice raw.shape) raw.args raw.shape.args S.text := by
  intro hroom b b' hb hb'
  have hlen : raw.shape.args.length = raw.args.length := length_blankValues raw.args
  have hsql : raw.shape.sql = raw.sql := rfl
  rw [Compile.outcome_splice, Compile.outcome_splice, hb, hb', hlen, hsql, S.renumber raw.sql hroom]
  cases Placeholder.renumber dialect.style n raw.args.length raw.sql with
  | error token => exact Or.inl ⟨_, _, _, rfl, rfl⟩
  | ok sql => exact Or.inr ⟨sql, rfl, rfl, rfl⟩

end Twin

/-! ### Changing text that is put together -/

variable {s t : String}

theorem followed (s : String) (hf : Follows t) : S.text (s ++ t) = S.text s ++ S.text t :=
  S.append (Or.inr (Or.inr hf))

theorem opened (g t : String) (hg : Opening g := by decide) : S.text (g ++ t) = g ++ S.text t := by
  rw [S.append (Or.inr (Or.inl hg.2)), S.inert hg.1]

theorem closed (s g : String) (hg : Closing g := by decide) : S.text (s ++ g) = S.text s ++ g := by
  rw [S.followed s hg.2, S.inert hg.1]

theorem joined (s g t : String) (hg : Separating g := by decide) :
    S.text (s ++ (g ++ t)) = S.text s ++ (g ++ S.text t) := by
  rw [S.followed s (hg.follows_append t), S.opened g t ⟨hg.1, hg.2.2⟩]

theorem isEmpty_text (s : String) : (S.text s).isEmpty = s.isEmpty := by
  rw [Bool.eq_iff_iff, String.isEmpty_iff, String.isEmpty_iff]
  exact S.eq_empty_iff s

theorem parenthesized (s : String) : S.text (BoundSql.parenthesized s) = BoundSql.parenthesized (S.text s) := by
  simp only [BoundSql.parenthesized, toString]
  rw [S.closed _ ")", S.opened "(" s]

theorem labeled (s : String) {label : Option String} (hl : ∀ l ∈ label, S.Name l) :
    S.text (BoundSql.labeled s label) = BoundSql.labeled (S.text s) label := by
  cases label with
  | none => rfl
  | some l =>
    simp only [BoundSql.labeled, toString, String.append_assoc]
    rw [S.joined s " AS " l, S.name (hl l rfl)]

theorem qualified {table : Option String} {column : String} (ht : ∀ name ∈ table, S.Name name)
    (hc : S.Name column) : S.text (BoundSql.qualified table column) = BoundSql.qualified table column := by
  cases table with
  | none => exact S.name hc
  | some name =>
    simp only [BoundSql.qualified, toString, String.append_assoc]
    rw [S.joined name "." column, S.name (ht name rfl), S.name hc]

theorem clause (keyword s : String) (hk : Inert keyword := by decide) :
    S.text (BoundSql.clause keyword s) = BoundSql.clause keyword (S.text s) := by
  unfold BoundSql.clause
  rw [S.isEmpty_text]
  split
  · exact S.inert (by decide)
  · simp only [toString, String.append_assoc]
    rw [S.opened " " _, S.joined keyword " " s,
      S.inert hk]

theorem separated (g : String) (hg : Separating g) (ss : List String) :
    S.text (g.intercalate ss) = g.intercalate (ss.map S.text) := by
  induction ss with
  | nil =>
    have h : S.text "" = "" := S.inert (by decide)
    exact h
  | cons s ss ih =>
    cases ss with
    | nil => simp
    | cons t ss =>
      rw [String.intercalate_cons_cons, String.append_assoc, S.joined s g _ hg, ih, List.map_cons,
        List.map_cons, List.map_cons, String.intercalate_cons_cons, String.append_assoc]

theorem commaList (ss : List String) : S.text (BoundSql.commaList ss) = BoundSql.commaList (ss.map S.text) :=
  S.separated ", " (by decide) ss

theorem join (ss : List String) : S.text (String.join (ss.map fun s => " " ++ s)) =
    String.join ((ss.map S.text).map fun s => " " ++ s) := by
  induction ss with
  | nil => exact S.inert (by decide)
  | cons s ss ih =>
    rw [List.map_cons, List.map_cons, List.map_cons, String.join_cons, String.join_cons,
      S.followed _ (follows_join ss), ih, S.opened " " s]

theorem head (distinct : Bool) (columns : List String) (source : String) :
    S.text ("SELECT " ++ (if distinct then "DISTINCT " else "") ++ BoundSql.commaList columns ++ " FROM " ++
        source) =
      "SELECT " ++ (if distinct then "DISTINCT " else "") ++ BoundSql.commaList (columns.map S.text) ++
        " FROM " ++ S.text source := by
  have hd : ∀ t, S.text ((if distinct then "DISTINCT " else "") ++ t) =
      (if distinct then "DISTINCT " else "") ++ S.text t := by
    intro t
    cases distinct
    · simp
    · exact S.opened "DISTINCT " t
  simp only [String.append_assoc]
  rw [S.opened "SELECT " _, hd, S.joined _ " FROM " source, S.commaList]

theorem order (keys : List String) (paged : Bool) :
    S.text (BoundSql.clause "ORDER BY"
      (if keys.isEmpty && paged && dialect.pagesNeedOrder then "(SELECT NULL)" else BoundSql.commaList keys)) =
      BoundSql.clause "ORDER BY"
        (if (keys.map S.text).isEmpty && paged && dialect.pagesNeedOrder then "(SELECT NULL)"
          else BoundSql.commaList (keys.map S.text)) := by
  rw [S.clause "ORDER BY" _, List.isEmpty_map]
  split
  · rw [S.inert (by decide)]
  · rw [S.commaList]

theorem page (s : String) : S.text (if s.isEmpty then "" else " " ++ s) =
    if (S.text s).isEmpty then "" else " " ++ S.text s := by
  rw [S.isEmpty_text]
  split
  · exact S.inert (by decide)
  · exact S.opened " " s

end Shift

/-! ### Compilation

The runs differ in nothing that decides what comes next: a shape is refused where its statement is, and a
changed text is empty just when the text was. -/

open Shift (Twin)
variable {dialect : Dialect} (S : Shift dialect) (n : Nat)

theorem twin_bindValues (values : List Value) : ∀ n, S.Twin n (values.mapM Compile.bindValue)
    ((blankValues values).mapM Compile.bindValue) values (blankValues values) (List.map S.text) := by
  induction values with
  | nil =>
    intro n
    exact .pure rfl
  | cons value values ih =>
    intro n
    rw [blankValues, List.map_cons, List.mapM_cons, List.mapM_cons]
    exact .cons_bind (.bindValue value .null) fun s => .map (ih (n + 1)) fun ss => rfl

theorem Operator.twin (operator : Operator) (value : Value) :
    S.Twin n (operator.compileLiteral value) (operator.compileLiteral (operator.shape value))
      (operator.arguments value) (operator.arguments (operator.shape value)) (Option.map S.text) := by
  unfold Operator.compileLiteral Operator.arguments Operator.shape
  by_cases hn : operator.isNullCheck = true
  · simp only [hn, if_true]
    cases Operand.isNull (.literal value) with
    | false => exact .throw
    | true => exact .pure rfl
  by_cases hl : operator.isList = true
  · simp only [hn, hl, if_true]
    cases value with
    | array items =>
      cases items with
      | nil => exact .throw
      | cons item items =>
        refine .map (twin_bindValues S (item :: items) n) fun ss => ?_
        rw [Option.map_some, S.parenthesized, S.commaList]
    | _ => exact .throw
  by_cases hp : operator.isLike = true
  · simp only [hn, hl, hp, if_true]
    cases value with
    | string pattern => exact .map (.bindValue _ _) fun s => rfl
    | _ => exact .throw
  · simp only [hn, hl, hp]
    exact .map (.bindValue value .null) fun s => rfl

theorem Operator.twin_null (operator : Operator) :
    S.Twin n (operator.compileLiteral .null) (operator.compileLiteral .null) (operator.arguments .null)
      (operator.arguments .null) (Option.map S.text) := by
  have h : operator.shape .null = .null := by cases operator <;> rfl
  have ht := operator.twin S n .null
  rwa [h] at ht

theorem Dialect.limitOffset_twin (unlimited : Option String) (hu : ∀ all ∈ unlimited, Inert all)
    (take skip : Option Nat) :
    S.Twin n (limitOffset unlimited take skip)
      (limitOffset unlimited (take.map fun _ => 0) (skip.map fun _ => 0))
      ((take.toList ++ skip.toList).map .ofNat)
      (((take.map fun _ => 0).toList ++ (skip.map fun _ => 0).toList).map .ofNat) S.text := by
  rcases take with _ | take <;> rcases skip with _ | skip
  · exact .pure (S.inert (by decide)).symm
  · refine .bind_nil (.bindValue (.ofNat skip) (.ofNat 0)) fun offset => ?_
    cases unlimited with
    | none => exact .pure (S.opened "OFFSET " offset).symm
    | some all =>
      refine .pure ?_
      simp only [toString, String.append_assoc]
      rw [S.opened "LIMIT " _, S.joined all " OFFSET " offset, S.inert (hu all rfl)]
  · exact .map (.bindValue (.ofNat take) (.ofNat 0)) fun limit =>
      (S.opened "LIMIT " limit).symm
  · refine .cons_bind (.bindValue (.ofNat take) (.ofNat 0)) fun limit =>
      .map (.bindValue (.ofNat skip) (.ofNat 0)) fun offset => ?_
    simp only [toString, String.append_assoc]
    rw [S.opened "LIMIT " _, S.joined limit " OFFSET " offset]

theorem Dialect.offsetFetch_twin (take skip : Option Nat) :
    S.Twin n (offsetFetch take skip) (offsetFetch (take.map fun _ => 0) (skip.map fun _ => 0))
      ((skip.toList ++ take.toList).map .ofNat)
      (((skip.map fun _ => 0).toList ++ (take.map fun _ => 0).toList).map .ofNat) S.text := by
  rcases take with _ | take <;> rcases skip with _ | skip
  · exact .pure (S.inert (by decide)).symm
  · refine .map (.bindValue (.ofNat skip) (.ofNat 0)) fun offset => ?_
    simp only [toString, String.append_assoc]
    rw [S.opened "OFFSET " _, S.closed offset " ROWS"]
  · refine .nil_bind (.pure (S.inert (by decide)).symm) fun offset =>
      .map (.bindValue (.ofNat take) (.ofNat 0)) fun count => ?_
    simp only [toString, String.append_assoc]
    rw [S.opened "OFFSET " _, S.joined offset " ROWS FETCH NEXT " _, S.closed count " ROWS ONLY"]
  · refine .cons_bind (.bindValue (.ofNat skip) (.ofNat 0)) fun offset =>
      .map (.bindValue (.ofNat take) (.ofNat 0)) fun count => ?_
    simp only [toString, String.append_assoc]
    rw [S.opened "OFFSET " _, S.joined offset " ROWS FETCH NEXT " _, S.closed count " ROWS ONLY"]

theorem Dialect.page_twin (take skip : Option Nat) :
    S.Twin n (dialect.page take skip) (dialect.page (take.map fun _ => 0) (skip.map fun _ => 0))
      (dialect.pageArguments take skip)
      (dialect.pageArguments (take.map fun _ => 0) (skip.map fun _ => 0)) S.text := by
  cases dialect with
  | mssql => exact offsetFetch_twin S n take skip
  | mysql => exact limitOffset_twin S n _ (inert_unlimited? mysql) take skip
  | sqlite => exact limitOffset_twin S n _ (inert_unlimited? sqlite) take skip
  | postgres => exact limitOffset_twin S n _ (inert_unlimited? postgres) take skip

theorem Subquery.label?_shape (query : Subquery) : query.shape.label? = query.label? := by
  rcases query with ⟨⟨_, _, _, _, _, _, _, _, _, _, _⟩⟩ | raw <;> rfl

theorem Field.isEmpty_shapes (fields : List Field) : (Field.shapes fields).isEmpty = fields.isEmpty := by
  cases fields <;> rfl

mutual

theorem Subquery.twin (n : Nat) : (query : Subquery) → query.All S.Name (fun _ => True) →
    S.Twin n (query.compile dialect) (query.shape.compile dialect) (query.arguments dialect)
      (query.shape.arguments dialect) S.text
  | .select s, h => by
    rw [Subquery.shape, Subquery.compile, Subquery.compile, Subquery.arguments, Subquery.arguments]
    exact s.twin n h
  | .raw raw, _ => by
    rw [Subquery.shape, Subquery.compile, Subquery.compile, Subquery.arguments, Subquery.arguments]
    exact .splice raw

theorem Field.twin (n : Nat) (refuse : FieldDefect → SqlError) : (field : Field) →
    field.All S.Name (fun _ => True) →
    S.Twin n (field.expression dialect refuse) (field.shape.expression dialect refuse)
      (field.arguments dialect) (field.shape.arguments dialect) S.text
  | ⟨table, column, some query, label⟩, h => by
    simp only [Field.All, Subquery.AllOptional] at h
    rw [Field.shape, Subquery.shapeOptional, Field.expression_of_query, Field.expression_of_query]
    cases table <;> cases column
    · rw [Field.arguments, Field.arguments]
      exact .map (query.twin n h.2.2.2) fun s => (S.parenthesized s).symm
    all_goals exact .throw
  | ⟨table, column, none, label⟩, h => by
    simp only [Field.All] at h
    rw [Field.shape, Subquery.shapeOptional, Field.expression_of_column]
    cases hc : columnText table column false with
    | error defect => exact .throw
    | ok sql =>
      obtain ⟨name, rfl, rfl⟩ := columnText_eq_ok hc
      rw [Field.arguments]
      exact .pure (S.qualified (fun t ht => h.1 t (named?_eq_some ht)) (h.2.1 name rfl)).symm

theorem Field.twin_all (n : Nat) : (fields : List Field) → Field.AllIn S.Name (fun _ => True) fields →
    S.Twin n (compileFields dialect fields) (compileFields dialect (Field.shapes fields))
      (fieldsArguments dialect fields) (fieldsArguments dialect (Field.shapes fields)) (List.map S.text)
  | [], _ => by
    rw [Field.shapes, compileFields, fieldsArguments]
    exact .pure rfl
  | field :: rest, h => by
    rw [Field.shapes, compileFields, compileFields, fieldsArguments, fieldsArguments, Field.compile_eq,
      Field.compile_eq]
    have hlabel : field.shape.label.or (field.shape.query.bind Subquery.label?) =
        field.label.or (field.query.bind Subquery.label?) := by
      obtain ⟨table, column, _ | query, label⟩ := field
      · rfl
      · simp [Field.shape, Subquery.shapeOptional, Subquery.label?_shape]
    have hname : ∀ l ∈ field.label.or (field.query.bind Subquery.label?), S.Name l := Field.All.label h.1
    rw [hlabel]
    exact .bind (.map (field.twin n .invalidField h.1) fun s => (S.labeled s hname).symm) fun s =>
      .map (Field.twin_all _ rest h.2) fun ss => rfl

theorem Field.twin_groups (n : Nat) : (fields : List Field) → Field.AllIn S.Name (fun _ => True) fields →
    S.Twin n (groupFields dialect fields) (groupFields dialect (Field.shapes fields))
      (fieldsArguments dialect fields) (fieldsArguments dialect (Field.shapes fields)) (List.map S.text)
  | [], _ => by
    rw [Field.shapes, groupFields, fieldsArguments]
    exact .pure rfl
  | field :: rest, h => by
    rw [Field.shapes, groupFields, groupFields, fieldsArguments, fieldsArguments]
    exact .bind (field.twin n .invalidField h.1) fun s => .map (Field.twin_groups _ rest h.2) fun ss => rfl

theorem Table.twin (n : Nat) : (table : Table) → table.All S.Name (fun _ => True) →
    S.Twin n (table.compile dialect) (table.shape.compile dialect) (table.arguments dialect)
      (table.shape.arguments dialect) S.text
  | ⟨name, some query, label⟩, h => by
    simp only [Table.All, Subquery.AllOptional] at h
    rw [Table.shape, Subquery.shapeOptional, Table.compile_of_query, Table.compile_of_query,
      Table.arguments, Table.arguments, Subquery.label?_shape]
    cases named? name with
    | some name => exact .throw
    | none =>
      refine .map (query.twin n h.2.2) fun s => ?_
      rw [S.labeled _ (Table.All.label h), S.parenthesized]
  | ⟨name, none, label⟩, h => by
    simp only [Table.All] at h
    rw [Table.shape, Subquery.shapeOptional, Table.compile_of_name, Table.arguments]
    cases hn : named? name with
    | none => exact .throw
    | some name' =>
      obtain rfl := named?_eq_some hn
      refine .pure ?_
      rw [S.labeled _ h.2.1, S.name (h.1 name' rfl)]

theorem Join.twin_all (n : Nat) : (joins : List Join) → Join.AllIn S.Name (fun _ => True) joins →
    S.Twin n (compileJoins dialect joins) (compileJoins dialect (Join.shapes joins))
      (joinsArguments dialect joins) (joinsArguments dialect (Join.shapes joins)) (List.map S.text)
  | [], _ => by
    rw [Join.shapes, compileJoins, joinsArguments]
    exact .pure rfl
  | ⟨kind, table, condition⟩ :: rest, h => by
    simp only [Join.AllIn, Join.All] at h
    rw [Join.shapes, compileJoins, compileJoins, joinsArguments, joinsArguments, Join.compile, Join.compile]
    refine .bind (g := S.text) (.bind (table.twin n h.1.1) fun s => .bind_nil (condition.twin _ true h.1.2)
      fun t => .require (by rw [S.isEmpty_text]) (.pure ?_)) fun s =>
      .map (Join.twin_all _ rest h.2) fun ss => rfl
    simp only [toString, String.append_assoc]
    rw [S.joined _ " " _, S.joined _ " ON " _, S.inert kind.inert_sql]

theorem Operand.twin (n : Nat) (operator : Operator) : (value : Option Operand) →
    Operand.AllOptional S.Name (fun _ => True) value →
    S.Twin n (Operand.compile dialect operator value)
      (Operand.compile dialect operator (Operand.shapeOptional operator value))
      (Operand.arguments dialect operator value)
      (Operand.arguments dialect operator (Operand.shapeOptional operator value)) (Option.map S.text)
  | some (.column table column), h => by
    simp only [Operand.AllOptional, Operand.All] at h
    rw [Operand.shapeOptional, Operand.shape, Operand.compile_column, Operand.arguments]
    exact .pure (congrArg some (S.qualified h.1 h.2).symm)
  | some (.query query), h => by
    simp only [Operand.AllOptional, Operand.All] at h
    rw [Operand.shapeOptional, Operand.shape, Operand.compile_query, Operand.compile_query,
      Operand.arguments, Operand.arguments]
    split
    · exact .throw
    split
    · exact .throw
    split
    · exact .throw
    · exact .map (query.twin n h) fun s => congrArg some (S.parenthesized s).symm
  | some (.literal value), _ => by
    rw [Operand.shapeOptional, Operand.shape, Operand.compile_literal, Operand.compile_literal,
      Operand.arguments, Operand.arguments]
    exact operator.twin S n value
  | some .null, _ => by
    rw [Operand.shapeOptional, Operand.shape, Operand.compile_null, Operand.arguments]
    exact operator.twin_null S n
  | none, _ => by
    rw [Operand.shapeOptional, Operand.compile_none, Operand.arguments]
    exact operator.twin_null S n

theorem Filter.twin (n : Nat) (root : Bool) : (filter : Filter) → filter.All S.Name (fun _ => True) →
    S.Twin n (filter.compile dialect root) (filter.shape.compile dialect root) (filter.arguments dialect)
      (filter.shape.arguments dialect) S.text
  | .condition field operator value, h => by
    simp only [Filter.All] at h
    rw [Filter.shape, Filter.compile, Filter.compile, Filter.arguments, Filter.arguments]
    refine .bind (field.twin n _ h.1) fun left => .bind_nil (Operand.twin _ operator value h.2) fun right => ?_
    cases right with
    | none =>
      refine .pure ?_
      simp only [toString, String.append_assoc]
      rw [S.joined left " " _, S.inert (dialect.inert_operatorSql operator)]
    | some right =>
      refine .pure ?_
      simp only [toString, String.append_assoc]
      rw [S.joined left " " _, S.joined _ " " right, S.inert (dialect.inert_operatorSql operator)]
  | .group logic filters, h => by
    simp only [Filter.All] at h
    rw [Filter.shape, Filter.compile, Filter.compile, Filter.arguments, Filter.arguments]
    refine .bind_nil (Filter.twin_all n filters h) fun ss => .require (by rw [List.isEmpty_map]) (.pure ?_)
    have hj := S.separated s!" {logic.sql} " logic.separating_sql ss
    cases root with
    | false => exact (congrArg parenthesized hj.symm).trans (S.parenthesized _).symm
    | true => exact hj.symm
  | .raw raw, _ => by
    rw [Filter.shape, Filter.compile, Filter.compile, Filter.arguments, Filter.arguments]
    refine .map (.splice raw) fun s => ?_
    rw [← S.trim, S.isEmpty_text]
    split
    · rfl
    · exact (S.parenthesized _).symm

theorem Filter.twin_all (n : Nat) : (filters : List Filter) → Filter.AllIn S.Name (fun _ => True) filters →
    S.Twin n (compileFilters dialect filters) (compileFilters dialect (Filter.shapes filters))
      (filtersArguments dialect filters) (filtersArguments dialect (Filter.shapes filters)) (List.map S.text)
  | [], _ => by
    rw [Filter.shapes, compileFilters, filtersArguments]
    exact .pure rfl
  | filter :: rest, h => by
    rw [Filter.shapes, compileFilters, compileFilters, filtersArguments, filtersArguments]
    refine .bind (filter.twin n false h.1) fun s => .map (Filter.twin_all _ rest h.2) fun ss => ?_
    rw [← S.trim, S.isEmpty_text]
    split <;> rfl

theorem Filter.twin_optional (n : Nat) : (filter : Option Filter) →
    Filter.AllOptional S.Name (fun _ => True) filter →
    S.Twin n (compileOptional dialect filter) (compileOptional dialect (Filter.shapeOptional filter))
      (optionalArguments dialect filter) (optionalArguments dialect (Filter.shapeOptional filter)) S.text
  | none, _ => by
    rw [Filter.shapeOptional, compileOptional, optionalArguments]
    exact .pure (S.inert (by decide)).symm
  | some filter, h => by
    rw [Filter.shapeOptional, compileOptional, compileOptional, optionalArguments, optionalArguments]
    exact filter.twin n true h

theorem SortKey.twin_all (n : Nat) : (sorts : List SortKey) → SortKey.AllIn S.Name (fun _ => True) sorts →
    S.Twin n (compileSorts dialect sorts) (compileSorts dialect (SortKey.shapes sorts))
      (sortsArguments dialect sorts) (sortsArguments dialect (SortKey.shapes sorts)) (List.map S.text)
  | [], _ => by
    rw [SortKey.shapes, compileSorts, sortsArguments]
    exact .pure rfl
  | ⟨field, direction⟩ :: rest, h => by
    simp only [SortKey.AllIn] at h
    rw [SortKey.shapes, compileSorts, compileSorts, sortsArguments, sortsArguments]
    refine .bind (field.twin n .invalidField h.1) fun s => .map (SortKey.twin_all _ rest h.2) fun ss => ?_
    simp only [toString, String.append_assoc, List.map_cons]
    rw [S.joined s " " _, S.inert direction.inert_sql]

theorem Select.twin (n : Nat) : (select : Select) → select.All S.Name (fun _ => True) →
    S.Twin n (select.compile dialect) (select.shape.compile dialect) (select.arguments dialect)
      (select.shape.arguments dialect) S.text
  | ⟨distinct, fields, none, joins, filter, groupBy, having, sorts, take, skip, label⟩, _ => by
    rw [Select.shape, Select.compile.eq_def, Select.compile.eq_def]
    exact .require (by rw [Field.isEmpty_shapes]) .throw
  | ⟨distinct, fields, some table, joins, filter, groupBy, having, sorts, take, skip, label⟩, h => by
    simp only [Select.All, Table.AllOptional] at h
    obtain ⟨hfields, htable, hjoins, hfilter, hgroup, hhaving, hsorts, -⟩ := h
    rw [Select.shape, Table.shapeOptional, Select.compile.eq_def, Select.compile.eq_def, Select.arguments,
      Select.arguments, tableArguments, tableArguments]
    refine .require (by rw [Field.isEmpty_shapes]) <| .bind (Field.twin_all n fields hfields) fun columns =>
      .bind (table.twin _ htable) fun source => .bind (Join.twin_all _ joins hjoins) fun js =>
      .bind (Filter.twin_optional _ filter hfilter) fun condition =>
      .bind (Field.twin_groups _ groupBy hgroup) fun groups =>
      .bind (Filter.twin_optional _ having hhaving) fun grouped =>
      .bind (SortKey.twin_all _ sorts hsorts) fun keys =>
      .map (Dialect.page_twin S _ take skip) fun page => ?_
    simp only [Option.isSome_map]
    rw [S.followed _ (follows_page page), S.followed _ (follows_clause "ORDER BY" _),
      S.followed _ (follows_clause "HAVING" _), S.followed _ (follows_clause "GROUP BY" _),
      S.followed _ (follows_clause "WHERE" _), S.followed _ (follows_join js), S.head, S.join,
      S.clause "WHERE" _, S.clause "GROUP BY" _, S.commaList,
      S.clause "HAVING" _, S.order, S.page]

end

/-! ### Statements that write -/

theorem twin_targetTable (table : String) (h : S.Name table) :
    S.Twin n (targetTable table) (targetTable table) [] [] S.text := by
  unfold targetTable
  dsimp only
  split
  · exact .throw
  · exact .pure (by rw [S.trim, S.name h])

theorem twin_rows (width : Nat) (rows : List (List Value)) : ∀ n index,
    S.Twin n (compileRows width index rows) (compileRows width index (rows.map blankValues)) rows.flatten
      (rows.map blankValues).flatten (List.map S.text) := by
  induction rows with
  | nil =>
    intro n index
    exact .pure rfl
  | cons row rest ih =>
    intro n index
    rw [List.map_cons, compileRows, compileRows, length_blankValues]
    refine .require rfl <| .bind (twin_bindValues S row n) fun ss => .map (ih _ (index + 1)) fun ts => ?_
    rw [List.map_cons, S.parenthesized, S.commaList]

theorem Insert.twin (insert : Insert) (h : insert.All S.Name) :
    S.Twin n insert.compile insert.shape.compile insert.rows.flatten insert.shape.rows.flatten S.text := by
  have hc : S.text (commaList insert.columns) = commaList insert.columns := by
    rw [S.commaList, List.map_congr_left fun name hn => S.name (h.2 name hn), List.map_id']
  refine .nil_bind (twin_targetTable S n insert.table h.1) fun table => .require rfl <|
    .require (by simp [Insert.shape]) <| .map (twin_rows S _ insert.rows n 0) fun rows => ?_
  simp only [Insert.shape, toString, String.append_assoc]
  rw [S.opened "INSERT INTO " _, S.joined table " (" _, S.joined _ ") VALUES " _, hc, S.commaList]

theorem Assignment.twin (assignment : Assignment) (h : assignment.All S.Name fun _ => True) :
    S.Twin n (assignment.compile dialect) (assignment.shape.compile dialect)
      (Operand.arguments dialect .eq (some assignment.value))
      (Operand.arguments dialect .eq (some assignment.shape.value)) S.text := by
  have hv := Operand.twin S n .eq (some assignment.value) h.2
  rw [Operand.shapeOptional] at hv
  refine .map hv fun right => ?_
  have hr : (right.map S.text).getD "" = S.text (right.getD "") := by
    cases right with
    | none => rw [Option.map_none, Option.getD_none, S.inert (by decide)]
    | some right => rfl
  simp only [Assignment.shape, String.append_assoc]
  rw [S.joined _ " = " _, S.name h.1, hr]

theorem Assignment.twin_all (set : List Assignment) (h : ∀ a ∈ set, a.All S.Name fun _ => True) : ∀ n,
    S.Twin n (set.mapM (Assignment.compile dialect))
      ((set.map Assignment.shape).mapM (Assignment.compile dialect))
      (set.flatMap fun a => Operand.arguments dialect .eq (some a.value))
      ((set.map Assignment.shape).flatMap fun a => Operand.arguments dialect .eq (some a.value))
      (List.map S.text) := by
  induction set with
  | nil =>
    intro n
    exact .pure rfl
  | cons assignment rest ih =>
    intro n
    rw [List.map_cons, List.mapM_cons, List.mapM_cons]
    exact .bind (assignment.twin S n (h _ List.mem_cons_self)) fun s =>
      .map (ih (fun a ha => h a (List.mem_cons_of_mem _ ha)) _) fun ss => rfl

theorem Update.twin (update : Update) (h : update.All S.Name fun _ => True) :
    S.Twin n (update.compile dialect) (update.shape.compile dialect)
      ((Statement.update update).arguments dialect) ((Statement.update update).shape.arguments dialect)
      S.text := by
  refine .nil_bind (twin_targetTable S n update.table h.1) fun table =>
    .require (by simp [Update.shape]) <| .bind (Assignment.twin_all S update.set h.2.1 n) fun assignments =>
    .map (Filter.twin_optional S _ update.filter h.2.2) fun condition => ?_
  rw [S.followed _ (follows_clause "WHERE" _), S.clause "WHERE" _]
  simp only [toString, String.append_assoc]
  rw [S.opened "UPDATE " _, S.joined table " SET " _, S.commaList]
  simp only [String.append_assoc]

theorem Delete.twin (delete : Delete) (h : delete.All S.Name fun _ => True) :
    S.Twin n (delete.compile dialect) (delete.shape.compile dialect)
      (optionalArguments dialect delete.filter) (optionalArguments dialect delete.shape.filter) S.text := by
  refine .nil_bind (twin_targetTable S n delete.table h.1) fun table =>
    .map (Filter.twin_optional S _ delete.filter h.2) fun condition => ?_
  rw [S.followed _ (follows_clause "WHERE" _), S.clause "WHERE" _]
  simp only [toString]
  rw [S.opened "DELETE FROM " _]

/-- A statement and its shape stay in step. -/
theorem Statement.twin (statement : Statement) (h : statement.All S.Name fun _ => True) :
    S.Twin n (statement.compile dialect) (statement.shape.compile dialect) (statement.arguments dialect)
      (statement.shape.arguments dialect) S.text := by
  cases statement with
  | select s => exact s.twin S n h
  | insert s => exact s.twin S n h
  | update s => exact s.twin S n h
  | delete s => exact s.twin S n h
  | raw raw => exact .splice raw

end BoundSql
