import BoundSql.Proofs.Reading
import BoundSql.Proofs.Renumber

/-! Binding. A compiled query with its arguments put in the place of their placeholders is the statement
    with its bound values in place: by index (`Statement.resolve_of_indexed`) and, where placeholders have
    none, by their order in the text (`Statement.resolve_of_fixed`). Both are readings. -/

namespace BoundSql
open Json (Value)
open Placeholder (Part parts)

/-! ### Related lists -/

section Forall₂
variable {α β : Type} {r : α → β → Prop} {p : α → Bool} {q : β → Bool} {xs : List α} {ys : List β}

theorem forall₂_dropWhile (hpq : ∀ x y, r x y → p x = q y) (h : List.Forall₂ r xs ys) :
    List.Forall₂ r (xs.dropWhile p) (ys.dropWhile q) := by
  induction h with
  | nil => exact .nil
  | cons h ht ih =>
    rw [List.dropWhile_cons, List.dropWhile_cons, hpq _ _ h]
    split
    · exact ih
    · exact .cons h ht

theorem forall₂_trim (hpq : ∀ x y, r x y → p x = q y) (h : List.Forall₂ r xs ys) :
    List.Forall₂ r ((xs.dropWhile p).rdropWhile p) ((ys.dropWhile q).rdropWhile q) :=
  List.rel_reverse (forall₂_dropWhile hpq (List.rel_reverse (forall₂_dropWhile hpq h)))

end Forall₂

section FilterMap
variable {α β : Type} {f : α → Option β} {p : α → Bool}

theorem filterMap_dropWhile (h : ∀ x, p x = true → f x = none) (xs : List α) :
    (xs.dropWhile p).filterMap f = xs.filterMap f := by
  induction xs with
  | nil => rfl
  | cons x xs ih =>
    rw [List.dropWhile_cons]
    split
    · rename_i hx
      rw [ih, List.filterMap_cons_none (h x hx)]
    · rfl

/-- Trimming takes nothing away that is kept. -/
theorem filterMap_trim (h : ∀ x, p x = true → f x = none) (xs : List α) :
    ((xs.dropWhile p).rdropWhile p).filterMap f = xs.filterMap f := by
  rw [List.rdropWhile, List.filterMap_reverse, filterMap_dropWhile h, List.filterMap_reverse,
    List.reverse_reverse, filterMap_dropWhile h]

end FilterMap

/-! ### Placeholders with an index -/

variable {dialect : Dialect} {leading : List Char}

theorem mark?_index {n : Nat} {vs : List Value} {digits : List Char} {mark : Mark} :
    (Part.index digits).mark? n vs = some mark ↔ ∃ index value, Text.decimalValue? digits = some index ∧
      n ≤ index ∧ vs[index - n]? = some value ∧ mark = .argument value := by
  simp only [Part.mark?, bind, pure, Option.bind_eq_some_iff, Option.guard_eq_some', Option.some.injEq,
    eq_comm (a := mark)]
  simp

theorem mark?_append_left {n : Nat} {vs ws : List Value} {part : Part} {mark : Mark}
    (h : part.mark? n vs = some mark) : part.mark? n (vs ++ ws) = some mark := by
  cases part with
  | literal c => exact h
  | index digits =>
    obtain ⟨index, value, hi, hn, hv, hm⟩ := mark?_index.mp h
    obtain ⟨hlt, -⟩ := List.getElem?_eq_some_iff.mp hv
    exact mark?_index.mpr ⟨index, value, hi, hn, by rwa [List.getElem?_append_left hlt], hm⟩

theorem mark?_append_right {n : Nat} {vs ws : List Value} {part : Part} {mark : Mark}
    (h : part.mark? (n + vs.length) ws = some mark) : part.mark? n (vs ++ ws) = some mark := by
  cases part with
  | literal c => exact h
  | index digits =>
    obtain ⟨index, value, hi, hn, hv, hm⟩ := mark?_index.mp h
    refine mark?_index.mpr ⟨index, value, hi, by omega, ?_, hm⟩
    rw [List.getElem?_append_right (by omega), ← hv]
    congr 1
    omega

theorem Dialect.resolve_eq_mapM (h : dialect.style.isIndexed = true) (args : List Value) (sql : String) :
    dialect.resolve args sql =
      (parts dialect.style.leading.toList sql.toList).mapM (Part.mark? dialect.style.start args) := by
  rcases indexed_cases h with rfl | rfl <;> rfl

theorem forall₂_plain {r : Part → Mark → Prop} {s : String}
    (hs : parts leading s.toList = s.toList.map .literal) (hr : ∀ c, r (.literal c) (.char c)) :
    List.Forall₂ r (parts leading s.toList) (plain s) := by
  rw [hs, plain, List.forall₂_map_left_iff, List.forall₂_map_right_iff, List.forall₂_same]
  exact fun c _ => hr c

/-- Raw SQL that can be renumbered names its own arguments, and still does so behind other placeholders. -/
theorem forall₂_renumber (h : dialect.style.isIndexed = true) {n : Nat} {raw : RawSql} {s : String}
    (hs : Placeholder.renumber dialect.style n raw.args.length raw.sql = .ok s) :
    List.Forall₂ (fun part mark => part.mark? n raw.args = some mark)
      (parts dialect.style.leading.toList s.toList) (raw.written dialect) := by
  have hmoved := ((Placeholder.renumber_eq_ok h).mp hs).1
  have hmarks : ∀ part ∈ parts dialect.style.leading.toList raw.sql.toList, ∃ mark,
      part.mark? dialect.style.start raw.args = some mark ∧
        (part.withDigits (Placeholder.renamed dialect.style.start n)).mark? n raw.args = some mark := by
    intro part hp
    cases part with
    | literal c => exact ⟨.char c, rfl, rfl⟩
    | index digits =>
      obtain ⟨index, hi⟩ := hmoved digits hp
      obtain ⟨value, hv, hlo, hhi, -, rfl⟩ := Placeholder.moved?_eq_some.mp hi
      refine ⟨.argument raw.args[value - dialect.style.start], mark?_index.mpr ?_, mark?_index.mpr ?_⟩
      · exact ⟨value, _, hv, hlo, List.getElem?_eq_getElem hhi, rfl⟩
      · refine ⟨_, _, Placeholder.decimalValue?_renamed, Nat.le_add_right _ _, ?_, rfl⟩
        rw [hv, Option.getD_some, Nat.add_sub_cancel_left, List.getElem?_eq_getElem hhi]
  obtain ⟨marks, hm⟩ := exists_forall₂ hmarks
  have hown : dialect.resolve raw.args raw.sql = some marks := by
    rw [Dialect.resolve_eq_mapM h, mapM_eq_some]
    exact hm.imp fun _ _ hp => hp.1
  rw [RawSql.written, hown, Option.getD_some, Placeholder.parts_renumber h hs, List.forall₂_map_left_iff]
  exact hm.imp fun _ _ hp => hp.2

/-- Reading placeholders by their index. -/
def Dialect.indexed (dialect : Dialect) (h : dialect.style.isIndexed = true) : Reading dialect where
  Reads n vs s m := List.Forall₂ (fun part mark => part.mark? n vs = some mark)
    (parts dialect.style.leading.toList s.toList) m
  Name := dialect.Free
  Raw _ := True
  inert hs := forall₂_plain (parts_of_inert h hs) fun _ => rfl
  name hs := by
    refine forall₂_plain (Placeholder.parts_eq_map_literal ?_) fun _ => rfl
    intro digits hd
    cases hs _ hd
  token n v := by
    have ht : parts dialect.style.leading.toList (dialect.style.token n).toList =
        [.index (Nat.toDigits 10 n)] := by
      rw [Placeholder.toList_token h, ← List.append_nil (Nat.toDigits 10 n),
        Placeholder.parts_token (Placeholder.run_toDigits n) Placeholder.boundary_nil, Placeholder.parts_nil,
        List.append_nil]
    rw [ht]
    exact .cons (mark?_index.mpr ⟨n, v, Placeholder.decimalValue?_toDigits n, Nat.le_refl n, by simp, rfl⟩) .nil
  raw _ hs := forall₂_renumber h hs
  append hs ht hmeet := by
    rw [parts_append (cuts_separator h) hmeet]
    exact List.rel_append (hs.imp fun _ _ => mark?_append_left) (ht.imp fun _ _ => mark?_append_right)
  trim hs := by
    rw [Text.trim, String.toList_ofList, Placeholder.parts_trimChars (not_mem_leading_of_isBlankChar h)]
    refine forall₂_trim ?_ hs
    intro part mark hp
    cases part with
    | literal c =>
      cases hp
      rfl
    | index digits =>
      obtain ⟨_, _, _, _, _, rfl⟩ := mark?_index.mp hp
      rfl
  eq_empty_iff {_ _ s _} hs := by
    rw [← String.toList_eq_nil_iff, ← Placeholder.parts_eq_nil dialect.style.leading.toList]
    constructor
    · intro he
      rw [he] at hs
      exact List.forall₂_nil_left_iff.mp hs
    · rintro rfl
      exact List.forall₂_nil_right_iff.mp hs

/-- The placeholders of a query name its arguments. -/
theorem Statement.index_of_toQuery {statement : Statement} {q : Query} (hd : dialect.style.isIndexed = true)
    (h : statement.All dialect.Free fun _ => True) (hq : statement.toQuery dialect = .ok q)
    {digits : List Char} (hm : .index digits ∈ parts dialect.style.leading.toList q.sql.toList) :
    ∃ index, Text.decimalValue? digits = some index ∧ dialect.style.start ≤ index ∧
      index - dialect.style.start < q.args.length := by
  obtain ⟨-, hr⟩ := Statement.reads_toQuery (dialect.indexed hd) h hq
  obtain ⟨mark, hmark⟩ := exists_of_forall₂ hr _ hm
  obtain ⟨index, value, hi, hlo, hv, -⟩ := mark?_index.mp hmark
  obtain ⟨hlt, -⟩ := List.getElem?_eq_some_iff.mp hv
  exact ⟨index, hi, hlo, hlt⟩

/-- On a dialect whose placeholders have an index, every placeholder of a compiled statement names the
    argument that the statement has in its place, and the rest of the text is that of the statement. -/
theorem Statement.resolve_of_indexed {statement : Statement} {q : Query}
    (hd : dialect.style.isIndexed = true) (h : statement.All dialect.Free fun _ => True)
    (hq : statement.toQuery dialect = .ok q) :
    q.args = statement.arguments dialect ∧
      dialect.resolve q.args q.sql = some (statement.written dialect) := by
  obtain ⟨ha, hr⟩ := Statement.reads_toQuery (dialect.indexed hd) h hq
  exact ⟨ha, by rw [Dialect.resolve_eq_mapM hd, mapM_eq_some]; exact hr⟩

/-- A query whose raw parts name their arguments out of order and more than once. -/
def ordersToCheck : Statement :=
  .select {
    fields := [{ column := some "id" }]
    table := some { name := some "orders" }
    filter := some (.group .and [
      .raw { sql := "total > $2 OR total < $1", args := [.ofNat 5, .ofNat 100] },
      .condition { column := some "customer" } .isIn (some (.literal (.array [.ofNat 1, .ofNat 2]))),
      .condition { column := some "owner" } .eq
        (some (.query (.raw { sql := "SELECT id FROM people WHERE a = $1 OR b = $1", args := [.null] })))])
    take := some 10 }

def ordersToCheckQuery : Query where
  sql := "SELECT id FROM orders WHERE (total > $2 OR total < $1) AND customer IN ($3, $4) AND " ++
    "owner = (SELECT id FROM people WHERE a = $5 OR b = $5) LIMIT $6"
  args := [.ofNat 5, .ofNat 100, .ofNat 1, .ofNat 2, .null, .ofNat 10]

set_option maxRecDepth 20000 in
theorem ordersToCheck_resolve : ordersToCheck.toQuery .postgres = .ok ordersToCheckQuery ∧
    Dialect.postgres.resolve ordersToCheckQuery.args ordersToCheckQuery.sql =
      some (ordersToCheck.written .postgres) := by
  have hnames : ordersToCheck.All Dialect.postgres.Free fun _ => True := by
    simp [ordersToCheck, Statement.All, Select.All, Field.AllIn, Field.All, Subquery.AllOptional,
      Subquery.All, Table.AllOptional, Table.All, Join.AllIn, Filter.AllOptional, Filter.All, Filter.AllIn,
      Operand.AllOptional, Operand.All, SortKey.AllIn]
    decide
  have hq : ordersToCheck.toQuery .postgres = .ok ordersToCheckQuery := rfl
  exact ⟨hq, (Statement.resolve_of_indexed rfl hnames hq).2⟩

/-! ### Placeholders without an index -/

/-- The argument that a mark is. -/
def Mark.argument? : Mark → Option Value
  | char _ => none
  | argument value => some value

/-- A marker stands for an argument, and any other character for itself. -/
def Shows (marker c : Char) : Mark → Prop
  | .char d => c = d ∧ c ≠ marker
  | .argument _ => c = marker

variable {marker : Char}

theorem fillMarkers_marker_nil (text : List Char) : fillMarkers marker (marker :: text) [] = none := by
  rw [fillMarkers.eq_def]
  simp

theorem fillMarkers_marker_cons (text : List Char) (value : Value) (args : List Value) :
    fillMarkers marker (marker :: text) (value :: args) =
      (fillMarkers marker text args).map (.argument value :: ·) := by
  rw [fillMarkers.eq_def]
  simp

theorem fillMarkers_of_ne {c : Char} (h : c ≠ marker) (text : List Char) (args : List Value) :
    fillMarkers marker (c :: text) args = (fillMarkers marker text args).map (.char c :: ·) := by
  rw [fillMarkers.eq_def]
  simp [h]

theorem fillMarkers_eq_some {text : List Char} {args : List Value} {m : Marked} :
    fillMarkers marker text args = some m ↔
      List.Forall₂ (Shows marker) text m ∧ m.filterMap Mark.argument? = args := by
  induction text generalizing args m with
  | nil =>
    rw [List.forall₂_nil_left_iff]
    cases args with
    | nil =>
      simp only [fillMarkers, Option.some.injEq]
      constructor
      · rintro rfl
        exact ⟨rfl, rfl⟩
      · exact fun h => h.1.symm
    | cons value args =>
      constructor
      · intro h
        cases h
      · rintro ⟨rfl, h⟩
        cases h
  | cons c text ih =>
    rw [List.forall₂_cons_left_iff]
    by_cases hc : c = marker
    · subst hc
      cases args with
      | nil =>
        rw [fillMarkers_marker_nil]
        constructor
        · intro h
          cases h
        · rintro ⟨⟨mark, k, hs, -, rfl⟩, hargs⟩
          cases mark with
          | char d => exact absurd rfl hs.2
          | argument value => cases hargs
      | cons value args =>
        rw [fillMarkers_marker_cons, Option.map_eq_some_iff]
        constructor
        · rintro ⟨k, hk, rfl⟩
          obtain ⟨hf, rfl⟩ := ih.mp hk
          exact ⟨⟨.argument value, k, rfl, hf, rfl⟩, rfl⟩
        · rintro ⟨⟨mark, k, hs, hk, rfl⟩, hargs⟩
          cases mark with
          | char d => exact absurd rfl hs.2
          | argument v =>
            cases hargs
            exact ⟨k, ih.mpr ⟨hk, rfl⟩, rfl⟩
    · rw [fillMarkers_of_ne hc, Option.map_eq_some_iff]
      constructor
      · rintro ⟨k, hk, rfl⟩
        obtain ⟨hf, rfl⟩ := ih.mp hk
        exact ⟨⟨.char c, k, ⟨rfl, hc⟩, hf, rfl⟩, rfl⟩
      · rintro ⟨⟨mark, k, hs, hk, rfl⟩, rfl⟩
        cases mark with
        | char d =>
          obtain ⟨rfl, -⟩ := hs
          exact ⟨k, ih.mpr ⟨hk, rfl⟩, rfl⟩
        | argument value => exact absurd hs hc

theorem exists_fillMarkers {text : List Char} : ∀ {args : List Value}, text.count marker = args.length →
    ∃ m, fillMarkers marker text args = some m := by
  induction text with
  | nil =>
    intro args h
    obtain rfl := List.length_eq_zero_iff.mp h.symm
    exact ⟨[], rfl⟩
  | cons c text ih =>
    intro args h
    by_cases hc : c = marker
    · subst hc
      rw [List.count_cons_self] at h
      cases args with
      | nil => cases h
      | cons value args =>
        obtain ⟨m, hm⟩ := ih (Nat.succ.inj h)
        exact ⟨.argument value :: m, by rw [fillMarkers_marker_cons, hm]; rfl⟩
    · rw [List.count_cons_of_ne hc] at h
      obtain ⟨m, hm⟩ := ih h
      exact ⟨.char c :: m, by rw [fillMarkers_of_ne hc, hm]; rfl⟩

theorem count_eq_length {text : List Char} {m : Marked} (h : List.Forall₂ (Shows marker) text m) :
    text.count marker = (m.filterMap Mark.argument?).length := by
  induction h with
  | nil => rfl
  | @cons c mark text m hc _ ih =>
    cases mark with
    | char d =>
      obtain ⟨rfl, hne⟩ := hc
      rw [List.count_cons_of_ne hne, ih]
      rfl
    | argument value =>
      obtain rfl : c = marker := hc
      rw [List.count_cons_self, ih]
      rfl

theorem argument?_eq_none_of_isBlank {mark : Mark} (h : mark.isBlank = true) : mark.argument? = none := by
  cases mark with
  | char c => rfl
  | argument value => cases h

theorem shows_plain {s : String} (hs : marker ∉ s.toList) : List.Forall₂ (Shows marker) s.toList (plain s) := by
  rw [plain, List.forall₂_map_right_iff, List.forall₂_same]
  intro c hc
  exact ⟨rfl, fun he => hs (he ▸ hc)⟩

theorem filterMap_plain (s : String) : (plain s).filterMap Mark.argument? = [] := by
  simp [plain, Mark.argument?]

theorem Dialect.resolve_eq_fillMarkers (h : dialect.style.isIndexed = false) (args : List Value)
    (sql : String) : dialect.resolve args sql = fillMarkers '?' sql.toList args := by
  rcases fixed_cases h with rfl | rfl <;> rfl

/-- As many markers as arguments. -/
def RawSql.Filled (raw : RawSql) : Prop := raw.sql.toList.count '?' = raw.args.length

/-- Reading placeholders by their place. -/
def Dialect.fixed (dialect : Dialect) (h : dialect.style.isIndexed = false) : Reading dialect where
  Reads _ vs s m := List.Forall₂ (Shows '?') s.toList m ∧ m.filterMap Mark.argument? = vs
  Name s := '?' ∉ s.toList
  Raw := RawSql.Filled
  inert hs := ⟨shows_plain (hs.not_mem (by decide)), filterMap_plain _⟩
  name hs := ⟨shows_plain hs, filterMap_plain _⟩
  token n v := by
    have hstyle : dialect.style = .fixed "?" := by rcases fixed_cases h with rfl | rfl <;> rfl
    have ht : "?".toList = ['?'] := by decide
    rw [hstyle, Style.token, ht]
    exact ⟨.cons rfl .nil, rfl⟩
  raw {_ raw _} hr hs := by
    rw [Placeholder.renumber, if_neg (by simp [h])] at hs
    cases hs
    obtain ⟨m, hm⟩ := exists_fillMarkers hr
    have hw : raw.written dialect = m := by
      rw [RawSql.written, resolve_eq_fillMarkers h, hm, Option.getD_some]
    rw [hw]
    exact fillMarkers_eq_some.mp hm
  append hs ht _ := by
    rw [String.toList_append]
    exact ⟨List.rel_append hs.1 ht.1, by rw [List.filterMap_append, hs.2, ht.2]⟩
  trim hs := by
    rw [Text.trim, String.toList_ofList]
    refine ⟨forall₂_trim ?_ hs.1, by rw [Marked.trim, filterMap_trim fun _ => argument?_eq_none_of_isBlank, hs.2]⟩
    intro c mark hc
    cases mark with
    | char d =>
      obtain ⟨rfl, -⟩ := hc
      rfl
    | argument value =>
      obtain rfl : c = '?' := hc
      have hb : Text.isBlankChar '?' = false := by decide
      exact hb
  eq_empty_iff {_ _ s _} hs := by
    rw [← String.toList_eq_nil_iff]
    constructor
    · intro he
      rw [he] at hs
      exact List.forall₂_nil_left_iff.mp hs.1
    · rintro rfl
      exact List.forall₂_nil_right_iff.mp hs.1

/-- On a dialect whose placeholders all look the same, a compiled statement has as many of them as
    arguments, and from left to right they bind what the statement has in their places. -/
theorem Statement.resolve_of_fixed {statement : Statement} {q : Query} (hd : dialect.style.isIndexed = false)
    (h : statement.All (fun name => '?' ∉ name.toList) RawSql.Filled)
    (hq : statement.toQuery dialect = .ok q) :
    q.args = statement.arguments dialect ∧ q.sql.toList.count '?' = q.args.length ∧
      dialect.resolve q.args q.sql = some (statement.written dialect) := by
  obtain ⟨ha, hr, hargs⟩ := Statement.reads_toQuery (dialect.fixed hd) h hq
  refine ⟨ha, by rw [count_eq_length hr, hargs], ?_⟩
  rw [Dialect.resolve_eq_fillMarkers hd]
  exact fillMarkers_eq_some.mpr ⟨hr, hargs⟩

/-- A statement that binds before, inside and behind a subquery. -/
def ordersToRaise : Statement :=
  .update {
    table := "orders"
    set := [⟨"state", .literal (.string "raised")⟩,
      ⟨"total", .query (.raw { sql := "SELECT max(total) FROM orders WHERE owner = ?", args := [.ofNat 7] })⟩]
    filter := some (.condition { column := some "note" } .like (some (.literal (.string "x")))) }

def ordersToRaiseQuery : Query where
  sql := "UPDATE orders SET state = ?, total = (SELECT max(total) FROM orders WHERE owner = ?) " ++
    "WHERE note LIKE ?"
  args := [.string "raised", .ofNat 7, .string "%x%"]

set_option maxRecDepth 20000 in
theorem ordersToRaise_resolve : ordersToRaise.toQuery .mysql = .ok ordersToRaiseQuery ∧
    Dialect.mysql.resolve ordersToRaiseQuery.args ordersToRaiseQuery.sql =
      some (ordersToRaise.written .mysql) := by
  have hall : ordersToRaise.All (fun name => '?' ∉ name.toList) RawSql.Filled := by
    simp [ordersToRaise, Statement.All, Update.All, Assignment.All, Operand.All, Subquery.All,
      Filter.AllOptional, Filter.All, Field.All, Subquery.AllOptional, Operand.AllOptional, RawSql.Filled]
  have hq : ordersToRaise.toQuery .mysql = .ok ordersToRaiseQuery := rfl
  exact ⟨hq, (Statement.resolve_of_fixed rfl hall hq).2.2⟩

end BoundSql
