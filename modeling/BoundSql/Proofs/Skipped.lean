import BoundSql.Proofs.FirstFault
import Mathlib.Data.List.Flatten

/-! Skipped filters. A group leaves out the filters that are compiled to blank text, which are those of blank raw
    SQL. Without them the group is compiled to the same text and binds the same arguments, if they have no
    arguments of their own, and only then (`Filter.compile_shown`): arguments of raw SQL are bound before its text
    is looked at, and stay bound. -/

namespace BoundSql
open Compile (yields_bind)
variable {dialect : Dialect} {b c : Bindings} {sql : String} {filters : List Filter} {parts : List String}

/-- The filters of a group that are not left out, each of them looked at where it is compiled. -/
def shownFilters (dialect : Dialect) : List Filter → Compile (List Filter)
  | [] => return []
  | filter :: rest => do
    let sql ← filter.compile dialect false
    let shown ← shownFilters dialect rest
    return if Text.isBlank sql then shown else filter :: shown

/-- What is left of a group without its blank raw SQL. -/
def withoutBlank (filters : List Filter) : List Filter := filters.filter fun filter => !filter.isBlankRaw

/-- The filters that are left out of a group have no arguments. -/
def BlankUnbound (dialect : Dialect) (filters : List Filter) : Prop :=
  ∀ filter ∈ filters, filter.isBlankRaw = true → filter.arguments dialect = []

/-! ### What is left out -/

theorem withoutBlank_cons (filter : Filter) (rest : List Filter) : withoutBlank (filter :: rest) =
    if filter.isBlankRaw then withoutBlank rest else filter :: withoutBlank rest := by
  rw [withoutBlank, List.filter_cons]
  cases filter.isBlankRaw <;> rfl

/-- Wherever the filters of a group are compiled, the same ones are left out. -/
theorem shownFilters_yields (hy : (compileFilters dialect filters).Yields b parts c) :
    (shownFilters dialect filters).Yields b (withoutBlank filters) c := by
  induction filters generalizing b parts with
  | nil =>
    obtain ⟨-, rfl⟩ := yields_compileFilters_nil.mp hy
    rw [shownFilters]
    exact Compile.yields_pure.mpr ⟨rfl, rfl⟩
  | cons filter rest ih =>
    obtain ⟨sql, parts', b', hsql, hrest, -⟩ := yields_compileFilters_cons.mp hy
    rw [shownFilters, withoutBlank_cons, ← (filter.isBlank_of_yields hsql).1]
    exact yields_bind.mpr ⟨sql, b', hsql, yields_bind.mpr ⟨_, _, ih hrest, Compile.yields_pure.mpr ⟨rfl, rfl⟩⟩⟩

/-- Blank raw SQL without arguments leaves the bindings as they are. -/
theorem Filter.unbound_of_yields {filter : Filter} {root : Bool} (hblank : filter.isBlankRaw = true)
    (hargs : filter.arguments dialect = []) (hy : (filter.compile dialect root).Yields b sql c) : c = b := by
  cases filter with
  | condition field operator value => cases hblank
  | group logic filters => cases hblank
  | raw raw =>
    rw [Filter.arguments] at hargs
    rw [Filter.compile] at hy
    obtain ⟨s, b₁, hs, hy⟩ := yields_bind.mp hy
    obtain ⟨-, rfl⟩ := Compile.yields_pure.mp hy
    rw [(Compile.yields_splice.mp hs).2, hargs, Bindings.extend_nil]

/-- Without filters that are blank and bind nothing a group has the same texts. -/
theorem compileFilters_withoutBlank (hunbound : BlankUnbound dialect filters)
    (hy : (compileFilters dialect filters).Yields b parts c) :
    (compileFilters dialect (withoutBlank filters)).Yields b parts c := by
  induction filters generalizing b parts with
  | nil => exact hy
  | cons filter rest ih =>
    obtain ⟨hfilter, hunbound⟩ := List.forall_mem_cons.mp hunbound
    obtain ⟨sql, parts', b', hsql, hrest, rfl⟩ := yields_compileFilters_cons.mp hy
    have hleft := ih hunbound hrest
    rw [withoutBlank_cons, ← (filter.isBlank_of_yields hsql).1]
    cases hblank : Text.isBlank sql with
    | true =>
      have hraw := (filter.isBlank_of_yields hsql).1.symm.trans hblank
      obtain rfl := Filter.unbound_of_yields hraw (hfilter hraw) hsql
      exact hleft
    | false =>
      rw [if_neg Bool.false_ne_true, if_neg Bool.false_ne_true]
      refine yields_compileFilters_cons.mpr ⟨sql, parts', b', hsql, hleft, ?_⟩
      rw [hblank, if_neg Bool.false_ne_true]

/-! ### What the rest binds -/

/-- A list that loses elements keeps all their images only if they have none. -/
theorem eq_nil_of_flatMap_filter {α β : Type} {p : α → Bool} {f : α → List β} {as : List α}
    (h : (as.filter p).flatMap f = as.flatMap f) : ∀ a ∈ as, p a = false → f a = [] := by
  induction as with
  | nil => exact fun _ ha => absurd ha List.not_mem_nil
  | cons x as ih =>
    have hlen : ((as.filter p).flatMap f).length ≤ (as.flatMap f).length :=
      (List.filter_sublist.flatMap f).length_le
    intro a ha hp
    cases hx : p x with
    | true =>
      rw [List.filter_cons_of_pos hx, List.flatMap_cons, List.flatMap_cons] at h
      rcases List.mem_cons.mp ha with rfl | ha
      · rw [hx] at hp
        cases hp
      · exact ih (List.append_cancel_left h) a ha hp
    | false =>
      rw [List.filter_cons_of_neg (by simp [hx]), List.flatMap_cons] at h
      have hnil : f x = [] := by
        have hsame := congrArg List.length h
        rw [List.length_append] at hsame
        exact List.eq_nil_of_length_eq_zero (by omega)
      rw [hnil, List.nil_append] at h
      rcases List.mem_cons.mp ha with rfl | ha
      · exact hnil
      · exact ih h a ha hp

/-- What a group binds, where it is compiled. -/
theorem Filter.extend_of_group {logic : Logic} {root : Bool} (hstyle : b.cursor.style = dialect.style)
    (hy : ((Filter.group logic filters).compile dialect root).Yields b sql c) :
    c = b.extend (filters.flatMap (Filter.arguments dialect)) := by
  have hcursor : b.cursor = ⟨dialect.style, b.cursor.position⟩ := by rw [← hstyle]
  rw [← Filter.arguments_group logic]
  exact ((Filter.predicts _ root b.cursor.position).ok hcursor hy).2

/-! ### Groups -/

/-- A group is compiled as it is without the filters that it leaves out, to the same text and with the same
    bindings behind it, if these have no arguments, and only then. They are the blank raw SQL among its filters. -/
theorem Filter.compile_shown {logic : Logic} {root : Bool}
    (hy : ((Filter.group logic filters).compile dialect root).Yields b sql c) :
    (shownFilters dialect filters).Yields b (withoutBlank filters) c ∧
      (BlankUnbound dialect filters →
        ((Filter.group logic (withoutBlank filters)).compile dialect root).Yields b sql c) ∧
      (b.cursor.style = dialect.style →
        ((Filter.group logic (withoutBlank filters)).compile dialect root).Yields b sql c →
          BlankUnbound dialect filters) := by
  obtain ⟨parts, hparts, hne, hsql⟩ := Filter.yields_group.mp hy
  refine ⟨shownFilters_yields hparts, ?_, ?_⟩
  · intro hunbound
    exact Filter.yields_group.mpr ⟨parts, compileFilters_withoutBlank hunbound hparts, hne, hsql⟩
  · intro hstyle hshown filter hmem hblank
    have hsame := (Filter.extend_of_group hstyle hshown).symm.trans (Filter.extend_of_group hstyle hy)
    exact eq_nil_of_flatMap_filter (Bindings.extend_injective hsame) filter hmem (by simp [hblank])

/-! ### Blank raw SQL with arguments -/

/-- Behind blank raw SQL one condition is left. -/
def behindBlank (args : List Json.Value) : List Filter :=
  [.raw { sql := " ", args := args }, .condition { column := some "a" } .eq (some (.literal (.ofNat 2)))]

theorem behindBlank_shown :
    BlankUnbound .postgres (behindBlank []) ∧
      ((Filter.group .or (withoutBlank (behindBlank []))).compile .postgres false).Yields (.fresh Dialect.postgres.style)
        "(a = $1)" ((Bindings.fresh Dialect.postgres.style).extend [.ofNat 2]) := by
  have hy : ((Filter.group .or (behindBlank [])).compile .postgres false).Yields (.fresh Dialect.postgres.style)
      "(a = $1)" ((Bindings.fresh Dialect.postgres.style).extend [.ofNat 2]) := rfl
  have hunbound : BlankUnbound .postgres (behindBlank []) := by
    simp [BlankUnbound, behindBlank, Filter.isBlankRaw, Filter.arguments]
  exact ⟨hunbound, (Filter.compile_shown hy).2.1 hunbound⟩

/-- Blank raw SQL is left out and its arguments are not: the marker of the condition behind it stands for the
    first of them. -/
theorem behindBlank_bound : ¬ ∀ (dialect : Dialect) (logic : Logic) (filters shown : List Filter) (root : Bool)
    (b c d : Bindings) (sql : String), ((Filter.group logic filters).compile dialect root).Yields b sql c →
      (shownFilters dialect filters).Yields b shown d →
        ((Filter.group logic shown).compile dialect root).Yields b sql c := by
  intro h
  have hy : ((Filter.group .and (behindBlank [.ofNat 1])).compile .mysql true).Yields (.fresh Dialect.mysql.style)
      "a = ?" ((Bindings.fresh Dialect.mysql.style).extend [.ofNat 1, .ofNat 2]) := rfl
  have hshown : (shownFilters .mysql (behindBlank [.ofNat 1])).Yields (.fresh Dialect.mysql.style)
      [.condition { column := some "a" } .eq (some (.literal (.ofNat 2)))]
      ((Bindings.fresh Dialect.mysql.style).extend [.ofNat 1, .ofNat 2]) := rfl
  have hrest : ((Filter.group .and [.condition { column := some "a" } .eq (some (.literal (.ofNat 2)))]).compile
      .mysql true).Yields (.fresh Dialect.mysql.style) "a = ?"
      ((Bindings.fresh Dialect.mysql.style).extend [.ofNat 2]) := rfl
  have hsame := (h _ _ _ _ _ _ _ _ _ hy hshown).symm.trans hrest
  cases hsame

end BoundSql
