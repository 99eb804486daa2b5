import BoundSql.Proofs.Scan
import Mathlib.Data.List.Forall2
import Mathlib.Data.Option.Basic

/-! Renumbering as rewriting. Text is renumbered by giving other digits to its placeholders
    (`renumber_eq_ok`), so that a renumbered text has the placeholders of the text, in the same places, and
    each of them has moved as far as the offset says (`parts_renumber`). -/

namespace BoundSql

/-! ### Traversals -/

theorem mapM_eq_some {α β : Type} {f : α → Option β} {xs : List α} {ys : List β} :
    xs.mapM f = some ys ↔ List.Forall₂ (fun x y => f x = some y) xs ys := by
  induction xs generalizing ys with
  | nil => simp [eq_comm]
  | cons x xs ih =>
    rw [List.mapM_cons, List.forall₂_cons_left_iff]
    constructor
    · intro h
      obtain ⟨y, hy, h⟩ := Option.bind_eq_some_iff.mp h
      obtain ⟨zs, hzs, h⟩ := Option.bind_eq_some_iff.mp h
      cases h
      exact ⟨y, zs, hy, ih.mp hzs, rfl⟩
    · rintro ⟨y, zs, hy, hzs, rfl⟩
      rw [hy, ih.mpr hzs]
      rfl

theorem mapM_eq_ok {α β ε : Type} {f : α → Except ε β} {xs : List α} {ys : List β} :
    xs.mapM f = .ok ys ↔ List.Forall₂ (fun x y => f x = .ok y) xs ys := by
  induction xs generalizing ys with
  | nil =>
    rw [List.mapM_nil, List.forall₂_nil_left_iff]
    constructor
    · intro h
      cases h
      rfl
    · rintro rfl
      rfl
  | cons x xs ih =>
    rw [List.mapM_cons, List.forall₂_cons_left_iff]
    cases hx : f x with
    | error e =>
      constructor
      · intro h
        cases h
      · rintro ⟨y, zs, hy, -⟩
        cases hy
    | ok y =>
      cases hxs : xs.mapM f with
      | error e =>
        constructor
        · intro h
          cases h
        · rintro ⟨y, zs, -, hzs, -⟩
          rw [ih.mpr hzs] at hxs
          cases hxs
      | ok zs =>
        constructor
        · intro h
          cases h
          exact ⟨y, zs, rfl, ih.mp hxs, rfl⟩
        · rintro ⟨y', zs', hy, hzs, rfl⟩
          rw [ih.mpr hzs] at hxs
          cases hy
          cases hxs
          rfl

theorem findSome?_cons_or {α β : Type} (f : α → Option β) (a : α) (as : List α) :
    (a :: as).findSome? f = (f a).or (as.findSome? f) := by
  rw [List.findSome?_cons]
  cases f a <;> rfl

/-- A traversal fails with its first failure. -/
theorem mapM_eq_error_iff {α β ε : Type} {f : α → Except ε β} {g : α → Option ε} {xs : List α}
    (h : ∀ x ∈ xs, ∀ e, f x = .error e ↔ g x = some e) {e : ε} :
    xs.mapM f = .error e ↔ xs.findSome? g = some e := by
  induction xs with
  | nil =>
    rw [List.mapM_nil, List.findSome?_nil]
    constructor <;> intro he <;> cases he
  | cons x xs ih =>
    rw [List.mapM_cons, List.findSome?_cons]
    have hx := h x List.mem_cons_self
    have hxs := ih fun y hy => h y (List.mem_cons_of_mem x hy)
    cases hf : f x with
    | error e' =>
      rw [(hx e').mp hf]
      constructor <;> intro he <;> cases he <;> rfl
    | ok y =>
      have hg : g x = none := by
        rw [Option.eq_none_iff_forall_ne_some]
        intro e' he
        rw [(hx e').mpr he] at hf
        cases hf
      rw [hg, ← hxs]
      cases xs.mapM f with
      | error e' => exact Iff.rfl
      | ok ys =>
        constructor <;> intro he <;> cases he

/-- A traversal fails where it first meets a failure. -/
theorem mapM_eq_error_of_first {α β ε : Type} {f : α → Except ε β} {before after : List α} {x : α} {e : ε}
    (hbefore : ∀ y ∈ before, ∃ z, f y = .ok z) (hx : f x = .error e) :
    (before ++ x :: after).mapM f = .error e := by
  induction before with
  | nil =>
    rw [List.nil_append, List.mapM_cons, hx]
    rfl
  | cons y before ih =>
    obtain ⟨z, hz⟩ := hbefore y List.mem_cons_self
    rw [List.cons_append, List.mapM_cons, hz, ih fun y hy => hbefore y (List.mem_cons_of_mem _ hy)]
    rfl

/-- A traversal that succeeds everywhere has a result. -/
theorem exists_forall₂ {α β : Type} {r : α → β → Prop} {xs : List α} (h : ∀ x ∈ xs, ∃ y, r x y) :
    ∃ ys, List.Forall₂ r xs ys := by
  induction xs with
  | nil => exact ⟨[], .nil⟩
  | cons x xs ih =>
    obtain ⟨y, hy⟩ := h x List.mem_cons_self
    obtain ⟨ys, hys⟩ := ih fun x hx => h x (List.mem_cons_of_mem _ hx)
    exact ⟨y :: ys, .cons hy hys⟩

theorem exists_of_forall₂ {α β : Type} {r : α → β → Prop} {xs : List α} {ys : List β}
    (h : List.Forall₂ r xs ys) : ∀ x ∈ xs, ∃ y, r x y := by
  induction h with
  | nil => simp
  | cons h _ ih =>
    intro x hx
    rcases List.mem_cons.mp hx with rfl | hx
    · exact ⟨_, h⟩
    · exact ih x hx

namespace Placeholder
variable {style : Style} {start offset count : Nat} {digits : List Char}

/-! ### Where placeholders move -/

theorem moved?_eq_some {index : Nat} : moved? start offset count digits = some index ↔
    ∃ value, Text.decimalValue? digits = some value ∧ start ≤ value ∧ value - start < count ∧
      offset + (value - start) < indexBound ∧ index = offset + (value - start) := by
  unfold moved?
  rw [Option.bind_eq_bind, Option.bind_eq_some_iff]
  refine exists_congr fun value => and_congr_right fun _ => ?_
  rw [Option.bind_eq_bind, Option.bind_eq_some_iff]
  simp only [Option.guard_eq_some', Bool.and_eq_true, decide_eq_true_eq, pure, Option.some.injEq,
    eq_comm (a := index)]
  simp [and_assoc]

/-- Where there is room behind the offset, a placeholder can be moved if it names an argument. -/
theorem exists_moved? (hroom : offset + count ≤ indexBound) :
    (∃ index, moved? start offset count digits = some index) ↔
      ∃ value, Text.decimalValue? digits = some value ∧ start ≤ value ∧ value - start < count := by
  constructor
  · rintro ⟨index, h⟩
    obtain ⟨value, hv, hlo, hhi, -, -⟩ := moved?_eq_some.mp h
    exact ⟨value, hv, hlo, hhi⟩
  · rintro ⟨value, hv, hlo, hhi⟩
    exact ⟨_, moved?_eq_some.mpr ⟨value, hv, hlo, hhi, by omega, rfl⟩⟩

/-- Whether a placeholder names one of so many arguments. -/
def names (start count : Nat) (digits : List Char) : Bool :=
  (Text.decimalValue? digits).any fun value => start ≤ value && value - start < count

theorem names_iff : names start count digits = true ↔
    ∃ value, Text.decimalValue? digits = some value ∧ start ≤ value ∧ value - start < count := by
  simp [names, Option.any_eq_true]

/-- The digits of a placeholder that moves by as much as `start` moves to `offset`. -/
def renamed (start offset : Nat) (digits : List Char) : List Char :=
  Nat.toDigits 10 (offset + ((Text.decimalValue? digits).getD 0 - start))

theorem run_renamed : Run (renamed start offset digits) := run_toDigits _

theorem decimalValue?_renamed : Text.decimalValue? (renamed start offset digits) =
    some (offset + ((Text.decimalValue? digits).getD 0 - start)) := decimalValue?_toDigits _

/-! ### Renumbered text -/

theorem shiftPart_eq_ok (h : style.isIndexed = true) {part : Part} {cs : List Char} :
    shiftPart style offset count part = .ok cs ↔
      (∀ digits, part = .index digits → ∃ index, moved? style.start offset count digits = some index) ∧
        (part.withDigits (renamed style.start offset)).text style.leading.toList = cs := by
  cases part with
  | literal c => simp [shiftPart, Part.withDigits, Part.text]
  | index digits =>
    rw [shiftPart]
    cases hm : moved? style.start offset count digits with
    | none => simp [hm]
    | some index =>
      obtain ⟨value, hv, -, -, -, rfl⟩ := moved?_eq_some.mp hm
      simp [hm, toList_token h, Part.withDigits, Part.text, renamed, hv]

/-- Text can be renumbered if all its placeholders can be moved, and then they are. -/
theorem renumber_eq_ok (h : style.isIndexed = true) {sql s : String} :
    renumber style offset count sql = .ok s ↔
      (∀ digits, .index digits ∈ parts style.leading.toList sql.toList →
        ∃ index, moved? style.start offset count digits = some index) ∧
        s.toList = rewrite style.leading.toList (renamed style.start offset) sql.toList := by
  have hok : renumber style offset count sql = .ok s ↔ ∃ shifted,
      (parts style.leading.toList sql.toList).mapM (shiftPart style offset count) = .ok shifted ∧
        s = String.ofList shifted.flatten := by
    rw [renumber, if_pos h]
    cases (parts style.leading.toList sql.toList).mapM (shiftPart style offset count) with
    | error token => simp
    | ok shifted => simp [eq_comm]
  have hparts : ∀ shifted,
      (parts style.leading.toList sql.toList).mapM (shiftPart style offset count) = .ok shifted ↔
        (∀ part ∈ parts style.leading.toList sql.toList, ∀ digits, part = .index digits →
          ∃ index, moved? style.start offset count digits = some index) ∧
          (parts style.leading.toList sql.toList).map (fun part =>
            (part.withDigits (renamed style.start offset)).text style.leading.toList) = shifted := by
    intro shifted
    simp only [mapM_eq_ok, shiftPart_eq_ok h]
    rw [List.forall₂_and_left, ← List.forall₂_map_left_iff, List.forall₂_eq_eq_eq]
  rw [hok]
  constructor
  · rintro ⟨shifted, hs, rfl⟩
    obtain ⟨hm, rfl⟩ := (hparts shifted).mp hs
    exact ⟨fun digits hd => hm _ hd digits rfl, by rw [String.toList_ofList, rewrite, List.flatMap]⟩
  · rintro ⟨hm, hs⟩
    refine ⟨_, (hparts _).mpr ⟨?_, rfl⟩, ?_⟩
    · rintro part hp digits rfl
      exact hm digits hp
    · rw [← String.toList_inj, hs, String.toList_ofList, rewrite, List.flatMap]

/-- A placeholder that names none of the arguments. -/
def stray? (style : Style) (count : Nat) : Part → Option String
  | .literal _ => none
  | .index digits => if names style.start count digits then none else some (style.leading ++ String.ofList digits)

theorem shiftPart_eq_error_iff {part : Part} {token : String} :
    shiftPart style offset count part = .error token ↔
      ∃ digits, part = .index digits ∧ moved? style.start offset count digits = none ∧
        token = style.leading ++ String.ofList digits := by
  cases part with
  | literal c => simp [shiftPart]
  | index digits =>
    rw [shiftPart]
    cases hm : moved? style.start offset count digits <;> simp [hm, eq_comm]

/-- Where there is room, a placeholder cannot be moved if it names none of the arguments. -/
theorem shiftPart_eq_error_iff_stray? (hroom : offset + count ≤ indexBound) {part : Part} {token : String} :
    shiftPart style offset count part = .error token ↔ stray? style count part = some token := by
  rw [shiftPart_eq_error_iff]
  cases part with
  | literal c => simp [stray?]
  | index digits =>
    have hmoved : moved? style.start offset count digits = none ↔ ¬ names style.start count digits = true := by
      rw [names_iff, ← exists_moved? hroom, Option.eq_none_iff_forall_ne_some, not_exists]
    constructor
    · rintro ⟨_, ⟨⟩, hnone, rfl⟩
      rw [stray?, if_neg (hmoved.mp hnone)]
    · intro h
      rw [stray?] at h
      split at h
      · cases h
      · rename_i hn
        exact ⟨digits, rfl, hmoved.mpr hn, (Option.some.inj h).symm⟩

/-- Where there is room, text cannot be renumbered if a placeholder names none of the arguments, and is refused
    for the first. -/
theorem renumber_eq_error_iff (h : style.isIndexed = true) (hroom : offset + count ≤ indexBound)
    {sql token : String} : renumber style offset count sql = .error token ↔
      (parts style.leading.toList sql.toList).findSome? (stray? style count) = some token := by
  rw [← mapM_eq_error_iff fun _ _ _ => shiftPart_eq_error_iff_stray? hroom, renumber, if_pos h]
  cases (parts style.leading.toList sql.toList).mapM (shiftPart style offset count) with
  | error e =>
    constructor <;> intro he <;> cases he <;> rfl
  | ok shifted =>
    constructor <;> intro he <;> cases he

/-- A renumbered text has the parts of the text with their digits renamed. -/
theorem parts_renumber (h : style.isIndexed = true) {sql s : String}
    (hs : renumber style offset count sql = .ok s) :
    parts style.leading.toList s.toList =
      (parts style.leading.toList sql.toList).map (Part.withDigits (renamed style.start offset)) := by
  rw [((renumber_eq_ok h).mp hs).2]
  exact parts_rewrite _ fun _ _ => run_renamed

/-! ### Renumbering further on -/

variable {gap : Nat}

theorem renamed_renamed :
    renamed 0 gap (renamed start offset digits) = renamed start (offset + gap) digits := by
  unfold renamed
  rw [decimalValue?_toDigits, Option.getD_some, Nat.sub_zero]
  congr 1
  omega

/-- A text that is renumbered further on has all its placeholders moved as much further, or is refused for
    the same placeholder. -/
theorem renumber_further (h : style.isIndexed = true) (sql : String)
    (hroom : offset + count + gap ≤ indexBound) :
    renumber style (offset + gap) count sql = (renumber style offset count sql).map fun s =>
      String.ofList (rewrite style.leading.toList (renamed 0 gap) s.toList) := by
  have hmoved : ∀ digits, (∃ index, moved? style.start (offset + gap) count digits = some index) ↔
      ∃ index, moved? style.start offset count digits = some index := by
    intro digits
    rw [exists_moved? (by omega), exists_moved? (by omega)]
  cases hs : renumber style offset count sql with
  | error token =>
    rw [renumber_eq_error_iff h (by omega)] at hs
    exact (renumber_eq_error_iff h (by omega)).mpr hs
  | ok s =>
    obtain ⟨hall, htext⟩ := (renumber_eq_ok h).mp hs
    refine (renumber_eq_ok h).mpr ⟨fun digits hd => (hmoved digits).mpr (hall digits hd), ?_⟩
    rw [String.toList_ofList, htext, rewrite_rewrite _ fun _ _ => run_renamed]
    exact rewrite_congr fun _ _ => renamed_renamed

end Placeholder
end BoundSql
