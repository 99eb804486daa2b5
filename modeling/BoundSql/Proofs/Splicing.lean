import BoundSql.Proofs.Renumber

/-! Splicing twice. SQL that is renumbered for a place within other SQL, which is renumbered for its own place
    later on, has the placeholders that it would have had if it had been renumbered once for the place where it
    ends up (`renumber_renumber`). Counting from the first index, offsets add up. -/

namespace BoundSql.Placeholder
variable {style : Style} {start offset further count total : Nat} {digits : List Char} {sql s t : String}

/-! ### One placeholder -/

theorem renamed_twice (h : start ≤ offset) :
    renamed start further (renamed start offset digits) = renamed start (further + (offset - start)) digits := by
  unfold renamed
  rw [decimalValue?_toDigits, Option.getD_some]
  congr 1
  omega

/-- A placeholder that has moved names one of the arguments around it. -/
theorem exists_moved?_renamed (h : start ≤ offset) (hcount : offset - start + count ≤ total)
    (hroom : further + (offset - start) + count ≤ indexBound)
    (hm : ∃ index, moved? start offset count digits = some index) :
    ∃ index, moved? start further total (renamed start offset digits) = some index := by
  obtain ⟨index, hm⟩ := hm
  obtain ⟨value, hv, hlo, hhi, -, -⟩ := moved?_eq_some.mp hm
  have hvalue : Text.decimalValue? (renamed start offset digits) = some (offset + (value - start)) := by
    rw [decimalValue?_renamed, hv, Option.getD_some]
  exact ⟨_, moved?_eq_some.mpr ⟨_, hvalue, by omega, by omega, by omega, rfl⟩⟩

/-- Where it ends up there is room for a placeholder that names an argument. -/
theorem exists_moved?_of_moved? (hroom : further + count ≤ indexBound)
    (hm : ∃ index, moved? start offset count digits = some index) :
    ∃ index, moved? start further count digits = some index := by
  obtain ⟨index, hm⟩ := hm
  obtain ⟨value, hv, hlo, hhi, -, -⟩ := moved?_eq_some.mp hm
  exact (exists_moved? hroom).mpr ⟨value, hv, hlo, hhi⟩

/-! ### Texts side by side -/

/-- No placeholder runs across the place where the texts meet. -/
def Apart (style : Style) (s t : String) : Prop :=
  parts style.leading.toList (s ++ t).toList =
    parts style.leading.toList s.toList ++ parts style.leading.toList t.toList

/-- Texts that are scanned apart are renumbered apart, the first one first. -/
theorem renumber_append (h : Apart style s t) : renumber style offset count (s ++ t) = do
    let left ← renumber style offset count s
    let right ← renumber style offset count t
    return left ++ right := by
  unfold renumber
  split
  · rw [h, List.mapM_append]
    simp only [bind_assoc, pure_bind, List.flatten_append, String.ofList_append]
  · rfl

/-! ### Texts within texts -/

/-- A text that has been renumbered can be renumbered again, and then has the placeholders of the place where it
    ends up. -/
theorem exists_renumber_twice (hindexed : style.isIndexed = true) (h : style.start ≤ offset)
    (hcount : offset - style.start + count ≤ total)
    (hroom : further + (offset - style.start) + count ≤ indexBound) (ht : renumber style offset count sql = .ok t) :
    ∃ s, renumber style further total t = .ok s ∧
      renumber style (further + (offset - style.start)) count sql = .ok s := by
  obtain ⟨hmoved, htext⟩ := (renumber_eq_ok hindexed).mp ht
  refine ⟨String.ofList (rewrite style.leading.toList (renamed style.start further) t.toList), ?_, ?_⟩
  · refine (renumber_eq_ok hindexed).mpr ⟨fun digits hd => ?_, String.toList_ofList⟩
    rw [parts_renumber hindexed ht] at hd
    obtain ⟨part, hp, hpart⟩ := List.mem_map.mp hd
    cases part with
    | literal c => cases hpart
    | index digits' =>
      cases hpart
      exact exists_moved?_renamed h hcount hroom (hmoved digits' hp)
  · refine (renumber_eq_ok hindexed).mpr
      ⟨fun digits hd => exists_moved?_of_moved? hroom (hmoved digits hd), ?_⟩
    rw [String.toList_ofList, htext, rewrite_rewrite _ fun _ _ => run_renamed]
    exact rewrite_congr fun _ _ => renamed_twice h

/-- Renumbering from the first index changes no renumbering that follows: SQL that it refuses is refused later for
    the same placeholder. -/
theorem renumber_start_bind (hindexed : style.isIndexed = true) (hcount : count ≤ total)
    (hroom : further + count ≤ indexBound) (hroom' : style.start + count ≤ indexBound) :
    (renumber style style.start count sql >>= renumber style further total) = renumber style further count sql := by
  cases ht : renumber style style.start count sql with
  | error token =>
    rw [renumber_eq_error_iff hindexed hroom'] at ht
    exact ((renumber_eq_error_iff hindexed hroom).mpr ht).symm
  | ok t =>
    have hcount' : style.start - style.start + count ≤ total := by omega
    have hroom'' : further + (style.start - style.start) + count ≤ indexBound := by omega
    obtain ⟨s, hs, hs'⟩ := exists_renumber_twice hindexed (Nat.le_refl _) hcount' hroom'' ht
    rw [Nat.sub_self, Nat.add_zero] at hs'
    rw [hs']
    exact hs

/-- Renumbered text that is renumbered again, on its own or within other text that is scanned apart from it, is
    numbered as if it had been renumbered once, for the place where it ends up; and renumbering from the first
    index at first makes no difference to what comes later, failures included. -/
theorem renumber_renumber (hindexed : style.isIndexed = true) (h : style.start ≤ offset)
    (hcount : offset - style.start + count ≤ total)
    (hroom : further + (offset - style.start) + count < indexBound) (sql : String) :
    (∀ t, renumber style offset count sql = .ok t →
      (∃ s, renumber style further total t = .ok s ∧
        renumber style (further + (offset - style.start)) count sql = .ok s) ∧
      ∀ before after, Apart style before t → Apart style (before ++ t) after →
        renumber style further total (before ++ t ++ after) = do
          let left ← renumber style further total before
          let middle ← renumber style (further + (offset - style.start)) count sql
          let right ← renumber style further total after
          return left ++ middle ++ right) ∧
    (offset = style.start →
      (renumber style offset count sql >>= renumber style further total) = renumber style further count sql) := by
  refine ⟨fun t ht => ?_, ?_⟩
  · obtain ⟨s, hs, hs'⟩ := exists_renumber_twice hindexed h hcount (Nat.le_of_lt hroom) ht
    refine ⟨⟨s, hs, hs'⟩, fun before after hbefore hafter => ?_⟩
    rw [renumber_append hafter, renumber_append hbefore, hs, hs']
    simp only [bind_assoc, pure_bind]
  · rintro rfl
    have hstart : style.start ≤ 1 := by cases style <;> simp [Style.start]
    exact renumber_start_bind hindexed (by omega) (by omega) (by omega)

/-- A condition that names its arguments out of order, one of them with a zero in front. -/
def cheapOrders : String := "total < $02 OR total < $1"

set_option maxRecDepth 20000 in
/-- The condition stands behind one argument in a condition that stands behind three. -/
theorem cheapOrders_respliced :
    (∃ s, renumber (.oneBased "$") 4 3 "total < $3 OR total < $2" = .ok s ∧
      renumber (.oneBased "$") 5 2 cheapOrders = .ok s) ∧
    renumber (.oneBased "$") 4 3 ("owner = $1 AND (" ++ "total < $3 OR total < $2" ++ ")") =
      .ok "owner = $4 AND (total < $6 OR total < $5)" := by
  have hindexed : (Style.oneBased "$").isIndexed = true := rfl
  have hstart : (Style.oneBased "$").start ≤ 2 := by decide
  have hcount : 2 - (Style.oneBased "$").start + 2 ≤ 3 := by decide
  have hroom : 4 + (2 - (Style.oneBased "$").start) + 2 < indexBound := by decide
  have ht : renumber (.oneBased "$") 2 2 cheapOrders = .ok "total < $3 OR total < $2" := rfl
  obtain ⟨hs, hwithin⟩ := (renumber_renumber hindexed hstart hcount hroom cheapOrders).1 _ ht
  refine ⟨hs, ?_⟩
  rw [hwithin "owner = $1 AND (" ")" rfl rfl]
  rfl

end BoundSql.Placeholder
