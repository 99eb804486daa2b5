import BoundSql.Text.Blank
import Mathlib.Data.List.DropRight

/-! Blank text and trimming: what is left of a text that is trimmed, and when nothing is. -/

namespace BoundSql.Text
variable {s t : String} {cs : List Char} {c : Char}

theorem isBlank_iff : isBlank s = true ↔ ∀ c ∈ s.toList, isBlankChar c = true := List.all_eq_true

@[simp] theorem isBlank_append (s t : String) : isBlank (s ++ t) = (isBlank s && isBlank t) := by
  rw [isBlank, String.toList_append, List.all_append]
  rfl

theorem trimChars_eq (cs : List Char) : trimChars cs = (cs.dropWhile isBlankChar).rdropWhile isBlankChar := rfl

/-- Trimming leaves out blanks before and behind. -/
theorem exists_trimChars (cs : List Char) : ∃ before after, cs = before ++ trimChars cs ++ after ∧
    (∀ c ∈ before, isBlankChar c = true) ∧ ∀ c ∈ after, isBlankChar c = true := by
  refine ⟨cs.takeWhile isBlankChar, (cs.dropWhile isBlankChar).rtakeWhile isBlankChar, ?_,
    fun c hc => List.mem_takeWhile_imp hc, fun c hc => List.mem_rtakeWhile_imp hc⟩
  rw [trimChars_eq, List.append_assoc, List.rdropWhile_append_rtakeWhile, List.takeWhile_append_dropWhile]

theorem trimChars_cons (hc : isBlankChar c = true) : trimChars (c :: cs) = trimChars cs := by
  rw [trimChars_eq, List.dropWhile_cons_of_pos hc, trimChars_eq]

theorem trimChars_concat (hc : isBlankChar c = true) : trimChars (cs ++ [c]) = trimChars cs := by
  rw [trimChars_eq, List.dropWhile_append, trimChars_eq]
  split
  · rename_i h
    rw [List.isEmpty_iff.mp h, List.dropWhile_cons_of_pos hc, List.dropWhile_nil]
  · rw [List.rdropWhile_concat_pos _ _ _ hc]

theorem trimChars_eq_nil_iff : trimChars cs = [] ↔ ∀ c ∈ cs, isBlankChar c = true := by
  rw [trimChars_eq, List.rdropWhile_eq_nil_iff]
  constructor
  · intro h
    rw [← List.dropWhile_eq_nil_iff]
    by_contra hne
    have hn := List.head_dropWhile_not isBlankChar hne
    rw [h _ (List.head_mem hne)] at hn
    cases hn
  · intro h
    rw [List.dropWhile_eq_nil_iff.mpr h]
    simp

theorem trim_eq_empty_iff : trim s = "" ↔ isBlank s = true := by
  rw [trim, String.ofList_eq_empty_iff, trimChars_eq_nil_iff, isBlank_iff]

theorem isEmpty_trim (s : String) : (trim s).isEmpty = isBlank s := by
  rw [Bool.eq_iff_iff, String.isEmpty_iff, trim_eq_empty_iff]

/-- Text that neither starts nor ends with a blank is trimmed. -/
theorem trimChars_eq_self (hhead : ∀ c ∈ cs.head?, isBlankChar c = false)
    (hlast : ∀ c ∈ cs.getLast?, isBlankChar c = false) : trimChars cs = cs := by
  have hd : cs.dropWhile isBlankChar = cs := by
    cases cs with
    | nil => rfl
    | cons c cs => rw [List.dropWhile_cons_of_neg (by simpa using hhead c rfl)]
  rw [trimChars_eq, hd]
  rcases List.eq_nil_or_concat cs with rfl | ⟨init, c, rfl⟩
  · rfl
  · rw [List.concat_eq_append] at hlast ⊢
    rw [List.rdropWhile_concat_neg]
    simpa using hlast c (by simp)

theorem head?_trimChars (cs : List Char) : ∀ c ∈ (trimChars cs).head?, isBlankChar c = false := by
  intro c hc
  have hne : cs.dropWhile isBlankChar ≠ [] := by
    intro h
    rw [trimChars_eq, h] at hc
    cases hc
  obtain ⟨d, rest, hd⟩ := List.exists_cons_of_ne_nil hne
  have hdb : isBlankChar d = false := by
    have h := List.head_dropWhile_not isBlankChar hne
    simpa [hd] using h
  obtain ⟨tail, htail⟩ := List.rdropWhile_prefix isBlankChar (cs.dropWhile isBlankChar)
  rw [← trimChars_eq, hd] at htail
  cases h : trimChars cs with
  | nil =>
    rw [h] at hc
    cases hc
  | cons e es =>
    rw [h] at hc htail
    cases hc
    cases htail
    exact hdb

theorem getLast?_trimChars (cs : List Char) : ∀ c ∈ (trimChars cs).getLast?, isBlankChar c = false := by
  intro c hc
  have hne : trimChars cs ≠ [] := by
    intro h
    rw [h] at hc
    cases hc
  rw [List.getLast?_eq_some_getLast hne] at hc
  cases hc
  exact eq_false_of_ne_true (List.rdropWhile_last_not isBlankChar (cs.dropWhile isBlankChar) hne)

theorem trimChars_trimChars (cs : List Char) : trimChars (trimChars cs) = trimChars cs :=
  trimChars_eq_self (head?_trimChars cs) (getLast?_trimChars cs)

theorem trim_trim (s : String) : trim (trim s) = trim s := by
  rw [trim, trim, String.toList_ofList, trimChars_trimChars]

theorem isBlank_trim (s : String) : isBlank (trim s) = isBlank s := by
  rw [Bool.eq_iff_iff, ← trim_eq_empty_iff, trim_trim, trim_eq_empty_iff]

end BoundSql.Text
