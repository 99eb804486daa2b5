import BoundSql.Placeholder.Renumber
import Mathlib.Data.List.DropRight
import Mathlib.Data.List.TakeWhile

/-! Scanning text for placeholders. The parts of a text follow from its start: a placeholder there, or a
    single character (`parts_of_some`, `parts_of_none`). A character that is neither a word character nor
    part of the prefix cuts a text in two that are scanned apart (`parts_append_cons`), and a text whose
    placeholders are given other digits is scanned as before (`parts_rewrite`). -/

namespace BoundSql.Text

/-- A decimal digit is a word character. -/
theorem isWordChar_of_isDecimal {c : Char} (h : isDecimal c = true) : isWordChar c = true := by
  unfold isWordChar
  unfold isDecimal at h ⊢
  split
  · rename_i hc
    rw [if_pos hc] at h
    simp only [isAsciiDigit, Bool.and_eq_true, decide_eq_true_eq] at h
    simp [inRanges, h]
  · rename_i hc
    rw [if_neg hc] at h
    simp [h]

theorem inRanges_iff {ranges : List (Nat × Nat)} {n : Nat} :
    inRanges ranges n = true ↔ ∃ r ∈ ranges, r.1 ≤ n ∧ n ≤ r.2 := by
  simp [inRanges]

theorem blankRanges_wordRanges : ∀ r ∈ blankRanges, ∀ w ∈ wordRanges, r.2 < w.1 ∨ w.2 < r.1 := by
  decide +kernel

theorem blankRanges_decimalZeros : ∀ r ∈ blankRanges, ∀ z ∈ decimalZeros, r.2 < z ∨ z + 9 < r.1 := by
  decide +kernel

theorem asciiRanges_subset :
    ∀ w ∈ [(0x30, 0x39), (0x41, 0x5a), (0x5f, 0x5f), (0x61, 0x7a)], w ∈ wordRanges := by
  decide +kernel

/-- A blank character is not a word character. -/
theorem isWordChar_of_isBlankChar {c : Char} (h : isBlankChar c = true) : isWordChar c = false := by
  obtain ⟨r, hr, hlo, hhi⟩ := inRanges_iff.mp h
  have hword : inRanges wordRanges c.toNat = false := by
    rw [Bool.eq_false_iff]
    intro hw
    obtain ⟨w, hw, hwlo, hwhi⟩ := inRanges_iff.mp hw
    have := blankRanges_wordRanges r hr w hw
    omega
  unfold isWordChar
  split
  · rw [Bool.eq_false_iff]
    intro hw
    obtain ⟨w, hw, hwlo, hwhi⟩ := inRanges_iff.mp hw
    have := blankRanges_wordRanges r hr w (asciiRanges_subset w hw)
    omega
  · rename_i hc
    rw [hword, Bool.or_false, isDecimal, if_neg hc, List.any_eq_false]
    intro z hz hd
    simp only [Bool.and_eq_true, decide_eq_true_eq] at hd
    have := blankRanges_decimalZeros r hr z hz
    omega

end BoundSql.Text

namespace BoundSql.Placeholder
open Text (isDecimal isWordChar)

/-- The rest of a text behind a run of digits ends the run: no word character follows. -/
def Boundary (rest : List Char) : Prop := rest.head?.any isWordChar = false

theorem boundary_nil : Boundary [] := rfl

theorem boundary_cons {c : Char} {rest : List Char} : Boundary (c :: rest) ↔ isWordChar c = false := by
  simp [Boundary]

/-- A run of decimal digits, of at least one. -/
structure Run (digits : List Char) : Prop where
  ne_nil : digits ≠ []
  decimal : ∀ d ∈ digits, isDecimal d = true

variable {leading : List Char}

/-! ### The start of a text -/

theorem takeWhile_run {digits rest : List Char} (h : Run digits) (hr : Boundary rest) :
    (digits ++ rest).takeWhile isDecimal = digits := by
  rw [List.takeWhile_append_of_pos h.decimal]
  cases rest with
  | nil => simp
  | cons c rest =>
    have hc : isDecimal c = false := by
      by_contra hd
      rw [boundary_cons, Text.isWordChar_of_isDecimal (by simpa using hd)] at hr
      cases hr
    simp [hc]

theorem atStart?_eq_some {text digits rest : List Char} :
    atStart? leading text = some (digits, rest) ↔
      text = leading ++ (digits ++ rest) ∧ Run digits ∧ Boundary rest := by
  unfold atStart?
  constructor
  · intro h
    split at h
    · rename_i hp
      obtain ⟨behind, rfl⟩ := List.isPrefixOf_iff_prefix.mp hp
      simp only [List.drop_left] at h
      split at h
      · cases h
      · rename_i hn
        simp only [Bool.or_eq_true, List.isEmpty_iff, not_or, Bool.not_eq_true] at hn
        cases h
        refine ⟨by rw [List.takeWhile_append_dropWhile], ⟨hn.1, ?_⟩, hn.2⟩
        intro d hd
        exact List.mem_takeWhile_imp hd
    · cases h
  · rintro ⟨rfl, hd, hr⟩
    have hdrop : (digits ++ rest).dropWhile isDecimal = rest := by
      have h := List.takeWhile_append_dropWhile (p := isDecimal) (l := digits ++ rest)
      rw [takeWhile_run hd hr] at h
      exact List.append_cancel_left h
    rw [if_pos (List.isPrefixOf_iff_prefix.mpr (List.prefix_append _ _))]
    simp only [List.drop_left, takeWhile_run hd hr, hdrop]
    rw [if_neg]
    simp only [Bool.or_eq_true, List.isEmpty_iff, not_or, Bool.not_eq_true]
    exact ⟨hd.ne_nil, hr⟩

theorem length_lt_of_atStart? {text digits rest : List Char}
    (h : atStart? leading text = some (digits, rest)) : rest.length < text.length := by
  obtain ⟨rfl, hd, -⟩ := atStart?_eq_some.mp h
  have := List.length_pos_of_ne_nil hd.ne_nil
  simp only [List.length_append]
  omega

/-! ### The parts of a text -/

theorem scanParts_eq_append (steps : Nat) : ∀ (before : List Part) (text : List Char),
    scanParts leading before steps text = before.reverse ++ scanParts leading [] steps text := by
  induction steps with
  | zero => simp [scanParts]
  | succ steps ih =>
    intro before text
    cases text with
    | nil => simp [scanParts]
    | cons c rest =>
      simp only [scanParts]
      split
      · rw [ih, ih [_]]
        simp
      · rw [ih, ih [_]]
        simp

/-- As many steps as there are characters are enough. -/
theorem scanParts_of_length_le : ∀ (steps : Nat) (text : List Char), text.length ≤ steps →
    scanParts leading [] steps text = parts leading text := by
  suffices h : ∀ (n m : Nat) (text : List Char), text.length ≤ n → text.length ≤ m →
      scanParts leading [] n text = scanParts leading [] m text from
    fun steps text hs => h _ _ _ hs (Nat.le_refl _)
  intro n
  induction n with
  | zero =>
    intro m text hn _
    obtain rfl := List.length_eq_zero_iff.mp (Nat.le_zero.mp hn)
    cases m <;> simp [scanParts]
  | succ n ih =>
    intro m text hn hm
    cases text with
    | nil => cases m <;> simp [scanParts]
    | cons c rest =>
      obtain ⟨m, rfl⟩ : ∃ k, m = k + 1 := ⟨m - 1, by simp at hm; omega⟩
      simp only [scanParts]
      simp only [List.length_cons, Nat.add_le_add_iff_right] at hn hm
      cases h : atStart? leading (c :: rest) with
      | none =>
        simp only
        rw [scanParts_eq_append n, scanParts_eq_append m, ih m rest hn hm]
      | some found =>
        obtain ⟨digits, behind⟩ := found
        have hl := length_lt_of_atStart? h
        simp only [List.length_cons] at hl
        simp only
        rw [scanParts_eq_append n, scanParts_eq_append m, ih m behind (by omega) (by omega)]

@[simp] theorem parts_nil : parts leading [] = [] := by
  simp [parts, scanParts]

theorem parts_of_none {c : Char} {rest : List Char} (h : atStart? leading (c :: rest) = none) :
    parts leading (c :: rest) = .literal c :: parts leading rest := by
  rw [parts, List.length_cons, scanParts, h]
  simp only
  rw [scanParts_eq_append, scanParts_of_length_le _ _ (Nat.le_refl _)]
  rfl

theorem parts_of_some {text digits rest : List Char} (h : atStart? leading text = some (digits, rest)) :
    parts leading text = .index digits :: parts leading rest := by
  have hl := length_lt_of_atStart? h
  cases text with
  | nil => simp at hl
  | cons c tail =>
    simp only [List.length_cons] at hl
    rw [parts, List.length_cons, scanParts, h]
    simp only
    rw [scanParts_eq_append, scanParts_of_length_le _ _ (by omega)]
    rfl

theorem parts_token {digits rest : List Char} (h : Run digits) (hr : Boundary rest) :
    parts leading (leading ++ (digits ++ rest)) = .index digits :: parts leading rest :=
  parts_of_some (atStart?_eq_some.mpr ⟨rfl, h, hr⟩)

/-- Induction along the parts of a text. -/
theorem parts_induction (leading : List Char) {motive : List Char → Prop} (nil : motive [])
    (literal : ∀ c rest, atStart? leading (c :: rest) = none → motive rest → motive (c :: rest))
    (token : ∀ digits rest, Run digits → Boundary rest → motive rest →
      motive (leading ++ (digits ++ rest))) : ∀ text, motive text := by
  suffices h : ∀ (n : Nat) (text : List Char), text.length ≤ n → motive text from
    fun text => h _ text (Nat.le_refl _)
  intro n
  induction n with
  | zero =>
    intro text hn
    obtain rfl := List.length_eq_zero_iff.mp (Nat.le_zero.mp hn)
    exact nil
  | succ n ih =>
    intro text hn
    cases text with
    | nil => exact nil
    | cons c rest =>
      simp only [List.length_cons, Nat.add_le_add_iff_right] at hn
      cases h : atStart? leading (c :: rest) with
      | none => exact literal c rest h (ih rest hn)
      | some found =>
        obtain ⟨digits, behind⟩ := found
        have hl := length_lt_of_atStart? h
        obtain ⟨heq, hd, hr⟩ := atStart?_eq_some.mp h
        rw [heq]
        simp only [List.length_cons] at hl
        exact token digits behind hd hr (ih behind (by omega))

/-! ### Cutting a text -/

/-- A character that can stand neither in a placeholder nor right behind one without ending it. -/
structure Cuts (leading : List Char) (c : Char) : Prop where
  not_word : isWordChar c = false
  not_mem : c ∉ leading

theorem Run.not_mem {digits : List Char} (h : Run digits) {c : Char} (hc : isWordChar c = false) :
    c ∉ digits := fun hm => by
  rw [Text.isWordChar_of_isDecimal (h.decimal c hm)] at hc
  cases hc

theorem boundary_append_cons {c : Char} (hc : isWordChar c = false) {text rest : List Char} :
    Boundary (text ++ c :: rest) ↔ Boundary text := by
  cases text with
  | nil => simp [boundary_cons, boundary_nil, hc]
  | cons d text => simp [boundary_cons]

theorem atStart?_append_cons_eq_some {c : Char} (hc : Cuts leading c) (text : List Char)
    {rest digits behind : List Char}
    (h : atStart? leading (text ++ c :: rest) = some (digits, behind)) :
    ∃ middle, behind = middle ++ c :: rest ∧ atStart? leading text = some (digits, middle) := by
  obtain ⟨heq, hd, hr⟩ := atStart?_eq_some.mp h
  rw [← List.append_assoc] at heq
  rcases List.append_eq_append_iff.mp heq with ⟨a, ha, hb⟩ | ⟨middle, rfl, rfl⟩
  · cases a with
    | nil =>
      rw [List.append_nil] at ha
      rw [List.nil_append] at hb
      exact ⟨[], hb.symm, atStart?_eq_some.mpr ⟨by simp [← ha], hd, boundary_nil⟩⟩
    | cons x a =>
      obtain rfl : c = x := (List.cons.inj hb).1
      have hm : c ∈ leading ++ digits := by simp [ha]
      rcases List.mem_append.mp hm with hm | hm
      · exact absurd hm hc.not_mem
      · exact absurd hm (hd.not_mem hc.not_word)
  · exact ⟨middle, rfl,
      atStart?_eq_some.mpr ⟨by simp, hd, (boundary_append_cons hc.not_word).mp hr⟩⟩

theorem atStart?_cons_of_cuts {c : Char} (hc : Cuts leading c) (rest : List Char) :
    atStart? leading (c :: rest) = none := by
  by_contra hne
  obtain ⟨⟨digits, behind⟩, h⟩ := Option.ne_none_iff_exists'.mp hne
  obtain ⟨middle, -, hs⟩ := atStart?_append_cons_eq_some hc [] h
  have := length_lt_of_atStart? hs
  simp at this

/-- A text is scanned apart on both sides of a character that cuts it. -/
theorem parts_append_cons {c : Char} (hc : Cuts leading c) (rest text : List Char) :
    parts leading (text ++ c :: rest) = parts leading text ++ .literal c :: parts leading rest := by
  induction text using parts_induction leading with
  | nil => simpa using parts_of_none (atStart?_cons_of_cuts hc rest)
  | literal d text hd ih =>
    have hn : atStart? leading (d :: (text ++ c :: rest)) = none := by
      by_contra hne
      obtain ⟨⟨digits, behind⟩, h⟩ := Option.ne_none_iff_exists'.mp hne
      obtain ⟨middle, -, hs⟩ := atStart?_append_cons_eq_some hc (d :: text) h
      rw [hd] at hs
      cases hs
    rw [List.cons_append, parts_of_none hn, parts_of_none hd, ih, List.cons_append]
  | token digits text hd hr ih =>
    have hr' : Boundary (text ++ c :: rest) := (boundary_append_cons hc.not_word).mpr hr
    rw [List.append_assoc, List.append_assoc, parts_token hd hr', parts_token hd hr, ih, List.cons_append]

/-- A text without the first character of the prefix has no placeholder. -/
theorem parts_of_not_mem {a : Char} {leading text : List Char} (h : a ∉ text) :
    parts (a :: leading) text = text.map .literal := by
  induction text with
  | nil => simp
  | cons c text ih =>
    have hn : atStart? (a :: leading) (c :: text) = none := by
      by_contra hne
      obtain ⟨⟨digits, behind⟩, hs⟩ := Option.ne_none_iff_exists'.mp hne
      obtain ⟨heq, -, -⟩ := atStart?_eq_some.mp hs
      simp only [List.cons_append, List.cons.injEq] at heq
      simp [heq.1] at h
    rw [parts_of_none hn, ih (by simp_all), List.map_cons]

/-! ### Rewriting placeholders -/

namespace Part

/-- The text of a part. -/
def text (leading : List Char) : Part → List Char
  | .literal c => [c]
  | .index digits => leading ++ digits

/-- The digits of a placeholder. -/
def digits? : Part → Option (List Char)
  | .literal _ => none
  | .index digits => some digits

/-- The part with other digits for its placeholder. -/
def withDigits (f : List Char → List Char) : Part → Part
  | .literal c => .literal c
  | .index digits => .index (f digits)

end Part

theorem flatMap_text_parts (leading text : List Char) :
    (parts leading text).flatMap (Part.text leading) = text := by
  induction text using parts_induction leading with
  | nil => simp
  | literal c rest hc ih => rw [parts_of_none hc, List.flatMap_cons, ih]; rfl
  | token digits rest hd hr ih =>
    rw [parts_token hd hr, List.flatMap_cons, ih, Part.text, List.append_assoc]

theorem parts_eq_nil (leading : List Char) {text : List Char} : parts leading text = [] ↔ text = [] := by
  constructor
  · intro h
    have ht := flatMap_text_parts leading text
    rw [h] at ht
    exact ht.symm
  · rintro rfl
    exact parts_nil

/-- A text without placeholders has its characters as parts. -/
theorem parts_eq_map_literal {text : List Char} (h : ∀ digits, .index digits ∉ parts leading text) :
    parts leading text = text.map .literal := by
  induction text using parts_induction leading with
  | nil => simp
  | literal c rest hc ih =>
    rw [parts_of_none hc] at h ⊢
    rw [ih fun digits hm => h digits (List.mem_cons_of_mem _ hm), List.map_cons]
  | token digits rest hd hr ih =>
    rw [parts_token hd hr] at h
    exact absurd List.mem_cons_self (h digits)

/-- The text with other digits for its placeholders. -/
def rewrite (leading : List Char) (f : List Char → List Char) (text : List Char) : List Char :=
  (parts leading text).flatMap fun part => (part.withDigits f).text leading

section Rewrite
variable {f : List Char → List Char}

theorem rewrite_of_none {c : Char} {rest : List Char} (h : atStart? leading (c :: rest) = none) :
    rewrite leading f (c :: rest) = c :: rewrite leading f rest := by
  rw [rewrite, parts_of_none h]
  rfl

theorem rewrite_token {digits rest : List Char} (h : Run digits) (hr : Boundary rest) :
    rewrite leading f (leading ++ (digits ++ rest)) = leading ++ (f digits ++ rewrite leading f rest) := by
  rw [rewrite, parts_token h hr, List.flatMap_cons]
  simp [Part.withDigits, Part.text, rewrite]

theorem boundary_rewrite {text : List Char} (h : Boundary text) : Boundary (rewrite leading f text) := by
  induction text using parts_induction leading with
  | nil => simpa [rewrite] using h
  | literal c rest hc ih =>
    rw [rewrite_of_none hc]
    rw [boundary_cons] at h ⊢
    exact h
  | token digits rest hd hr ih =>
    rw [rewrite_token hd hr]
    cases leading with
    | nil =>
      -- Without a prefix the text starts with a digit, which is a word character.
      obtain ⟨d, digits, rfl⟩ := List.exists_cons_of_ne_nil hd.ne_nil
      rw [List.nil_append, List.cons_append, boundary_cons,
        Text.isWordChar_of_isDecimal (hd.decimal d List.mem_cons_self)] at h
      cases h
    | cons a leading =>
      rw [List.cons_append, boundary_cons] at h ⊢
      exact h

/-- Whether a placeholder starts before another one does not hang on the digits of the other. -/
theorem atStart?_before_token {before digits digits' rest rest' : List Char} (hb : before ≠ [])
    (hd : Run digits) (hd' : Run digits') (hr : Boundary rest)
    (h : atStart? leading (before ++ (leading ++ (digits ++ rest))) = none) :
    atStart? leading (before ++ (leading ++ (digits' ++ rest'))) = none := by
  by_contra hne
  obtain ⟨⟨found, behind⟩, hs⟩ := Option.ne_none_iff_exists'.mp hne
  obtain ⟨heq, hf, hbeh⟩ := atStart?_eq_some.mp hs
  rw [← List.append_assoc] at heq
  rcases List.append_eq_append_iff.mp heq with ⟨a, ha, -⟩ | ⟨tail, ha, htail⟩
  · have := congrArg List.length ha
    have := List.length_pos_of_ne_nil hb
    simp only [List.length_append] at *
    omega
  · -- `tail` is what the prefix that starts earlier leaves of the text up to the digits.
    have hpre : before ++ (leading ++ (digits ++ rest)) = leading ++ (tail ++ (digits ++ rest)) := by
      rw [← List.append_assoc, ha, List.append_assoc]
    have hsome : ∃ found behind, atStart? leading (before ++ (leading ++ (digits ++ rest))) =
        some (found, behind) := by
      rcases List.append_eq_append_iff.mp htail with ⟨a, rfl, ha'⟩ | ⟨a, rfl, ha'⟩
      · cases a with
        | nil =>
          obtain ⟨d, digits', rfl⟩ := List.exists_cons_of_ne_nil hd'.ne_nil
          rw [ha', List.nil_append, List.cons_append, boundary_cons,
            Text.isWordChar_of_isDecimal (hd'.decimal d List.mem_cons_self)] at hbeh
          cases hbeh
        | cons x a =>
          rw [ha', List.cons_append, boundary_cons] at hbeh
          refine ⟨found, x :: a ++ (digits ++ rest), atStart?_eq_some.mpr ⟨?_, hf, ?_⟩⟩
          · rw [hpre, List.append_assoc]
          · rw [List.cons_append, boundary_cons]
            exact hbeh
      · refine ⟨tail ++ digits, rest, atStart?_eq_some.mpr ⟨?_, ⟨?_, ?_⟩, hr⟩⟩
        · rw [hpre, List.append_assoc]
        · simp [hd.ne_nil]
        · intro d hm
          rcases List.mem_append.mp hm with hm | hm
          · exact hf.decimal d (List.mem_append_left _ hm)
          · exact hd.decimal d hm
    obtain ⟨found, behind, hfound⟩ := hsome
    rw [h] at hfound
    cases hfound

/-- Rewriting leaves a text as it is, or changes the digits of its first placeholder and what is
    behind. -/
theorem rewrite_shape (text : List Char)
    (hf : ∀ digits, .index digits ∈ parts leading text → Run (f digits)) :
    rewrite leading f text = text ∨ ∃ before digits rest, text = before ++ (leading ++ (digits ++ rest)) ∧
      rewrite leading f text = before ++ (leading ++ (f digits ++ rewrite leading f rest)) ∧
        Run digits ∧ Run (f digits) ∧ Boundary rest := by
  induction text using parts_induction leading with
  | nil => simp [rewrite]
  | literal c text hc ih =>
    rw [parts_of_none hc] at hf
    rw [rewrite_of_none hc]
    rcases ih fun digits hm => hf digits (List.mem_cons_of_mem _ hm) with
      h | ⟨before, digits, rest, heq, h, hd, hd', hr⟩
    · exact Or.inl (by rw [h])
    · exact Or.inr ⟨c :: before, digits, rest, by rw [heq]; rfl, by rw [h]; rfl, hd, hd', hr⟩
  | token digits rest hd hr ih =>
    rw [parts_token hd hr] at hf
    exact Or.inr ⟨[], digits, rest, rfl, rewrite_token hd hr, hd, hf digits List.mem_cons_self, hr⟩

/-- A rewritten text has the parts of the text with their digits rewritten: nothing merges, splits or
    becomes a placeholder. -/
theorem parts_rewrite (text : List Char)
    (hf : ∀ digits, .index digits ∈ parts leading text → Run (f digits)) :
    parts leading (rewrite leading f text) = (parts leading text).map (Part.withDigits f) := by
  induction text using parts_induction leading with
  | nil => simp [rewrite]
  | literal c rest hc ih =>
    rw [parts_of_none hc] at hf ⊢
    have hf' := fun digits hm => hf digits (List.mem_cons_of_mem _ hm)
    have hn : atStart? leading (c :: rewrite leading f rest) = none := by
      rcases rewrite_shape rest hf' with h | ⟨before, digits, behind, heq, h, hd, hd', hr⟩
      · rw [h]
        exact hc
      · rw [h, ← List.cons_append]
        rw [heq, ← List.cons_append] at hc
        exact atStart?_before_token (by simp) hd hd' hr hc
    rw [rewrite_of_none hc, parts_of_none hn, ih hf', List.map_cons]
    rfl
  | token digits rest hd hr ih =>
    rw [parts_token hd hr] at hf ⊢
    have hf' := fun ds hm => hf ds (List.mem_cons_of_mem _ hm)
    rw [rewrite_token hd hr, parts_token (hf digits List.mem_cons_self) (boundary_rewrite hr), ih hf',
      List.map_cons]
    rfl

theorem rewrite_eq_nil {text : List Char} (hf : ∀ digits, Run (f digits)) :
    rewrite leading f text = [] ↔ text = [] := by
  rw [← parts_eq_nil leading, parts_rewrite _ fun digits _ => hf digits, List.map_eq_nil_iff,
    parts_eq_nil]

theorem Run.all_isBlankChar {digits : List Char} (h : Run digits) : digits.all Text.isBlankChar = false := by
  obtain ⟨d, digits, rfl⟩ := List.exists_cons_of_ne_nil h.ne_nil
  have hd : Text.isBlankChar d = false := by
    by_contra hblank
    have hword := Text.isWordChar_of_isDecimal (h.decimal d List.mem_cons_self)
    rw [Text.isWordChar_of_isBlankChar (by simpa using hblank)] at hword
    cases hword
  rw [List.all_cons, hd, Bool.false_and]

/-- Text is blank before and after its placeholders are given other digits. -/
theorem all_isBlankChar_rewrite (hf : ∀ digits, Run (f digits)) (text : List Char) :
    (rewrite leading f text).all Text.isBlankChar = text.all Text.isBlankChar := by
  induction text using parts_induction leading with
  | nil => rfl
  | literal c rest hc ih => rw [rewrite_of_none hc, List.all_cons, List.all_cons, ih]
  | token digits rest hd hr ih =>
    simp only [rewrite_token hd hr, List.all_append, (hf digits).all_isBlankChar, hd.all_isBlankChar,
      Bool.false_and, Bool.and_false]

/-- Blank text has no placeholders. -/
theorem parts_of_blank {text : List Char} (h : text.all Text.isBlankChar = true) :
    parts leading text = text.map .literal := by
  induction text using parts_induction leading with
  | nil => exact parts_nil
  | literal c rest hc ih =>
    rw [List.all_cons, Bool.and_eq_true] at h
    rw [parts_of_none hc, ih h.2, List.map_cons]
  | token digits rest hd hr ih =>
    simp only [List.all_append, hd.all_isBlankChar, Bool.false_and, Bool.and_false, Bool.false_eq_true] at h

/-- Rewriting twice rewrites once. -/
theorem rewrite_rewrite {g : List Char → List Char} (text : List Char)
    (hf : ∀ digits, .index digits ∈ parts leading text → Run (f digits)) :
    rewrite leading g (rewrite leading f text) = rewrite leading (fun digits => g (f digits)) text := by
  rw [rewrite, parts_rewrite text hf, List.flatMap_map, rewrite]
  refine List.flatMap_congr fun part _ => ?_
  cases part <;> rfl

theorem rewrite_congr {g : List Char → List Char} {text : List Char}
    (h : ∀ digits, .index digits ∈ parts leading text → f digits = g digits) :
    rewrite leading f text = rewrite leading g text := by
  refine List.flatMap_congr fun part hp => ?_
  cases part with
  | literal c => rfl
  | index digits => rw [Part.withDigits, h digits hp, Part.withDigits]

/-- A text without placeholders stays as it is. -/
theorem rewrite_eq_self {text : List Char} (h : parts leading text = text.map .literal) :
    rewrite leading f text = text := by
  rw [rewrite, h, List.flatMap_map]
  exact List.flatMap_singleton' text

end Rewrite

/-! ### Trimming -/

/-- Whether a part is a blank character. -/
def Part.isBlank : Part → Bool
  | .literal c => Text.isBlankChar c
  | .index _ => false

@[simp] theorem Part.isBlank_literal (c : Char) : isBlank (.literal c) = Text.isBlankChar c := rfl

@[simp] theorem Part.isBlank_index (digits : List Char) : isBlank (.index digits) = false := rfl

theorem parts_dropWhile (hl : ∀ c, Text.isBlankChar c = true → c ∉ leading) (text : List Char) :
    parts leading (text.dropWhile Text.isBlankChar) = (parts leading text).dropWhile Part.isBlank := by
  induction text with
  | nil => simp
  | cons c text ih =>
    by_cases hc : Text.isBlankChar c = true
    · have hp := parts_append_cons ⟨Text.isWordChar_of_isBlankChar hc, hl c hc⟩ text []
      simp only [List.nil_append, parts_nil] at hp
      rw [List.dropWhile_cons_of_pos hc, hp, List.dropWhile_cons_of_pos (by simpa using hc), ih]
    · rw [List.dropWhile_cons_of_neg hc]
      cases h : atStart? leading (c :: text) with
      | none => rw [parts_of_none h, List.dropWhile_cons_of_neg (by simpa using hc)]
      | some found => rw [parts_of_some h, List.dropWhile_cons_of_neg (by simp)]

theorem parts_rdropWhile (hl : ∀ c, Text.isBlankChar c = true → c ∉ leading) (text : List Char) :
    parts leading (text.rdropWhile Text.isBlankChar) = (parts leading text).rdropWhile Part.isBlank := by
  induction text using List.reverseRecOn with
  | nil => simp
  | append_singleton text c ih =>
    by_cases hc : Text.isBlankChar c = true
    · rw [List.rdropWhile_concat_pos _ _ _ hc,
        parts_append_cons ⟨Text.isWordChar_of_isBlankChar hc, hl c hc⟩, parts_nil,
        List.rdropWhile_concat_pos _ _ _ (by simpa using hc), ih]
    · rw [List.rdropWhile_concat_neg _ _ _ hc]
      rcases List.eq_nil_or_concat (parts leading (text ++ [c])) with h | ⟨before, last, h⟩
      · rw [h, List.rdropWhile_nil]
      · rw [h, List.concat_eq_append, List.rdropWhile_concat_neg]
        -- The last part spells the end of the text, so that a literal there is `c`.
        have ht := flatMap_text_parts leading (text ++ [c])
        rw [h, List.concat_eq_append, List.flatMap_append] at ht
        cases last with
        | index digits => simp
        | literal d =>
          simp only [List.flatMap_cons, List.flatMap_nil, Part.text, List.append_nil] at ht
          obtain ⟨-, rfl⟩ := List.append_singleton_inj.mp ht
          simpa using hc

/-- Trimming a text trims its parts. -/
theorem parts_trimChars (hl : ∀ c, Text.isBlankChar c = true → c ∉ leading) (text : List Char) :
    parts leading (Text.trimChars text) =
      ((parts leading text).dropWhile Part.isBlank).rdropWhile Part.isBlank := by
  rw [← parts_dropWhile hl, ← parts_rdropWhile hl]
  rfl

theorem parts_injective (leading : List Char) {text text' : List Char}
    (h : parts leading text = parts leading text') : text = text' := by
  rw [← flatMap_text_parts leading text, h, flatMap_text_parts]

/-- A text is trimmed before or behind its rewriting. -/
theorem rewrite_trimChars {f : List Char → List Char}
    (hl : ∀ c, Text.isBlankChar c = true → c ∉ leading) (hf : ∀ digits, Run (f digits)) (text : List Char) :
    rewrite leading f (Text.trimChars text) = Text.trimChars (rewrite leading f text) := by
  have hb : Part.isBlank ∘ Part.withDigits f = Part.isBlank := by
    funext part
    cases part <;> rfl
  apply parts_injective leading
  rw [parts_rewrite _ fun digits _ => hf digits, parts_trimChars hl, parts_trimChars hl,
    parts_rewrite _ fun digits _ => hf digits, List.dropWhile_map, hb, List.rdropWhile, List.rdropWhile,
    ← List.map_reverse, List.dropWhile_map, hb, List.map_reverse]

/-! ### Numerals -/

theorem isDecimal_of_isDigit {c : Char} (h : c.isDigit = true) : isDecimal c = true := by
  rw [Char.isDigit_iff_toNat] at h
  have h : 48 ≤ c.toNat ∧ c.toNat ≤ 57 := h
  rw [isDecimal, if_pos (by omega), Text.isAsciiDigit]
  simpa using h

/-- The numeral of an index is a run of digits. -/
theorem run_toDigits (n : Nat) : Run (Nat.toDigits 10 n) where
  ne_nil := Nat.toDigits_ne_nil
  decimal _ hd := isDecimal_of_isDigit (Nat.isDigit_of_mem_toDigits (by decide) (by decide) hd)

theorem decimalValue?_toDigits (n : Nat) : Text.decimalValue? (Nat.toDigits 10 n) = some n := by
  have hd : (Nat.toDigits 10 n).all Text.isAsciiDigit = true := by
    rw [List.all_eq_true]
    intro d hd
    have h := Nat.isDigit_of_mem_toDigits (by decide) (by decide) hd
    rw [Char.isDigit_iff_toNat] at h
    simpa [Text.isAsciiDigit] using h
  have hv := Nat.ofDigitChars_ten_toDigits (n := n)
  rw [Nat.ofDigitChars_eq_foldl] at hv
  rw [Text.decimalValue?, if_neg (by simp [Nat.toDigits_ne_nil, hd])]
  exact congrArg some hv

theorem toList_token {style : Style} (h : style.isIndexed = true) (n : Nat) :
    (style.token n).toList = style.leading.toList ++ Nat.toDigits 10 n := by
  cases style with
  | fixed marker => cases h
  | oneBased leading => exact String.toList_append.trans (congrArg _ Nat.toList_repr)
  | zeroBased leading => exact String.toList_append.trans (congrArg _ Nat.toList_repr)

end BoundSql.Placeholder
