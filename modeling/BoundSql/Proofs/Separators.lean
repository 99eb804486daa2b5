import BoundSql.Compile
import BoundSql.Proofs.Scan

/-! Separators. Compilation puts its text together from pieces that meet at a blank, a comma, a dot or a
    parenthesis. On a dialect whose placeholders have an index such pieces are scanned apart
    (`parts_append`), and text of keywords alone holds no placeholder (`parts_of_inert`). -/

namespace BoundSql
open Placeholder (parts Cuts)

/-! ### Texts that meet -/

/-- The characters at which pieces of text meet. -/
def separators : List Char := [' ', ',', '(', ')', '.']

/-- The characters with which placeholders start. -/
def markers : List Char := ['$', '@', '?']

/-- Text of no placeholder in any dialect. -/
def Inert (s : String) : Prop := s.toList.all (fun c => !markers.contains c) = true

/-- Text that ends with a separator. -/
def Opens (s : String) : Prop := s.toList.getLast?.any separators.contains = true

/-- Text that can follow any other: it is empty or starts with a separator. -/
def Follows (s : String) : Prop := s.toList.head?.all separators.contains = true

instance (s : String) : Decidable (Inert s) := inferInstanceAs (Decidable (_ = true))

instance (s : String) : Decidable (Opens s) := inferInstanceAs (Decidable (_ = true))

instance (s : String) : Decidable (Follows s) := inferInstanceAs (Decidable (_ = true))

/-- Text that can stand before any other. -/
def Opening (s : String) : Prop := Inert s ∧ Opens s

/-- Text that can stand behind any other. -/
def Closing (s : String) : Prop := Inert s ∧ Follows s

/-- Text that can stand between any two others. -/
def Separating (s : String) : Prop := Inert s ∧ Follows s ∧ Opens s

instance (s : String) : Decidable (Opening s) := inferInstanceAs (Decidable (_ ∧ _))

instance (s : String) : Decidable (Closing s) := inferInstanceAs (Decidable (_ ∧ _))

instance (s : String) : Decidable (Separating s) := inferInstanceAs (Decidable (_ ∧ _))

/-- Two texts meet at a separator, or one of them is empty. -/
def Meets (s t : String) : Prop := s = "" ∨ Opens s ∨ Follows t

theorem Inert.not_mem {s : String} (hs : Inert s) {c : Char} (hc : markers.contains c = true) :
    c ∉ s.toList := by
  intro hm
  have hn := List.all_eq_true.mp hs c hm
  rw [hc] at hn
  cases hn

theorem Follows.append {s t : String} (hs : Follows s) (ht : Follows t) : Follows (s ++ t) := by
  unfold Follows at *
  rw [String.toList_append]
  cases h : s.toList with
  | nil => simpa using ht
  | cons c rest => simpa [h] using hs

theorem Separating.follows_append {g : String} (hg : Separating g) (t : String) : Follows (g ++ t) := by
  obtain ⟨-, hf, ho⟩ := hg
  unfold Follows Opens at *
  rw [String.toList_append]
  cases h : g.toList with
  | nil => simp [h] at ho
  | cons c rest => simpa [h] using hf

/-- A blank makes any text one that can follow. -/
theorem follows_blank (s : String) : Follows (" " ++ s) :=
  have hblank : Separating " " := by decide
  hblank.follows_append s

/-! ### Keywords -/

theorem JoinKind.inert_sql (kind : JoinKind) : Inert kind.sql := by
  cases kind <;> decide

theorem Direction.inert_sql (direction : Direction) : Inert direction.sql := by
  cases direction <;> decide

theorem Logic.separating_sql (logic : Logic) : Separating s!" {logic.sql} " := by
  cases logic <;> decide

theorem Dialect.inert_operatorSql (dialect : Dialect) (operator : Operator) :
    Inert (dialect.operatorSql operator) := by
  cases dialect <;> cases operator <;> decide

theorem Dialect.inert_unlimited? (dialect : Dialect) : ∀ all ∈ dialect.unlimited?, Inert all := by
  intro all h
  cases dialect <;> cases h <;> decide

/-! ### Clauses -/

theorem follows_clause (keyword sql : String) : Follows (clause keyword sql) := by
  unfold clause
  split
  · decide
  · simp only [toString, String.append_assoc]
    exact follows_blank _

theorem follows_join (items : List String) : Follows (String.join (items.map fun item => " " ++ item)) := by
  induction items with
  | nil => decide
  | cons item items ih =>
    rw [List.map_cons, String.join_cons]
    exact (follows_blank item).append ih

theorem follows_page (page : String) : Follows (if page.isEmpty then "" else " " ++ page) := by
  split
  · decide
  · exact follows_blank page

/-! ### Dialects -/

variable {dialect : Dialect} {leading : List Char}

/-- Text without a placeholder of the dialect. -/
def Dialect.Free (dialect : Dialect) (text : String) : Prop :=
  ∀ part ∈ parts dialect.style.leading.toList text.toList, part.digits? = none

instance (dialect : Dialect) (text : String) : Decidable (dialect.Free text) :=
  inferInstanceAs (Decidable (∀ part ∈ _, _))

theorem Dialect.indexed_cases (h : dialect.style.isIndexed = true) :
    dialect = .postgres ∨ dialect = .mssql := by
  cases dialect
  · cases h
  · cases h
  · exact Or.inl rfl
  · exact Or.inr rfl

theorem Dialect.fixed_cases (h : dialect.style.isIndexed = false) :
    dialect = .mysql ∨ dialect = .sqlite := by
  cases dialect
  · exact Or.inl rfl
  · exact Or.inr rfl
  · cases h
  · cases h

/-! ### Scanning apart -/

theorem cuts_separator (h : dialect.style.isIndexed = true) :
    ∀ c ∈ separators, Cuts dialect.style.leading.toList c := by
  have hw : separators.all (fun c => !Text.isWordChar c) = true := by decide
  have hl : separators.all (fun c => !dialect.style.leading.toList.contains c) = true := by
    rcases Dialect.indexed_cases h with rfl | rfl <;> decide
  intro c hc
  exact ⟨by simpa using List.all_eq_true.mp hw c hc, by simpa using List.all_eq_true.mp hl c hc⟩

theorem not_mem_leading_of_isBlankChar (h : dialect.style.isIndexed = true) (c : Char)
    (hc : Text.isBlankChar c = true) : c ∉ dialect.style.leading.toList := by
  have hl : dialect.style.leading.toList.all (fun c => !Text.isBlankChar c) = true := by
    rcases Dialect.indexed_cases h with rfl | rfl <;> decide
  intro hm
  have hn := List.all_eq_true.mp hl c hm
  rw [hc] at hn
  cases hn

theorem parts_of_inert (h : dialect.style.isIndexed = true) {s : String} (hs : Inert s) :
    parts dialect.style.leading.toList s.toList = s.toList.map .literal := by
  rcases Dialect.indexed_cases h with rfl | rfl
  · exact Placeholder.parts_of_not_mem (hs.not_mem (by decide))
  · exact Placeholder.parts_of_not_mem (hs.not_mem (by decide))

/-- Texts that meet at a separator are scanned apart. -/
theorem parts_append (hl : ∀ c ∈ separators, Cuts leading c) {s t : String} (h : Meets s t) :
    parts leading (s ++ t).toList = parts leading s.toList ++ parts leading t.toList := by
  rw [String.toList_append]
  rcases h with rfl | hs | ht
  · simp
  · unfold Opens at hs
    cases hlast : s.toList.getLast? with
    | none => simp [hlast] at hs
    | some c =>
      rw [hlast] at hs
      have hcut := hl c (by simpa using hs)
      obtain ⟨init, hinit⟩ := List.getLast?_eq_some_iff.mp hlast
      rw [hinit, List.append_assoc, List.singleton_append, Placeholder.parts_append_cons hcut,
        Placeholder.parts_append_cons hcut]
      simp
  · unfold Follows at ht
    cases htl : t.toList with
    | nil => simp
    | cons c rest =>
      rw [htl] at ht
      have hcut := hl c (by simpa using ht)
      have hrest := Placeholder.parts_append_cons hcut rest []
      rw [Placeholder.parts_append_cons hcut]
      simpa using hrest.symm

end BoundSql
