import BoundSql.Proofs.Record

/-! Indented text. Line breaks and indents stand only between tokens, so the text of a value over several lines is
    cut into the same tokens as the one without spaces (`tokens_indented`); a value is read from either
    (`read_compact`, `read_indented`). -/

namespace BoundSql.Json

/-! ### Line breaks and keys -/

namespace Scans
variable {c : Char} {cs rest : List Char} {ts : List Token}

theorem space (hc : isSpace c = true) (h : Scans cs rest ts) : Scans (c :: cs) rest ts := by
  intro before steps hsteps
  cases steps with
  | zero => simp at hsteps
  | succ steps =>
    rw [List.cons_append, scanTokens, if_pos hc]
    exact h before steps (by simpa using hsteps)

theorem lineBreak (level : Nat) (h : Scans cs rest ts) : Scans ((Value.lineBreak level).toList ++ cs) rest ts := by
  have hindent : ∀ n, Scans (List.replicate n ' ' ++ cs) rest ts := by
    intro n
    induction n with
    | zero => exact h
    | succ n ih => exact .space rfl ih
  rw [Value.lineBreak, String.toList_ofList]
  exact .space rfl (hindent _)

/-- A key and the colon behind it. -/
theorem key (key : String) (h : Scans cs rest ts) :
    Scans ((stringText key).toList ++ (':' :: ' ' :: cs)) rest (.string key :: .colon :: ts) :=
  (scans_stringText key _).append (.mark rfl (fun _ => rfl) (.space rfl h))

end Scans

theorem delimited_lineBreak (level : Nat) (rest : List Char) :
    Delimited ((Value.lineBreak level).toList ++ rest) := by
  rw [Value.lineBreak, String.toList_ofList]
  exact delimited_cons (by decide)

/-- A body and the bracket behind it, which stands on a line of its own. -/
theorem scans_closed {c : Char} {t : Token} {body : List Char} {ts : List Token} (level : Nat)
    (hc : isSpace c = false) (ht : ∀ rest, scanToken c rest = (t, some rest))
    (hbody : ∀ rest, Delimited rest → Scans body rest ts) (rest : List Char) :
    Scans (body ++ ((Value.lineBreak level).toList ++ [c])) rest (ts ++ [t]) := by
  refine (hbody _ ?_).append (.lineBreak level (.mark hc ht .nil))
  rw [List.append_assoc]
  exact delimited_lineBreak level _

/-! ### Values -/

mutual

/-- What is written for a value over several lines is read as its tokens, before text that does not go on a
    number. -/
theorem scans_writeIndented : ∀ {v : Value} (out : String) (level : Nat), v.Exact →
    ∃ w, (v.writeIndented out level).toList = out.toList ++ w ∧ ∀ rest, Delimited rest → Scans w rest v.toTokens
  | .array [], out, level, _ => ⟨['[', ']'], by simp [Value.writeIndented], fun rest _ =>
      .mark rfl (fun _ => rfl) (.mark rfl (fun _ => rfl) .nil)⟩
  | .object [], out, level, _ => ⟨['\x7b', '\x7d'], by simp [Value.writeIndented], fun rest _ =>
      .mark rfl (fun _ => rfl) (.mark rfl (fun _ => rfl) .nil)⟩
  | .array (v :: items), out, level, hv => by
    rw [Value.Exact] at hv
    obtain ⟨w₁, hw₁, hscans₁⟩ := scans_writeIndented (out ++ "[" ++ Value.lineBreak (level + 1)) (level + 1) hv.1
    obtain ⟨w₂, hw₂, hscans₂, hdelim⟩ := scans_indentItems
      (v.writeIndented (out ++ "[" ++ Value.lineBreak (level + 1)) (level + 1)) (level + 1) hv.2
    have hbody : ∀ rest, Delimited rest →
        Scans (w₁ ++ w₂) rest (v.toTokens ++ Value.itemTokens [.comma] items) := fun rest hr =>
      (hscans₁ _ (hdelim rest hr)).append (hscans₂ rest hr)
    refine ⟨'[' :: ((Value.lineBreak (level + 1)).toList ++ (w₁ ++ w₂ ++ ((Value.lineBreak level).toList ++ [']']))),
      by simp [Value.writeIndented, hw₁, hw₂], fun rest _ => ?_⟩
    exact .mark rfl (fun _ => rfl) (.lineBreak _ (scans_closed level rfl (fun _ => rfl) hbody rest))
  | .object ((key, v) :: members), out, level, hv => by
    rw [Value.Exact] at hv
    obtain ⟨w₁, hw₁, hscans₁⟩ := scans_writeIndented
      (out ++ "\x7b" ++ Value.lineBreak (level + 1) ++ stringText key ++ ": ") (level + 1) hv.2.1
    obtain ⟨w₂, hw₂, hscans₂, hdelim⟩ := scans_indentMembers (v.writeIndented
      (out ++ "\x7b" ++ Value.lineBreak (level + 1) ++ stringText key ++ ": ") (level + 1)) (level + 1) hv.2.2
    have hbody : ∀ rest, Delimited rest → Scans ((stringText key).toList ++ (':' :: ' ' :: (w₁ ++ w₂))) rest
        (.string key :: .colon :: (v.toTokens ++ Value.memberTokens [.comma] members)) := fun rest hr =>
      .key key ((hscans₁ _ (hdelim rest hr)).append (hscans₂ rest hr))
    refine ⟨'\x7b' :: ((Value.lineBreak (level + 1)).toList ++ ((stringText key).toList ++
        (':' :: ' ' :: (w₁ ++ w₂)) ++ ((Value.lineBreak level).toList ++ ['\x7d']))),
      by simp [Value.writeIndented, hw₁, hw₂], fun rest _ => ?_⟩
    exact .mark rfl (fun _ => rfl) (.lineBreak _ (scans_closed level rfl (fun _ => rfl) hbody rest))
  | .null, out, level, hv => ⟨"null".toList, by simp [Value.writeIndented, Value.scalarText], fun rest hr =>
      scans_scalarText hv hr (by simp) (by simp)⟩
  | .bool b, out, level, hv => ⟨(Value.bool b).scalarText.toList, by simp [Value.writeIndented], fun rest hr =>
      scans_scalarText hv hr (by simp) (by simp)⟩
  | .number n, out, level, hv => ⟨(Value.number n).scalarText.toList, by simp [Value.writeIndented], fun rest hr =>
      scans_scalarText hv hr (by simp) (by simp)⟩
  | .string s, out, level, hv => ⟨(Value.string s).scalarText.toList, by simp [Value.writeIndented], fun rest hr =>
      scans_scalarText hv hr (by simp) (by simp)⟩

/-- The items behind the first. -/
theorem scans_indentItems : ∀ {items : List Value} (out : String) (level : Nat), Value.ExactItems items →
    ∃ w, (Value.indentItems out level items).toList = out.toList ++ w ∧
      (∀ rest, Delimited rest → Scans w rest (Value.itemTokens [.comma] items)) ∧
      ∀ rest, Delimited rest → Delimited (w ++ rest)
  | [], out, level, _ => ⟨[], by simp [Value.indentItems], fun rest _ => .nil, fun rest hr => hr⟩
  | v :: items, out, level, hv => by
    obtain ⟨w₁, hw₁, hscans₁⟩ := scans_writeIndented (out ++ "," ++ Value.lineBreak level) level hv.1
    obtain ⟨w₂, hw₂, hscans₂, hdelim⟩ := scans_indentItems
      (v.writeIndented (out ++ "," ++ Value.lineBreak level) level) level hv.2
    refine ⟨',' :: ((Value.lineBreak level).toList ++ (w₁ ++ w₂)), by simp [Value.indentItems, hw₁, hw₂],
      fun rest hr => ?_, fun rest hr => delimited_cons (by decide)⟩
    rw [Value.itemTokens, List.append_assoc]
    exact .mark rfl (fun _ => rfl) (.lineBreak level ((hscans₁ _ (hdelim rest hr)).append (hscans₂ rest hr)))

/-- The members behind the first. -/
theorem scans_indentMembers : ∀ {members : List (String × Value)} (out : String) (level : Nat),
    Value.ExactMembers members → ∃ w, (Value.indentMembers out level members).toList = out.toList ++ w ∧
      (∀ rest, Delimited rest → Scans w rest (Value.memberTokens [.comma] members)) ∧
      ∀ rest, Delimited rest → Delimited (w ++ rest)
  | [], out, level, _ => ⟨[], by simp [Value.indentMembers], fun rest _ => .nil, fun rest hr => hr⟩
  | (key, v) :: members, out, level, hv => by
    obtain ⟨w₁, hw₁, hscans₁⟩ := scans_writeIndented
      (out ++ "," ++ Value.lineBreak level ++ stringText key ++ ": ") level hv.1
    obtain ⟨w₂, hw₂, hscans₂, hdelim⟩ := scans_indentMembers
      (v.writeIndented (out ++ "," ++ Value.lineBreak level ++ stringText key ++ ": ") level) level hv.2
    refine ⟨',' :: ((Value.lineBreak level).toList ++ ((stringText key).toList ++ (':' :: ' ' :: (w₁ ++ w₂)))),
      by simp [Value.indentMembers, hw₁, hw₂], fun rest hr => ?_, fun rest hr => delimited_cons (by decide)⟩
    have hrest := (hscans₁ _ (hdelim rest hr)).append (hscans₂ rest hr)
    rw [Value.memberTokens, List.append_assoc]
    exact .mark rfl (fun _ => rfl) (.lineBreak level (.key key hrest))

end

theorem tokens_indented {v : Value} (hv : v.Exact) : tokens v.indented = v.toTokens := by
  obtain ⟨w, hw, hscans⟩ := scans_writeIndented "" 0 hv
  apply tokens_of_scans
  have hindented : v.indented.toList = w := hw
  rw [hindented]
  exact hscans [] delimited_nil

/-! ### Reading a text -/

namespace Value
variable {depth : Nat} {v : Value} {text : String}

/-- A value is read from any text that is cut into its tokens. -/
theorem read_of_tokens (ht : tokens text = v.toTokens) (h : Fits depth v) : Value.ofText depth text = .ok v := by
  rw [Value.ofText, document_of_tokens ht]
  simp only [h.toValue, bind, Except.bind]
  rfl

theorem read_compact (h : Fits depth v) : Value.ofText depth v.compact = .ok v :=
  read_of_tokens (tokens_compact h.exact) h

theorem read_indented (h : Fits depth v) : Value.ofText depth v.indented = .ok v :=
  read_of_tokens (tokens_indented h.exact) h

end Value
end BoundSql.Json
