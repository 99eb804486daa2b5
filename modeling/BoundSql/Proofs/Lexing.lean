import BoundSql.Json.Token
import BoundSql.Json.Writer
import BoundSql.Proofs.Scan

/-! Values as tokens. The text of a value is cut into the tokens of the value, each of which ends where it was
    written (`tokens_compact`): escapes are undone, and a number goes no further than its digits, since what
    is written behind a value cannot go on with it. -/

namespace BoundSql.Json

/-! ### Exact values -/

/-- An integer of 64 bits, signed when it is negative. -/
def Number.IsWord : Number → Prop
  | .integer n => -(Nat.pow 2 63 : Int) ≤ n ∧ n < (Nat.pow 2 64 : Int)
  | .double _ => False

namespace Value

mutual

/-- The numbers in a value are integers of 64 bits, and the keys of each object are distinct. -/
def Exact : Value → Prop
  | .null | .bool _ | .string _ => True
  | .number n => n.IsWord
  | .array items => ExactItems items
  | .object members => (members.map Prod.fst).Nodup ∧ ExactMembers members

def ExactItems : List Value → Prop
  | [] => True
  | v :: rest => v.Exact ∧ ExactItems rest

def ExactMembers : List (String × Value) → Prop
  | [] => True
  | (_, v) :: rest => v.Exact ∧ ExactMembers rest

end

/-! ### Tokens of values -/

mutual

/-- The tokens of a value's text. -/
def toTokens : Value → List Token
  | .null => [.null]
  | .bool b => [.bool b]
  | .number n => [.number n]
  | .string s => [.string s]
  | .array items => .openList :: (itemTokens [] items ++ [.closeList])
  | .object members => .openObject :: (memberTokens [] members ++ [.closeObject])

/-- The tokens of items, the first of which stands behind `separator`. -/
def itemTokens (separator : List Token) : List Value → List Token
  | [] => []
  | v :: rest => separator ++ v.toTokens ++ itemTokens [.comma] rest

def memberTokens (separator : List Token) : List (String × Value) → List Token
  | [] => []
  | (key, v) :: rest => separator ++ .string key :: .colon :: v.toTokens ++ memberTokens [.comma] rest

end

end Value

/-! ### Scanning a part of a text -/

/-- Before `rest` the text `cs` is read as the tokens `ts`. -/
def Scans (cs rest : List Char) (ts : List Token) : Prop :=
  ∀ before steps, (cs ++ rest).length ≤ steps → ∃ left, rest.length ≤ left ∧
    scanTokens before steps (cs ++ rest) = scanTokens (ts.reverse ++ before) left rest

namespace Scans
variable {cs ds rest : List Char} {ts us : List Token} {c : Char}

theorem nil : Scans [] rest [] := fun _ steps h => ⟨steps, h, rfl⟩

theorem append (h₁ : Scans cs (ds ++ rest) ts) (h₂ : Scans ds rest us) : Scans (cs ++ ds) rest (ts ++ us) := by
  intro before steps h
  rw [List.append_assoc] at h ⊢
  obtain ⟨left₁, hleft₁, heq₁⟩ := h₁ before steps h
  obtain ⟨left₂, hleft₂, heq₂⟩ := h₂ (ts.reverse ++ before) left₁ hleft₁
  refine ⟨left₂, hleft₂, ?_⟩
  rw [heq₁, heq₂, List.reverse_append, List.append_assoc]

theorem token {t : Token} (hs : isSpace c = false) (h : scanToken c (cs ++ rest) = (t, some rest)) :
    Scans (c :: cs) rest [t] := by
  intro before steps hsteps
  cases steps with
  | zero => simp at hsteps
  | succ steps =>
    refine ⟨steps, ?_, ?_⟩
    · simp at hsteps
      omega
    · rw [List.cons_append, scanTokens, hs, h]
      rfl

/-- A character that is a token of its own. -/
theorem mark {t : Token} (hc : isSpace c = false) (ht : ∀ rest, scanToken c rest = (t, some rest))
    (h : Scans cs rest ts) : Scans (c :: cs) rest (t :: ts) := by
  have hmark : Scans [c] (cs ++ rest) [t] := token hc (ht _)
  exact hmark.append h

end Scans

/-- Text that does not go on a number. -/
def Delimited (rest : List Char) : Prop :=
  ∀ c ∈ rest.head?, Text.isAsciiDigit c = false ∧ c ≠ '.' ∧ c ≠ 'e' ∧ c ≠ 'E'

theorem delimited_nil : Delimited [] := fun _ h => by cases h

theorem delimited_cons {c : Char} {rest : List Char}
    (h : Text.isAsciiDigit c = false ∧ c ≠ '.' ∧ c ≠ 'e' ∧ c ≠ 'E') : Delimited (c :: rest) := by
  intro d hd
  cases hd
  exact h

/-! ### Strings -/

theorem hexUnit?_hexDigit : ∀ n < 0x20, hexUnit? '0' '0' (hexDigit (n / 16)) (hexDigit n) = some n := by decide

theorem scanPieces_cons (before : List Piece) {c : Char} (hquote : c = '"' → False) (hslash : c = '\\' → False)
    (hc : ¬ c.toNat < 0x20) (rest : List Char) :
    scanPieces before (c :: rest) = scanPieces (.char c :: before) rest := by
  rw [scanPieces.eq_def]
  split
  case h_7 heq =>
    obtain ⟨rfl, rfl⟩ := List.cons.inj heq
    rw [if_neg hc]
  all_goals
    rename_i heq
    simp_all

/-- A written character is read back as itself or as its code. -/
theorem scanPieces_escapeChar (before : List Piece) (c : Char) (rest : List Char) :
    scanPieces before (escapeChar c ++ rest) = scanPieces (.char c :: before) rest ∨
      c.toNat < 0x20 ∧ scanPieces before (escapeChar c ++ rest) = scanPieces (.unit c.toNat :: before) rest := by
  unfold escapeChar
  split
  case h_8 hquote hslash _ _ _ _ _ =>
    split
    · rename_i hc
      right
      refine ⟨hc, ?_⟩
      simp only [List.cons_append, List.nil_append, scanPieces, hexUnit?_hexDigit c.toNat hc]
    · rename_i hc
      left
      exact scanPieces_cons before hquote hslash hc rest
  all_goals
    left
    rfl

theorem joinPieces_unit {n : Nat} (hn : n < 0x20) (ending : Ending) (before : List Char) (pieces : List Piece) :
    joinPieces ending before (.unit n :: pieces) = joinPieces ending (Char.ofNat n :: before) pieces := by
  have hlow : isLow n = false := by
    rw [isLow, Bool.and_eq_false_iff]
    left
    simp
    omega
  have hhigh : isHigh n = false := by
    rw [isHigh, Bool.and_eq_false_iff]
    left
    simp
    omega
  rw [joinPieces.eq_def]
  simp [hlow, hhigh]

/-- The characters of a string are found again between its quotes. -/
theorem scanPieces_flatMap (rest : List Char) : ∀ (cs : List Char) (before : List Piece),
    ∃ pieces, scanPieces before (cs.flatMap escapeChar ++ '"' :: rest) = (before.reverse ++ pieces, .closed rest) ∧
      ∀ chars, joinPieces (.closed rest) chars pieces = .ok (chars.reverse ++ cs)
  | [], before => ⟨[], by simp [scanPieces], fun chars => by simp [joinPieces]⟩
  | c :: cs, before => by
    rw [List.flatMap_cons, List.append_assoc]
    rcases scanPieces_escapeChar before c (cs.flatMap escapeChar ++ '"' :: rest) with h | ⟨hc, h⟩
    · obtain ⟨pieces, hscan, hjoin⟩ := scanPieces_flatMap rest cs (.char c :: before)
      refine ⟨.char c :: pieces, by rw [h, hscan]; simp, fun chars => ?_⟩
      rw [joinPieces, hjoin]
      simp
    · obtain ⟨pieces, hscan, hjoin⟩ := scanPieces_flatMap rest cs (.unit c.toNat :: before)
      refine ⟨.unit c.toNat :: pieces, by rw [h, hscan]; simp, fun chars => ?_⟩
      rw [joinPieces_unit hc, hjoin, Char.ofNat_toNat]
      simp

theorem scans_stringText (s : String) (rest : List Char) : Scans (stringText s).toList rest [.string s] := by
  rw [stringText, String.toList_ofList, List.append_assoc]
  refine Scans.token (by decide) ?_
  obtain ⟨pieces, hscan, hjoin⟩ := scanPieces_flatMap rest s.toList []
  have hs : scanString (s.toList.flatMap escapeChar ++ '"' :: rest) = (.ok s, some rest) := by
    rw [scanString, hscan]
    simp [hjoin]
  simp [scanToken, hs]

/-! ### Numbers -/

theorem isAsciiDigit_of_mem_toDigits {n : Nat} {d : Char} (hd : d ∈ Nat.toDigits 10 n) :
    Text.isAsciiDigit d = true := by
  have h := Nat.isDigit_of_mem_toDigits (by decide) (by decide) hd
  rw [Char.isDigit_iff_toNat] at h
  simpa [Text.isAsciiDigit] using h

theorem isSpace_of_isAsciiDigit {c : Char} (h : Text.isAsciiDigit c = true) : isSpace c = false := by
  rw [Bool.eq_false_iff]
  intro hs
  simp only [isSpace, Bool.or_eq_true, decide_eq_true_eq] at hs
  rcases hs with ((rfl | rfl) | rfl) | rfl <;> exact absurd h (by decide)

theorem digitsValue_toDigits (n : Nat) : digitsValue (Nat.toDigits 10 n) = n := by
  rw [digitsValue, Placeholder.decimalValue?_toDigits]
  rfl

/-- A numeral of more than one digit does not start with zero. -/
theorem head?_toDigits {n : Nat} (hn : n ≠ 0) : (Nat.toDigits 10 n).head? ≠ some '0' := by
  induction n using Nat.strongRecOn with
  | _ n ih =>
    rw [Nat.toDigits_eq_if (by decide)]
    split
    · rename_i hlt
      have hdigit : ∀ m < 10, m ≠ 0 → Nat.digitChar m ≠ '0' := by decide
      simpa using hdigit n hlt hn
    · rename_i hge
      rw [List.head?_append_of_ne_nil _ Nat.toDigits_ne_nil]
      exact ih (n / 10) (by omega) (by omega)

theorem splitDigits_toDigits (n : Nat) {rest : List Char} (hr : Delimited rest) :
    splitDigits (Nat.toDigits 10 n ++ rest) = (Nat.toDigits 10 n, rest) := by
  have hall : ∀ d ∈ Nat.toDigits 10 n, Text.isAsciiDigit d = true := fun d => isAsciiDigit_of_mem_toDigits
  have hrest : rest.takeWhile Text.isAsciiDigit = [] ∧ rest.dropWhile Text.isAsciiDigit = rest := by
    cases rest with
    | nil => exact ⟨rfl, rfl⟩
    | cons c rest =>
      have hc := (hr c rfl).1
      exact ⟨List.takeWhile_cons_of_neg (by simp [hc]), List.dropWhile_cons_of_neg (by simp [hc])⟩
  rw [splitDigits, List.takeWhile_append_of_pos hall, List.dropWhile_append_of_pos hall, hrest.1, hrest.2,
    List.append_nil]

theorem scanFraction_of_delimited {rest : List Char} (hr : Delimited rest) :
    scanFraction rest = .ok (none, rest) := by
  rw [scanFraction.eq_def]
  split
  · exact absurd rfl (hr '.' rfl).2.1
  · rfl

theorem scanExponent_of_delimited {rest : List Char} (hr : Delimited rest) :
    scanExponent rest = .ok (none, rest) := by
  cases rest with
  | nil => rfl
  | cons c rest =>
    obtain ⟨-, -, he, hE⟩ := hr c rfl
    rw [scanExponent.eq_def]
    simp [he, hE]

theorem scanNumber_toDigits (negative : Bool) (n : Nat) {rest : List Char} (hr : Delimited rest) {m : Number}
    (hm : numberOf? negative (Nat.toDigits 10 n) none none = some m) :
    scanNumber negative (Nat.toDigits 10 n ++ rest) = (.ok m, some rest) := by
  have hzero : ¬ ((Nat.toDigits 10 n).head? = some '0' ∧ 1 < (Nat.toDigits 10 n).length) := by
    rintro ⟨hhead, hlength⟩
    rcases Nat.eq_zero_or_pos n with rfl | hn
    · rw [Nat.toDigits_zero] at hlength
      simp at hlength
    · exact head?_toDigits (by omega) hhead
  rw [scanNumber, splitDigits_toDigits n hr]
  simp only [List.isEmpty_eq_false_iff.mpr Nat.toDigits_ne_nil, Bool.and_eq_true, decide_eq_true_eq, hzero,
    scanFraction_of_delimited hr, scanExponent_of_delimited hr, hm]
  rfl

theorem scanToken_digits {n : Nat} {cs rest : List Char} {m : Number}
    (h : scanNumber false (Nat.toDigits 10 n ++ rest) = (.ok m, some rest)) {c : Char}
    (hc : Nat.toDigits 10 n = c :: cs) : scanToken c (cs ++ rest) = (.number m, some rest) := by
  have hd : Text.isAsciiDigit c = true := isAsciiDigit_of_mem_toDigits (by rw [hc]; exact List.mem_cons_self)
  rw [hc, List.cons_append] at h
  rw [scanToken.eq_def]
  split
  case h_12 => simp [hd, h]
  all_goals exact absurd hd (by decide)

theorem scans_integer {n : Int} (hn : Number.IsWord (.integer n)) {rest : List Char} (hr : Delimited rest) :
    Scans (toString n).toList rest [.number (.integer n)] := by
  simp only [Number.IsWord, Nat.pow_eq] at hn
  obtain ⟨hlow, hhigh⟩ := hn
  rw [Int.toString_eq_repr, Int.repr_eq_if]
  split
  · rename_i hpos
    have hm : numberOf? false (Nat.toDigits 10 n.toNat) none none = some (.integer n) := by
      have hlt : n.toNat < Nat.pow 2 64 := by
        show n.toNat < 2 ^ 64
        omega
      simp [numberOf?, digitsValue_toDigits, hlt, Int.toNat_of_nonneg hpos]
    obtain ⟨c, cs, hc⟩ := List.exists_cons_of_ne_nil (Nat.toDigits_ne_nil (n := n.toNat) (b := 10))
    have hd : Text.isAsciiDigit c = true := isAsciiDigit_of_mem_toDigits (by rw [hc]; exact List.mem_cons_self)
    have ht := scanToken_digits (scanNumber_toDigits false n.toNat hr hm) hc
    rw [Nat.toList_repr, hc]
    exact Scans.token (isSpace_of_isAsciiDigit hd) ht
  · rename_i hneg
    have hm : numberOf? true (Nat.toDigits 10 (-n).toNat) none none = some (.integer n) := by
      have hle : (-n).toNat ≤ Nat.pow 2 63 := by
        show (-n).toNat ≤ 2 ^ 63
        omega
      have hne : (-n).toNat ≠ 0 := by omega
      have hcast : ((-n).toNat : Int) = -n := Int.toNat_of_nonneg (by omega)
      simp [numberOf?, digitsValue_toDigits, hle, hne, hcast]
    have hlist : ("-" ++ (-n).toNat.repr).toList = '-' :: Nat.toDigits 10 (-n).toNat := by
      simp [Nat.toList_repr]
    rw [hlist]
    refine Scans.token (by decide) ?_
    simp [scanToken, scanNumber_toDigits true (-n).toNat hr hm]

/-! ### Values -/

theorem scans_scalarText {v : Value} (hv : v.Exact) {rest : List Char} (hr : Delimited rest)
    (hs : ∀ items, v ≠ .array items) (ho : ∀ members, v ≠ .object members) :
    Scans v.scalarText.toList rest v.toTokens := by
  cases v with
  | null => exact Scans.token rfl rfl
  | bool b => cases b <;> exact Scans.token rfl rfl
  | number n =>
    cases n with
    | integer n =>
      rw [Value.Exact] at hv
      exact scans_integer hv hr
    | double x => cases hv
  | string s => exact scans_stringText s rest
  | array items => exact absurd rfl (hs items)
  | object members => exact absurd rfl (ho members)

mutual

/-- What is written for a value is read as its tokens, before text that does not go on a number. -/
theorem scans_writeCompact : ∀ {v : Value} (out : String), v.Exact →
    ∃ w, (v.writeCompact out).toList = out.toList ++ w ∧ ∀ rest, Delimited rest → Scans w rest v.toTokens
  | .array items, out, hv => by
    rw [Value.Exact] at hv
    obtain ⟨w, hw, hscans, -⟩ := scans_writeItems (out ++ "[") "" [] hv fun rest => Scans.nil
    refine ⟨'[' :: (w ++ [']']), by simp [Value.writeCompact, hw], fun rest _ => ?_⟩
    have hbody := (hscans ([']'] ++ rest) (delimited_cons (by decide))).append (.mark rfl (fun _ => rfl) .nil)
    exact .mark rfl (fun _ => rfl) hbody
  | .object members, out, hv => by
    rw [Value.Exact] at hv
    obtain ⟨w, hw, hscans, -⟩ := scans_writeMembers (out ++ "\x7b") "" [] hv.2 fun rest => Scans.nil
    refine ⟨'\x7b' :: (w ++ ['\x7d']), by simp [Value.writeCompact, hw], fun rest _ => ?_⟩
    have hbody := (hscans (['\x7d'] ++ rest) (delimited_cons (by decide))).append (.mark rfl (fun _ => rfl) .nil)
    exact .mark rfl (fun _ => rfl) hbody
  | .null, out, hv => ⟨"null".toList, by simp [Value.writeCompact, Value.scalarText], fun rest hr =>
      scans_scalarText hv hr (by simp) (by simp)⟩
  | .bool b, out, hv => ⟨(Value.bool b).scalarText.toList, by simp [Value.writeCompact], fun rest hr =>
      scans_scalarText hv hr (by simp) (by simp)⟩
  | .number n, out, hv => ⟨(Value.number n).scalarText.toList, by simp [Value.writeCompact], fun rest hr =>
      scans_scalarText hv hr (by simp) (by simp)⟩
  | .string s, out, hv => ⟨(Value.string s).scalarText.toList, by simp [Value.writeCompact], fun rest hr =>
      scans_scalarText hv hr (by simp) (by simp)⟩

theorem scans_writeItems : ∀ {items : List Value} (out separator : String) (ts : List Token),
    Value.ExactItems items → (∀ rest, Scans separator.toList rest ts) →
      ∃ w, (Value.writeItems out separator items).toList = out.toList ++ w ∧
        (∀ rest, Delimited rest → Scans w rest (Value.itemTokens ts items)) ∧
        (separator = "," → ∀ rest, Delimited rest → Delimited (w ++ rest))
  | [], out, separator, ts, _, _ => ⟨[], by simp [Value.writeItems], fun rest _ => Scans.nil, fun _ rest hr => hr⟩
  | v :: items, out, separator, ts, hv, hs => by
    obtain ⟨hv, hitems⟩ := hv
    obtain ⟨w₁, hw₁, hscans₁⟩ := scans_writeCompact (out ++ separator) hv
    obtain ⟨w₂, hw₂, hscans₂, hdelim⟩ := scans_writeItems (v.writeCompact (out ++ separator)) "," [.comma] hitems
      fun rest => Scans.token rfl rfl
    refine ⟨separator.toList ++ w₁ ++ w₂, by simp [Value.writeItems, hw₁, hw₂], fun rest hr => ?_, ?_⟩
    · have hrest := (hscans₁ (w₂ ++ rest) (hdelim rfl rest hr)).append (hscans₂ rest hr)
      rw [List.append_assoc, Value.itemTokens, List.append_assoc]
      exact (hs (w₁ ++ w₂ ++ rest)).append hrest
    · rintro rfl rest hr
      exact delimited_cons (by decide)

theorem scans_writeMembers : ∀ {members : List (String × Value)} (out separator : String) (ts : List Token),
    Value.ExactMembers members → (∀ rest, Scans separator.toList rest ts) →
      ∃ w, (Value.writeMembers out separator members).toList = out.toList ++ w ∧
        (∀ rest, Delimited rest → Scans w rest (Value.memberTokens ts members)) ∧
        (separator = "," → ∀ rest, Delimited rest → Delimited (w ++ rest))
  | [], out, separator, ts, _, _ =>
    ⟨[], by simp [Value.writeMembers], fun rest _ => Scans.nil, fun _ rest hr => hr⟩
  | (key, v) :: members, out, separator, ts, hv, hs => by
    obtain ⟨hv, hmembers⟩ := hv
    obtain ⟨w₁, hw₁, hscans₁⟩ := scans_writeCompact (out ++ separator ++ stringText key ++ ":") hv
    obtain ⟨w₂, hw₂, hscans₂, hdelim⟩ := scans_writeMembers
      (v.writeCompact (out ++ separator ++ stringText key ++ ":")) "," [.comma] hmembers
      fun rest => Scans.token rfl rfl
    refine ⟨separator.toList ++ ((stringText key).toList ++ (':' :: w₁ ++ w₂)),
      by simp [Value.writeMembers, hw₁, hw₂], fun rest hr => ?_, ?_⟩
    · have hrest := (hscans₁ (w₂ ++ rest) (hdelim rfl rest hr)).append (hscans₂ rest hr)
      have hkey := (scans_stringText key _).append (.mark (c := ':') (t := .colon) rfl (fun _ => rfl) hrest)
      rw [Value.memberTokens, List.append_assoc]
      exact (hs _).append hkey
    · rintro rfl rest hr
      exact delimited_cons (by decide)

end

theorem tokens_of_scans {text : String} {ts : List Token} (h : Scans text.toList [] ts) : tokens text = ts := by
  obtain ⟨left, -, heq⟩ := h [] text.toList.length (by simp)
  rw [List.append_nil] at heq
  rw [tokens, heq]
  cases left <;> simp [scanTokens]

/-- The text of a value is cut into the tokens of the value. -/
theorem tokens_compact {v : Value} (hv : v.Exact) : tokens v.compact = v.toTokens := by
  obtain ⟨w, hw, hscans⟩ := scans_writeCompact "" hv
  apply tokens_of_scans
  have hcompact : v.compact.toList = w := hw
  rw [hcompact]
  exact hscans [] delimited_nil

end BoundSql.Json
