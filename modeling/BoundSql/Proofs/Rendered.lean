import BoundSql.Command
import BoundSql.Proofs.Indented

/-! Rendered queries. JSON without spaces has no control characters, which are escaped in strings and keys at any
    depth, so it stays on one line (`oneLine_compact`). The last line break of a rendered text therefore stands
    before the arguments, whatever the SQL holds, and in either format a query can be read back
    (`Command.render_decodes`). -/

namespace BoundSql.Json

/-! ### Text on one line -/

/-- Text without control characters. -/
def OneLine (cs : List Char) : Prop := ∀ c ∈ cs, 0x20 ≤ c.toNat

instance (cs : List Char) : Decidable (OneLine cs) := List.decidableBAll _ cs

namespace OneLine
variable {cs ds : List Char}

theorem append (hc : OneLine cs) (hd : OneLine ds) : OneLine (cs ++ ds) :=
  List.forall_mem_append.mpr ⟨hc, hd⟩

theorem subset (h : OneLine cs) (hd : ds ⊆ cs) : OneLine ds := fun d hm => h d (hd hm)

theorem newline_not_mem (h : OneLine cs) : '\n' ∉ cs := fun hm => absurd (h _ hm) (by decide)

end OneLine

theorem oneLine_toDigits (n : Nat) : OneLine (Nat.toDigits 10 n) := by
  intro d hd
  have h := isAsciiDigit_of_mem_toDigits hd
  simp only [Text.isAsciiDigit, Bool.and_eq_true, decide_eq_true_eq] at h
  omega

theorem oneLine_replicate (n : Nat) {c : Char} (hc : 0x20 ≤ c.toNat) : OneLine (List.replicate n c) := by
  intro d hd
  rw [List.eq_of_mem_replicate hd]
  exact hc

/-! ### Numbers and strings -/

theorem oneLine_decimalText (digits : Nat) (power : Int) : OneLine (Binary64.decimalText digits power).toList := by
  have hdigits := oneLine_toDigits digits
  have hzeros : ∀ n, OneLine (List.replicate n '0') := fun n => oneLine_replicate n (by decide)
  have htake : ∀ n, OneLine ((Nat.toDigits 10 digits).take n) := fun n => hdigits.subset (List.take_subset n _)
  have hdrop : ∀ n, OneLine ((Nat.toDigits 10 digits).drop n) := fun n => hdigits.subset (List.drop_subset n _)
  unfold Binary64.decimalText
  dsimp only
  rw [String.toList_ofList]
  split
  · split
    · exact (hdigits.append (hzeros _)).append (by decide)
    · split
      · exact ((htake _).append (by decide)).append (hdrop _)
      · exact (OneLine.append (by decide) (hzeros _)).append hdigits
  · refine (OneLine.append ?_ ?_).append (oneLine_toDigits _)
    · split
      · exact hdigits
      · exact ((htake 1).append (by decide)).append (hdrop 1)
    · split <;> decide

theorem oneLine_number : ∀ n : Number, OneLine n.toText.toList
  | .integer n => by
    rw [Number.toText, Int.toString_eq_repr, Int.repr_eq_if]
    split
    · rw [Nat.toList_repr]
      exact oneLine_toDigits _
    · rw [String.toList_append, Nat.toList_repr]
      exact OneLine.append (by decide) (oneLine_toDigits _)
  | .double x => by
    unfold Number.toText Binary64.toText
    dsimp only
    rw [String.toList_append]
    refine .append ?_ (oneLine_decimalText _ _)
    split <;> decide

theorem printable_hexDigit : ∀ n, 0x20 ≤ (hexDigit n).toNat := by
  have hdigits : ∀ n < 16, 0x20 ≤ (Nat.digitChar n).toNat := by decide
  exact fun n => hdigits _ (Nat.mod_lt n (by decide))

/-- A control character is escaped. -/
theorem oneLine_escapeChar (c : Char) : OneLine (escapeChar c) := by
  unfold escapeChar
  split
  case h_8 =>
    split
    · have hcode : OneLine ['\\', 'u', '0', '0'] := by decide
      have hdigit : ∀ n, OneLine [hexDigit n] := fun n => List.forall_mem_singleton.mpr (printable_hexDigit n)
      exact hcode.append ((hdigit _).append (hdigit _))
    · rename_i hc
      exact List.forall_mem_singleton.mpr (Nat.le_of_not_lt hc)
  all_goals decide

theorem oneLine_stringText (s : String) : OneLine (stringText s).toList := by
  have hescaped : OneLine (s.toList.flatMap escapeChar) := by
    intro d hd
    obtain ⟨c, -, hc⟩ := List.mem_flatMap.mp hd
    exact oneLine_escapeChar c d hc
  rw [stringText, String.toList_ofList]
  exact (OneLine.append (by decide) hescaped).append (by decide)

/-! ### Values -/

namespace Value

theorem oneLine_scalarText : ∀ v : Value, OneLine v.scalarText.toList
  | .null | .bool true | .bool false => by decide
  | .array _ | .object _ => List.forall_mem_nil _
  | .number n => oneLine_number n
  | .string s => oneLine_stringText s

/-- Text that goes on with one line. -/
theorem oneLine_append {s t : String} (hs : OneLine s.toList) (ht : OneLine t.toList) : OneLine (s ++ t).toList := by
  rw [String.toList_append]
  exact hs.append ht

mutual

/-- A value without spaces is added to one line. -/
theorem oneLine_writeCompact : ∀ (v : Value) {out : String}, OneLine out.toList → OneLine (v.writeCompact out).toList
  | .array items, out, h => by
    rw [writeCompact]
    exact oneLine_append (oneLine_writeItems items (oneLine_append h (by decide)) (by decide)) (by decide)
  | .object members, out, h => by
    rw [writeCompact]
    exact oneLine_append (oneLine_writeMembers members (oneLine_append h (by decide)) (by decide)) (by decide)
  | .null, out, h => oneLine_append h (oneLine_scalarText .null)
  | .bool b, out, h => oneLine_append h (oneLine_scalarText (.bool b))
  | .number n, out, h => oneLine_append h (oneLine_scalarText (.number n))
  | .string s, out, h => oneLine_append h (oneLine_scalarText (.string s))

theorem oneLine_writeItems : ∀ (items : List Value) {out separator : String}, OneLine out.toList →
    OneLine separator.toList → OneLine (writeItems out separator items).toList
  | [], out, separator, h, _ => h
  | v :: rest, out, separator, h, hs => by
    rw [writeItems]
    exact oneLine_writeItems rest (oneLine_writeCompact v (oneLine_append h hs)) (by decide)

theorem oneLine_writeMembers : ∀ (members : List (String × Value)) {out separator : String}, OneLine out.toList →
    OneLine separator.toList → OneLine (writeMembers out separator members).toList
  | [], out, separator, h, _ => h
  | (key, v) :: rest, out, separator, h, hs => by
    have hkey := oneLine_append (oneLine_append (oneLine_append h hs) (oneLine_stringText key)) (t := ":") (by decide)
    rw [writeMembers]
    exact oneLine_writeMembers rest (oneLine_writeCompact v hkey) (by decide)

end

theorem oneLine_compact (v : Value) : OneLine v.compact.toList :=
  oneLine_writeCompact v (by decide)

end Value
end BoundSql.Json

namespace BoundSql
open Json

/-! ### The last line -/

/-- What stands before the last line break, and the line behind it. -/
def splitLast : List Char → Option (List Char × List Char)
  | [] => none
  | c :: cs =>
    match splitLast cs with
    | some (before, line) => some (c :: before, line)
    | none => if c = '\n' then some ([], cs) else none

theorem splitLast_eq_none {cs : List Char} : splitLast cs = none ↔ '\n' ∉ cs := by
  induction cs with
  | nil => simp [splitLast]
  | cons c cs ih =>
    rw [splitLast, List.mem_cons, not_or]
    cases hs : splitLast cs with
    | some split => simp [← ih, hs]
    | none =>
      have hcs := ih.mp hs
      by_cases hc : c = '\n'
      · simp [hc]
      · simp [hc, hcs, Ne.symm hc]

theorem splitLast_eq_some {cs before line : List Char} :
    splitLast cs = some (before, line) ↔ cs = before ++ '\n' :: line ∧ '\n' ∉ line := by
  constructor
  · induction cs generalizing before with
    | nil => simp [splitLast]
    | cons c cs ih =>
      intro h
      rw [splitLast] at h
      split at h
      · rename_i before' line' hs
        obtain ⟨rfl, rfl⟩ := Prod.mk.inj (Option.some.inj h)
        obtain ⟨rfl, hline⟩ := ih hs
        exact ⟨rfl, hline⟩
      · rename_i hs
        split at h
        · rename_i hc
          cases h
          exact ⟨by rw [hc, List.nil_append], splitLast_eq_none.mp hs⟩
        · cases h
  · rintro ⟨rfl, hline⟩
    induction before with
    | nil => rw [List.nil_append, splitLast, splitLast_eq_none.mpr hline, if_pos rfl]
    | cons c before ih => rw [List.cons_append, splitLast, ih]

/-- The text before its last line, and that line. -/
def lastLine (text : String) : Option (String × String) :=
  (splitLast text.toList).map fun split => (String.ofList split.1, String.ofList split.2)

theorem lastLine_eq_some {text before line : String} :
    lastLine text = some (before, line) ↔ text = before ++ "\n" ++ line ∧ '\n' ∉ line.toList := by
  have hbreak : ∀ s t : String, (s ++ "\n" ++ t).toList = s.toList ++ '\n' :: t.toList := by
    intro s t
    rw [String.toList_append, String.toList_append, List.append_assoc]
    rfl
  constructor
  · intro h
    obtain ⟨⟨cs, ds⟩, hs, heq⟩ := Option.map_eq_some_iff.mp h
    obtain ⟨rfl, rfl⟩ := Prod.mk.inj heq
    obtain ⟨htext, hline⟩ := splitLast_eq_some.mp hs
    refine ⟨String.toList_inj.mp ?_, by rwa [String.toList_ofList]⟩
    rw [hbreak, String.toList_ofList, String.toList_ofList, htext]
  · rintro ⟨rfl, hline⟩
    rw [lastLine, hbreak, splitLast_eq_some.mpr ⟨rfl, hline⟩, Option.map_some, String.ofList_toList,
      String.ofList_toList]

/-! ### Queries -/

namespace Command
variable {q : Query}

theorem fits_args {depth : Nat} (h : ∀ v ∈ q.args, Fits depth v) : Fits (depth + 1) (.array q.args) := by
  constructor
  · rw [Value.Exact, Value.exactItems_iff]
    exact fun v hv => (h v hv).exact
  · rw [Value.nesting, Nat.add_comm]
    exact Nat.succ_le_succ (Value.nestingItems_le_iff.mpr fun v hv => (h v hv).nesting)

theorem fits_toJson {depth : Nat} (h : ∀ v ∈ q.args, Fits depth v) : Fits (depth + 2) q.toJson := by
  obtain ⟨hexact, hnesting⟩ := fits_args h
  constructor
  · rw [Query.toJson, Value.Exact]
    exact ⟨show ["sql", "args"].Nodup by decide, by rw [Value.Exact]; trivial, hexact, trivial⟩
  · simp only [Query.toJson, Value.nesting, Value.nestingMembers] at hnesting ⊢
    omega

/-- The SQL of a query stands before the last line of its text, and its arguments in that line. -/
theorem lastLine_render (q : Query) : lastLine (render .text q) = some (q.sql, (Value.array q.args).compact) :=
  lastLine_eq_some.mpr ⟨rfl, (Value.oneLine_compact _).newline_not_mem⟩

/-- A query can be read back from either format, and no other query is rendered alike: provided that the numbers
    in its arguments are integers of 64 bits, and that these nest no more brackets than the text has left. -/
theorem render_decodes (h : ∀ v ∈ q.args, Fits 125 v) :
    (∃ line, lastLine (render .text q) = some (q.sql, line) ∧
      Value.ofText depthLimit line = .ok (.array q.args)) ∧
    Value.ofText depthLimit (render .json q) =
      .ok (.object [("sql", .string q.sql), ("args", .array q.args)]) ∧
    ∀ format (p : Query), (∀ v ∈ p.args, Fits 125 v) → render format p = render format q → p = q := by
  have hline : ∀ {p : Query}, (∀ v ∈ p.args, Fits 125 v) →
      Value.ofText depthLimit (Value.array p.args).compact = .ok (.array p.args) := fun hp =>
    Value.read_compact ⟨(fits_args hp).exact, Nat.le_succ_of_le (fits_args hp).nesting⟩
  have hjson : ∀ {p : Query}, (∀ v ∈ p.args, Fits 125 v) →
      Value.ofText depthLimit (render .json p) = .ok p.toJson := fun hp => Value.read_indented (fits_toJson hp)
  refine ⟨⟨_, lastLine_render q, hline h⟩, hjson h, fun format p hp heq => ?_⟩
  obtain ⟨sql, args⟩ := p
  obtain ⟨sql', args'⟩ := q
  cases format with
  | text =>
    have hsplit := lastLine_render ⟨sql, args⟩
    rw [heq, lastLine_render] at hsplit
    obtain ⟨rfl, htext⟩ := Prod.mk.inj (Option.some.inj hsplit)
    have hargs := hline hp
    rw [← htext, hline h] at hargs
    cases hargs
    rfl
  | json =>
    have hvalue := hjson hp
    rw [heq, hjson h] at hvalue
    cases hvalue
    rfl

/-- SQL over several lines, with arguments that hold line breaks, quotes and a control character. -/
def notesByTag : Query where
  sql := "SELECT \"note\nid\"\n  FROM notes -- by tag\nWHERE tag IN (?, ?) AND seen < ?"
  args := [.string "a\nb\t\x01", .array [.object [("\n\"", .null)]], .number (.integer (-9223372036854775808))]

def notesByTagText : String :=
  notesByTag.sql ++ "\n[\"a\\nb\\t\\u0001\",[\x7b\"\\n\\\"\":null\x7d],-9223372036854775808]"

set_option maxRecDepth 4000 in
theorem notesByTag_decodes : (∃ line, lastLine notesByTagText = some (notesByTag.sql, line) ∧
      Value.ofText depthLimit line = .ok (.array notesByTag.args)) ∧
    Value.ofText depthLimit (render .json notesByTag) = .ok notesByTag.toJson := by
  have htext : render .text notesByTag = notesByTagText := rfl
  have hexact : ∀ v ∈ notesByTag.args, v.Exact := by
    simp [notesByTag, Value.Exact, Value.ExactItems, Value.ExactMembers, Number.IsWord]
  have hnesting : ∀ v ∈ notesByTag.args, v.nesting ≤ 125 := by decide
  obtain ⟨hsplit, hjson, -⟩ := render_decodes fun v hv => ⟨hexact v hv, hnesting v hv⟩
  rw [htext] at hsplit
  exact ⟨hsplit, hjson⟩

end Command
end BoundSql
