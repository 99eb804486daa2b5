import BoundSql.Statement
import BoundSql.Proofs.Blank
import BoundSql.Proofs.Scan
import Mathlib.Data.List.Infix
import Mathlib.Data.List.SplitBy

/-! The grammar of conditions. `AND` binds tighter than `OR`, parentheses group, and the text between two
    connectives is taken as it stands, unless a pair of parentheses encloses it. `parse` reads a text by
    this grammar; where texts have no connective outside parentheses, joining them with one joins what they
    are read as (`parse_glue`), and parentheses around a text make an operand of it (`operand_enclosed`). -/

namespace BoundSql.Grammar
open Text

/-! ### Truth -/

/-- The value of a condition, which SQL does not always know. -/
inductive Truth where
  | false | unknown | true
deriving DecidableEq, Repr

def Truth.and : Truth → Truth → Truth
  | .false, _ => .false
  | .true, t => t
  | .unknown, .false => .false
  | .unknown, _ => .unknown

def Truth.or : Truth → Truth → Truth
  | .true, _ => .true
  | .false, t => t
  | .unknown, .true => .true
  | .unknown, _ => .unknown

/-- The value of conditions that a connective joins. -/
def combine : Logic → List Truth → Truth
  | .and, values => values.foldr Truth.and .true
  | .or, values => values.foldr Truth.or .false

theorem Truth.and_assoc (x y z : Truth) : (x.and y).and z = x.and (y.and z) := by
  cases x <;> cases y <;> cases z <;> rfl

@[simp] theorem Truth.and_true (x : Truth) : x.and .true = x := by
  cases x <;> rfl

/-- Some of the conditions that AND joins may be joined before. -/
theorem combine_and_append (values rest : List Truth) :
    combine .and (values ++ rest) = combine .and (combine .and values :: rest) := by
  induction values with
  | nil => rfl
  | cons x values ih =>
    simp only [combine, List.cons_append, List.foldr_cons, Truth.and_assoc] at ih ⊢
    rw [ih]

/-! ### Expressions -/

inductive Expr where
  | leaf (text : String)
  | binary (logic : Logic) (left right : Expr)
deriving DecidableEq, Repr

/-- The value of an expression, given those of its leaves. -/
def Expr.value (v : String → Truth) : Expr → Truth
  | .leaf text => v text
  | .binary .and left right => (left.value v).and (right.value v)
  | .binary .or left right => (left.value v).or (right.value v)

/-- Expressions joined with a connective. -/
def Expr.join (logic : Logic) : List Expr → Expr
  | [] => .leaf ""
  | [e] => e
  | e :: e' :: es => .binary logic e (join logic (e' :: es))

theorem Expr.value_join (logic : Logic) (v : String → Truth) :
    ∀ {es : List Expr}, es ≠ [] → (Expr.join logic es).value v = combine logic (es.map (Expr.value v))
  | [], h => absurd rfl h
  | [e], _ => by
    cases logic <;> cases h : e.value v <;> simp [Expr.join, combine, Truth.and, Truth.or, h]
  | e :: e' :: es, _ => by
    have ih := Expr.value_join logic v (List.cons_ne_nil e' es)
    cases logic
    · rw [Expr.join, Expr.value, ih]
      rfl
    · rw [Expr.join, Expr.value, ih]
      rfl

/-! ### Depth -/

/-- By how much a text opens more parentheses than it closes. -/
def level (cs : List Char) : Int := cs.count '(' - cs.count ')'

/-- Every parenthesis that the text closes is open, and none is left open. -/
def balanced (cs : List Char) : Bool := cs.inits.all (fun before => 0 ≤ level before) && level cs == 0

theorem balanced_iff {cs : List Char} :
    balanced cs = true ↔ (∀ before, before <+: cs → 0 ≤ level before) ∧ level cs = 0 := by
  simp [balanced, List.mem_inits]

@[simp] theorem level_append (xs ys : List Char) : level (xs ++ ys) = level xs + level ys := by
  simp only [level, List.count_append]
  omega

theorem level_of_not_mem {cs : List Char} (hopen : '(' ∉ cs) (hclose : ')' ∉ cs) : level cs = 0 := by
  rw [level, List.count_eq_zero_of_not_mem hopen, List.count_eq_zero_of_not_mem hclose]
  rfl

theorem balanced_of_not_mem {cs : List Char} (hopen : '(' ∉ cs) (hclose : ')' ∉ cs) : balanced cs = true := by
  rw [balanced_iff]
  refine ⟨fun before h => ?_, level_of_not_mem hopen hclose⟩
  have hlevel := level_of_not_mem (fun hm => hopen (h.subset hm)) fun hm => hclose (h.subset hm)
  exact Int.le_of_eq hlevel.symm

theorem balanced_append {xs ys : List Char} (hx : balanced xs = true) (hy : balanced ys = true) :
    balanced (xs ++ ys) = true := by
  obtain ⟨hxp, hx0⟩ := balanced_iff.mp hx
  obtain ⟨hyp, hy0⟩ := balanced_iff.mp hy
  rw [balanced_iff]
  refine ⟨fun before h => ?_, by rw [level_append, hx0, hy0]; rfl⟩
  obtain ⟨after, happ⟩ := h
  rcases List.append_eq_append_iff.mp happ with ⟨rest, rfl, -⟩ | ⟨rest, rfl, hys⟩
  · exact hxp before (List.prefix_append before rest)
  · rw [level_append, hx0, Int.zero_add]
    exact hyp rest ⟨after, hys.symm⟩

/-- Blanks open and close nothing. -/
theorem level_of_blank {cs : List Char} (h : ∀ c ∈ cs, isBlankChar c = true) : level cs = 0 := by
  refine level_of_not_mem (fun hm => ?_) fun hm => ?_
  · exact absurd (h _ hm) (by decide)
  · exact absurd (h _ hm) (by decide)

theorem balanced_of_blank {cs : List Char} (h : ∀ c ∈ cs, isBlankChar c = true) : balanced cs = true := by
  refine balanced_of_not_mem (fun hm => ?_) fun hm => ?_
  · exact absurd (h _ hm) (by decide)
  · exact absurd (h _ hm) (by decide)

theorem balanced_trimChars (cs : List Char) : balanced (trimChars cs) = balanced cs := by
  obtain ⟨before, after, hcs, hbefore, hafter⟩ := exists_trimChars cs
  rw [Bool.eq_iff_iff]
  constructor
  · intro h
    rw [hcs]
    exact balanced_append (balanced_append (balanced_of_blank hbefore) h) (balanced_of_blank hafter)
  · intro h
    obtain ⟨hp, h0⟩ := balanced_iff.mp h
    have hlevel : level cs = level (trimChars cs) := by
      conv_lhs => rw [hcs]
      simp [level_of_blank hbefore, level_of_blank hafter]
    refine balanced_iff.mpr ⟨fun start hs => ?_, by rw [← hlevel, h0]⟩
    have hstart : before ++ start <+: cs := by
      rw [hcs, List.append_assoc, List.prefix_append_right_inj]
      exact hs.trans (List.prefix_append _ _)
    have hn := hp _ hstart
    rwa [level_append, level_of_blank hbefore, Int.zero_add] at hn

/-! ### Words -/

/-- The text cut into its words and the characters between them. -/
def words (cs : List Char) : List (List Char) := cs.splitBy fun c d => isWordChar c && isWordChar d

/-- Words with the level at which each of them stands. -/
def marks : Int → List (List Char) → List (Int × List Char)
  | _, [] => []
  | l, w :: ws => (l, w) :: marks (l + level w) ws

/-- The connective, in any case and outside parentheses. -/
def isConnective (logic : Logic) : Int × List Char → Bool
  | (l, w) => l == 0 && w.map Char.toUpper == logic.sql.toList

/-- The texts that a connective separates. -/
def operands (logic : Logic) (cs : List Char) : List (List Char) :=
  ((marks 0 (words cs)).splitOnP (isConnective logic)).map fun ms => (ms.map Prod.snd).flatten

/-- The text has no connective outside parentheses. -/
def plain (cs : List Char) : Bool :=
  (marks 0 (words cs)).all fun m => !isConnective .and m && !isConnective .or m

/-- What a pair of parentheses encloses, when the pair is the whole text. -/
def inside? : List Char → Option (List Char)
  | '(' :: rest => if rest.getLast? == some ')' && balanced rest.dropLast then some rest.dropLast else none
  | _ => none

@[simp] theorem words_nil : words [] = [] := rfl

theorem flatten_words (cs : List Char) : (words cs).flatten = cs := List.flatten_splitBy _ cs

/-- Where a character that is not of a word stands between two texts, both are cut on their own. -/
theorem words_append_cons {xs ys : List Char} {c : Char} (hc : isWordChar c = false) :
    words (xs ++ c :: ys) = words xs ++ [c] :: words ys := by
  have hright : words (c :: ys) = [c] :: words ys := by
    rw [words, ← List.singleton_append, List.splitBy_append (by simp [hc])]
    rfl
  rw [← hright]
  exact List.splitBy_append (by simp [hc])

theorem words_cons {ys : List Char} {c : Char} (hc : isWordChar c = false) :
    words (c :: ys) = [c] :: words ys := by
  rw [← List.nil_append (c :: ys), words_append_cons hc]
  rfl

theorem words_concat {xs : List Char} {c : Char} (hc : isWordChar c = false) :
    words (xs ++ [c]) = words xs ++ [[c]] := words_append_cons hc

theorem marks_append (l : Int) (us ws : List (List Char)) :
    marks l (us ++ ws) = marks l us ++ marks (l + level us.flatten) ws := by
  induction us generalizing l with
  | nil => simp [marks, level]
  | cons u us ih => simp [marks, ih, Int.add_assoc]

theorem map_snd_marks (l : Int) (ws : List (List Char)) : (marks l ws).map Prod.snd = ws := by
  induction ws generalizing l with
  | nil => rfl
  | cons w ws ih => simp [marks, ih]

/-- A word stands at the level of the text before it. -/
theorem exists_of_mem_marks {l : Int} {ws : List (List Char)} {m : Int × List Char} (hm : m ∈ marks l ws) :
    ∃ before, before <+: ws.flatten ∧ m.1 = l + level before := by
  induction ws generalizing l with
  | nil => cases hm
  | cons w ws ih =>
    rcases List.mem_cons.mp hm with rfl | hm
    · exact ⟨[], List.nil_prefix, by simp [level]⟩
    · obtain ⟨before, hb, hl⟩ := ih hm
      refine ⟨w ++ before, ?_, by rw [hl, level_append]; omega⟩
      rw [List.flatten_cons]
      exact (List.prefix_append_right_inj w).mpr hb

/-! ### Operands -/

theorem sublist_of_mem_splitOnP {α : Type} {p : α → Bool} :
    ∀ {xs ys : List α}, ys ∈ xs.splitOnP p → ys.Sublist xs
  | [], ys, h => by
    rw [List.splitOnP_nil] at h
    rw [List.mem_singleton.mp h]
  | x :: xs, ys, h => by
    rw [List.splitOnP_cons_eq_if_modifyHead] at h
    split at h
    · rcases List.mem_cons.mp h with rfl | h
      · exact List.nil_sublist _
      · exact (sublist_of_mem_splitOnP h).cons x
    · obtain ⟨first, rest, hr⟩ := List.exists_cons_of_ne_nil (List.splitOnP_ne_nil p xs)
      rw [hr, List.modifyHead_cons] at h
      rcases List.mem_cons.mp h with rfl | h
      · exact (sublist_of_mem_splitOnP (by rw [hr]; exact List.mem_cons_self)).cons_cons x
      · exact (sublist_of_mem_splitOnP (by rw [hr]; exact List.mem_cons_of_mem _ h)).cons x

theorem sublist_of_mem_operands {logic : Logic} {o cs : List Char} (h : o ∈ operands logic cs) :
    o.Sublist cs := by
  obtain ⟨ms, hms, rfl⟩ := List.mem_map.mp h
  have hsub := ((sublist_of_mem_splitOnP hms).map Prod.snd).flatten
  rwa [map_snd_marks, flatten_words] at hsub

theorem inside?_eq_some {cs inner : List Char} :
    inside? cs = some inner ↔ cs = '(' :: inner ++ [')'] ∧ balanced inner = true := by
  constructor
  · intro h
    unfold inside? at h
    split at h
    · rename_i rest
      split at h
      · rename_i hrest
        cases h
        rw [Bool.and_eq_true, beq_iff_eq] at hrest
        obtain ⟨init, rfl⟩ := List.getLast?_eq_some_iff.mp hrest.1
        simpa using hrest.2
      · cases h
    · cases h
  · rintro ⟨rfl, hb⟩
    simp [inside?, hb]

theorem length_lt_of_inside? {cs inner : List Char} (h : inside? (trimChars cs) = some inner) :
    inner.length < cs.length := by
  obtain ⟨hcs, -⟩ := inside?_eq_some.mp h
  obtain ⟨before, after, happ, -, -⟩ := exists_trimChars cs
  rw [happ, hcs]
  simp
  omega

/-! ### Reading -/

/-- The expression that a text stands for. -/
def parse (cs : List Char) : Expr :=
  .join .or <| (operands .or cs).attach.map fun disjunct =>
    .join .and <| (operands .and disjunct.1).attach.map fun factor =>
      match _h : inside? (trimChars factor.1) with
      | some inner => parse inner
      | none => .leaf (.ofList (trimChars factor.1))
termination_by cs.length
decreasing_by
  have hd := (sublist_of_mem_operands disjunct.2).length_le
  have hf := (sublist_of_mem_operands factor.2).length_le
  have hi := length_lt_of_inside? _h
  omega

/-- What a text without connectives stands for: the text inside the parentheses that enclose it, or itself. -/
def operand (cs : List Char) : Expr :=
  match inside? (trimChars cs) with
  | some inner => parse inner
  | none => .leaf (.ofList (trimChars cs))

theorem parse_eq (cs : List Char) :
    parse cs = .join .or ((operands .or cs).map fun disjunct => .join .and ((operands .and disjunct).map operand)) := by
  have hfactor : ∀ factor, (match _ : inside? (trimChars factor) with
      | some inner => parse inner
      | none => .leaf (.ofList (trimChars factor))) = operand factor := by
    intro factor
    rw [operand]
    split <;> rename_i h <;> rw [h]
  rw [parse]
  simp only [hfactor, List.attach_map_val]
  rw [List.attach_map_val (f := fun disjunct => Expr.join .and ((operands .and disjunct).map operand))]

theorem operand_congr {cs ds : List Char} (h : trimChars cs = trimChars ds) : operand cs = operand ds := by
  rw [operand, operand, h]

/-! ### Texts without connectives -/

theorem plain_iff {cs : List Char} :
    plain cs = true ↔ ∀ m ∈ marks 0 (words cs), ∀ logic, isConnective logic m = false := by
  rw [plain, List.all_eq_true]
  refine forall₂_congr fun m _ => ?_
  constructor
  · intro h logic
    cases logic <;> simp_all
  · intro h
    simp [h]

theorem operands_eq_self {logic : Logic} {cs : List Char}
    (h : ∀ m ∈ marks 0 (words cs), isConnective logic m = false) : operands logic cs = [cs] := by
  rw [operands, List.splitOnP_eq_singleton h, List.map_singleton, map_snd_marks, flatten_words]

theorem join_operands_of_plain {cs : List Char} (h : plain cs = true) :
    Expr.join .and ((operands .and cs).map operand) = operand cs := by
  rw [operands_eq_self fun m hm => plain_iff.mp h m hm .and]
  rfl

theorem parse_of_plain {cs : List Char} (h : plain cs = true) : parse cs = operand cs := by
  rw [parse_eq, operands_eq_self fun m hm => plain_iff.mp h m hm .or]
  exact join_operands_of_plain h

/-- A character that is not of a word is no connective. -/
theorem isConnective_singleton (logic : Logic) (l : Int) (c : Char) : isConnective logic (l, [c]) = false := by
  cases logic <;> simp [isConnective, Logic.sql]

/-- Text between parentheses stands below the level of connectives. -/
theorem plain_enclosed {cs : List Char} (h : balanced cs = true) : plain ('(' :: cs ++ [')']) = true := by
  have hopen : isWordChar '(' = false := by decide
  have hclose : isWordChar ')' = false := by decide
  rw [plain_iff]
  intro m hm logic
  rw [List.cons_append, words_cons hopen, words_concat hclose, marks, marks_append] at hm
  rcases List.mem_cons.mp hm with rfl | hm
  · exact isConnective_singleton logic 0 '('
  · rcases List.mem_append.mp hm with hm | hm
    · obtain ⟨before, hb, hl⟩ := exists_of_mem_marks hm
      rw [flatten_words] at hb
      have hn := (balanced_iff.mp h).1 before hb
      have hlevel : level ['('] = 1 := rfl
      have hne : m.1 ≠ 0 := by omega
      simp [isConnective, hne]
    · rw [marks, marks, List.mem_singleton] at hm
      rw [hm]
      exact isConnective_singleton logic _ ')'

theorem balanced_enclosed {cs : List Char} (h : balanced cs = true) : balanced ('(' :: cs ++ [')']) = true := by
  obtain ⟨hp, h0⟩ := balanced_iff.mp h
  have hopen : level ['('] = 1 := rfl
  have hclose : level [')'] = -1 := rfl
  rw [balanced_iff]
  refine ⟨fun before hb => ?_, ?_⟩
  · cases before with
    | nil => decide
    | cons c before =>
      obtain ⟨hc, hrest⟩ := List.cons_prefix_cons.mp hb
      rw [hc, ← List.singleton_append, level_append, hopen]
      rcases List.prefix_concat_iff.mp hrest with rfl | hrest
      · rw [level_append, h0, hclose]
        decide
      · have hn := hp before hrest
        omega
  · rw [← List.singleton_append, level_append, level_append]
    omega

theorem trimChars_enclosed (cs : List Char) : trimChars ('(' :: cs ++ [')']) = '(' :: cs ++ [')'] := by
  apply trimChars_eq_self
  · intro c hc
    cases hc
    decide
  · intro c hc
    rw [List.getLast?_concat] at hc
    cases hc
    decide

/-- A pair of parentheses makes an operand of a text. -/
theorem operand_enclosed {cs : List Char} (h : balanced cs = true) : operand ('(' :: cs ++ [')']) = parse cs := by
  rw [operand, trimChars_enclosed, inside?_eq_some.mpr ⟨rfl, h⟩]

theorem words_of_blank {cs : List Char} (h : ∀ c ∈ cs, isBlankChar c = true) : words cs = cs.map fun c => [c] := by
  induction cs with
  | nil => rfl
  | cons c cs ih =>
    obtain ⟨hc, hcs⟩ := List.forall_mem_cons.mp h
    rw [words_cons (isWordChar_of_isBlankChar hc), ih hcs, List.map_cons]

theorem isConnective_of_blank {cs : List Char} (h : ∀ c ∈ cs, isBlankChar c = true) {l : Int}
    {m : Int × List Char} (hm : m ∈ marks l (words cs)) (logic : Logic) : isConnective logic m = false := by
  have hw := List.mem_map_of_mem (f := Prod.snd) hm
  rw [map_snd_marks, words_of_blank h] at hw
  obtain ⟨c, -, hc⟩ := List.mem_map.mp hw
  obtain ⟨l', w⟩ := m
  cases hc
  exact isConnective_singleton logic l' c

theorem plain_trimChars (cs : List Char) : plain (trimChars cs) = plain cs := by
  obtain ⟨before, after, hcs, hbefore, hafter⟩ := exists_trimChars cs
  have hleft : words (before ++ trimChars cs) = words before ++ words (trimChars cs) := by
    refine List.splitBy_append fun c hc d _ => ?_
    rw [isWordChar_of_isBlankChar (hbefore c (List.mem_of_getLast? hc)), Bool.false_and]
  have hright : words (before ++ trimChars cs ++ after) = words (before ++ trimChars cs) ++ words after := by
    refine List.splitBy_append fun c _ d hd => ?_
    rw [isWordChar_of_isBlankChar (hafter d (List.mem_of_head? hd)), Bool.and_false]
  have hmarks : marks 0 (words cs) = marks 0 (words before) ++ marks 0 (words (trimChars cs)) ++
      marks (level (trimChars cs)) (words after) := by
    conv_lhs => rw [hcs, hright, hleft]
    simp [marks_append, flatten_words, level_of_blank hbefore]
  rw [Bool.eq_iff_iff, plain_iff, plain_iff, hmarks]
  simp only [List.forall_mem_append]
  constructor
  · intro h
    exact ⟨⟨fun m hm => isConnective_of_blank hbefore hm, h⟩, fun m hm => isConnective_of_blank hafter hm⟩
  · rintro ⟨⟨-, h⟩, -⟩
    exact h

/-- A text that can be joined with others. -/
structure IsFactor (cs : List Char) : Prop where
  plain : plain cs = true
  balanced : balanced cs = true

namespace IsFactor
variable {cs : List Char}

theorem level_eq_zero (h : IsFactor cs) : level cs = 0 := (balanced_iff.mp h.balanced).2

theorem of_trimChars_eq {ds : List Char} (h : IsFactor cs) (ht : trimChars ds = trimChars cs) : IsFactor ds where
  plain := by rw [← plain_trimChars, ht, plain_trimChars, h.plain]
  balanced := by rw [← balanced_trimChars, ht, balanced_trimChars, h.balanced]

theorem trim (h : IsFactor cs) : IsFactor (trimChars cs) := h.of_trimChars_eq (trimChars_trimChars cs)

theorem blank_cons (h : IsFactor cs) : IsFactor (' ' :: cs) := h.of_trimChars_eq (trimChars_cons (by decide))

theorem enclosed (h : Grammar.balanced cs = true) : IsFactor ('(' :: cs ++ [')']) :=
  ⟨plain_enclosed h, balanced_enclosed h⟩

end IsFactor

/-! ### Texts joined with a connective -/

/-- Texts with the connective between them. -/
def glue (logic : Logic) (parts : List (List Char)) : List Char :=
  s!" {logic.sql} ".toList.intercalate parts

@[simp] theorem glue_singleton (logic : Logic) (p : List Char) : glue logic [p] = p := List.intercalate_singleton

theorem glue_cons_cons (logic : Logic) (p q : List Char) (parts : List (List Char)) :
    glue logic (p :: q :: parts) = p ++ ' ' :: (logic.sql.toList ++ ' ' :: glue logic (q :: parts)) := by
  rw [glue, List.intercalate_cons_cons]
  simp [toString, glue]

theorem blank_glue (logic : Logic) (p : List Char) (parts : List (List Char)) :
    ' ' :: glue logic (p :: parts) = glue logic ((' ' :: p) :: parts) := by
  cases parts with
  | nil => simp [glue]
  | cons q parts => rw [glue_cons_cons, glue_cons_cons, List.cons_append]

theorem words_sql (logic : Logic) : words logic.sql.toList = [logic.sql.toList] := by
  cases logic <;> decide

theorem level_sql (logic : Logic) : level logic.sql.toList = 0 := by
  cases logic <;> decide

/-- Behind a text that closes what it opens, the connective stands at the level of connectives. -/
theorem marks_glue_cons_cons (logic : Logic) {p q : List Char} {parts : List (List Char)} (hp : level p = 0) :
    marks 0 (words (glue logic (p :: q :: parts))) = marks 0 (words p) ++ (0, [' ']) :: (0, logic.sql.toList) ::
      marks 0 (words (glue logic ((' ' :: q) :: parts))) := by
  have hblank : isWordChar ' ' = false := by decide
  have hlevel : level [' '] = 0 := rfl
  rw [glue_cons_cons, words_append_cons hblank, words_append_cons hblank, ← blank_glue, words_cons hblank,
    words_sql, marks_append, flatten_words, hp]
  simp [marks, hlevel, level_sql]

theorem isConnective_sql (logic other : Logic) : isConnective other (0, logic.sql.toList) = (other == logic) := by
  cases logic <;> cases other <;> decide

theorem operands_glue_cons_cons (logic : Logic) {p q : List Char} {parts : List (List Char)}
    (hp : IsFactor p) :
    operands logic (glue logic (p :: q :: parts)) =
      (p ++ [' ']) :: operands logic (glue logic ((' ' :: q) :: parts)) := by
  have hfree : ∀ m ∈ marks 0 (words p) ++ [(0, [' '])], isConnective logic m = false := by
    rw [List.forall_mem_append]
    refine ⟨fun m hm => plain_iff.mp hp.plain m hm logic, fun m hm => ?_⟩
    rw [List.mem_singleton.mp hm]
    exact isConnective_singleton logic 0 ' '
  have hsql : isConnective logic (0, logic.sql.toList) = true := by simp [isConnective_sql]
  rw [operands, marks_glue_cons_cons logic hp.level_eq_zero, List.append_cons,
    List.splitOnP_append_cons_of_forall_mem hfree _ hsql, List.map_cons, ← operands, List.map_append,
    map_snd_marks, List.flatten_append, flatten_words]
  rfl

/-- The texts that a connective joins are the operands that it separates, up to blanks around them. -/
theorem operands_glue (logic : Logic) : ∀ {parts : List (List Char)}, parts ≠ [] → (∀ p ∈ parts, IsFactor p) →
    List.Forall₂ (fun o p => plain o = true ∧ operand o = operand p) (operands logic (glue logic parts)) parts
  | [], h, _ => absurd rfl h
  | [p], _, h => by
    have hp := (h p List.mem_cons_self).plain
    rw [glue_singleton, operands_eq_self fun m hm => plain_iff.mp hp m hm logic]
    exact .cons ⟨hp, rfl⟩ .nil
  | p :: q :: parts, _, h => by
    have hblank : isBlankChar ' ' = true := by decide
    obtain ⟨hp, hq, hparts⟩ : IsFactor p ∧ IsFactor q ∧ ∀ p ∈ parts, IsFactor p := by
      simpa only [List.forall_mem_cons] using h
    have hps : plain (p ++ [' ']) = true := by
      rw [← plain_trimChars, trimChars_concat hblank, plain_trimChars]
      exact hp.plain
    have ih := operands_glue logic (List.cons_ne_nil (' ' :: q) parts)
      (List.forall_mem_cons.mpr ⟨hq.blank_cons, hparts⟩)
    obtain ⟨o, os, ho, hos, heq⟩ := List.forall₂_cons_right_iff.mp ih
    rw [operands_glue_cons_cons logic hp, heq]
    exact .cons ⟨hps, operand_congr (trimChars_concat hblank)⟩
      (.cons ⟨ho.1, ho.2.trans (operand_congr (trimChars_cons hblank))⟩ hos)
termination_by parts => parts.length

/-- Where a connective joins texts there is no other. -/
theorem isConnective_of_mem_glue {logic other : Logic} (hne : other ≠ logic) :
    ∀ {parts : List (List Char)}, (∀ p ∈ parts, IsFactor p) →
      ∀ m ∈ marks 0 (words (glue logic parts)), isConnective other m = false
  | [], _, m, hm => by simp [glue, marks] at hm
  | [p], h, m, hm => by
    rw [glue_singleton] at hm
    exact plain_iff.mp (h p List.mem_cons_self).plain m hm other
  | p :: q :: parts, h, m, hm => by
    obtain ⟨hp, hq, hparts⟩ : IsFactor p ∧ IsFactor q ∧ ∀ p ∈ parts, IsFactor p := by
      simpa only [List.forall_mem_cons] using h
    rw [marks_glue_cons_cons logic hp.level_eq_zero] at hm
    rcases List.mem_append.mp hm with hm | hm
    · exact plain_iff.mp hp.plain m hm other
    · rcases List.mem_cons.mp hm with rfl | hm
      · exact isConnective_singleton other 0 ' '
      · rcases List.mem_cons.mp hm with rfl | hm
        · simpa [isConnective_sql] using hne
        · exact isConnective_of_mem_glue hne (List.forall_mem_cons.mpr ⟨hq.blank_cons, hparts⟩) m hm
termination_by parts => parts.length

/-- Texts that are joined with a connective stand for the joined expressions. -/
theorem parse_glue (logic : Logic) {parts : List (List Char)} (hne : parts ≠ []) (h : ∀ p ∈ parts, IsFactor p) :
    parse (glue logic parts) = .join logic (parts.map operand) := by
  have hoperands := operands_glue logic hne h
  cases logic with
  | and =>
    have hor : operands .or (glue .and parts) = [glue .and parts] :=
      operands_eq_self (isConnective_of_mem_glue (by decide) h)
    have hmap : (operands .and (glue .and parts)).map operand = parts.map operand := by
      rw [← List.forall₂_eq_eq_eq, List.forall₂_map_left_iff, List.forall₂_map_right_iff]
      exact hoperands.imp fun o p ho => ho.2
    rw [parse_eq, hor, List.map_singleton, hmap]
    rfl
  | or =>
    have hmap : (operands .or (glue .or parts)).map (fun o => Expr.join .and ((operands .and o).map operand)) =
        parts.map operand := by
      rw [← List.forall₂_eq_eq_eq, List.forall₂_map_left_iff, List.forall₂_map_right_iff]
      exact hoperands.imp fun o p ho => (join_operands_of_plain ho.1).trans ho.2
    rw [parse_eq, hmap]

theorem balanced_glue (logic : Logic) : ∀ {parts : List (List Char)}, (∀ p ∈ parts, IsFactor p) →
    balanced (glue logic parts) = true
  | [], _ => rfl
  | [p], h => by
    rw [glue_singleton]
    exact (h p List.mem_cons_self).balanced
  | p :: q :: parts, h => by
    obtain ⟨hp, hparts⟩ := List.forall_mem_cons.mp h
    have hsql : balanced (' ' :: logic.sql.toList ++ [' ']) = true := by cases logic <;> decide
    have ih := balanced_append hp.balanced (balanced_append hsql (balanced_glue logic hparts))
    rw [glue_cons_cons]
    simpa using ih

/-- No pair of parentheses encloses texts that are joined. -/
theorem inside?_glue_cons_cons (logic : Logic) {p q : List Char} {parts : List (List Char)} (hp : IsFactor p)
    (hne : p ≠ []) : inside? (glue logic (p :: q :: parts)) = none := by
  rw [Option.eq_none_iff_forall_ne_some]
  intro inner hinner
  obtain ⟨hglue, hb⟩ := inside?_eq_some.mp hinner
  obtain ⟨c, rest, rfl⟩ := List.exists_cons_of_ne_nil hne
  rw [glue_cons_cons, List.cons_append, List.cons_append, List.cons.injEq] at hglue
  obtain ⟨rfl, hrest⟩ := hglue
  have hbefore : rest <+: inner := by
    have hprefix : rest <+: inner ++ [')'] := ⟨_, hrest⟩
    rcases List.prefix_concat_iff.mp hprefix with rfl | h
    · have hlength := congrArg List.length hrest
      simp at hlength
    · exact h
  have hlevel := hp.level_eq_zero
  have hopen : level ['('] = 1 := rfl
  rw [← List.singleton_append, level_append, hopen] at hlevel
  have hn := (balanced_iff.mp hb).1 rest hbefore
  omega

end BoundSql.Grammar
