import BoundSql.Proofs.Renumber

/-! Occurrences. The placeholders of a text are its leftmost occurrences that do not overlap; they cut it into
    segments of literal text, in exactly one way (`Leftmost`). Renumbering is told in these terms alone: when
    it succeeds, which placeholder it refuses otherwise, and that its result is cut in the same places, with
    the same text between the placeholders (`renumber_occurrences`). -/

namespace BoundSql.Placeholder
variable {leading text rest last : List Char}

/-! ### Cutting a text at its placeholders -/

/-- No placeholder starts within the literal text where the rest follows it. -/
def Clear (leading literal rest : List Char) : Prop :=
  ∀ before c after, literal = before ++ c :: after →
    ¬ ∃ digits behind, c :: after ++ rest = leading ++ (digits ++ behind) ∧ Run digits ∧ Boundary behind

/-- A placeholder and the literal text between it and the one before. -/
structure Segment where
  literal : List Char
  digits : List Char

/-- The text is cut at its placeholders from left to right: each starts at the first place where one can, and
    the next is looked for behind it. -/
inductive Leftmost (leading : List Char) : List Char → List Segment → List Char → Prop
  | last {text : List Char} : Clear leading text [] → Leftmost leading text [] text
  | token {literal digits rest last : List Char} {segments : List Segment} :
      Clear leading literal (leading ++ (digits ++ rest)) → Run digits → Boundary rest →
      Leftmost leading rest segments last →
      Leftmost leading (literal ++ (leading ++ (digits ++ rest))) (⟨literal, digits⟩ :: segments) last

theorem clear_nil : Clear leading [] rest := by
  intro before c after h
  simp at h

theorem clear_cons {c : Char} {literal : List Char} :
    Clear leading (c :: literal) rest ↔
      atStart? leading (c :: (literal ++ rest)) = none ∧ Clear leading literal rest := by
  have hnone : atStart? leading (c :: (literal ++ rest)) = none ↔
      ¬ ∃ digits behind, c :: literal ++ rest = leading ++ (digits ++ behind) ∧ Run digits ∧ Boundary behind := by
    rw [← not_iff_not, not_not, ← ne_eq, Option.ne_none_iff_exists']
    simp only [Prod.exists, atStart?_eq_some, List.cons_append]
  rw [hnone]
  constructor
  · intro h
    exact ⟨h [] c literal rfl, fun before d after heq => h (c :: before) d after (by rw [heq]; rfl)⟩
  · rintro ⟨hhead, htail⟩ before d after heq
    cases before with
    | nil =>
      cases heq
      exact hhead
    | cons b before =>
      rw [List.cons_append, List.cons.injEq] at heq
      exact htail before d after heq.2

/-! ### The parts of a text that is cut -/

theorem parts_of_clear {literal : List Char} (h : Clear leading literal rest) :
    parts leading (literal ++ rest) = literal.map .literal ++ parts leading rest := by
  induction literal with
  | nil => rfl
  | cons c literal ih =>
    obtain ⟨hhead, htail⟩ := clear_cons.mp h
    rw [List.cons_append, parts_of_none hhead, ih htail, List.map_cons, List.cons_append]

def Segment.parts (segment : Segment) : List Part := segment.literal.map .literal ++ [.index segment.digits]

variable {segments : List Segment}

theorem Leftmost.parts_eq (h : Leftmost leading text segments last) :
    parts leading text = segments.flatMap Segment.parts ++ last.map .literal := by
  induction h with
  | last hclear =>
    have hparts := parts_of_clear hclear
    rw [List.append_nil, parts_nil, List.append_nil] at hparts
    rw [hparts, List.flatMap_nil, List.nil_append]
  | token hclear hd hr _ ih =>
    rw [parts_of_clear hclear, parts_token hd hr, ih, List.flatMap_cons, Segment.parts]
    simp only [List.append_assoc, List.cons_append, List.nil_append]

theorem literals_injective {digits digits' : List Char} {ps ps' : List Part} : ∀ {cs cs' : List Char},
    cs.map Part.literal ++ .index digits :: ps = cs'.map Part.literal ++ .index digits' :: ps' →
      cs = cs' ∧ digits = digits' ∧ ps = ps'
  | [], [], h => by simpa using h
  | [], c' :: cs', h => by simp at h
  | c :: cs, [], h => by simp at h
  | c :: cs, c' :: cs', h => by
    rw [List.map_cons, List.map_cons, List.cons_append, List.cons_append, List.cons.injEq] at h
    obtain ⟨rfl, hd, hps⟩ := literals_injective h.2
    cases h.1
    exact ⟨rfl, hd, hps⟩

/-- Parts are made of one list of segments only. -/
theorem segments_injective {last last' : List Char} : ∀ {segments segments' : List Segment},
    segments.flatMap Segment.parts ++ last.map Part.literal =
        segments'.flatMap Segment.parts ++ last'.map Part.literal → segments = segments' ∧ last = last'
  | [], [], h => ⟨rfl, List.map_injective_iff.mpr (fun _ _ h => Part.literal.inj h) h⟩
  | [], g' :: segments', h => by
    -- Literal text has no placeholder among its parts.
    have hmem := congrArg (Part.index g'.digits ∈ ·) h
    simp [Segment.parts] at hmem
  | g :: segments, [], h => by
    have hmem := congrArg (Part.index g.digits ∈ ·) h
    simp [Segment.parts] at hmem
  | ⟨literal, digits⟩ :: segments, ⟨literal', digits'⟩ :: segments', h => by
    simp only [List.flatMap_cons, Segment.parts, List.append_assoc, List.cons_append, List.nil_append] at h
    obtain ⟨rfl, rfl, hrest⟩ := literals_injective h
    obtain ⟨rfl, rfl⟩ := segments_injective hrest
    exact ⟨rfl, rfl⟩

theorem exists_leftmost (leading text : List Char) : ∃ segments last, Leftmost leading text segments last := by
  induction text using parts_induction leading with
  | nil => exact ⟨[], [], .last clear_nil⟩
  | literal c rest hc ih =>
    obtain ⟨segments, last, h⟩ := ih
    cases h with
    | last hclear => exact ⟨[], c :: rest, .last (clear_cons.mpr ⟨by rwa [List.append_nil], hclear⟩)⟩
    | @token literal digits rest last segments hclear hd hr h =>
      exact ⟨⟨c :: literal, digits⟩ :: segments, last, .token (clear_cons.mpr ⟨hc, hclear⟩) hd hr h⟩
  | token digits rest hd hr ih =>
    obtain ⟨segments, last, h⟩ := ih
    exact ⟨⟨[], digits⟩ :: segments, last, .token clear_nil hd hr h⟩

/-- The segments of a text can be read off its parts. -/
theorem leftmost_iff : Leftmost leading text segments last ↔
    parts leading text = segments.flatMap Segment.parts ++ last.map .literal := by
  constructor
  · exact Leftmost.parts_eq
  · intro h
    obtain ⟨segments', last', h'⟩ := exists_leftmost leading text
    obtain ⟨rfl, rfl⟩ := segments_injective (h.symm.trans h'.parts_eq)
    exact h'

theorem Leftmost.run (h : Leftmost leading text segments last) : ∀ g ∈ segments, Run g.digits := by
  induction h with
  | last _ => simp
  | token _ hd _ _ ih =>
    intro g hg
    rcases List.mem_cons.mp hg with rfl | hg
    · exact hd
    · exact ih g hg

/-! ### Placeholders that can be moved -/

/-- The digits are ASCII and write the number in base ten, perhaps with zeros in front. -/
def Numeral (digits : List Char) (n : Nat) : Prop :=
  (∀ d ∈ digits, d.isDigit = true) ∧ n = Nat.ofDigitChars 10 digits 0

theorem isAsciiDigit_eq_isDigit (c : Char) : Text.isAsciiDigit c = c.isDigit := by
  rw [Bool.eq_iff_iff, Char.isDigit_iff_toNat]
  simp [Text.isAsciiDigit]

theorem decimalValue?_eq_some {digits : List Char} (hd : digits ≠ []) {n : Nat} :
    Text.decimalValue? digits = some n ↔ Numeral digits n := by
  have hvalue : digits.foldl (fun n d => 10 * n + (d.toNat - 0x30)) 0 = Nat.ofDigitChars 10 digits 0 :=
    Nat.ofDigitChars_eq_foldl.symm
  have hempty : digits.isEmpty = false := by simpa using hd
  have hguard : (digits.isEmpty || !digits.all Text.isAsciiDigit) = true ↔ ¬ ∀ d ∈ digits, d.isDigit = true := by
    simp [hempty, isAsciiDigit_eq_isDigit]
  rw [Text.decimalValue?, hvalue, Numeral]
  by_cases hall : ∀ d ∈ digits, d.isDigit = true
  · rw [if_neg (by rw [hguard, not_not]; exact hall), Option.some.injEq, eq_comm]
    exact (and_iff_right hall).symm
  · rw [if_pos (hguard.mpr hall)]
    simp [hall]

/-- The placeholder names one of `count` arguments, and the index that it moves to has 64 bits. -/
def Fits (style : Style) (offset count : Nat) (digits : List Char) : Prop :=
  ∃ n, Numeral digits n ∧ style.start ≤ n ∧ n < style.start + count ∧ offset + (n - style.start) < Nat.pow 2 64

/-- The literal text stays, and the index moves by as much as the first one moves to `offset`. -/
def Moves (style : Style) (offset : Nat) (g moved : Segment) : Prop :=
  moved.literal = g.literal ∧
    ∃ n, Numeral g.digits n ∧ moved.digits = Nat.toDigits 10 (offset + (n - style.start))

variable {style : Style} {offset count : Nat}

theorem exists_moved?_iff_fits {digits : List Char} (hd : digits ≠ []) :
    (∃ index, moved? style.start offset count digits = some index) ↔ Fits style offset count digits := by
  simp only [moved?_eq_some, decimalValue?_eq_some hd, Fits]
  constructor
  · rintro ⟨index, n, hn, hlo, hhi, hroom, -⟩
    exact ⟨n, hn, hlo, by omega, hroom⟩
  · rintro ⟨n, hn, hlo, hhi, hroom⟩
    exact ⟨_, n, hn, hlo, by omega, hroom, rfl⟩

/-- Indices stay equal or different where they move. -/
theorem Moves.digits_eq_iff {g g' moved moved' : Segment} (h : Moves style offset g moved)
    (h' : Moves style offset g' moved') (hfits : Fits style offset count g.digits)
    (hfits' : Fits style offset count g'.digits) {m n : Nat} (hm : Numeral g.digits m) (hn : Numeral g'.digits n) :
    m = n ↔ moved.digits = moved'.digits := by
  obtain ⟨-, m', hm', hd⟩ := h
  obtain ⟨-, n', hn', hd'⟩ := h'
  obtain ⟨i, hi, hlo, -⟩ := hfits
  obtain ⟨j, hj, hlo', -⟩ := hfits'
  -- A text of digits writes one number.
  obtain rfl := hm.2.trans hm'.2.symm
  obtain rfl := hn.2.trans hn'.2.symm
  obtain rfl := hi.2.trans hm.2.symm
  obtain rfl := hj.2.trans hn.2.symm
  rw [hd, hd']
  constructor
  · rintro rfl
    rfl
  · intro heq
    have hv := congrArg Text.decimalValue? heq
    rw [decimalValue?_toDigits, decimalValue?_toDigits, Option.some.injEq] at hv
    omega

/-! ### Renumbering -/

theorem mem_parts_iff (h : Leftmost leading text segments last) {digits : List Char} :
    .index digits ∈ parts leading text ↔ ∃ g ∈ segments, g.digits = digits := by
  rw [h.parts_eq]
  simp [Segment.parts, eq_comm]

theorem exists_renumber_iff (h : style.isIndexed = true) {sql : String}
    (hcut : Leftmost style.leading.toList sql.toList segments last) :
    (∃ s, renumber style offset count sql = .ok s) ↔ ∀ g ∈ segments, Fits style offset count g.digits := by
  have hall : (∃ s, renumber style offset count sql = .ok s) ↔
      ∀ digits, .index digits ∈ parts style.leading.toList sql.toList →
        ∃ index, moved? style.start offset count digits = some index := by
    constructor
    · rintro ⟨s, hs⟩
      exact ((renumber_eq_ok h).mp hs).1
    · intro hm
      exact ⟨String.ofList _, (renumber_eq_ok h).mpr ⟨hm, String.toList_ofList⟩⟩
  rw [hall]
  constructor
  · intro hm g hg
    exact (exists_moved?_iff_fits (hcut.run g hg).ne_nil).mp (hm _ ((mem_parts_iff hcut).mpr ⟨g, hg, rfl⟩))
  · intro hfits digits hd
    obtain ⟨g, hg, rfl⟩ := (mem_parts_iff hcut).mp hd
    exact (exists_moved?_iff_fits (hcut.run g hg).ne_nil).mpr (hfits g hg)

/-- Renumbering refuses the first placeholder that cannot be moved. -/
theorem renumber_eq_error (h : style.isIndexed = true) {sql : String} {before after : List Segment} {g : Segment}
    (hcut : Leftmost style.leading.toList sql.toList (before ++ g :: after) last)
    (hbefore : ∀ g' ∈ before, Fits style offset count g'.digits) (hg : ¬ Fits style offset count g.digits) :
    renumber style offset count sql = .error (style.leading ++ String.ofList g.digits) := by
  have hrun := hcut.run
  have hparts : parts style.leading.toList sql.toList =
      (before.flatMap Segment.parts ++ g.literal.map .literal) ++
        .index g.digits :: (after.flatMap Segment.parts ++ last.map .literal) := by
    rw [hcut.parts_eq, List.flatMap_append, List.flatMap_cons, Segment.parts]
    simp only [List.append_assoc, List.cons_append, List.nil_append]
  have hok : ∀ part ∈ before.flatMap Segment.parts ++ g.literal.map .literal,
      ∃ cs, shiftPart style offset count part = .ok cs := by
    intro part hp
    cases part with
    | literal c => exact ⟨[c], rfl⟩
    | index digits =>
      obtain ⟨g', hg', rfl⟩ : ∃ g' ∈ before, g'.digits = digits := by
        simpa [Segment.parts, eq_comm] using hp
      have hne := (hrun g' (List.mem_append_left _ hg')).ne_nil
      obtain ⟨index, hm⟩ := (exists_moved?_iff_fits hne).mpr (hbefore g' hg')
      exact ⟨_, (shiftPart_eq_ok h).mpr ⟨fun _ heq => by cases heq; exact ⟨index, hm⟩, rfl⟩⟩
  have herror : shiftPart style offset count (.index g.digits) =
      .error (style.leading ++ String.ofList g.digits) := by
    refine shiftPart_eq_error_iff.mpr ⟨g.digits, rfl, ?_, rfl⟩
    rw [Option.eq_none_iff_forall_ne_some]
    intro index hm
    have hne := (hrun g (List.mem_append_right _ List.mem_cons_self)).ne_nil
    exact hg ((exists_moved?_iff_fits hne).mp ⟨index, hm⟩)
  rw [renumber, if_pos h, hparts, mapM_eq_error_of_first hok herror]
  rfl

/-- A renumbered text is cut where the text was. -/
theorem leftmost_renumber (h : style.isIndexed = true) {sql s : String}
    (hcut : Leftmost style.leading.toList sql.toList segments last)
    (hs : renumber style offset count sql = .ok s) :
    Leftmost style.leading.toList s.toList
      (segments.map fun g => { g with digits := renamed style.start offset g.digits }) last := by
  rw [leftmost_iff, parts_renumber h hs, hcut.parts_eq, List.map_append, List.map_flatMap, List.flatMap_map]
  congr 1
  · refine List.flatMap_congr fun g _ => ?_
    simp [Segment.parts, Part.withDigits, Function.comp_def]
  · simp [Part.withDigits, Function.comp_def]

theorem moves_renamed {g : Segment} (hd : g.digits ≠ []) (hfits : Fits style offset count g.digits) :
    Moves style offset g { g with digits := renamed style.start offset g.digits } := by
  obtain ⟨n, hn, -⟩ := hfits
  refine ⟨rfl, n, hn, ?_⟩
  rw [renamed, (decimalValue?_eq_some hd).mpr hn, Option.getD_some]

/-- The placeholders of a text are cut out in one way. It is renumbered if all of them can be moved, and else
    the first that cannot is refused. The text that results has as many placeholders between the same literal
    texts; each has moved, and those that were equal or different are so still. -/
theorem renumber_occurrences (h : style.isIndexed = true) (offset count : Nat) (sql : String) :
    ∃ segments last, Leftmost style.leading.toList sql.toList segments last ∧
      (∀ segments' last', Leftmost style.leading.toList sql.toList segments' last' →
        segments' = segments ∧ last' = last) ∧
      ((∃ s, renumber style offset count sql = .ok s) ↔ ∀ g ∈ segments, Fits style offset count g.digits) ∧
      (∀ before g after, segments = before ++ g :: after → (∀ g' ∈ before, Fits style offset count g'.digits) →
        ¬ Fits style offset count g.digits →
        renumber style offset count sql = .error (style.leading ++ String.ofList g.digits)) ∧
      ∀ s, renumber style offset count sql = .ok s → ∃ moved,
        Leftmost style.leading.toList s.toList moved last ∧ List.Forall₂ (Moves style offset) segments moved ∧
        ∀ p ∈ segments.zip moved, ∀ q ∈ segments.zip moved, ∀ m n,
          Numeral p.1.digits m → Numeral q.1.digits n → (m = n ↔ p.2.digits = q.2.digits) := by
  obtain ⟨segments, last, hcut⟩ := exists_leftmost style.leading.toList sql.toList
  refine ⟨segments, last, hcut, ?_, exists_renumber_iff h hcut, ?_, ?_⟩
  · intro segments' last' hcut'
    exact segments_injective (hcut'.parts_eq.symm.trans hcut.parts_eq)
  · rintro before g after rfl hbefore hg
    exact renumber_eq_error h hcut hbefore hg
  · intro s hs
    have hfits := (exists_renumber_iff h hcut).mp ⟨s, hs⟩
    have hmoves : List.Forall₂ (Moves style offset) segments
        (segments.map fun g => { g with digits := renamed style.start offset g.digits }) := by
      rw [List.forall₂_map_right_iff, List.forall₂_same]
      exact fun g hg => moves_renamed (hcut.run g hg).ne_nil (hfits g hg)
    refine ⟨_, leftmost_renumber h hcut hs, hmoves, ?_⟩
    intro p hp q hq m n hm hn
    have hp' := List.forall₂_iff_zip.mp hmoves |>.2 hp
    have hq' := List.forall₂_iff_zip.mp hmoves |>.2 hq
    exact hp'.digits_eq_iff hq' (hfits _ (List.of_mem_zip hp).1) (hfits _ (List.of_mem_zip hq).1) hm hn

/-- A filter that names its arguments out of order, one of them twice and once with a zero in front. -/
def cheapFilter : String := "total < $02 OR total < $1 + $2 AND note <> '$1x'"

set_option maxRecDepth 20000 in
theorem cheapFilter_occurrences : ∃ segments moved last,
    Leftmost ['$'] cheapFilter.toList segments last ∧
      Leftmost ['$'] "total < $6 OR total < $5 + $6 AND note <> '$1x'".toList moved last ∧
        List.Forall₂ (Moves (.oneBased "$") 5) segments moved := by
  have hs : renumber (.oneBased "$") 5 2 cheapFilter =
      .ok "total < $6 OR total < $5 + $6 AND note <> '$1x'" := rfl
  have hindexed : (Style.oneBased "$").isIndexed = true := rfl
  obtain ⟨segments, last, hcut, -, -, -, hmoved⟩ := renumber_occurrences hindexed 5 2 cheapFilter
  obtain ⟨moved, hcut', hmoves, -⟩ := hmoved _ hs
  exact ⟨segments, moved, last, hcut, hcut', hmoves⟩

end BoundSql.Placeholder
