import BoundSql.Proofs.Blank
import BoundSql.Proofs.Grammar
import BoundSql.Proofs.Run
import BoundSql.Proofs.Filtered

/-! What a filter means. Its text, read by the grammar of conditions, has the value that the filter has as a
    tree (`Filter.value_of_compile`): parentheses stand wherever the precedence of `AND` over `OR` would
    regroup the filters of a group, and blank raw SQL leaves no trace. The leaves of the tree are the texts
    to which conditions and raw SQL are compiled; what those texts mean by themselves is left open. -/

namespace BoundSql
open Compile (yields_bind)
open Grammar (Truth Expr IsFactor parse operand glue inside? combine)
variable {dialect : Dialect} {b c : Bindings} {sql : String}

/-! ### Leaves -/

/-- A filter whose conditions and raw SQL are compiled. -/
inductive Fragments where
  | condition (text : String)
  | raw (text : String)
  | group (logic : Logic) (parts : List Fragments)

namespace Fragments

/-- Raw SQL without text. -/
def isBlank : Fragments → Bool
  | raw text => text.isEmpty
  | condition _ | group _ _ => false

mutual

/-- The value of a filter, given those of the fragments that have no connective. Blank raw SQL does not
    count, and other raw SQL stands for what it reads as. So does a condition between parentheses that
    enclose all of it. -/
def value (v : String → Truth) : Fragments → Truth
  | condition text => (operand text.toList).value v
  | raw text => (parse text.toList).value v
  | group logic parts => combine logic (values v parts)

def values (v : String → Truth) : List Fragments → List Truth
  | [] => []
  | part :: rest => if part.isBlank then values v rest else part.value v :: values v rest

end

mutual

/-- Parentheses match in all leaves, and no condition has a connective outside parentheses. -/
def Legible : Fragments → Prop
  | condition text => IsFactor text.toList
  | raw text => Grammar.balanced text.toList = true
  | group _ parts => LegibleIn parts

def LegibleIn : List Fragments → Prop
  | [] => True
  | part :: rest => part.Legible ∧ LegibleIn rest

end

mutual

/-- The text of a filter, at the root or below it. -/
def text (root : Bool) : Fragments → String
  | condition text => text
  | raw text => if text.isEmpty || root then text else parenthesized text
  | group logic parts =>
    let joined := s!" {logic.sql} ".intercalate (texts parts)
    if root then joined else parenthesized joined

def texts : List Fragments → List String
  | [] => []
  | part :: rest =>
    let sql := Text.trim (part.text false)
    if sql.isEmpty then texts rest else sql :: texts rest

end

mutual

/-- Conditions have text, and so have groups. -/
def Filled : Fragments → Prop
  | condition text => Text.isBlank text = false
  | raw _ => True
  | group _ parts => texts parts ≠ [] ∧ FilledIn parts

def FilledIn : List Fragments → Prop
  | [] => True
  | part :: rest => part.Filled ∧ FilledIn rest

end

/-! ### The text read back -/

theorem toList_parenthesized (s : String) : (parenthesized s).toList = '(' :: s.toList ++ [')'] := by
  simp [parenthesized, toString]

/-- What can stand among the filters of a group: text of one operand with the given value. -/
structure Reads (sql : String) (value : (String → Truth) → Truth) : Prop where
  nonblank : Text.isBlank sql = false
  factor : IsFactor sql.toList
  value_eq : ∀ v, (operand sql.toList).value v = value v

theorem reads_parenthesized {value : (String → Truth) → Truth} (hb : Grammar.balanced sql.toList = true)
    (h : ∀ v, (parse sql.toList).value v = value v) : Reads (parenthesized sql) value where
  nonblank := by
    rw [Bool.eq_false_iff, ne_eq, Text.isBlank_iff, toList_parenthesized]
    intro hblank
    exact absurd (hblank '(' List.mem_cons_self) (by decide)
  factor := by
    rw [toList_parenthesized]
    exact .enclosed hb
  value_eq := fun v => by rw [toList_parenthesized, Grammar.operand_enclosed hb, h]

theorem Reads.trim {value : (String → Truth) → Truth} (h : Reads sql value) : Reads (Text.trim sql) value where
  nonblank := by rw [Text.isBlank_trim, h.nonblank]
  factor := by
    rw [Text.trim, String.toList_ofList]
    exact h.factor.trim
  value_eq := fun v => by
    rw [Text.trim, String.toList_ofList, Grammar.operand_congr (Text.trimChars_trimChars _), h.value_eq]

/-- The text of a group, once those of its filters are known. -/
theorem value_joined (logic : Logic) {items : List String} (hne : items ≠ [])
    (h : ∀ item ∈ items, IsFactor item.toList) (v : String → Truth) :
    Grammar.balanced (s!" {logic.sql} ".intercalate items).toList = true ∧
      (parse (s!" {logic.sql} ".intercalate items).toList).value v =
        combine logic (items.map fun item => (operand item.toList).value v) := by
  have hfactors : ∀ p ∈ items.map String.toList, IsFactor p := by
    simpa only [List.forall_mem_map] using h
  rw [String.toList_intercalate, ← glue]
  refine ⟨Grammar.balanced_glue logic hfactors, ?_⟩
  rw [Grammar.parse_glue logic (by simpa using hne) hfactors, Expr.value_join logic v (by simpa using hne)]
  simp only [List.map_map]
  rfl

theorem isEmpty_trim_text {t : Fragments} (hb : t.isBlank = true) : (Text.trim (t.text false)).isEmpty = true := by
  cases t with
  | condition text => cases hb
  | group logic parts => cases hb
  | raw text =>
    rw [isBlank, String.isEmpty_iff] at hb
    rw [hb]
    decide

mutual

theorem reads_text : ∀ {t : Fragments}, t.Legible → t.Filled → t.isBlank = false →
    Reads (t.text false) fun v => t.value v
  | condition text, hl, hf, _ => by
    rw [Legible] at hl
    rw [Filled] at hf
    exact ⟨hf, hl, fun v => rfl⟩
  | raw text, hl, _, hb => by
    rw [Legible] at hl
    rw [isBlank] at hb
    rw [Fragments.text, hb]
    exact reads_parenthesized hl fun v => rfl
  | group logic parts, hl, hf, _ => by
    rw [Legible] at hl
    rw [Filled] at hf
    obtain ⟨hne, hf⟩ := hf
    obtain ⟨hfactors, hvalues⟩ := texts_read hl hf
    refine reads_parenthesized (value_joined logic hne hfactors fun _ => .unknown).1 fun v => ?_
    rw [(value_joined logic hne hfactors v).2, hvalues, value]

theorem texts_read : ∀ {parts : List Fragments}, LegibleIn parts → FilledIn parts →
    (∀ item ∈ texts parts, IsFactor item.toList) ∧
      ∀ v, (texts parts).map (fun item => (operand item.toList).value v) = values v parts
  | [], _, _ => ⟨List.forall_mem_nil _, fun _ => rfl⟩
  | part :: rest, hl, hf => by
    obtain ⟨hlp, hl⟩ := hl
    obtain ⟨hfp, hf⟩ := hf
    obtain ⟨hfactors, hvalues⟩ := texts_read hl hf
    cases hb : part.isBlank with
    | true =>
      simp only [texts, values, hb, isEmpty_trim_text hb]
      exact ⟨hfactors, hvalues⟩
    | false =>
      have hpart := (reads_text hlp hfp hb).trim
      have hne : (Text.trim (part.text false)).isEmpty = false := by
        rw [Text.isEmpty_trim, ← Text.isBlank_trim]
        exact hpart.nonblank
      simp only [texts, values, hb, hne]
      exact ⟨List.forall_mem_cons.mpr ⟨hpart.factor, hfactors⟩, fun v => by simp [hpart.value_eq, hvalues]⟩

end

/-- The text of a filter at the root has the value of the filter. -/
theorem value_text {t : Fragments} (hl : t.Legible) (hf : t.Filled) (v : String → Truth) :
    (parse (t.text true).toList).value v = t.value v := by
  cases t with
  | condition text =>
    rw [Legible] at hl
    rw [Fragments.text, Grammar.parse_of_plain hl.plain, value]
  | raw text => rw [Fragments.text, Bool.or_true, if_pos rfl, value]
  | group logic parts =>
    rw [Legible] at hl
    rw [Filled] at hf
    obtain ⟨hfactors, hvalues⟩ := texts_read hl hf.2
    rw [Fragments.text, if_pos rfl, (value_joined logic hf.1 hfactors v).2, hvalues, value]

end Fragments

/-! ### Compiled filters -/

mutual

/-- The texts to which the conditions and the raw SQL of a filter are compiled, in the shape of the
    filter. -/
def Filter.fragments (dialect : Dialect) : Filter → Compile Fragments
  | .condition field operator value => do
    return .condition (← (Filter.condition field operator value).compile dialect true)
  | .raw sql => do return .raw (← (Filter.raw sql).compile dialect true)
  | .group logic filters => do return .group logic (← fragmentsOf dialect filters)

def fragmentsOf (dialect : Dialect) : List Filter → Compile (List Fragments)
  | [] => return []
  | filter :: rest => do return (← filter.fragments dialect) :: (← fragmentsOf dialect rest)

end

/-- The text of a filter below the root, from that at the root. -/
def Filter.nested (sql : String) : Filter → String
  | .condition _ _ _ => sql
  | .group _ _ => parenthesized sql
  | .raw _ => if sql.isEmpty then sql else parenthesized sql

/-- Below the root groups and raw SQL that is not blank stand in one pair of parentheses more. -/
theorem Filter.compile_false (dialect : Dialect) (filter : Filter) :
    filter.compile dialect false = do return filter.nested (← filter.compile dialect true) := by
  cases filter with
  | condition field operator value =>
    simp only [Filter.compile, Filter.nested, bind_pure]
  | group logic filters =>
    simp only [Filter.compile, Filter.nested, bind_assoc, pure_bind]
    rfl
  | raw raw =>
    simp only [Filter.compile, Filter.nested, bind_assoc, pure_bind]
    simp

mutual

/-- A filter that is compiled has the text of its fragments. -/
theorem Filter.exists_fragments : ∀ {filter : Filter} {root : Bool} {b c : Bindings} {sql : String},
    (filter.compile dialect root).Yields b sql c →
      ∃ t, (filter.fragments dialect).Yields b t c ∧ sql = t.text root ∧ t.Filled
  | .condition field operator value, root, b, c, sql, hy => by
    have hroot : (Filter.condition field operator value).compile dialect root =
        (Filter.condition field operator value).compile dialect true := by simp only [Filter.compile]
    rw [hroot] at hy
    refine ⟨.condition sql, ?_, rfl, Filter.isBlank_of_condition hy⟩
    rw [Filter.fragments]
    exact yields_bind.mpr ⟨sql, c, hy, Compile.yields_pure.mpr ⟨rfl, rfl⟩⟩
  | .raw raw, root, b, c, sql, hy => by
    rw [Filter.compile] at hy
    obtain ⟨s, b₁, hs, hy'⟩ := yields_bind.mp hy
    obtain ⟨rfl, rfl⟩ := Compile.yields_pure.mp hy'
    refine ⟨.raw (Text.trim s), ?_, rfl, trivial⟩
    rw [Filter.fragments, Filter.compile]
    refine yields_bind.mpr ⟨Text.trim s, _, ?_, Compile.yields_pure.mpr ⟨rfl, rfl⟩⟩
    exact yields_bind.mpr ⟨s, _, hs, Compile.yields_pure.mpr ⟨by simp, rfl⟩⟩
  | .group logic filters, root, b, c, sql, hy => by
    obtain ⟨parts, hparts, hne, rfl⟩ := Filter.yields_group.mp hy
    obtain ⟨ts, hts, rfl, hf⟩ := exists_fragmentsOf hparts
    refine ⟨.group logic ts, ?_, rfl, hne, hf⟩
    rw [Filter.fragments]
    exact yields_bind.mpr ⟨ts, _, hts, Compile.yields_pure.mpr ⟨rfl, rfl⟩⟩

theorem exists_fragmentsOf : ∀ {filters : List Filter} {b c : Bindings} {parts : List String},
    (compileFilters dialect filters).Yields b parts c →
      ∃ ts, (fragmentsOf dialect filters).Yields b ts c ∧ parts = Fragments.texts ts ∧ Fragments.FilledIn ts
  | [], b, c, parts, hy => by
    obtain ⟨rfl, rfl⟩ := yields_compileFilters_nil.mp hy
    exact ⟨[], by rw [fragmentsOf]; exact Compile.yields_pure.mpr ⟨rfl, rfl⟩, rfl, trivial⟩
  | filter :: rest, b, c, parts, hy => by
    obtain ⟨sql, parts, b₁, hsql, hrest, rfl⟩ := yields_compileFilters_cons.mp hy
    obtain ⟨t, ht, rfl, hf⟩ := filter.exists_fragments hsql
    obtain ⟨ts, hts, rfl, hfs⟩ := exists_fragmentsOf hrest
    refine ⟨t :: ts, ?_, by rw [Fragments.texts, Text.isEmpty_trim], hf, hfs⟩
    rw [fragmentsOf]
    exact yields_bind.mpr ⟨t, b₁, ht, yields_bind.mpr ⟨ts, _, hts, Compile.yields_pure.mpr ⟨rfl, rfl⟩⟩⟩

end

theorem ne_empty_of_mem_texts : ∀ ts : List Fragments, ∀ item ∈ Fragments.texts ts, item ≠ ""
  | [], item, h => by cases h
  | t :: ts, item, h => by
    rw [Fragments.texts] at h
    split at h
    · exact ne_empty_of_mem_texts ts item h
    · rename_i hne
      rcases List.mem_cons.mp h with rfl | h
      · rwa [String.isEmpty_iff] at hne
      · exact ne_empty_of_mem_texts ts item h

/-- No pair of parentheses encloses what is left of two or more filters of a group. -/
theorem Fragments.exists_singleton_of_inside? {logic : Logic} {ts : List Fragments}
    (hl : LegibleIn ts) (hf : FilledIn ts) (hne : texts ts ≠ [])
    (h : (inside? (s!" {logic.sql} ".intercalate (texts ts)).toList).isSome = true) : ∃ item, texts ts = [item] := by
  obtain ⟨hfactors, -⟩ := texts_read hl hf
  have hnonempty := ne_empty_of_mem_texts ts
  generalize texts ts = items at *
  match items with
  | [] => exact absurd rfl hne
  | [item] => exact ⟨item, rfl⟩
  | item :: next :: rest =>
    rw [String.toList_intercalate, ← glue, List.map_cons, List.map_cons,
      Grammar.inside?_glue_cons_cons logic (hfactors item List.mem_cons_self)
        (by simpa using hnonempty item List.mem_cons_self)] at h
    cases h

/-- The text of a filter has the value of the filter, whatever that of its fragments, unless a fragment is
    itself in disorder. Below the root the text of a group and of raw SQL is that at the root in
    parentheses. A group brings none of its own to the root: they enclose its text only when a single filter
    of it is left, whose they are. -/
theorem Filter.value_of_compile {filter : Filter} (hy : (filter.compile dialect true).Yields b sql c) :
    (filter.compile dialect false).Yields b (filter.nested sql) c ∧
      ∃ t, (filter.fragments dialect).Yields b t c ∧
        (t.Legible → ∀ v, (parse sql.toList).value v = t.value v) ∧
        ∀ logic filters, filter = .group logic filters →
          ∃ parts, (compileFilters dialect filters).Yields b parts c ∧
            sql = s!" {logic.sql} ".intercalate parts ∧
            (t.Legible → (inside? sql.toList).isSome = true → ∃ part, parts = [part]) := by
  constructor
  · rw [Filter.compile_false]
    exact yields_bind.mpr ⟨sql, c, hy, Compile.yields_pure.mpr ⟨rfl, rfl⟩⟩
  · obtain ⟨t, ht, hsql, hf⟩ := Filter.exists_fragments hy
    refine ⟨t, ht, fun hl v => by rw [hsql, Fragments.value_text hl hf], ?_⟩
    rintro logic filters rfl
    rw [Filter.compile] at hy
    obtain ⟨parts, b₁, hparts, hy'⟩ := yields_bind.mp hy
    obtain ⟨_, b₂, hr, hy''⟩ := yields_bind.mp hy'
    obtain ⟨-, rfl⟩ := Compile.yields_require.mp hr
    obtain ⟨rfl, rfl⟩ := Compile.yields_pure.mp hy''
    obtain ⟨ts, hts, rfl, hfs⟩ := exists_fragmentsOf hparts
    have ht' : ((Filter.group logic filters).fragments dialect).Yields b (.group logic ts) c := by
      rw [Filter.fragments]
      exact yields_bind.mpr ⟨ts, _, hts, Compile.yields_pure.mpr ⟨rfl, rfl⟩⟩
    cases ht.symm.trans ht'
    rw [Fragments.Filled] at hf
    refine ⟨_, hparts, rfl, fun hl h => ?_⟩
    rw [Fragments.Legible] at hl
    exact Fragments.exists_singleton_of_inside? hl hfs hf.1 h

/-- A condition beside a group of which one filter is left and beside raw SQL with a connective. -/
def mixedFilter : Filter :=
  .group .and [
    .condition { column := some "a" } .eq (some (.literal (.ofNat 1))),
    .group .or [.raw { sql := " " }, .condition { column := some "b" } .isNull none],
    .raw { sql := "c = 3 OR d = $1", args := [.ofNat 4] }]

def mixedFragments : Fragments :=
  .group .and [.condition "a = $1", .group .or [.raw "", .condition "b IS NULL"], .raw "c = 3 OR d = $2"]

theorem mixedFilter_value :
    (mixedFilter.compile .postgres false).Yields (.fresh Dialect.postgres.style)
        "(a = $1 AND (b IS NULL) AND (c = 3 OR d = $2))"
        ((Bindings.fresh Dialect.postgres.style).extend [.ofNat 1, .ofNat 4]) ∧
      ∀ v, (parse "a = $1 AND (b IS NULL) AND (c = 3 OR d = $2)".toList).value v = mixedFragments.value v := by
  have hy : (mixedFilter.compile .postgres true).Yields (.fresh Dialect.postgres.style)
      "a = $1 AND (b IS NULL) AND (c = 3 OR d = $2)"
      ((Bindings.fresh Dialect.postgres.style).extend [.ofNat 1, .ofNat 4]) := rfl
  obtain ⟨hnested, t, ht, hvalue, -⟩ := Filter.value_of_compile hy
  have ht' : (mixedFilter.fragments .postgres).Yields (.fresh Dialect.postgres.style) mixedFragments
      ((Bindings.fresh Dialect.postgres.style).extend [.ofNat 1, .ofNat 4]) := rfl
  cases ht.symm.trans ht'
  have hcondition : ∀ {text : String}, Grammar.plain text.toList = true → Grammar.balanced text.toList = true →
      (Fragments.condition text).Legible := fun hp hb => ⟨hp, hb⟩
  have hraw : ∀ {text : String}, Grammar.balanced text.toList = true → (Fragments.raw text).Legible := fun h => h
  refine ⟨hnested, hvalue ⟨hcondition (by decide) (by decide), ?_, hraw (by decide), trivial⟩⟩
  exact ⟨hraw (by decide), hcondition (by decide) (by decide), trivial⟩

/-- A condition whose column and whose other side hold one parenthesis each. -/
def enclosedCondition : Filter :=
  .condition { column := some "(a OR c" } .eq (some (.column none "b)"))

/-- A group of a single group has the text of that group at the root, in its parentheses. And a condition
    that parentheses enclose is no fragment of its own: it is read as what they enclose. -/
theorem not_always_bare :
    (¬ ∀ (dialect : Dialect) (logic : Logic) (filters : List Filter) (b c : Bindings) (sql : String),
      ((Filter.group logic filters).compile dialect true).Yields b sql c → inside? sql.toList = none) ∧
    ¬ ∀ (dialect : Dialect) (filter : Filter) (b c : Bindings) (sql : String) (v : String → Truth),
      (filter.compile dialect true).Yields b sql c →
      (filter.fragments dialect).Yields b (.condition sql) c → IsFactor sql.toList →
      (parse sql.toList).value v = v sql := by
  constructor
  · intro h
    have hy : ((Filter.group .and [.group .or [.condition { column := some "a" } .isNull none,
        .condition { column := some "b" } .isNull none]]).compile .postgres true).Yields
        (.fresh Dialect.postgres.style) "(a IS NULL OR b IS NULL)" (.fresh Dialect.postgres.style) := rfl
    have hn := h _ _ _ _ _ _ hy
    revert hn
    decide
  · intro h
    have hy : (enclosedCondition.compile .postgres true).Yields (.fresh Dialect.postgres.style)
        "(a OR c = b)" (.fresh Dialect.postgres.style) := rfl
    have hf : (enclosedCondition.fragments .postgres).Yields (.fresh Dialect.postgres.style)
        (.condition "(a OR c = b)") (.fresh Dialect.postgres.style) := rfl
    have hfactor : IsFactor "(a OR c = b)".toList := ⟨by decide, by decide⟩
    have hparts : ∀ p ∈ ["a".toList, "c = b".toList], IsFactor p := by
      simp only [List.forall_mem_cons]
      exact ⟨⟨by decide, by decide⟩, ⟨by decide, by decide⟩, List.forall_mem_nil _⟩
    have hinner : "(a OR c = b)".toList = '(' :: glue .or ["a".toList, "c = b".toList] ++ [')'] := by decide
    have hparse : parse "(a OR c = b)".toList = .binary .or (.leaf "a") (.leaf "c = b") := by
      rw [Grammar.parse_of_plain hfactor.plain, hinner, Grammar.operand_enclosed (Grammar.balanced_glue .or hparts),
        Grammar.parse_glue .or (by simp) hparts]
      rfl
    have hv := h _ _ _ _ _ (fun text => if text = "(a OR c = b)" then .true else .false) hy hf hfactor
    rw [hparse] at hv
    revert hv
    decide

end BoundSql
