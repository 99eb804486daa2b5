import BoundSql.Proofs.Blank
import BoundSql.Proofs.Growth
import BoundSql.Proofs.Phrases

/-! Row limits. Where rows are skipped and none are counted, MySQL and SQLite ask for a limit all the same, and
    each has its own for all rows. Run side by side (`Alongside`) they fail alike, bind the same values and
    write texts that differ nowhere else (`Alike`), as many times as a SELECT only skips
    (`Statement.agrees`). -/

namespace BoundSql
open Json (Value)

/-! ### Texts with gaps -/

/-- A text with gaps. -/
abbrev Gapped := List (Option Char)

namespace Gapped

/-- The text with the same filling in each gap. -/
def fill (filling : String) (g : Gapped) : String :=
  String.ofList (g.flatMap fun c => c.elim filling.toList List.singleton)

def gaps (g : Gapped) : Nat := g.countP Option.isNone

/-- A blank outside the gaps. -/
def isBlankAt (c : Option Char) : Bool := c.any Text.isBlankChar

variable {filling : String} {g : Gapped}

theorem fill_append (filling : String) (g h : Gapped) : fill filling (g ++ h) = fill filling g ++ fill filling h := by
  rw [fill, List.flatMap_append, String.ofList_append]
  rfl

theorem fill_some (filling : String) (cs : List Char) : fill filling (cs.map some) = String.ofList cs := by
  rw [fill, List.flatMap_map]
  exact congrArg String.ofList (List.flatMap_singleton' cs)

theorem fill_eq_empty (hf : filling ≠ "") : fill filling g = "" ↔ g = [] := by
  rw [fill, String.ofList_eq_empty_iff, List.flatMap_eq_nil_iff]
  constructor
  · intro h
    rw [List.eq_nil_iff_forall_not_mem]
    intro c hc
    cases c with
    | none => exact hf (String.toList_eq_nil_iff.mp (h none hc))
    | some c => exact absurd (h (some c) hc) (List.cons_ne_nil c [])
  · rintro rfl c hc
    cases hc

theorem gaps_dropWhile (g : Gapped) : gaps (g.dropWhile isBlankAt) = gaps g := by
  have hblank : gaps (g.takeWhile isBlankAt) = 0 := by
    rw [gaps, List.countP_eq_zero]
    intro c hc
    have hp := List.mem_takeWhile_imp hc
    cases c with
    | none => cases hp
    | some c => simp
  conv_rhs => rw [← List.takeWhile_append_dropWhile (p := isBlankAt) (l := g), gaps, List.countP_append]
  rw [gaps] at hblank ⊢
  omega

theorem gaps_reverse (g : Gapped) : gaps g.reverse = gaps g := List.countP_reverse

theorem gaps_trim (g : Gapped) : gaps ((g.dropWhile isBlankAt).rdropWhile isBlankAt) = gaps g := by
  rw [List.rdropWhile, gaps_reverse, gaps_dropWhile, gaps_reverse, gaps_dropWhile]

/-- Blanks are dropped outside the gaps, where the filling does not start with one. -/
theorem flatMap_dropWhile {cs : List Char} (hcs : cs ≠ []) (hhead : cs.head?.any Text.isBlankChar = false)
    (g : Gapped) : (g.flatMap fun c => c.elim cs List.singleton).dropWhile Text.isBlankChar =
      (g.dropWhile isBlankAt).flatMap fun c => c.elim cs List.singleton := by
  induction g with
  | nil => rfl
  | cons c g ih =>
    cases c with
    | none =>
      obtain ⟨d, ds, rfl⟩ := List.exists_cons_of_ne_nil hcs
      have hd : Text.isBlankChar d = false := hhead
      rw [List.dropWhile_cons_of_neg (by simp [isBlankAt])]
      simp [hd]
    | some c =>
      rw [List.flatMap_cons, List.dropWhile_cons, Option.elim_some, List.singleton, List.singleton_append,
        List.dropWhile_cons, ih]
      cases hc : Text.isBlankChar c
      · simp [isBlankAt, hc, List.singleton]
      · simp [isBlankAt, hc]

/-- A text is trimmed outside the gaps, where the filling has no blanks at its ends. -/
theorem trim_fill (hf : filling ≠ "") (hhead : filling.toList.head?.any Text.isBlankChar = false)
    (hlast : filling.toList.getLast?.any Text.isBlankChar = false) (g : Gapped) :
    Text.trim (fill filling g) = fill filling ((g.dropWhile isBlankAt).rdropWhile isBlankAt) := by
  have hne : filling.toList ≠ [] := fun h => hf (String.toList_eq_nil_iff.mp h)
  have hreverse : ∀ (cs : List Char) (g : Gapped), (g.flatMap fun c => c.elim cs List.singleton).reverse =
      g.reverse.flatMap fun c => c.elim cs.reverse List.singleton := by
    intro cs g
    rw [List.reverse_flatMap]
    refine List.flatMap_congr fun c _ => ?_
    cases c <;> rfl
  have hback : filling.toList.reverse.head?.any Text.isBlankChar = false := by
    rw [List.head?_reverse]
    exact hlast
  rw [Text.trim, fill, String.toList_ofList, Text.trimChars_eq, flatMap_dropWhile hne hhead, List.rdropWhile,
    hreverse, flatMap_dropWhile (List.reverse_ne_nil_iff.mpr hne) hback, hreverse, List.reverse_reverse]
  rfl

end Gapped

/-! ### Texts that are alike -/

/-- How MySQL only skips rows. -/
def mysqlSkip : String := "LIMIT 18446744073709551615 OFFSET ?"

/-- How SQLite only skips rows. -/
def sqliteSkip : String := "LIMIT -1 OFFSET ?"

/-- The texts are the same but for so many places where rows are only skipped. -/
def Alike (count : Nat) (s t : String) : Prop :=
  ∃ g : Gapped, s = g.fill mysqlSkip ∧ t = g.fill sqliteSkip ∧ g.gaps = count

namespace Alike
variable {j k : Nat} {s s' t t' : String}

protected theorem refl (s : String) : Alike 0 s s := by
  refine ⟨s.toList.map some, ?_, ?_, ?_⟩
  · rw [Gapped.fill_some, String.ofList_toList]
  · rw [Gapped.fill_some, String.ofList_toList]
  · simp [Gapped.gaps]

theorem gap : Alike 1 mysqlSkip sqliteSkip := ⟨[none], by decide, by decide, rfl⟩

protected theorem append (h : Alike j s t) (h' : Alike k s' t') : Alike (j + k) (s ++ s') (t ++ t') := by
  obtain ⟨g, rfl, rfl, rfl⟩ := h
  obtain ⟨g', rfl, rfl, rfl⟩ := h'
  exact ⟨g ++ g', (Gapped.fill_append _ _ _).symm, (Gapped.fill_append _ _ _).symm, List.countP_append⟩

theorem behind (s : String) (h : Alike k t t') : Alike k (s ++ t) (s ++ t') := by
  rw [← Nat.zero_add k]
  exact (Alike.refl s).append h

theorem before (t : String) (h : Alike k s s') : Alike k (s ++ t) (s' ++ t) := h.append (.refl t)

theorem eq_empty (h : Alike k s t) (hs : s = "") : t = "" ∧ k = 0 := by
  obtain ⟨g, rfl, rfl, rfl⟩ := h
  obtain rfl := (Gapped.fill_eq_empty (by decide)).mp hs
  exact ⟨rfl, rfl⟩

theorem isEmpty_eq (h : Alike k s t) : s.isEmpty = t.isEmpty := by
  obtain ⟨g, rfl, rfl, -⟩ := h
  rw [Bool.eq_iff_iff, String.isEmpty_iff, String.isEmpty_iff, Gapped.fill_eq_empty (by decide),
    Gapped.fill_eq_empty (by decide)]

protected theorem trim (h : Alike k s t) : Alike k (Text.trim s) (Text.trim t) := by
  obtain ⟨g, rfl, rfl, rfl⟩ := h
  refine ⟨(g.dropWhile Gapped.isBlankAt).rdropWhile Gapped.isBlankAt, ?_, ?_, Gapped.gaps_trim g⟩
  · exact Gapped.trim_fill (by decide) (by decide) (by decide) g
  · exact Gapped.trim_fill (by decide) (by decide) (by decide) g

protected theorem parenthesized (h : Alike k s t) : Alike k (parenthesized s) (parenthesized t) :=
  (h.behind "(").before ")"

protected theorem labeled (h : Alike k s t) (label : Option String) :
    Alike k (labeled s label) (labeled t label) := by
  cases label with
  | none => exact h
  | some label => exact (h.before " AS ").before label

protected theorem clause (h : Alike k s t) (keyword : String) : Alike k (clause keyword s) (clause keyword t) := by
  unfold BoundSql.clause
  rw [← h.isEmpty_eq]
  split
  · rename_i hs
    rw [(h.eq_empty (String.isEmpty_iff.mp hs)).2]
    exact .refl ""
  · exact h.behind _

/-- A page behind a blank, where there is one. -/
theorem page (h : Alike k s t) :
    Alike k (if s.isEmpty then "" else " " ++ s) (if t.isEmpty then "" else " " ++ t) := by
  rw [← h.isEmpty_eq]
  split
  · rename_i hs
    rw [(h.eq_empty (String.isEmpty_iff.mp hs)).2]
    exact .refl ""
  · exact h.behind " "

end Alike

/-- The texts are as many, and alike one by one. -/
inductive AllAlike : Nat → List String → List String → Prop
  | nil : AllAlike 0 [] []
  | cons {j k : Nat} {s t : String} {ss ts : List String} : Alike j s t → AllAlike k ss ts →
      AllAlike (j + k) (s :: ss) (t :: ts)

namespace AllAlike
variable {k : Nat} {ss ts : List String}

theorem intercalate (separator : String) (h : AllAlike k ss ts) :
    Alike k (separator.intercalate ss) (separator.intercalate ts) := by
  induction h with
  | nil => exact .refl _
  | @cons j k s t ss ts hs hss ih =>
    cases hss with
    | nil => simpa using hs
    | cons hs' hss' =>
      rw [String.intercalate_cons_cons, String.intercalate_cons_cons]
      exact (hs.before separator).append ih

theorem isEmpty_eq (h : AllAlike k ss ts) : ss.isEmpty = ts.isEmpty := by
  cases h <;> rfl

theorem join (h : AllAlike k ss ts) : Alike k (String.join (ss.map fun s => " " ++ s))
    (String.join (ts.map fun t => " " ++ t)) := by
  induction h with
  | nil => exact .refl _
  | cons hs _ ih =>
    rw [List.map_cons, List.map_cons, String.join_cons, String.join_cons]
    exact (hs.behind " ").append ih

theorem filter (h : AllAlike k ss ts) :
    AllAlike k (ss.filter fun s => !s.isEmpty) (ts.filter fun t => !t.isEmpty) := by
  induction h with
  | nil => exact .nil
  | @cons j k s t ss ts hs _ ih =>
    rw [List.filter_cons, List.filter_cons, ← hs.isEmpty_eq]
    split
    · exact .cons hs ih
    · rename_i hne
      have hempty : s = "" := by simpa [String.isEmpty_iff] using hne
      rw [(hs.eq_empty hempty).2, Nat.zero_add]
      exact ih

end AllAlike

/-! ### Runs side by side -/

/-- From the same bindings both computations fail with the same error, or both succeed, leave the same bindings
    and have related results. -/
def Alongside {α : Type} (m m' : Compile α) (P : α → α → Prop) : Prop :=
  ∀ b : Bindings, b.cursor.style = .fixed "?" →
    (∃ e c, m.outcome b = (.error e, c) ∧ m'.outcome b = (.error e, c)) ∨
      ∃ a a' c, m.outcome b = (.ok a, c) ∧ m'.outcome b = (.ok a', c) ∧ c.cursor.style = .fixed "?" ∧ P a a'

namespace Alongside
variable {α β : Type} {m m' : Compile α} {f f' : α → Compile β} {P : α → α → Prop} {Q : β → β → Prop}

/-- A computation alongside itself. -/
theorem same (hm : Compile.Built m) (hP : ∀ a, P a a) : Alongside m m P := by
  intro b hb
  rcases h : m.outcome b with ⟨e | a, c⟩
  · exact Or.inl ⟨e, c, rfl, rfl⟩
  · exact Or.inr ⟨a, a, c, rfl, rfl, (hm.grows.style_eq h).trans hb, hP a⟩

protected theorem pure {a a' : α} (h : P a a') : Alongside (pure a) (pure a') P :=
  fun b hb => Or.inr ⟨a, a', b, rfl, rfl, hb, h⟩

protected theorem throw {e : SqlError} : Alongside (throw e) (throw e) P := fun b _ => Or.inl ⟨e, b, rfl, rfl⟩

protected theorem bind (hm : Alongside m m' P) (hf : ∀ a a', P a a' → Alongside (f a) (f' a') Q) :
    Alongside (m >>= f) (m' >>= f') Q := by
  intro b hb
  rw [Compile.outcome_bind, Compile.outcome_bind]
  rcases hm b hb with ⟨e, c, h, h'⟩ | ⟨a, a', c, h, h', hc, ha⟩
  · rw [h, h']
    exact Or.inl ⟨e, c, rfl, rfl⟩
  · rw [h, h']
    exact hf a a' ha c hc

theorem map {k k' : α → β} (hm : Alongside m m' P) (hk : ∀ a a', P a a' → Q (k a) (k' a')) :
    Alongside (do return k (← m)) (do return k' (← m')) Q :=
  hm.bind fun a a' ha => .pure (hk a a' ha)

theorem require {condition condition' : Bool} {e : SqlError} {f f' : Unit → Compile β}
    (hc : condition = condition') (hf : Alongside (f ()) (f' ()) Q) :
    Alongside (Compile.require condition e >>= f) (Compile.require condition' e >>= f') Q := by
  subst hc
  cases condition
  · exact .throw
  · exact hf

/-- Of the markers each is the same. -/
protected theorem bindValue (v : Value) : Alongside (Compile.bindValue v) (Compile.bindValue v) fun s t =>
    s = "?" ∧ t = "?" := by
  intro b hb
  rw [Compile.outcome_bindValue, hb]
  exact Or.inr ⟨_, _, _, rfl, rfl, hb, rfl, rfl⟩

end Alongside

/-! ### Pages -/

namespace Site

/-- Whether the place is a page that only skips rows. -/
def skipsOnly : Site → Bool
  | .page none (some _) => true
  | .page _ _ | .value _ => false

/-- How many of the places only skip rows. -/
def skips (sites : List Site) : Nat := sites.countP skipsOnly

theorem skips_append (sites sites' : List Site) : skips (sites ++ sites') = skips sites + skips sites' :=
  List.countP_append

theorem skips_value (values : List Value) : skips (values.map .value) = 0 := by
  rw [skips, List.countP_map, List.countP_eq_zero]
  exact fun _ _ => Bool.false_ne_true

end Site

protected theorem Alongside.mapM {α : Type} {sites : α → List Site} {f f' : α → Compile String} {as : List α}
    (h : ∀ a ∈ as, Alongside (f a) (f' a) (Alike (Site.skips (sites a)))) :
    Alongside (as.mapM f) (as.mapM f') (AllAlike (Site.skips (as.flatMap sites))) := by
  induction as with
  | nil => exact .pure .nil
  | cons a as ih =>
    rw [List.mapM_cons, List.mapM_cons, List.flatMap_cons, Site.skips_append]
    have hrest := ih fun a ha => h a (List.mem_cons_of_mem _ ha)
    exact (h a List.mem_cons_self).bind fun s t hs => hrest.map fun ss ts hss => .cons hs hss

/-- A page that only skips rows is the one place where the dialects write different texts. -/
theorem Dialect.page_alongside (take skip : Option Nat) : Alongside (mysql.page take skip) (sqlite.page take skip)
    (Alike (Site.skips [.page take skip])) := by
  rcases take with _ | take <;> rcases skip with _ | skip
  · exact .pure (.refl "")
  · refine (Alongside.bindValue _).map ?_
    rintro s t ⟨rfl, rfl⟩
    exact .gap
  · exact .same (page_built _ _) fun s => .refl s
  · exact .same (page_built _ _) fun s => .refl s

/-! ### Phrases -/

/-- A right-hand side that may be absent. -/
def AlikeOptional (count : Nat) : Option String → Option String → Prop
  | some s, some t => Alike count s t
  | none, none => count = 0
  | some _, none | none, some _ => False

theorem AlikeOptional.getD {k : Nat} {s t : Option String} (h : AlikeOptional k s t) :
    Alike k (s.getD "") (t.getD "") := by
  cases s with
  | some s =>
    cases t with
    | some t => exact h
    | none => exact h.elim
  | none =>
    cases t with
    | some t => exact h.elim
    | none =>
      obtain rfl : k = 0 := h
      exact .refl ""

namespace Phrase

/-- Both dialects compile the phrase, and write texts that are alike. -/
def Agrees : Phrase → Prop
  | .operand operator value =>
    Alongside (Operand.compile .mysql operator value) (Operand.compile .sqlite operator value)
      (AlikeOptional (Site.skips (Phrase.operand operator value).sites))
  | phrase => Alongside (phrase.compile .mysql) (phrase.compile .sqlite) (Alike (Site.skips phrase.sites))

theorem sites_of_child {phrase child : Phrase} (hc : phrase.children = [child]) (hb : phrase.bound = []) :
    phrase.sites = child.sites := by
  rw [sites_eq, hc, hb, List.append_nil, List.flatMap_singleton]

theorem sites_of_children {phrase first second : Phrase} (hc : phrase.children = [first, second])
    (hb : phrase.bound = []) : phrase.sites = first.sites ++ second.sites := by
  rw [sites_eq, hc, hb, List.append_nil, List.flatMap_cons, List.flatMap_singleton]

theorem skips_of_values {phrase : Phrase} (values : List Value) (hc : phrase.children = [])
    (hb : phrase.bound = values.map .value) : Site.skips phrase.sites = 0 := by
  rw [sites_eq, hc, hb]
  exact Site.skips_value values

namespace Agrees

theorem subquery {query : Subquery} (h : query.phrase.Agrees) :
    Alongside (query.compile .mysql) (query.compile .sqlite) (Alike (Site.skips query.phrase.sites)) := by
  cases query with
  | select s =>
    rw [Subquery.compile, Subquery.compile]
    exact h
  | raw sql =>
    rw [Subquery.compile, Subquery.compile]
    exact h

/-- Phrases that are compiled one after another. -/
theorem mapM {α : Type} {phrase : α → Phrase} {f f' : α → Compile String} {as : List α}
    (h : ∀ a ∈ as, Alongside (f a) (f' a) (Alike (Site.skips (phrase a).sites))) :
    Alongside (as.mapM f) (as.mapM f') (AllAlike (Site.skips ((as.map phrase).flatMap sites))) := by
  rw [List.flatMap_map]
  exact Alongside.mapM h

theorem optional {filter : Option Filter} (h : ∀ f ∈ filter, (Phrase.filter true f).Agrees) :
    Alongside (compileOptional .mysql filter) (compileOptional .sqlite filter)
      (Alike (Site.skips ((filter.toList.map (Phrase.filter true)).flatMap sites))) := by
  cases filter with
  | none =>
    rw [compileOptional, compileOptional]
    exact .pure (.refl "")
  | some f =>
    rw [compileOptional, compileOptional, Option.toList_some, List.map_singleton, List.flatMap_singleton]
    exact h f rfl

theorem raw (sql : RawSql) : (Phrase.raw sql).Agrees := by
  show Alongside _ _ (Alike _)
  rw [skips_of_values sql.args rfl rfl]
  exact .same (.splice sql) fun s => .refl s

theorem field {refuse : FieldDefect → SqlError} {f : Field}
    (h : ∀ child ∈ (Phrase.field refuse f).children, child.Agrees) : (Phrase.field refuse f).Agrees := by
  obtain ⟨table, column, query, label⟩ := f
  show Alongside (Field.expression .mysql refuse _) (Field.expression .sqlite refuse _) (Alike _)
  cases query with
  | none =>
    rw [Field.expression_of_column, Field.expression_of_column, skips_of_values [] rfl rfl]
    cases columnText table column false with
    | error defect => exact .throw
    | ok sql => exact .pure (.refl sql)
  | some query =>
    rw [Field.expression_of_query, Field.expression_of_query, sites_of_child rfl rfl]
    have hq := subquery (h query.phrase (List.mem_singleton_self _))
    cases table <;> cases column
    · exact hq.map fun s t hs => hs.parenthesized
    all_goals exact .throw

theorem table {t : Table} (h : ∀ child ∈ (Phrase.table t).children, child.Agrees) : (Phrase.table t).Agrees := by
  obtain ⟨name, query, label⟩ := t
  show Alongside (Table.compile .mysql _) (Table.compile .sqlite _) (Alike _)
  cases query with
  | none =>
    rw [Table.compile_of_name, Table.compile_of_name, skips_of_values [] rfl rfl]
    cases named? name with
    | none => exact .throw
    | some name => exact .pure (.refl _)
  | some query =>
    rw [Table.compile_of_query, Table.compile_of_query, sites_of_child rfl rfl]
    have hq := subquery (h query.phrase (List.mem_singleton_self _))
    cases named? name with
    | none => exact hq.map fun s t hs => hs.parenthesized.labeled _
    | some name => exact .throw

theorem operand {operator : Operator} {value : Option Operand}
    (h : ∀ child ∈ (Phrase.operand operator value).children, child.Agrees) : (Phrase.operand operator value).Agrees := by
  have hliteral : ∀ v, Alongside (operator.compileLiteral v) (operator.compileLiteral v) (AlikeOptional 0) := by
    intro v
    refine .same (operator.built v) fun right => ?_
    cases right with
    | none => rfl
    | some s => exact .refl s
  show Alongside _ _ (AlikeOptional _)
  rcases value with _ | ⟨t, column⟩ | query | value | _
  · rw [Operand.compile_none, Operand.compile_none, skips_of_values _ rfl rfl]
    exact hliteral .null
  · rw [Operand.compile_column, Operand.compile_column, skips_of_values [] rfl rfl]
    exact .pure (.refl _)
  · rw [Operand.compile_query, Operand.compile_query, sites_of_child rfl rfl]
    have hq := subquery (h query.phrase (List.mem_singleton_self _))
    split
    · exact .throw
    split
    · exact .throw
    split
    · exact .throw
    · exact hq.map fun s t hs => hs.parenthesized
  · rw [Operand.compile_literal, Operand.compile_literal, skips_of_values _ rfl rfl]
    exact hliteral value
  · rw [Operand.compile_null, Operand.compile_null, skips_of_values _ rfl rfl]
    exact hliteral .null

theorem join {j : Join} (h : ∀ child ∈ (Phrase.join j).children, child.Agrees) : (Phrase.join j).Agrees := by
  obtain ⟨kind, t, condition⟩ := j
  have ht := h (.table t) List.mem_cons_self
  have hc := h (.filter true condition) (List.mem_cons_of_mem _ (List.mem_singleton_self _))
  show Alongside (Join.compile .mysql _) (Join.compile .sqlite _) (Alike _)
  rw [sites_of_children rfl rfl, Site.skips_append, Join.compile, Join.compile]
  refine ht.bind fun source source' hs => hc.bind fun on on' ho => .require ?_ (.pure ?_)
  · rw [ho.isEmpty_eq]
  · exact (((hs.behind _).before " ON ").append ho)

theorem condition {root : Bool} {f : Field} {operator : Operator} {value : Option Operand}
    (h : ∀ child ∈ (Phrase.filter root (.condition f operator value)).children, child.Agrees) :
    (Phrase.filter root (.condition f operator value)).Agrees := by
  have hf := h (.field _ f) List.mem_cons_self
  have hv := h (.operand operator value) (List.mem_cons_of_mem _ (List.mem_singleton_self _))
  show Alongside (Filter.compile .mysql _ _) (Filter.compile .sqlite _ _) (Alike _)
  rw [sites_of_children rfl rfl, Site.skips_append, Filter.compile, Filter.compile]
  refine hf.bind fun left left' hl => hv.bind fun right right' hr => ?_
  have hl' := (hl.before " ").before (Dialect.sqlite.operatorSql operator)
  cases right with
  | none =>
    cases right' with
    | some _ => exact hr.elim
    | none =>
      have hzero : Site.skips (Phrase.operand operator value).sites = 0 := hr
      rw [hzero]
      exact .pure hl'
  | some right =>
    cases right' with
    | none => exact hr.elim
    | some right' => exact .pure ((hl'.before " ").append hr)

theorem group {root : Bool} {logic : Logic} {filters : List Filter}
    (h : ∀ child ∈ (Phrase.filter root (.group logic filters)).children, child.Agrees) :
    (Phrase.filter root (.group logic filters)).Agrees := by
  have hparts : Alongside (compileFilters .mysql filters) (compileFilters .sqlite filters)
      (AllAlike (Site.skips ((filters.map (Phrase.filter false)).flatMap sites))) := by
    rw [compileFilters_eq_mapM, compileFilters_eq_mapM]
    refine Alongside.map (mapM fun f hf => ?_) fun ss ts hs => hs.filter
    exact (h _ (List.mem_map_of_mem hf)).map fun s t hs => hs.trim
  show Alongside (Filter.compile .mysql _ _) (Filter.compile .sqlite _ _) (Alike _)
  rw [sites_eq, bound, List.append_nil, Filter.compile, Filter.compile]
  refine hparts.bind fun ss ts hs => .require (by rw [hs.isEmpty_eq]) (.pure ?_)
  cases root with
  | false => exact (hs.intercalate _).parenthesized
  | true => exact hs.intercalate _

theorem rawFilter (root : Bool) (sql : RawSql) : (Phrase.filter root (.raw sql)).Agrees := by
  show Alongside (Filter.compile .mysql _ _) (Filter.compile .sqlite _ _) (Alike _)
  rw [sites_of_child rfl rfl, skips_of_values sql.args rfl rfl]
  exact .same ((Filter.raw sql).built root) fun s => .refl s

/-- The clauses of a SELECT; neither dialect wants an order for its pages. -/
theorem select {s : Select} (h : ∀ child ∈ (Phrase.select s).children, child.Agrees) : (Phrase.select s).Agrees := by
  obtain ⟨distinct, fields, table, joins, filter, groupBy, having, sorts, take, skip, label⟩ := s
  show Alongside (Select.compile .mysql _) (Select.compile .sqlite _) (Alike _)
  rw [sites_eq, Site.skips_append, Select.compile.eq_def, Select.compile.eq_def]
  refine .require rfl ?_
  rcases table with _ | t
  · exact .throw
  simp only [Phrase.children, List.forall_mem_append, List.forall_mem_map] at h
  obtain ⟨hcolumns, htable, hjoins, hfilter, hgroups, hhaving, hsorts⟩ := h
  simp only [Phrase.children, Phrase.bound, compileFields_eq_mapM, groupFields_eq_mapM, compileJoins_eq_mapM,
    compileSorts_eq_mapM, List.flatMap_append, Site.skips_append]
  have hfields : Alongside (fields.mapM (Field.compile .mysql)) (fields.mapM (Field.compile .sqlite))
      (AllAlike (Site.skips ((fields.map (Phrase.field .invalidField)).flatMap sites))) :=
    mapM fun f hf => by
      rw [Field.compile_eq, Field.compile_eq]
      exact (hcolumns f hf).map fun s t hs => hs.labeled _
  have hkeys : Alongside (sorts.mapM (SortKey.compile .mysql)) (sorts.mapM (SortKey.compile .sqlite))
      (AllAlike (Site.skips ((sorts.map fun key => Phrase.field .invalidField key.field).flatMap sites))) :=
    mapM fun key hk => (hsorts key hk).map fun s t hs => (hs.before " ").before key.direction.sql
  have hwhere := optional fun f hf => hfilter f (Option.mem_toList.mpr hf)
  have hhaving' := optional fun f hf => hhaving f (Option.mem_toList.mpr hf)
  have hsource : Alongside (t.compile .mysql) (t.compile .sqlite)
      (Alike (Site.skips (((some t).toList.map Phrase.table).flatMap sites))) := by
    rw [Option.toList_some, List.map_singleton, List.flatMap_singleton]
    exact htable t (List.mem_singleton_self _)
  refine hfields.bind fun columns columns' hc => hsource.bind fun source source' hs => (mapM hjoins).bind
    fun ons ons' ho => hwhere.bind fun wheres wheres' hw => (mapM hgroups).bind fun groups groups' hg =>
    hhaving'.bind fun having having' hh => hkeys.bind fun keys keys' hk => (Dialect.page_alongside take skip).map
    fun page page' hp => ?_
  simp only [Dialect.pagesNeedOrder, Bool.and_false, Bool.false_eq_true, if_false, ← Nat.add_assoc]
  have hselect := (hc.intercalate ", ").behind ("SELECT " ++ if distinct then "DISTINCT " else "")
  have hfrom := (hselect.before " FROM ").append hs
  have hfiltered := (hfrom.append ho.join).append (hw.clause "WHERE")
  have hgrouped := hfiltered.append ((hg.intercalate ", ").clause "GROUP BY")
  exact ((hgrouped.append (hh.clause "HAVING")).append ((hk.intercalate ", ").clause "ORDER BY")).append hp.page

end Agrees

theorem agrees (phrase : Phrase) : phrase.Agrees := by
  induction phrase using Phrase.induction with
  | step phrase h =>
    cases phrase with
    | select s => exact .select h
    | raw sql => exact .raw sql
    | field refuse f => exact .field h
    | table t => exact .table h
    | join j => exact .join h
    | operand operator value => exact .operand h
    | filter root f =>
      cases f with
      | condition f operator value => exact .condition h
      | group logic filters => exact .group h
      | raw sql => exact .rawFilter root sql

end Phrase

/-! ### Statements -/

/-- MySQL and SQLite compile a statement alike. -/
theorem Statement.agrees (statement : Statement) : Alongside (statement.compile .mysql) (statement.compile .sqlite)
    (Alike (statement.sites.countP Site.skipsOnly)) := by
  have hfilter : ∀ filter : Option Filter, Alongside (compileOptional .mysql filter) (compileOptional .sqlite filter)
      (Alike (Site.skips ((filter.toList.map (Phrase.filter true)).flatMap Phrase.sites))) := fun filter =>
    Phrase.Agrees.optional fun f _ => (Phrase.filter true f).agrees
  have htable : ∀ table, Alongside (targetTable table) (targetTable table) Eq := fun table =>
    .same (built_targetTable table) fun _ => rfl
  have hskips : statement.sites.countP Site.skipsOnly =
      Site.skips (statement.children.flatMap Phrase.sites) + Site.skips statement.bound := Site.skips_append _ _
  rw [hskips]
  cases statement with
  | select s =>
    rw [children, List.flatMap_singleton]
    exact (Phrase.select s).agrees
  | insert s =>
    rw [bound, Site.skips_value]
    exact .same (Statement.insert s).built fun s => .refl s
  | update s =>
    rw [children, List.flatMap_append, Site.skips_append]
    have hset : Alongside (s.set.mapM (Assignment.compile .mysql)) (s.set.mapM (Assignment.compile .sqlite))
        (AllAlike (Site.skips ((s.set.map fun a => Phrase.operand .eq (some a.value)).flatMap Phrase.sites))) :=
      Phrase.Agrees.mapM fun a _ => (Phrase.operand .eq (some a.value)).agrees.map fun right right' hr => hr.getD.behind _
    exact (htable s.table).bind fun table _ he => .require rfl <| hset.bind fun ss ts hs => (hfilter s.filter).map
      fun w w' hw => he ▸ ((hs.intercalate ", ").behind _).append (hw.clause "WHERE")
  | delete s =>
    exact (htable s.table).bind fun table _ he => (hfilter s.filter).map
      fun w w' hw => he ▸ (hw.clause "WHERE").behind _
  | raw sql =>
    rw [children, List.flatMap_singleton]
    exact (Phrase.raw sql).agrees

end BoundSql
