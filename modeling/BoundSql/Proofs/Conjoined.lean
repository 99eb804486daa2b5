import BoundSql.Proofs.Meaning
import BoundSql.Proofs.Reach
import BoundSql.Statement.Builder

/-! Filters that are added one after another. The first filter stands alone, the second makes a group of AND of
    both, and the group takes in all that follow; a first filter that is a group of AND itself takes them in
    from the start. What is built so has the first fault of the filters (`Filter.fault?_joined`), binds their
    arguments in order (`Filter.arguments_joined`) and means that all of them hold (`Filter.value_joined`). -/

namespace BoundSql
open Compile (yields_bind)
open Grammar (parse combine Truth)
variable {dialect : Dialect} {b c : Bindings}

namespace Filter
variable {first : Filter} {rest : List Filter} {check : RawSql → Option SqlError} {e : SqlError}

/-! ### The filter that is built -/

/-- The filters of a group of AND, or else the filter alone. -/
def conjuncts : Filter → List Filter
  | .group .and filters => filters
  | filter => [filter]

/-- A group of AND without a filter that has text. On its own it is refused, but not once it takes in others. -/
def isHollow : Filter → Bool
  | .group .and filters => filters.all isBlankRaw
  | _ => false

theorem all_isBlankRaw_conjuncts (filter : Filter) :
    filter.conjuncts.all isBlankRaw = (filter.isBlankRaw || filter.isHollow) := by
  rcases filter with _ | ⟨_ | _, _⟩ | _
  case raw raw => simp [conjuncts, isHollow]
  all_goals rfl

/-- Filters that are added one after another. -/
def joined (first : Filter) (rest : List Filter) : Filter := rest.foldl andAlso first

theorem foldl_andAlso_group (filters : List Filter) :
    rest.foldl andAlso (.group .and filters) = .group .and (filters ++ rest) := by
  induction rest generalizing filters with
  | nil => rw [List.foldl_nil, List.append_nil]
  | cons next rest ih => rw [List.foldl_cons, andAlso, ih, List.append_assoc, List.singleton_append]

theorem joined_cons {next : Filter} :
    joined first (next :: rest) = .group .and (first.conjuncts ++ next :: rest) := by
  have hnext : first.andAlso next = .group .and (first.conjuncts ++ [next]) := by
    rcases first with _ | ⟨_ | _, _⟩ | _ <;> rfl
  rw [joined, List.foldl_cons, hnext, foldl_andAlso_group, List.append_assoc, List.singleton_append]

theorem isBlankRaw_joined (htext : ∃ filter ∈ first :: rest, filter.isBlankRaw = false) :
    (joined first rest).isBlankRaw = false := by
  cases rest with
  | nil =>
    obtain ⟨filter, hmem, hblank⟩ := htext
    obtain rfl := List.mem_singleton.mp hmem
    exact hblank
  | cons next rest =>
    rw [joined_cons]
    rfl

/-! ### Faults -/

/-- The fault of a filter is that of its conjuncts, unless there is nothing in them. -/
theorem fault?_conjuncts (filter : Filter) : (Phrase.filter true filter).fault? check =
    ((filter.conjuncts.map (Phrase.filter false)).findSome? (Phrase.fault? check)).or
      (if filter.isHollow then some .filtersRequired else none) := by
  have halone : ∀ filter : Filter, (Phrase.filter true filter).fault? check =
      (([filter].map (Phrase.filter false)).findSome? (Phrase.fault? check)).or none := by
    intro filter
    rw [List.map_singleton, findSome?_cons_or, List.findSome?_nil, Option.or_none, Option.or_none,
      Phrase.fault?_filter filter true false]
  rcases filter with _ | ⟨_ | _, filters⟩ | _
  case group.and =>
    rw [Phrase.fault?_eq, Phrase.refusal?, Phrase.vacancy?, Option.none_or]
    rfl
  all_goals exact halone _

theorem fault?_joined_cons {next : Filter} : (Phrase.filter true (joined first (next :: rest))).fault? check =
    (((first.conjuncts.map (Phrase.filter false)).findSome? (Phrase.fault? check)).or
      ((next :: rest).findSome? fun f => (Phrase.filter true f).fault? check)).or
        (if (first.conjuncts ++ next :: rest).all isBlankRaw then some .filtersRequired else none) := by
  have hrest : ((next :: rest).findSome? fun f => (Phrase.filter true f).fault? check) =
      ((next :: rest).map (Phrase.filter false)).findSome? (Phrase.fault? check) := by
    rw [List.findSome?_map]
    congr 1
    funext f
    exact Phrase.fault?_filter f true false check
  rw [joined_cons, Phrase.fault?_eq, Phrase.refusal?, Phrase.vacancy?, Option.none_or, hrest, Phrase.children,
    List.map_append, List.findSome?_append]

theorem fault?_of_isBlankRaw {filter : Filter} (hcheck : ∀ raw : RawSql, Text.isBlank raw.sql = true → check raw = none)
    (h : filter.isBlankRaw = true) : (Phrase.filter true filter).fault? check = none := by
  cases filter with
  | condition field operator value => cases h
  | group logic filters => cases h
  | raw raw =>
    have hraw : (Phrase.raw raw).fault? check = none := by
      rw [Phrase.fault?_eq, Phrase.refusal?, hcheck raw h]
      rfl
    rw [Phrase.fault?_eq, Phrase.refusal?, Phrase.vacancy?, Phrase.children, findSome?_cons_or, hraw]
    rfl

/-- Of filters that are joined the first fault is that of the first filter that has one, unless this is a hollow
    group to which filters with text are added. -/
theorem fault?_joined_of_fault {earlier later : List Filter} {filter : Filter}
    (hcheck : ∀ raw : RawSql, Text.isBlank raw.sql = true → check raw = none)
    (hlist : first :: rest = earlier ++ filter :: later)
    (hearlier : ∀ f ∈ earlier, (Phrase.filter true f).fault? check = none)
    (hfault : (Phrase.filter true filter).fault? check = some e)
    (hhollow : earlier = [] → filter.isHollow = true → ∀ f ∈ later, f.isBlankRaw = true) :
    (Phrase.filter true (joined first rest)).fault? check = some e := by
  cases rest with
  | nil =>
    obtain ⟨rfl, -⟩ | ⟨-, h⟩ := List.append_eq_singleton_iff.mp hlist.symm
    · cases hlist
      exact hfault
    · cases h
  | cons next rest =>
    rw [fault?_joined_cons]
    cases earlier with
    | nil =>
      cases hlist
      rw [fault?_conjuncts] at hfault
      cases hh : first.isHollow with
      | false =>
        rw [hh, if_neg Bool.false_ne_true, Option.or_none] at hfault
        rw [hfault, Option.some_or, Option.some_or]
      | true =>
        -- The group stays empty, since only blank filters are added to it.
        have hblank := hhollow rfl hh
        have hnone : ((next :: rest).findSome? fun f => (Phrase.filter true f).fault? check) = none :=
          List.findSome?_eq_none_iff.mpr fun f hf => fault?_of_isBlankRaw hcheck (hblank f hf)
        have hall : (first.conjuncts ++ next :: rest).all isBlankRaw = true := by
          rw [List.all_append, all_isBlankRaw_conjuncts, hh, Bool.or_true, Bool.true_and, List.all_eq_true]
          exact hblank
        rw [hh] at hfault
        rw [hnone, hall, Option.or_none]
        exact hfault
    | cons f earlier =>
      obtain ⟨hfirst, hbetween⟩ := List.forall_mem_cons.mp hearlier
      obtain ⟨rfl, htail⟩ := List.cons.inj hlist
      rw [fault?_conjuncts, Option.or_eq_none_iff] at hfirst
      rw [hfirst.1, Option.none_or, htail, List.append_eq, List.findSome?_append,
        List.findSome?_eq_none_iff.mpr hbetween, List.findSome?_cons, hfault, Option.none_or, Option.some_or]

/-- Filters without a fault are joined to one without a fault, if one of them has text. -/
theorem fault?_joined_of_none (h : ∀ f ∈ first :: rest, (Phrase.filter true f).fault? check = none)
    (htext : ∃ f ∈ first :: rest, f.isBlankRaw = false) :
    (Phrase.filter true (joined first rest)).fault? check = none := by
  obtain ⟨hfirst, hrest⟩ := List.forall_mem_cons.mp h
  cases rest with
  | nil => exact hfirst
  | cons next rest =>
    rw [fault?_conjuncts, Option.or_eq_none_iff] at hfirst
    obtain ⟨hconjuncts, hhollow⟩ := hfirst
    have hleft : (first.conjuncts ++ next :: rest).all isBlankRaw = false := by
      obtain ⟨f, hf, hblank⟩ := htext
      rw [List.all_append, Bool.and_eq_false_iff]
      rcases List.mem_cons.mp hf with rfl | hf
      · rw [all_isBlankRaw_conjuncts, hblank]
        exact Or.inl (by simpa using hhollow)
      · exact Or.inr (List.all_eq_false.mpr ⟨f, hf, by simp [hblank]⟩)
    rw [fault?_joined_cons, hconjuncts, List.findSome?_eq_none_iff.mpr hrest, hleft]
    rfl

/-! ### Arguments -/

theorem arguments_conjuncts (filter : Filter) :
    filter.conjuncts.flatMap (arguments dialect) = filter.arguments dialect := by
  rcases filter with _ | ⟨_ | _, filters⟩ | _
  case group.and => exact (arguments_group .and filters).symm
  all_goals exact List.flatMap_singleton ..

/-- Filters that are joined bind what each of them binds, one after another. -/
theorem arguments_joined : (joined first rest).arguments dialect = (first :: rest).flatMap (arguments dialect) := by
  cases rest with
  | nil => exact (List.flatMap_singleton ..).symm
  | cons next rest =>
    rw [joined_cons, arguments_group, List.flatMap_append, arguments_conjuncts, ← List.flatMap_cons]

end Filter

/-! ### Values -/

namespace Fragments
variable {first : Fragments} {parts parts' rest : List Fragments} {v : String → Truth}

/-- The parts of a group of AND, or else the fragments alone. -/
def conjuncts : Fragments → List Fragments
  | group .and parts => parts
  | t => [t]

/-- The fragments of filters that are added one after another. -/
def joined (first : Fragments) : List Fragments → Fragments
  | [] => first
  | next :: rest => .group .and (first.conjuncts ++ next :: rest)

theorem legibleIn_append (h : LegibleIn parts) (h' : LegibleIn parts') : LegibleIn (parts ++ parts') := by
  induction parts with
  | nil => exact h'
  | cons part parts ih => exact ⟨h.1, ih h.2⟩

theorem legible_joined (h : LegibleIn (first :: rest)) : (joined first rest).Legible := by
  obtain ⟨hfirst, hrest⟩ := h
  have hconjuncts : LegibleIn first.conjuncts := by
    rcases first with _ | _ | ⟨_ | _, parts⟩
    case group.and =>
      rw [Legible] at hfirst
      exact hfirst
    all_goals exact ⟨hfirst, trivial⟩
  cases rest with
  | nil => exact hfirst
  | cons next rest =>
    rw [joined, Legible]
    exact legibleIn_append hconjuncts hrest

theorem values_append : values v (parts ++ parts') = values v parts ++ values v parts' := by
  induction parts with
  | nil => rfl
  | cons part parts ih =>
    rw [List.cons_append, values, values, ih]
    split <;> rfl

/-- Fragments that are joined have the value of all of them together. -/
theorem value_conjunction (htext : rest = [] → first.isBlank = false) :
    (joined first rest).value v = combine .and (values v (first :: rest)) := by
  cases rest with
  | nil =>
    rw [values, htext rfl]
    simp [joined, values, combine]
  | cons next rest =>
    rw [joined, value]
    rcases first with _ | _ | ⟨_ | _, parts⟩
    case group.and =>
      have hfirst : values v (group .and parts :: next :: rest) =
          combine .and (values v parts) :: values v (next :: rest) := by
        rw [values, value]
        rfl
      rw [hfirst, ← Grammar.combine_and_append, ← values_append]
      rfl
    all_goals rfl

end Fragments

theorem fragmentsOf_eq_mapM (filters : List Filter) :
    fragmentsOf dialect filters = filters.mapM (Filter.fragments dialect) := by
  induction filters with
  | nil => rfl
  | cons filter rest ih => rw [fragmentsOf, List.mapM_cons, ih]

namespace Filter
variable {first filter : Filter} {rest filters : List Filter} {t : Fragments} {ts : List Fragments}

theorem yields_fragments_group {logic : Logic} :
    ((Filter.group logic filters).fragments dialect).Yields b t c ↔
      ∃ ts, (filters.mapM (fragments dialect)).Yields b ts c ∧ t = .group logic ts := by
  rw [fragments, fragmentsOf_eq_mapM]
  constructor
  · intro hy
    obtain ⟨ts, b', hts, hpure⟩ := yields_bind.mp hy
    obtain ⟨rfl, rfl⟩ := Compile.yields_pure.mp hpure
    exact ⟨ts, hts, rfl⟩
  · rintro ⟨ts, hts, rfl⟩
    exact yields_bind.mpr ⟨ts, c, hts, Compile.yields_pure.mpr ⟨rfl, rfl⟩⟩

/-- The fragments of raw SQL are blank where it is. -/
theorem isBlank_fragments (hy : (filter.fragments dialect).Yields b t c) : t.isBlank = filter.isBlankRaw := by
  cases filter with
  | condition field operator value =>
    rw [fragments] at hy
    obtain ⟨sql, b', -, hpure⟩ := yields_bind.mp hy
    obtain ⟨rfl, -⟩ := Compile.yields_pure.mp hpure
    rfl
  | group logic filters =>
    obtain ⟨ts, -, rfl⟩ := yields_fragments_group.mp hy
    rfl
  | raw raw =>
    rw [fragments] at hy
    obtain ⟨sql, b', hsql, hpure⟩ := yields_bind.mp hy
    obtain ⟨rfl, -⟩ := Compile.yields_pure.mp hpure
    exact (isBlank_of_yields hsql).2

theorem fragments_conjuncts (hy : (filter.fragments dialect).Yields b t c) :
    (filter.conjuncts.mapM (fragments dialect)).Yields b t.conjuncts c := by
  have halone : ([filter].mapM (fragments dialect)).Yields b [t] c :=
    Compile.yields_mapM_cons.mpr ⟨t, [], c, hy, Compile.yields_mapM_nil.mpr ⟨rfl, rfl⟩, rfl⟩
  cases filter with
  | condition field operator value =>
    rw [fragments] at hy
    obtain ⟨sql, b', -, hpure⟩ := yields_bind.mp hy
    obtain ⟨rfl, -⟩ := Compile.yields_pure.mp hpure
    exact halone
  | group logic filters =>
    obtain ⟨ts, hts, rfl⟩ := yields_fragments_group.mp hy
    cases logic
    · exact hts
    · exact halone
  | raw raw =>
    rw [fragments] at hy
    obtain ⟨sql, b', -, hpure⟩ := yields_bind.mp hy
    obtain ⟨rfl, -⟩ := Compile.yields_pure.mp hpure
    exact halone

theorem fragments_joined (hy : ((first :: rest).mapM (fragments dialect)).Yields b (t :: ts) c) :
    ((joined first rest).fragments dialect).Yields b (t.joined ts) c := by
  obtain ⟨t', ts', b', hfirst, hrest, heq⟩ := Compile.yields_mapM_cons.mp hy
  cases heq
  cases rest with
  | nil =>
    obtain ⟨rfl, rfl⟩ := Compile.yields_mapM_nil.mp hrest
    exact hfirst
  | cons next rest =>
    have hparts := Compile.yields_mapM_append (fragments_conjuncts hfirst) hrest
    obtain ⟨u, us, d, -, -, rfl⟩ := Compile.yields_mapM_cons.mp hrest
    rw [joined_cons]
    exact yields_fragments_group.mpr ⟨_, hparts, rfl⟩

/-- Filters that are compiled one after another, each at the root of its own text, have the values of their
    fragments there. -/
theorem values_of_texts {filters : List Filter} : ∀ {b : Bindings} {texts : List String},
    (filters.mapM (compile dialect true)).Yields b texts c →
      ∃ ts, (filters.mapM (fragments dialect)).Yields b ts c ∧
        (Fragments.LegibleIn ts → ∀ v,
          ((texts.filter fun sql => !Text.isBlank sql).map fun sql => (parse sql.toList).value v) =
            Fragments.values v ts) := by
  induction filters with
  | nil =>
    intro b texts hy
    obtain ⟨rfl, rfl⟩ := Compile.yields_mapM_nil.mp hy
    exact ⟨[], Compile.yields_mapM_nil.mpr ⟨rfl, rfl⟩, fun _ _ => rfl⟩
  | cons filter rest ih =>
    intro b texts hy
    obtain ⟨sql, texts, b', hsql, hrest, rfl⟩ := Compile.yields_mapM_cons.mp hy
    obtain ⟨ts, hts, hvalues⟩ := ih hrest
    obtain ⟨t, ht, rfl, hfilled⟩ := exists_fragments hsql
    refine ⟨t :: ts, Compile.yields_mapM_cons.mpr ⟨t, ts, b', ht, hts, rfl⟩, ?_⟩
    rintro ⟨hlegible, hrest⟩ v
    have hblank : Text.isBlank (t.text true) = t.isBlank :=
      (isBlank_of_yields hsql).1.trans (isBlank_fragments ht).symm
    rw [List.filter_cons, hblank, Fragments.values, ← hvalues hrest v]
    cases t.isBlank with
    | true => rfl
    | false =>
      simp only [Bool.not_false, if_true, Bool.false_eq_true, if_false, List.map_cons]
      rw [Fragments.value_text hlegible hfilled]

/-- The text of filters that are joined means that all of them hold, each as it reads on its own where it is
    compiled, unless a fragment is itself in disorder. -/
theorem value_joined {texts : List String} {sql : String} {c' : Bindings}
    (hy : ((joined first rest).compile dialect true).Yields b sql c')
    (htexts : ((first :: rest).mapM (compile dialect true)).Yields b texts c)
    (htext : ∃ filter ∈ first :: rest, filter.isBlankRaw = false) :
    c' = c ∧ ∃ ts, (fragmentsOf dialect (first :: rest)).Yields b ts c ∧
      (Fragments.LegibleIn ts → ∀ v, (parse sql.toList).value v =
        combine .and ((texts.filter fun sql => !Text.isBlank sql).map fun sql => (parse sql.toList).value v)) := by
  obtain ⟨ts, hts, hvalues⟩ := values_of_texts htexts
  obtain ⟨t, ts', b', ht, hrest, rfl⟩ := Compile.yields_mapM_cons.mp hts
  obtain ⟨u, hu, rfl, hfilled⟩ := exists_fragments hy
  obtain ⟨rfl, rfl⟩ := hu.unique (fragments_joined hts)
  have hfirst : ts' = [] → t.isBlank = false := by
    rintro rfl
    cases rest with
    | nil =>
      obtain ⟨filter, hmem, hblank⟩ := htext
      obtain rfl := List.mem_singleton.mp hmem
      rw [isBlank_fragments ht, hblank]
    | cons next rest =>
      obtain ⟨_, _, _, -, -, hcons⟩ := Compile.yields_mapM_cons.mp hrest
      cases hcons
  refine ⟨rfl, t :: ts', by rwa [fragmentsOf_eq_mapM], fun hlegible v => ?_⟩
  rw [hvalues hlegible v, Fragments.value_text (Fragments.legible_joined hlegible) hfilled,
    Fragments.value_conjunction hfirst]

end Filter
end BoundSql
