import BoundSql.Proofs.Independence
import BoundSql.Proofs.Phrases
import Mathlib.Data.List.Nodup

/-! Places. Every argument stands at a place of its own in the statement, and statements of one shape have the same
    places in the same order. Where the values of two such statements differ in some places, their arguments
    differ in the positions of these places and nowhere else (`Statement.args_agree`). -/

namespace BoundSql
open Json (Value)

/-! ### Numbered lists -/

section Numbered
variable {α β γ δ : Type}

/-- The members of all lists in order, each with the number of its list. -/
def numbered (f : Nat → α → β) (lists : List (List α)) : List β := (lists.mapIdx fun i as => as.map (f i)).flatten

theorem numbered_cons (f : Nat → α → β) (as : List α) (lists : List (List α)) :
    numbered f (as :: lists) = as.map (f 0) ++ numbered (fun i => f (i + 1)) lists := by
  rw [numbered, List.mapIdx_cons, List.flatten_cons]
  rfl

theorem exists_of_mem_numbered {b : β} {lists : List (List α)} : ∀ {f : Nat → α → β}, b ∈ numbered f lists →
    ∃ i a, b = f i a := by
  induction lists with
  | nil =>
    intro f h
    cases h
  | cons as lists ih =>
    intro f h
    rw [numbered_cons, List.mem_append] at h
    rcases h with h | h
    · obtain ⟨a, -, rfl⟩ := List.mem_map.mp h
      exact ⟨0, a, rfl⟩
    · obtain ⟨i, a, rfl⟩ := ih h
      exact ⟨i + 1, a, rfl⟩

theorem nodup_numbered {lists : List (List α)} (h : ∀ as ∈ lists, as.Nodup) : ∀ {f : Nat → α → β},
    (∀ i j a b, f i a = f j b → i = j ∧ a = b) → (numbered f lists).Nodup := by
  induction lists with
  | nil => exact fun _ => List.nodup_nil
  | cons as lists ih =>
    intro f hf
    obtain ⟨has, hrest⟩ := List.forall_mem_cons.mp h
    rw [numbered_cons, List.nodup_append]
    refine ⟨has.map fun a b hab => (hf 0 0 a b hab).2, ih hrest fun i j a b hab => ?_, ?_⟩
    · obtain ⟨hij, rfl⟩ := hf _ _ a b hab
      exact ⟨Nat.succ.inj hij, rfl⟩
    · rintro b hb c hc rfl
      obtain ⟨a, -, rfl⟩ := List.mem_map.mp hb
      obtain ⟨i, a', heq⟩ := exists_of_mem_numbered hc
      exact absurd (hf _ _ _ _ heq).1 (Nat.succ_ne_zero i).symm

/-- A function that finds the list by its number sees each member as a function of its own list sees it. -/
theorem map_numbered {xs : List γ} {as : γ → List α} {g : γ → α → δ} {k : β → δ} : ∀ {f : Nat → α → β},
    (∀ i x, xs[i]? = some x → ∀ a, k (f i a) = g x a) →
      (numbered f (xs.map as)).map k = xs.flatMap fun x => (as x).map (g x) := by
  induction xs with
  | nil => exact fun _ => rfl
  | cons x xs ih =>
    intro f h
    rw [List.map_cons, numbered_cons, List.map_append, List.map_map, List.flatMap_cons,
      ih fun i x' hx' => h (i + 1) x' hx']
    exact congrArg (· ++ _) (List.map_congr_left fun a _ => h 0 x rfl a)

end Numbered

/-! ### Places -/

/-- What is bound at a site: its value, or a number of the page. -/
inductive Part where
  | value | take | skip
deriving DecidableEq, Repr

/-- A place in a phrase: a part of one of its own sites, or a place in one of its children. -/
inductive Place where
  | own (site : Nat) (part : Part)
  | inChild (child : Nat) (place : Place)
deriving DecidableEq, Repr

def Site.part? : Site → Part → Option Value
  | .value v, .value => some v
  | .page take _, .take => take.map .ofNat
  | .page _ skip, .skip => skip.map .ofNat
  | _, _ => none

variable {dialect : Dialect}

/-- The parts of a site that are there, in the order in which the dialect writes them. -/
def Dialect.parts (dialect : Dialect) : Site → List Part
  | .value _ => [.value]
  | .page take skip =>
    let taken := take.toList.map fun _ => .take
    let skipped := skip.toList.map fun _ => .skip
    match dialect with
    | mssql => skipped ++ taken
    | _ => taken ++ skipped

theorem Site.map_parts (site : Site) : (dialect.parts site).map site.part? = (dialect.siteArguments site).map some := by
  cases site with
  | value v => rfl
  | page take skip => cases dialect <;> cases take <;> cases skip <;> rfl

theorem Site.nodup_parts (site : Site) : (dialect.parts site).Nodup := by
  cases site with
  | value v => exact List.nodup_singleton _
  | page take skip => cases dialect <;> cases take <;> cases skip <;> simp [Dialect.parts]

theorem Place.own_inj (i j : Nat) (p q : Part) (h : own i p = own j q) : i = j ∧ p = q := by
  cases h
  exact ⟨rfl, rfl⟩

theorem Place.inChild_inj (i j : Nat) (p q : Place) (h : inChild i p = inChild j q) : i = j ∧ p = q := by
  cases h
  exact ⟨rfl, rfl⟩

/-- The places in some children, and then those at the sites behind them. -/
def placesIn (children : List (List Place)) (sites : List (List Part)) : List Place :=
  numbered .inChild children ++ numbered .own sites

theorem nodup_placesIn {children : List (List Place)} {sites : List (List Part)}
    (hchildren : ∀ places ∈ children, places.Nodup) (hsites : ∀ parts ∈ sites, parts.Nodup) :
    (placesIn children sites).Nodup := by
  rw [placesIn, List.nodup_append]
  refine ⟨nodup_numbered hchildren Place.inChild_inj, nodup_numbered hsites Place.own_inj, ?_⟩
  rintro p hp q hq rfl
  obtain ⟨i, p, rfl⟩ := exists_of_mem_numbered hp
  obtain ⟨j, part, heq⟩ := exists_of_mem_numbered hq
  cases heq

theorem nodup_parts (bound : List Site) : ∀ parts ∈ bound.map dialect.parts, parts.Nodup :=
  List.forall_mem_map.mpr fun site _ => site.nodup_parts

/-- What stands at the places is what the children bind and then the sites behind them. -/
theorem map_placesIn {children : List Phrase} {bound : List Site} {places : Phrase → List Place}
    {valueAt : Phrase → Place → Option Value} {k : Place → Option Value}
    (h : ∀ child ∈ children, (places child).map (valueAt child) = (child.arguments dialect).map some)
    (hchild : ∀ i place, k (.inChild i place) = children[i]?.bind (valueAt · place))
    (hown : ∀ i part, k (.own i part) = bound[i]?.bind (·.part? part)) :
    (placesIn (children.map places) (bound.map dialect.parts)).map k =
      (children.flatMap (Phrase.arguments dialect) ++ bound.flatMap dialect.siteArguments).map some := by
  have hchildren : (numbered .inChild (children.map places)).map k =
      children.flatMap fun child => (places child).map (valueAt child) := by
    refine map_numbered fun i child hi place => ?_
    rw [hchild, hi, Option.bind_some]
  have hsites : (numbered .own (bound.map dialect.parts)).map k =
      bound.flatMap fun site => (dialect.parts site).map site.part? := by
    refine map_numbered fun i site hi part => ?_
    rw [hown, hi, Option.bind_some]
  rw [placesIn, List.map_append, hchildren, hsites, List.map_append, List.map_flatMap, List.map_flatMap,
    List.flatMap_congr h]
  exact congrArg _ (List.flatMap_congr fun site _ => site.map_parts)

namespace Phrase

/-- The places in a phrase, in the order of the text. -/
def places (dialect : Dialect) (phrase : Phrase) : List Place :=
  placesIn (phrase.children.attach.map fun child => places dialect child.1) (phrase.bound.map dialect.parts)
termination_by sizeOf phrase
decreasing_by exact sizeOf_lt_of_mem_children child.2

theorem places_eq (phrase : Phrase) : phrase.places dialect =
    placesIn (phrase.children.map (places dialect)) (phrase.bound.map dialect.parts) := by
  have hattach : (phrase.children.attach.map fun child => places dialect child.1) =
      phrase.children.map (places dialect) := List.attach_map_val (f := places dialect)
  rw [places, hattach]

/-- What a phrase binds at a place. -/
def valueAt : Phrase → Place → Option Value
  | phrase, .own site part => phrase.bound[site]?.bind (·.part? part)
  | phrase, .inChild child place => phrase.children[child]?.bind (valueAt · place)

theorem nodup_places (phrase : Phrase) : (phrase.places dialect).Nodup := by
  induction phrase using Phrase.induction with
  | step phrase ih =>
    rw [places_eq]
    exact nodup_placesIn (List.forall_mem_map.mpr ih) (nodup_parts phrase.bound)

/-- What stands at the places of a phrase are its arguments. -/
theorem map_places (phrase : Phrase) :
    (phrase.places dialect).map phrase.valueAt = (phrase.arguments dialect).map some := by
  induction phrase using Phrase.induction with
  | step phrase ih =>
    rw [places_eq, arguments_eq]
    exact map_placesIn ih (fun _ _ => rfl) fun _ _ => rfl

end Phrase

/-! ### Shapes -/

theorem Subquery.shapeOptional_eq (query : Option Subquery) : Subquery.shapeOptional query = query.map Subquery.shape := by
  cases query <;> rfl

theorem Field.shapes_eq (fields : List Field) : Field.shapes fields = fields.map Field.shape := by
  induction fields with
  | nil => rfl
  | cons field rest ih => rw [Field.shapes, ih, List.map_cons]

theorem Table.shapeOptional_eq (table : Option Table) : Table.shapeOptional table = table.map Table.shape := by
  cases table <;> rfl

def Join.shape (join : Join) : Join := { join with table := join.table.shape, condition := join.condition.shape }

theorem Join.shapes_eq (joins : List Join) : Join.shapes joins = joins.map Join.shape := by
  induction joins with
  | nil => rfl
  | cons join rest ih =>
    obtain ⟨kind, table, condition⟩ := join
    rw [Join.shapes, ih, List.map_cons]
    rfl

theorem Filter.shapes_eq (filters : List Filter) : Filter.shapes filters = filters.map Filter.shape := by
  induction filters with
  | nil => rfl
  | cons filter rest ih => rw [Filter.shapes, ih, List.map_cons]

theorem Filter.shapeOptional_eq (filter : Option Filter) : Filter.shapeOptional filter = filter.map Filter.shape := by
  cases filter <;> rfl

theorem SortKey.shapes_eq (sorts : List SortKey) :
    SortKey.shapes sorts = sorts.map fun key => { key with field := key.field.shape } := by
  induction sorts with
  | nil => rfl
  | cons key rest ih =>
    obtain ⟨field, direction⟩ := key
    rw [SortKey.shapes, ih, List.map_cons]

/-- As many values have the same parts, whatever they are. -/
theorem parts_values {values values' : List Value} (h : values.length = values'.length) :
    (values.map Site.value).map dialect.parts = (values'.map Site.value).map dialect.parts := by
  have hparts : ∀ values : List Value,
      (values.map Site.value).map dialect.parts = List.replicate values.length [.value] := by
    intro values
    rw [List.map_map]
    exact List.map_const'
  rw [hparts, hparts, h]

theorem Operator.length_arguments_shape (operator : Operator) (value : Value) :
    (operator.arguments (operator.shape value)).length = (operator.arguments value).length := by
  unfold shape
  split
  · rfl
  rename_i hnull
  split
  · rename_i hlist
    split
    · simp [arguments, hnull, hlist]
    · rfl
  rename_i hlist
  split
  · rename_i hlike
    split
    · simp [arguments, hnull, hlist, hlike]
    · rfl
  · rename_i hlike
    simp [arguments, hnull, hlist, hlike]

namespace Phrase

def shape : Phrase → Phrase
  | .select s => .select s.shape
  | .raw sql => .raw sql.shape
  | .field refuse f => .field refuse f.shape
  | .table t => .table t.shape
  | .join j => .join j.shape
  | .operand operator value => .operand operator (Operand.shapeOptional operator value)
  | .filter root f => .filter root f.shape

theorem shape_phrase (query : Subquery) : query.shape.phrase = query.phrase.shape := by
  cases query with
  | select s => rw [Subquery.shape, Subquery.phrase, Subquery.phrase, shape]
  | raw sql => rw [Subquery.shape, Subquery.phrase, Subquery.phrase, shape]

theorem children_shape (phrase : Phrase) : phrase.shape.children = phrase.children.map shape := by
  cases phrase with
  | select s =>
    obtain ⟨distinct, fields, table, joins, filter, groupBy, having, sorts, take, skip, label⟩ := s
    simp only [shape, Select.shape, children, Field.shapes_eq, Table.shapeOptional_eq, Join.shapes_eq,
      Filter.shapeOptional_eq, SortKey.shapes_eq, Option.toList_map, List.map_append, List.map_map]
    rfl
  | raw sql => rfl
  | field refuse f =>
    obtain ⟨table, column, query, label⟩ := f
    simp only [shape, Field.shape, children, Subquery.shapeOptional_eq, Option.toList_map, List.map_map]
    exact List.map_congr_left fun query _ => shape_phrase query
  | table t =>
    obtain ⟨name, query, label⟩ := t
    simp only [shape, Table.shape, children, Subquery.shapeOptional_eq, Option.toList_map, List.map_map]
    exact List.map_congr_left fun query _ => shape_phrase query
  | join j => rfl
  | operand operator value =>
    rcases value with _ | ⟨_, _⟩ | query | _ | _
    case some.query =>
      simp only [shape, Operand.shapeOptional, Operand.shape, children, List.map_singleton, shape_phrase]
    all_goals rfl
  | filter root f =>
    cases f with
    | condition field operator value => simp [shape, Filter.shape, children]
    | group logic filters =>
      simp only [shape, Filter.shape, children, Filter.shapes_eq, List.map_map]
      rfl
    | raw sql => simp [shape, Filter.shape, children]

theorem parts_shape (phrase : Phrase) : phrase.shape.bound.map dialect.parts = phrase.bound.map dialect.parts := by
  cases phrase with
  | select s =>
    obtain ⟨distinct, fields, table, joins, filter, groupBy, having, sorts, take, skip, label⟩ := s
    cases take <;> cases skip <;> simp [shape, Select.shape, bound, Dialect.parts]
  | raw sql => exact parts_values (length_blankValues sql.args)
  | operand operator value =>
    rcases value with _ | ⟨_, _⟩ | query | value | _
    case some.literal => exact parts_values (operator.length_arguments_shape value)
    all_goals rfl
  | field refuse f => rfl
  | table t => rfl
  | join j => rfl
  | filter root f => rfl

theorem places_shape (phrase : Phrase) : phrase.shape.places dialect = phrase.places dialect := by
  induction phrase using Phrase.induction with
  | step phrase ih =>
    rw [places_eq, places_eq, children_shape, parts_shape, List.map_map]
    exact congrArg (placesIn · _) (List.map_congr_left ih)

end Phrase

/-! ### Statements -/

namespace Statement

/-- The places in a statement, in the order of the text. -/
def places (dialect : Dialect) (statement : Statement) : List Place :=
  placesIn (statement.children.map (Phrase.places dialect)) (statement.bound.map dialect.parts)

/-- What a statement binds at a place. -/
def valueAt (statement : Statement) : Place → Option Value
  | .own site part => statement.bound[site]?.bind (·.part? part)
  | .inChild child place => statement.children[child]?.bind (·.valueAt place)

theorem nodup_places (statement : Statement) : (statement.places dialect).Nodup :=
  nodup_placesIn (List.forall_mem_map.mpr fun child _ => child.nodup_places) (nodup_parts statement.bound)

/-- What stands at the places of a statement are its arguments. -/
theorem map_places (statement : Statement) :
    (statement.places dialect).map statement.valueAt = (statement.arguments dialect).map some := by
  rw [arguments_eq]
  exact map_placesIn (fun child _ => child.map_places) (fun _ _ => rfl) fun _ _ => rfl

theorem children_shape (statement : Statement) : statement.shape.children = statement.children.map Phrase.shape := by
  cases statement with
  | select s => rfl
  | insert s => rfl
  | update s =>
    simp only [shape, Update.shape, children, Filter.shapeOptional_eq, Option.toList_map, List.map_append, List.map_map]
    rfl
  | delete s =>
    simp only [shape, Delete.shape, children, Filter.shapeOptional_eq, Option.toList_map, List.map_map]
    rfl
  | raw sql => rfl

theorem parts_shape (statement : Statement) :
    statement.shape.bound.map dialect.parts = statement.bound.map dialect.parts := by
  cases statement with
  | insert s =>
    refine parts_values ?_
    simp [Insert.shape, List.length_flatten, Function.comp_def]
  | select s => rfl
  | update s => rfl
  | delete s => rfl
  | raw sql => rfl

theorem places_shape (statement : Statement) : statement.shape.places dialect = statement.places dialect := by
  rw [places, places, children_shape, parts_shape, List.map_map]
  exact congrArg (placesIn · _) (List.map_congr_left fun child _ => child.places_shape)

end Statement

theorem getElem?_of_map_some {α β : Type} {values : List α} {places : List β} {f : β → Option α}
    (h : values.map some = places.map f) (i : Nat) : values[i]? = places[i]?.bind f := by
  have hi : values[i]?.map some = places[i]?.map f := by rw [← List.getElem?_map, h, List.getElem?_map]
  cases hplace : places[i]? with
  | none =>
    rw [hplace] at hi
    exact Option.map_eq_none_iff.mp hi
  | some place =>
    rw [hplace] at hi
    obtain ⟨v, hv, hvalue⟩ := Option.map_eq_some_iff.mp hi
    rw [hv, Option.bind_some, ← hvalue]

/-- Statements that differ only in the values they bind have the same places, no place twice; each argument stands
    at the place of its position, so that two arguments differ only where the statements differ. -/
theorem Statement.args_agree {s t : Statement} {q r : Query} (h : s.shape = t.shape)
    (hq : s.toQuery dialect = .ok q) (hr : t.toQuery dialect = .ok r) :
    (s.places dialect).Nodup ∧ q.args.map some = (s.places dialect).map s.valueAt ∧
      r.args.map some = (s.places dialect).map t.valueAt ∧
      ∀ i : Nat, q.args[i]? ≠ r.args[i]? →
        ∃ place, (s.places dialect)[i]? = some place ∧ s.valueAt place ≠ t.valueAt place := by
  have hplaces : t.places dialect = s.places dialect := by rw [← t.places_shape, ← h, s.places_shape]
  have hs : q.args.map some = (s.places dialect).map s.valueAt := by rw [args_of_toQuery hq, s.map_places]
  have ht : r.args.map some = (s.places dialect).map t.valueAt := by rw [args_of_toQuery hr, ← hplaces, t.map_places]
  refine ⟨s.nodup_places, hs, ht, fun i hne => ?_⟩
  rw [getElem?_of_map_some hs, getElem?_of_map_some ht] at hne
  cases hplace : (s.places dialect)[i]? with
  | none => exact absurd (by rw [hplace]; rfl) hne
  | some place =>
    rw [hplace] at hne
    exact ⟨place, rfl, hne⟩

example (owner : Value) : (Statement.select {
      fields := [{ column := some "id" }]
      table := some { name := some "orders" }
      filter := some (.condition { column := some "owner" } .eq (some (.literal owner))) }).valueAt
    (.inChild 0 (.inChild 2 (.inChild 1 (.own 0 .value)))) = some owner := rfl

end BoundSql
