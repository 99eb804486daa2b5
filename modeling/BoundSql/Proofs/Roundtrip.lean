import BoundSql.Statement.Reader
import BoundSql.Proofs.Embedded
import Mathlib.Data.List.Forall2

/-! Statements are read as they were written. The readers go along with the writers, part by part: a part whose
    JSON fits the brackets that its reader may still open is read from it, whether the text is read as it
    comes or is already held. With the text cut into tokens and built into a tree this makes a statement
    come back from its text (`Statement.ofText_compact`). -/

namespace BoundSql
open Json
open Json.Reader (Fills record_of_fills ofMembers_of_fills ofMembers_cons_of_forall_ne listOf_nodes choice_member)

variable {depth : Nat} (mode : Mode)

/-! ### Small choices and values -/

theorem Operator.reader_node (operator : Operator) :
    Operator.reader depth mode (Value.string operator.name).node = .ok operator := by
  cases operator <;> cases mode <;> rfl

theorem Logic.reader_node (logic : Logic) : Logic.reader depth mode (Value.string logic.name).node = .ok logic := by
  cases logic <;> cases mode <;> rfl

theorem JoinKind.reader_node (kind : JoinKind) :
    JoinKind.reader depth mode (Value.string kind.name).node = .ok kind := by
  cases kind <;> cases mode <;> rfl

theorem Direction.reader_node (direction : Direction) :
    Direction.reader depth mode (Value.string direction.name).node = .ok direction := by
  cases direction <;> cases mode <;> rfl

theorem string_node (s : String) : Value.string s ≠ .null ∧ Reader.string mode (Value.string s).node = .ok s :=
  ⟨by simp, rfl⟩

theorem natural_node (n : Nat) :
    Value.ofNat n ≠ .null ∧ Reader.natural "u64" mode (Value.ofNat n).node = .ok n := by
  have hn : ¬ (n : Int) < 0 := by omega
  exact ⟨by simp [Value.ofNat], by simp [Value.ofNat, Value.node, Reader.natural, hn]⟩

theorem valuesReader_node {items : List Value} (h : Fits depth (.array items)) :
    valuesReader depth mode (Value.array items).node = .ok items := by
  obtain ⟨d, rfl, hitems⟩ := h.of_array
  refine listOf_nodes (List.forall₂_same.mpr fun v hv => ?_)
  show Reader.lift (v.node.toValue d) = .ok v
  rw [(hitems v hv).toValue]
  rfl

theorem RawSql.fills {raw : RawSql} (h : Fits depth (.array raw.args)) :
    Fills mode (RawSql.slots depth) { sql := "" } raw.members raw :=
  .must (string_node mode raw.sql).2 (.of (valuesReader_node mode h) .nil)

theorem RawSql.reader_node {raw : RawSql} (h : Fits depth raw.toJson) :
    RawSql.reader depth mode raw.toJson.node = .ok raw := by
  obtain ⟨d, rfl, hm⟩ := h.of_object
  have hargs := hm ("args", .array raw.args) (by simp [RawSql.members])
  exact record_of_fills RawSql.title (show ["sql", "args"].Nodup by decide) (RawSql.fills mode hargs)

/-! ### Filters -/

/-- The tag is found in the first member, and the others are passed over. -/
theorem filterReader_node {inner : Readers} (form : FilterForm) {members : List (String × Value)}
    (hname : ∀ m ∈ members, m.1 ≠ "type") (hfits : ∀ m ∈ members, Fits depth m.2) :
    Readers.filterReader (depth + 1) inner mode (Value.object (("type", .string form.name) :: members)).node =
      Readers.filterOfMembers (depth + 1) inner
        (Value.memberNodes (("type", .string form.name) :: members)) .closed form := by
  have hform : FilterForm.reader mode (Value.string form.name).node = .ok form := by
    cases form <;> cases mode <;> rfl
  have hfirst : FilterForm.tagMember depth mode none (.ok "type", (Value.string form.name).node) = .ok (some form) := by
    simp only [FilterForm.tagMember, Reader.key, Except.mapError, bind, Except.bind, hform]
    rfl
  have hrest : ∀ {members : List (String × Value)}, (∀ m ∈ members, m.1 ≠ "type") → (∀ m ∈ members, Fits depth m.2) →
      (Value.memberNodes members).foldlM (FilterForm.tagMember depth mode) (some form) = .ok (some form) := by
    intro members hname hfits
    induction members with
    | nil => rfl
    | cons m members ih =>
      obtain ⟨hne, hname⟩ := List.forall_mem_cons.mp hname
      obtain ⟨hfit, hfits⟩ := List.forall_mem_cons.mp hfits
      have hstep : FilterForm.tagMember depth mode (some form) (.ok m.1, m.2.node) = .ok (some form) := by
        simp only [FilterForm.tagMember, Reader.key, Except.mapError, bind, Except.bind, beq_iff_eq, hne, hfit.toValue]
        rfl
      rw [Value.memberNodes, List.foldlM_cons, hstep]
      exact ih hname hfits
  rw [Value.node, Readers.filterReader, Value.memberNodes]
  simp only [Nat.add_sub_cancel, List.foldlM_cons, hfirst, bind, Except.bind, hrest hname hfits]
  rfl

theorem Filter.toJson_ne_null (filter : Filter) : filter.toJson ≠ .null := by
  cases filter <;> simp [Filter.toJson]

theorem Subquery.toJson_ne_null (query : Subquery) : query.toJson ≠ .null := by
  cases query <;> simp [Subquery.toJson]

theorem Operand.toJson_ne_null (value : Operand) : value.toJson ≠ .null := by
  cases value <;> simp [Operand.toJson]

theorem Table.toJson_ne_null (table : Table) : table.toJson ≠ .null := by
  obtain ⟨name, query, label⟩ := table
  simp [Table.toJson]

/-! ### Parts of a statement -/

mutual

theorem Subquery.reader_node : ∀ {query : Subquery} {depth : Nat} (mode : Mode), Fits depth query.toJson →
    (Readers.ofDepth depth).subquery mode query.toJson.node = .ok query
  | .select s, depth, mode, h => by
    rw [Subquery.toJson] at h ⊢
    obtain ⟨d, rfl, hm⟩ := h.of_object
    have hs := s.reader_node mode (hm ("select", s.toJson) List.mem_cons_self)
    exact choice_member rfl (congrArg (Subquery.select <$> ·) hs)
  | .raw sql, depth, mode, h => by
    rw [Subquery.toJson] at h ⊢
    obtain ⟨d, rfl, hm⟩ := h.of_object
    have hs := sql.reader_node mode (hm ("raw", sql.toJson) List.mem_cons_self)
    exact choice_member rfl (congrArg (Subquery.raw <$> ·) hs)

theorem Subquery.reader_optional : ∀ {query : Option Subquery} {depth : Nat} (mode : Mode),
    (∀ q ∈ query, Fits depth q.toJson) →
    ∀ q ∈ query, q.toJson ≠ .null ∧ (Readers.ofDepth depth).subquery mode q.toJson.node = .ok q
  | none, _, _, _, q, hq => by cases hq
  | some query, depth, mode, h, q, hq => by
    cases hq
    exact ⟨query.toJson_ne_null, query.reader_node mode (h query rfl)⟩

theorem Field.reader_node : ∀ {field : Field} {depth : Nat} (mode : Mode), Fits depth field.toJson →
    (Readers.ofDepth depth).field mode field.toJson.node = .ok field
  | ⟨table, column, query, label⟩, depth, mode, h => by
    rw [Field.toJson, stringMember_eq, stringMember_eq, subqueryMember_eq, stringMember_eq] at h ⊢
    obtain ⟨d, rfl, hm⟩ := h.of_object
    simp only [List.forall_mem_append, forall_mem_memberOf] at hm
    have hquery := Subquery.reader_optional mode hm.1.2
    have hstring : ∀ {o : Option String}, ∀ s ∈ o, _ := fun s _ => string_node mode s
    rw [← List.append_nil (_ ++ memberOf "alias" _ _)]
    simp only [List.append_assoc]
    exact record_of_fills "struct Field" (show ["table", "column", "query", "alias"].Nodup by decide)
      (.optional rfl hstring (.optional rfl hstring (.optional rfl hquery (.optional rfl hstring .nil))))

theorem Field.reader_fields : ∀ {fields : List Field} {depth : Nat} (mode : Mode),
    (∀ v ∈ fieldsToJson fields, Fits depth v) →
    List.Forall₂ (fun v x => (Readers.ofDepth depth).field mode v.node = .ok x) (fieldsToJson fields) fields
  | [], _, _, _ => by
    rw [fieldsToJson]
    exact .nil
  | field :: rest, depth, mode, h => by
    rw [fieldsToJson] at h ⊢
    obtain ⟨hfield, hrest⟩ := List.forall_mem_cons.mp h
    exact .cons (field.reader_node mode hfield) (Field.reader_fields mode hrest)

theorem Table.reader_node : ∀ {table : Table} {depth : Nat} (mode : Mode), Fits depth table.toJson →
    (Readers.ofDepth depth).table mode table.toJson.node = .ok table
  | ⟨name, query, label⟩, depth, mode, h => by
    rw [Table.toJson, stringMember_eq, subqueryMember_eq, stringMember_eq] at h ⊢
    obtain ⟨d, rfl, hm⟩ := h.of_object
    simp only [List.forall_mem_append, forall_mem_memberOf] at hm
    have hquery := Subquery.reader_optional mode hm.1.2
    have hstring : ∀ {o : Option String}, ∀ s ∈ o, _ := fun s _ => string_node mode s
    rw [← List.append_nil (_ ++ memberOf "alias" _ _)]
    simp only [List.append_assoc]
    exact record_of_fills "struct Table" (show ["name", "query", "alias"].Nodup by decide)
      (.optional rfl hstring (.optional rfl hquery (.optional rfl hstring .nil)))

theorem Table.reader_optional : ∀ {table : Option Table} {depth : Nat} (mode : Mode),
    (∀ t ∈ table, Fits depth t.toJson) →
    ∀ t ∈ table, t.toJson ≠ .null ∧ (Readers.ofDepth depth).table mode t.toJson.node = .ok t
  | none, _, _, _, t, ht => by cases ht
  | some table, depth, mode, h, t, ht => by
    cases ht
    exact ⟨table.toJson_ne_null, table.reader_node mode (h table rfl)⟩

theorem Join.reader_node : ∀ {join : Join} {depth : Nat} (mode : Mode), Fits depth join.toJson →
    (Readers.ofDepth depth).join mode join.toJson.node = .ok join
  | ⟨kind, table, condition⟩, depth, mode, h => by
    rw [Join.toJson] at h ⊢
    obtain ⟨d, rfl, hm⟩ := h.of_object
    obtain ⟨-, htable, hcondition, -⟩ := by simpa only [List.forall_mem_cons] using hm
    exact record_of_fills "struct Join" (show ["type", "table", "on"].Nodup by decide)
      (.of (kind.reader_node mode) (.must (table.reader_node mode htable)
        (.must (condition.reader_node mode hcondition) .nil)))

theorem Join.reader_joins : ∀ {joins : List Join} {depth : Nat} (mode : Mode),
    (∀ v ∈ joinsToJson joins, Fits depth v) →
    List.Forall₂ (fun v x => (Readers.ofDepth depth).join mode v.node = .ok x) (joinsToJson joins) joins
  | [], _, _, _ => by
    rw [joinsToJson]
    exact .nil
  | join :: rest, depth, mode, h => by
    rw [joinsToJson] at h ⊢
    obtain ⟨hjoin, hrest⟩ := List.forall_mem_cons.mp h
    exact .cons (join.reader_node mode hjoin) (Join.reader_joins mode hrest)

theorem Operand.reader_node : ∀ {value : Operand} {depth : Nat} (mode : Mode), Fits depth value.toJson →
    (Readers.ofDepth depth).operand mode value.toJson.node = .ok value
  | .column table column, depth, mode, h => by
    rw [Operand.toJson, stringMember_eq] at h ⊢
    obtain ⟨d, rfl, hm⟩ := h.of_object
    obtain ⟨e, rfl, -⟩ := (hm _ List.mem_cons_self).of_object
    have hstring : ∀ {o : Option String}, ∀ s ∈ o, _ := fun s _ => string_node mode s
    have hs : Readers.columnReader (e + 1) mode
        (Value.object (memberOf "table" .string table ++ [("column", .string column)])).node =
          .ok (.column table column) :=
      record_of_fills "struct variant FilterValue::Column" (show ["table", "column"].Nodup by decide)
        (.optional rfl hstring (.must (string_node mode column).2 .nil))
    refine choice_member rfl ?_
    cases mode <;> exact hs
  | .query query, depth, mode, h => by
    rw [Operand.toJson] at h ⊢
    obtain ⟨d, rfl, hm⟩ := h.of_object
    have hs := query.reader_node mode (hm ("query", query.toJson) List.mem_cons_self)
    exact choice_member rfl (congrArg (Operand.query <$> ·) hs)
  | .literal value, depth, mode, h => by
    rw [Operand.toJson] at h ⊢
    obtain ⟨d, rfl, hm⟩ := h.of_object
    have hs := (hm ("literal", value) List.mem_cons_self).toValue
    exact choice_member rfl (congrArg (fun r => Operand.literal <$> Reader.lift r) hs)
  | .null, depth, mode, _ => by
    rw [Operand.toJson]
    cases depth <;> cases mode <;> rfl

theorem Operand.reader_optional : ∀ {value : Option Operand} {depth : Nat} (mode : Mode),
    (∀ v ∈ value, Fits depth v.toJson) →
    ∀ v ∈ value, v.toJson ≠ .null ∧ (Readers.ofDepth depth).operand mode v.toJson.node = .ok v
  | none, _, _, _, v, hv => by cases hv
  | some value, depth, mode, h, v, hv => by
    cases hv
    exact ⟨value.toJson_ne_null, value.reader_node mode (h value rfl)⟩

theorem Filter.reader_node : ∀ {filter : Filter} {depth : Nat} (mode : Mode), Fits depth filter.toJson →
    (Readers.ofDepth depth).filter mode filter.toJson.node = .ok filter
  | .condition field operator value, depth, mode, h => by
    rw [Filter.toJson, operandMember_eq, List.cons_append] at h ⊢
    obtain ⟨d, rfl, hm⟩ := h.of_object
    obtain ⟨-, hm⟩ := List.forall_mem_cons.mp hm
    obtain ⟨⟨hfield, -, -⟩, hvalue⟩ := by
      simpa only [List.forall_mem_append, List.forall_mem_cons, forall_mem_memberOf] using hm
    have hvalue := Operand.reader_optional .held hvalue
    have hname : ∀ m ∈ [("field", field.toJson), ("operator", Value.string operator.name)] ++
        memberOf "value" Operand.toJson value, m.1 ≠ "type" := by
      simp only [List.forall_mem_append, List.forall_mem_cons]
      refine ⟨⟨by decide, by decide, List.forall_mem_nil _⟩, fun m hm => ?_⟩
      rw [fst_of_mem_memberOf hm]
      decide
    have hfills : Fills .held (Readers.conditionSlots (d + 1) (Readers.ofDepth d)) {}
        ([("field", field.toJson), ("operator", Value.string operator.name)] ++ memberOf "value" Operand.toJson value)
        { field, operator, value } := by
      rw [← List.append_nil (memberOf "value" _ _)]
      exact .must (field.reader_node .held hfield) (.must (operator.reader_node .held) (.optional rfl hvalue .nil))
    refine (filterReader_node mode .condition hname hm).trans ?_
    rw [Readers.filterOfMembers, ofMembers_cons_of_forall_ne (by simp [Readers.conditionSlots, Reader.Slot.must,
      Reader.Slot.of]), ofMembers_of_fills hfills (show ["field", "operator", "value"].Nodup by decide)]
    rfl
  | .group logic filters, depth, mode, h => by
    rw [Filter.toJson] at h ⊢
    obtain ⟨d, rfl, hm⟩ := h.of_object
    obtain ⟨-, hm⟩ := List.forall_mem_cons.mp hm
    have hfilters : (Readers.ofDepth d).filters .held (Value.array (filtersToJson filters)).node = .ok filters := by
      obtain ⟨e, rfl, hitems⟩ := (hm ("filters", .array (filtersToJson filters)) (by simp)).of_array
      exact listOf_nodes (Filter.reader_filters .held hitems)
    have hfills : Fills .held (Readers.groupSlots (d + 1) (Readers.ofDepth d)) (.and, [])
        [("logic", Value.string logic.name), ("filters", Value.array (filtersToJson filters))] (logic, filters) :=
      .must (logic.reader_node .held) (.must hfilters .nil)
    refine (filterReader_node mode .group (by simp) hm).trans ?_
    rw [Readers.filterOfMembers, ofMembers_cons_of_forall_ne (by simp [Readers.groupSlots, Reader.Slot.must,
      Reader.Slot.of]), ofMembers_of_fills hfills (show ["logic", "filters"].Nodup by decide)]
    rfl
  | .raw sql, depth, mode, h => by
    rw [Filter.toJson] at h ⊢
    obtain ⟨d, rfl, hm⟩ := h.of_object
    obtain ⟨-, hm⟩ := List.forall_mem_cons.mp hm
    have hargs := hm ("args", .array sql.args) (by simp [RawSql.members])
    refine (filterReader_node mode .raw (by simp [RawSql.members]) hm).trans ?_
    rw [Readers.filterOfMembers, ofMembers_cons_of_forall_ne (by simp [RawSql.slots, Reader.Slot.must,
      Reader.Slot.of])]
    simp only [Nat.add_sub_cancel]
    rw [ofMembers_of_fills (RawSql.fills .held hargs) (show ["sql", "args"].Nodup by decide)]
    rfl

theorem Filter.reader_filters : ∀ {filters : List Filter} {depth : Nat} (mode : Mode),
    (∀ v ∈ filtersToJson filters, Fits depth v) →
    List.Forall₂ (fun v x => (Readers.ofDepth depth).filter mode v.node = .ok x) (filtersToJson filters) filters
  | [], _, _, _ => by
    rw [filtersToJson]
    exact .nil
  | filter :: rest, depth, mode, h => by
    rw [filtersToJson] at h ⊢
    obtain ⟨hfilter, hrest⟩ := List.forall_mem_cons.mp h
    exact .cons (filter.reader_node mode hfilter) (Filter.reader_filters mode hrest)

theorem Filter.reader_optional : ∀ {filter : Option Filter} {depth : Nat} (mode : Mode),
    (∀ f ∈ filter, Fits depth f.toJson) →
    ∀ f ∈ filter, f.toJson ≠ .null ∧ (Readers.ofDepth depth).filter mode f.toJson.node = .ok f
  | none, _, _, _, f, hf => by cases hf
  | some filter, depth, mode, h, f, hf => by
    cases hf
    exact ⟨filter.toJson_ne_null, filter.reader_node mode (h filter rfl)⟩

theorem SortKey.reader_node : ∀ {key : SortKey} {depth : Nat} (mode : Mode), Fits depth key.toJson →
    (Readers.ofDepth depth).sort mode key.toJson.node = .ok key
  | ⟨field, direction⟩, depth, mode, h => by
    rw [SortKey.toJson] at h ⊢
    obtain ⟨d, rfl, hm⟩ := h.of_object
    exact record_of_fills "struct Sort" (show ["field", "direction"].Nodup by decide)
      (.must (field.reader_node mode (hm ("field", field.toJson) List.mem_cons_self))
        (.of (direction.reader_node mode) .nil))

theorem SortKey.reader_sorts : ∀ {sorts : List SortKey} {depth : Nat} (mode : Mode),
    (∀ v ∈ sortsToJson sorts, Fits depth v) →
    List.Forall₂ (fun v x => (Readers.ofDepth depth).sort mode v.node = .ok x) (sortsToJson sorts) sorts
  | [], _, _, _ => by
    rw [sortsToJson]
    exact .nil
  | key :: rest, depth, mode, h => by
    rw [sortsToJson] at h ⊢
    obtain ⟨hkey, hrest⟩ := List.forall_mem_cons.mp h
    exact .cons (key.reader_node mode hkey) (SortKey.reader_sorts mode hrest)

theorem Select.reader_node : ∀ {select : Select} {depth : Nat} (mode : Mode), Fits depth select.toJson →
    (Readers.ofDepth depth).select mode select.toJson.node = .ok select
  | ⟨distinct, fields, table, joins, filter, groupBy, having, sorts, take, skip, label⟩, depth, mode, h => by
    rw [Select.toJson, tableMember_eq, filterMember_eq, filterMember_eq, naturalMember_eq, naturalMember_eq,
      stringMember_eq] at h ⊢
    obtain ⟨d, rfl, hm⟩ := h.of_object
    simp only [List.forall_mem_append, forall_mem_memberOf, List.forall_mem_cons, List.not_mem_nil, false_implies,
      implies_true, and_true, and_assoc] at hm
    obtain ⟨-, hfields, htable, hjoins, hfilter, hgroup, hhaving, hsorts, -, -, -⟩ := hm
    have hfields : (Readers.ofDepth d).fields mode (Value.array (fieldsToJson fields)).node = .ok fields := by
      obtain ⟨e, rfl, hitems⟩ := hfields.of_array
      exact listOf_nodes (Field.reader_fields mode hitems)
    have hjoins : (Readers.ofDepth d).joins mode (Value.array (joinsToJson joins)).node = .ok joins := by
      obtain ⟨e, rfl, hitems⟩ := hjoins.of_array
      exact listOf_nodes (Join.reader_joins mode hitems)
    have hgroup : (Readers.ofDepth d).fields mode (Value.array (fieldsToJson groupBy)).node = .ok groupBy := by
      obtain ⟨e, rfl, hitems⟩ := hgroup.of_array
      exact listOf_nodes (Field.reader_fields mode hitems)
    have hsorts : (Readers.ofDepth d).sorts mode (Value.array (sortsToJson sorts)).node = .ok sorts := by
      obtain ⟨e, rfl, hitems⟩ := hsorts.of_array
      exact listOf_nodes (SortKey.reader_sorts mode hitems)
    have htable := Table.reader_optional mode htable
    have hfilter := Filter.reader_optional mode hfilter
    have hhaving := Filter.reader_optional mode hhaving
    have hnatural : ∀ {o : Option Nat}, ∀ n ∈ o, _ := fun n _ => natural_node mode n
    have hstring : ∀ {o : Option String}, ∀ s ∈ o, _ := fun s _ => string_node mode s
    rw [← List.append_nil (_ ++ memberOf "alias" _ _)]
    simp only [List.append_assoc, List.cons_append, List.nil_append]
    exact record_of_fills "struct SelectRequest" (show ["distinct", "fields", "table", "joins", "filter", "group_by",
        "having", "sorts", "take", "skip", "alias"].Nodup by decide)
      (.of (x := distinct) rfl (.of hfields (.optional rfl htable (.of hjoins (.optional rfl hfilter (.of hgroup
        (.optional rfl hhaving (.of hsorts (.optional rfl hnatural (.optional rfl hnatural
          (.optional rfl hstring .nil)))))))))))

end

/-! ### Statements -/

theorem Insert.reader_node {insert : Insert} (h : Fits depth insert.toJson) :
    Insert.reader depth mode insert.toJson.node = .ok insert := by
  obtain ⟨d, rfl, hm⟩ := h.of_object
  have hcolumns : Reader.listOf d .string mode (Value.array (insert.columns.map .string)).node = .ok insert.columns := by
    obtain ⟨e, rfl, -⟩ := (hm ("columns", .array (insert.columns.map .string)) (by simp)).of_array
    refine listOf_nodes (List.forall₂_map_left_iff.mpr (List.forall₂_same.mpr fun column _ => ?_))
    exact (string_node mode column).2
  have hrows : Reader.listOf d (valuesReader (d - 1)) mode (Value.array (insert.rows.map .array)).node =
      .ok insert.rows := by
    obtain ⟨e, rfl, hitems⟩ := (hm ("rows", .array (insert.rows.map .array)) (by simp)).of_array
    refine listOf_nodes (List.forall₂_map_left_iff.mpr (List.forall₂_same.mpr fun row hrow => ?_))
    exact valuesReader_node mode (hitems _ (List.mem_map_of_mem hrow))
  exact record_of_fills "struct InsertRequest" (show ["table", "columns", "rows"].Nodup by decide)
    (.must (string_node mode insert.table).2 (.must hcolumns (.must hrows .nil)))

theorem Assignment.reader_node {assignment : Assignment} (h : Fits depth assignment.toJson) :
    Assignment.reader depth mode assignment.toJson.node = .ok assignment := by
  obtain ⟨d, rfl, hm⟩ := h.of_object
  have hvalue := assignment.value.reader_node mode (hm ("value", assignment.value.toJson) (by simp))
  exact record_of_fills "struct Assignment" (show ["column", "value"].Nodup by decide)
    (.must (string_node mode assignment.column).2 (.must hvalue .nil))

theorem Update.reader_node {update : Update} (h : Fits depth update.toJson) :
    Update.reader depth mode update.toJson.node = .ok update := by
  obtain ⟨table, set, filter⟩ := update
  rw [Update.toJson, filterMember_eq] at h ⊢
  obtain ⟨d, rfl, hm⟩ := h.of_object
  obtain ⟨⟨-, hset, -⟩, hfilter⟩ := by
    simpa only [List.forall_mem_append, List.forall_mem_cons, forall_mem_memberOf] using hm
  have hset : Reader.listOf d (Assignment.reader (d - 1)) mode (Value.array (set.map Assignment.toJson)).node =
      .ok set := by
    obtain ⟨e, rfl, hitems⟩ := hset.of_array
    refine listOf_nodes (List.forall₂_map_left_iff.mpr (List.forall₂_same.mpr fun assignment ha => ?_))
    exact assignment.reader_node mode (hitems _ (List.mem_map_of_mem ha))
  rw [← List.append_nil (memberOf "filter" _ _)]
  exact record_of_fills "struct UpdateRequest" (show ["table", "set", "filter"].Nodup by decide)
    (.must (string_node mode table).2 (.must hset (.optional rfl (Filter.reader_optional mode hfilter) .nil)))

theorem Delete.reader_node {delete : Delete} (h : Fits depth delete.toJson) :
    Delete.reader depth mode delete.toJson.node = .ok delete := by
  obtain ⟨table, filter⟩ := delete
  rw [Delete.toJson, filterMember_eq] at h ⊢
  obtain ⟨d, rfl, hm⟩ := h.of_object
  obtain ⟨-, hfilter⟩ := by
    simpa only [List.forall_mem_cons, forall_mem_memberOf] using hm
  rw [← List.append_nil (memberOf "filter" _ _)]
  exact record_of_fills "struct DeleteRequest" (show ["table", "filter"].Nodup by decide)
    (.must (string_node mode table).2 (.optional rfl (Filter.reader_optional mode hfilter) .nil))

namespace Statement

theorem reader_node {statement : Statement} (h : Fits depth statement.toJson) :
    Statement.reader depth mode statement.toJson.node = .ok statement := by
  cases statement with
  | select s =>
    obtain ⟨d, rfl, hm⟩ := h.of_object
    have hs := s.reader_node mode (hm ("select", s.toJson) List.mem_cons_self)
    exact choice_member rfl (congrArg (Statement.select <$> ·) hs)
  | insert s =>
    obtain ⟨d, rfl, hm⟩ := h.of_object
    have hs := s.reader_node mode (hm ("insert", s.toJson) List.mem_cons_self)
    exact choice_member rfl (congrArg (Statement.insert <$> ·) hs)
  | update s =>
    obtain ⟨d, rfl, hm⟩ := h.of_object
    have hs := s.reader_node mode (hm ("update", s.toJson) List.mem_cons_self)
    exact choice_member rfl (congrArg (Statement.update <$> ·) hs)
  | delete s =>
    obtain ⟨d, rfl, hm⟩ := h.of_object
    have hs := s.reader_node mode (hm ("delete", s.toJson) List.mem_cons_self)
    exact choice_member rfl (congrArg (Statement.delete <$> ·) hs)
  | raw sql =>
    obtain ⟨d, rfl, hm⟩ := h.of_object
    have hs := sql.reader_node mode (hm ("raw", sql.toJson) List.mem_cons_self)
    exact choice_member rfl (congrArg (Statement.raw <$> ·) hs)

/-- A statement comes back from its text, within any limit that lets the text through: provided that its
    numbers are integers of 64 bits, that the keys of its objects are distinct, and that its text nests no
    deeper than texts may. -/
theorem ofText_compact {statement : Statement} {limit : Nat} (hv : statement.Embeds Value.Exact)
    (hn : statement.toJson.nesting ≤ depthLimit) (hl : statement.toJson.compact.utf8ByteSize ≤ limit) :
    Statement.ofText limit statement.toJson.compact = .ok statement := by
  have hread := reader_node .stream ⟨statement.exact_toJson hv, hn⟩
  rw [Statement.ofText, if_neg (by omega), Reader.ofText, Value.document_compact (statement.exact_toJson hv)]
  simp only [hread, bind, Except.bind]
  rfl

/-- Three kinds of nothing: no value, a null and a literal null. -/
def nothingAtAll : Statement :=
  .delete {
    table := "t"
    filter := some (.group .or [
      .condition { column := some "a" } .isNull none,
      .condition { column := some "b" } .eq (some .null),
      .condition { column := some "c\n" } .ne (some (.literal .null))]) }

def nothingAtAllText : String :=
  "\x7b\"delete\":\x7b\"table\":\"t\",\"filter\":\x7b\"type\":\"group\",\"logic\":\"or\",\"filters\":[" ++
  "\x7b\"type\":\"condition\",\"field\":\x7b\"column\":\"a\"\x7d,\"operator\":\"is null\"\x7d," ++
  "\x7b\"type\":\"condition\",\"field\":\x7b\"column\":\"b\"\x7d,\"operator\":\"=\",\"value\":\"null\"\x7d," ++
  "\x7b\"type\":\"condition\",\"field\":\x7b\"column\":\"c\\n\"\x7d,\"operator\":\"<>\"," ++
  "\"value\":\x7b\"literal\":null\x7d\x7d]\x7d\x7d\x7d"

set_option maxRecDepth 4000 in
theorem nothingAtAll_ofText : Statement.ofText 1000 nothingAtAllText = .ok nothingAtAll := by
  have htext : nothingAtAll.toJson.compact = nothingAtAllText := rfl
  have hv : nothingAtAll.Embeds Value.Exact := by
    simp [nothingAtAll, Statement.Embeds, Filter.EmbedsOptional, Filter.Embeds, Filter.EmbedsIn, Field.Embeds,
      Subquery.EmbedsOptional, Operand.EmbedsOptional, Operand.Embeds, Value.Exact]
  have hl : nothingAtAllText.utf8ByteSize ≤ 1000 := by decide
  rw [← htext] at hl ⊢
  exact ofText_compact hv (by decide) hl

end Statement

end BoundSql
