import BoundSql.Statement.Writer
import BoundSql.Proofs.Record

/-! The JSON in a statement. `Embeds` says of every value that stands in a statement that it has some
    property, the numbers of its pages included. The keys that a statement itself is written with are
    distinct, so the whole is exact when the values in it are (`Statement.exact_toJson`). -/

namespace BoundSql
open Json (Value memberOf keys_memberOf forall_mem_memberOf)

/-! ### Values in a statement -/

mutual

/-- Every value below satisfies `P`. -/
def Subquery.Embeds (P : Value → Prop) : Subquery → Prop
  | .select s => s.Embeds P
  | .raw sql => ∀ v ∈ sql.args, P v

def Subquery.EmbedsOptional (P : Value → Prop) : Option Subquery → Prop
  | none => True
  | some query => query.Embeds P

def Field.Embeds (P : Value → Prop) : Field → Prop
  | { table := _, column := _, query, label := _ } => Subquery.EmbedsOptional P query

def Field.EmbedsIn (P : Value → Prop) : List Field → Prop
  | [] => True
  | field :: rest => field.Embeds P ∧ Field.EmbedsIn P rest

def Table.Embeds (P : Value → Prop) : Table → Prop
  | { name := _, query, label := _ } => Subquery.EmbedsOptional P query

def Table.EmbedsOptional (P : Value → Prop) : Option Table → Prop
  | none => True
  | some table => table.Embeds P

def Join.Embeds (P : Value → Prop) : Join → Prop
  | { kind := _, table, condition } => table.Embeds P ∧ condition.Embeds P

def Join.EmbedsIn (P : Value → Prop) : List Join → Prop
  | [] => True
  | join :: rest => join.Embeds P ∧ Join.EmbedsIn P rest

def Operand.Embeds (P : Value → Prop) : Operand → Prop
  | .column _ _ | .null => True
  | .query query => query.Embeds P
  | .literal value => P value

def Operand.EmbedsOptional (P : Value → Prop) : Option Operand → Prop
  | none => True
  | some value => value.Embeds P

def Filter.Embeds (P : Value → Prop) : Filter → Prop
  | .condition field _ value => field.Embeds P ∧ Operand.EmbedsOptional P value
  | .group _ filters => Filter.EmbedsIn P filters
  | .raw sql => ∀ v ∈ sql.args, P v

def Filter.EmbedsIn (P : Value → Prop) : List Filter → Prop
  | [] => True
  | filter :: rest => filter.Embeds P ∧ Filter.EmbedsIn P rest

def Filter.EmbedsOptional (P : Value → Prop) : Option Filter → Prop
  | none => True
  | some filter => filter.Embeds P

def SortKey.EmbedsIn (P : Value → Prop) : List SortKey → Prop
  | [] => True
  | { field, direction := _ } :: rest => field.Embeds P ∧ SortKey.EmbedsIn P rest

def Select.Embeds (P : Value → Prop) : Select → Prop
  | { distinct := _, fields, table, joins, filter, groupBy, having, sorts, take, skip, label := _ } =>
    Field.EmbedsIn P fields ∧ Table.EmbedsOptional P table ∧ Join.EmbedsIn P joins ∧
      Filter.EmbedsOptional P filter ∧ Field.EmbedsIn P groupBy ∧ Filter.EmbedsOptional P having ∧
      SortKey.EmbedsIn P sorts ∧ (∀ n ∈ take, P (.ofNat n)) ∧ ∀ n ∈ skip, P (.ofNat n)

end

/-- Every value in a statement satisfies `P`, and so do the numbers of its pages. -/
def Statement.Embeds (P : Value → Prop) : Statement → Prop
  | .select s => s.Embeds P
  | .insert s => ∀ row ∈ s.rows, ∀ v ∈ row, P v
  | .update s => (∀ a ∈ s.set, a.value.Embeds P) ∧ Filter.EmbedsOptional P s.filter
  | .delete s => Filter.EmbedsOptional P s.filter
  | .raw sql => ∀ v ∈ sql.args, P v

/-! ### Members that may be absent -/

theorem stringMember_eq (key : String) (o : Option String) : stringMember key o = memberOf key .string o := by
  cases o <;> rfl

theorem naturalMember_eq (key : String) (o : Option Nat) : naturalMember key o = memberOf key .ofNat o := by
  cases o <;> rfl

theorem subqueryMember_eq (o : Option Subquery) : subqueryMember o = memberOf "query" Subquery.toJson o := by
  cases o <;> simp [subqueryMember, memberOf]

theorem tableMember_eq (o : Option Table) : tableMember o = memberOf "table" Table.toJson o := by
  cases o <;> simp [tableMember, memberOf]

theorem filterMember_eq (key : String) (o : Option Filter) :
    filterMember key o = memberOf key Filter.toJson o := by
  cases o <;> simp [filterMember, memberOf]

theorem operandMember_eq (o : Option Operand) : operandMember o = memberOf "value" Operand.toJson o := by
  cases o <;> simp [operandMember, memberOf]

/-! ### Exactness of the whole -/

/-- An object is exact when its keys are among distinct ones in their order and its members are exact. -/
theorem exact_object (keys : List String) {members : List (String × Value)}
    (hk : (members.map Prod.fst).Sublist keys) (hnd : keys.Nodup) (hm : ∀ m ∈ members, m.2.Exact) :
    (Value.object members).Exact := by
  rw [Value.Exact, Value.exactMembers_iff]
  exact ⟨hnd.sublist hk, hm⟩

theorem exact_string (s : String) : (Value.string s).Exact := trivial

theorem exact_array {items : List Value} (h : ∀ v ∈ items, v.Exact) : (Value.array items).Exact := by
  rw [Value.Exact, Value.exactItems_iff]
  exact h

theorem RawSql.exact_members {raw : RawSql} (h : ∀ v ∈ raw.args, v.Exact) : ∀ m ∈ raw.members, m.2.Exact := by
  rw [RawSql.members]
  simp only [List.forall_mem_cons]
  exact ⟨exact_string raw.sql, exact_array h, List.forall_mem_nil _⟩

theorem RawSql.exact_toJson {raw : RawSql} (h : ∀ v ∈ raw.args, v.Exact) : raw.toJson.Exact :=
  exact_object ["sql", "args"] (List.Sublist.refl _) (by decide) (RawSql.exact_members h)

theorem exact_singleton {key : String} {v : Value} (h : v.Exact) : (Value.object [(key, v)]).Exact :=
  exact_object [key] (List.Sublist.refl _) (by simp)
    (List.forall_mem_cons.mpr ⟨h, List.forall_mem_nil _⟩)

mutual

theorem Subquery.exact_toJson : ∀ {query : Subquery}, query.Embeds Value.Exact → query.toJson.Exact
  | .select s, h => by
    rw [Subquery.toJson]
    exact exact_singleton (s.exact_toJson h)
  | .raw sql, h => by
    rw [Subquery.toJson]
    exact exact_singleton (sql.exact_toJson h)

theorem Subquery.exact_optional : ∀ {query : Option Subquery}, Subquery.EmbedsOptional Value.Exact query →
    ∀ q ∈ query, q.toJson.Exact
  | none, _, q, hq => by cases hq
  | some query, h, q, hq => by
    cases hq
    exact query.exact_toJson h

theorem Field.exact_toJson : ∀ {field : Field}, field.Embeds Value.Exact → field.toJson.Exact
  | ⟨table, column, query, label⟩, h => by
    have hquery := Subquery.exact_optional h
    rw [Field.toJson, stringMember_eq, stringMember_eq, subqueryMember_eq, stringMember_eq]
    refine exact_object (["table"] ++ ["column"] ++ ["query"] ++ ["alias"]) ?_ (by decide) ?_
    · simp only [List.map_append]
      exact (((keys_memberOf _ _ _).append (keys_memberOf _ _ _)).append (keys_memberOf _ _ _)).append
        (keys_memberOf _ _ _)
    · simp only [List.forall_mem_append, forall_mem_memberOf]
      exact ⟨⟨⟨fun _ _ => exact_string _, fun _ _ => exact_string _⟩, hquery⟩, fun _ _ => exact_string _⟩

theorem Field.exact_fieldsToJson : ∀ {fields : List Field}, Field.EmbedsIn Value.Exact fields →
    ∀ v ∈ fieldsToJson fields, v.Exact
  | [], _ => List.forall_mem_nil _
  | field :: rest, h => by
    rw [fieldsToJson]
    exact List.forall_mem_cons.mpr ⟨field.exact_toJson h.1, Field.exact_fieldsToJson h.2⟩

theorem Table.exact_toJson : ∀ {table : Table}, table.Embeds Value.Exact → table.toJson.Exact
  | ⟨name, query, label⟩, h => by
    have hquery := Subquery.exact_optional h
    rw [Table.toJson, stringMember_eq, subqueryMember_eq, stringMember_eq]
    refine exact_object (["name"] ++ ["query"] ++ ["alias"]) ?_ (by decide) ?_
    · simp only [List.map_append]
      exact ((keys_memberOf _ _ _).append (keys_memberOf _ _ _)).append (keys_memberOf _ _ _)
    · simp only [List.forall_mem_append, forall_mem_memberOf]
      exact ⟨⟨fun _ _ => exact_string _, hquery⟩, fun _ _ => exact_string _⟩

theorem Table.exact_optional : ∀ {table : Option Table}, Table.EmbedsOptional Value.Exact table →
    ∀ t ∈ table, t.toJson.Exact
  | none, _, t, ht => by cases ht
  | some table, h, t, ht => by
    cases ht
    exact table.exact_toJson h

theorem Join.exact_toJson : ∀ {join : Join}, join.Embeds Value.Exact → join.toJson.Exact
  | ⟨kind, table, condition⟩, h => by
    rw [Join.toJson]
    refine exact_object ["type", "table", "on"] (List.Sublist.refl _) (by decide) ?_
    simp only [List.forall_mem_cons]
    exact ⟨exact_string _, table.exact_toJson h.1, condition.exact_toJson h.2, List.forall_mem_nil _⟩

theorem Join.exact_joinsToJson : ∀ {joins : List Join}, Join.EmbedsIn Value.Exact joins →
    ∀ v ∈ joinsToJson joins, v.Exact
  | [], _ => List.forall_mem_nil _
  | join :: rest, h => by
    rw [joinsToJson]
    exact List.forall_mem_cons.mpr ⟨join.exact_toJson h.1, Join.exact_joinsToJson h.2⟩

theorem Operand.exact_toJson : ∀ {value : Operand}, value.Embeds Value.Exact → value.toJson.Exact
  | .column table column, _ => by
    rw [Operand.toJson, stringMember_eq]
    refine exact_singleton (exact_object (["table"] ++ ["column"]) ?_ (by decide) ?_)
    · rw [List.map_append]
      exact (keys_memberOf _ _ _).append (List.Sublist.refl _)
    · simp only [List.forall_mem_append, forall_mem_memberOf, List.forall_mem_cons]
      exact ⟨fun _ _ => exact_string _, exact_string _, List.forall_mem_nil _⟩
  | .query query, h => by
    rw [Operand.toJson]
    exact exact_singleton (query.exact_toJson h)
  | .literal value, h => by
    rw [Operand.toJson]
    exact exact_singleton h
  | .null, _ => by
    rw [Operand.toJson]
    exact exact_string _

theorem Operand.exact_optional : ∀ {value : Option Operand}, Operand.EmbedsOptional Value.Exact value →
    ∀ v ∈ value, v.toJson.Exact
  | none, _, v, hv => by cases hv
  | some value, h, v, hv => by
    cases hv
    exact value.exact_toJson h

theorem Filter.exact_toJson : ∀ {filter : Filter}, filter.Embeds Value.Exact → filter.toJson.Exact
  | .condition field operator value, h => by
    have hvalue := Operand.exact_optional h.2
    rw [Filter.toJson, operandMember_eq]
    refine exact_object (["type", "field", "operator"] ++ ["value"]) ?_ (by decide) ?_
    · rw [List.map_append]
      exact (List.Sublist.refl _).append (keys_memberOf _ _ _)
    · simp only [List.forall_mem_append, forall_mem_memberOf, List.forall_mem_cons]
      exact ⟨⟨exact_string _, field.exact_toJson h.1, exact_string _, List.forall_mem_nil _⟩, hvalue⟩
  | .group logic filters, h => by
    rw [Filter.toJson]
    refine exact_object ["type", "logic", "filters"] (List.Sublist.refl _) (by decide) ?_
    simp only [List.forall_mem_cons]
    exact ⟨exact_string _, exact_string _, exact_array (Filter.exact_filtersToJson h), List.forall_mem_nil _⟩
  | .raw sql, h => by
    rw [Filter.toJson]
    refine exact_object ["type", "sql", "args"] (List.Sublist.refl _) (by decide) ?_
    exact List.forall_mem_cons.mpr ⟨exact_string _, sql.exact_members h⟩

theorem Filter.exact_filtersToJson : ∀ {filters : List Filter}, Filter.EmbedsIn Value.Exact filters →
    ∀ v ∈ filtersToJson filters, v.Exact
  | [], _ => List.forall_mem_nil _
  | filter :: rest, h => by
    rw [filtersToJson]
    exact List.forall_mem_cons.mpr ⟨filter.exact_toJson h.1, Filter.exact_filtersToJson h.2⟩

theorem Filter.exact_optional : ∀ {filter : Option Filter}, Filter.EmbedsOptional Value.Exact filter →
    ∀ f ∈ filter, f.toJson.Exact
  | none, _, f, hf => by cases hf
  | some filter, h, f, hf => by
    cases hf
    exact filter.exact_toJson h

theorem SortKey.exact_toJson : ∀ {key : SortKey}, key.field.Embeds Value.Exact → key.toJson.Exact
  | ⟨field, direction⟩, h => by
    rw [SortKey.toJson]
    refine exact_object ["field", "direction"] (List.Sublist.refl _) (by decide) ?_
    simp only [List.forall_mem_cons]
    exact ⟨field.exact_toJson h, exact_string _, List.forall_mem_nil _⟩

theorem SortKey.exact_sortsToJson : ∀ {sorts : List SortKey}, SortKey.EmbedsIn Value.Exact sorts →
    ∀ v ∈ sortsToJson sorts, v.Exact
  | [], _ => List.forall_mem_nil _
  | ⟨field, direction⟩ :: rest, h => by
    rw [sortsToJson]
    exact List.forall_mem_cons.mpr ⟨SortKey.exact_toJson h.1, SortKey.exact_sortsToJson h.2⟩

theorem Select.exact_toJson : ∀ {select : Select}, select.Embeds Value.Exact → select.toJson.Exact
  | ⟨distinct, fields, table, joins, filter, groupBy, having, sorts, take, skip, label⟩, h => by
    obtain ⟨hfields, htable, hjoins, hfilter, hgroup, hhaving, hsorts, htake, hskip⟩ := h
    rw [Select.toJson, tableMember_eq, filterMember_eq, filterMember_eq, naturalMember_eq, naturalMember_eq,
      stringMember_eq]
    refine exact_object (["distinct", "fields"] ++ ["table"] ++ ["joins"] ++ ["filter"] ++ ["group_by"] ++
      ["having"] ++ ["sorts"] ++ ["take"] ++ ["skip"] ++ ["alias"]) ?_ (by decide) ?_
    · simp only [List.map_append]
      exact ((((((((((List.Sublist.refl _).append (keys_memberOf _ _ _)).append (List.Sublist.refl _)).append
        (keys_memberOf _ _ _)).append (List.Sublist.refl _)).append (keys_memberOf _ _ _)).append
        (List.Sublist.refl _)).append (keys_memberOf _ _ _)).append (keys_memberOf _ _ _)).append
        (keys_memberOf _ _ _))
    · simp only [List.forall_mem_append, forall_mem_memberOf, List.forall_mem_cons, List.not_mem_nil,
        false_implies, implies_true, and_true, and_assoc]
      exact ⟨trivial, exact_array (Field.exact_fieldsToJson hfields), Table.exact_optional htable,
        exact_array (Join.exact_joinsToJson hjoins), Filter.exact_optional hfilter,
        exact_array (Field.exact_fieldsToJson hgroup), Filter.exact_optional hhaving,
        exact_array (SortKey.exact_sortsToJson hsorts), htake, hskip, fun _ _ => exact_string _⟩

end

theorem Assignment.exact_toJson {assignment : Assignment} (h : assignment.value.Embeds Value.Exact) :
    assignment.toJson.Exact := by
  refine exact_object ["column", "value"] (List.Sublist.refl _) (by decide) ?_
  simp only [List.forall_mem_cons]
  exact ⟨exact_string _, Operand.exact_toJson h, List.forall_mem_nil _⟩

/-- A statement is written as an exact value when the values in it are exact. -/
theorem Statement.exact_toJson {statement : Statement} (h : statement.Embeds Value.Exact) :
    statement.toJson.Exact := by
  cases statement with
  | select s => exact exact_singleton (Select.exact_toJson h)
  | raw sql => exact exact_singleton (RawSql.exact_toJson h)
  | insert s =>
    refine exact_singleton (exact_object ["table", "columns", "rows"] (List.Sublist.refl _) (by decide) ?_)
    simp only [List.forall_mem_cons]
    refine ⟨exact_string _, exact_array ?_, exact_array ?_, List.forall_mem_nil _⟩
    · simp only [List.forall_mem_map]
      exact fun _ _ => exact_string _
    · simp only [List.forall_mem_map]
      exact fun row hrow => exact_array (h row hrow)
  | update s =>
    refine exact_singleton (exact_object (["table", "set"] ++ ["filter"]) ?_ (by decide) ?_)
    · rw [filterMember_eq, List.map_append]
      exact (List.Sublist.refl _).append (keys_memberOf _ _ _)
    · rw [filterMember_eq]
      simp only [List.forall_mem_append, forall_mem_memberOf, List.forall_mem_cons]
      refine ⟨⟨exact_string _, exact_array ?_, List.forall_mem_nil _⟩, Filter.exact_optional h.2⟩
      simp only [List.forall_mem_map]
      exact fun a ha => Assignment.exact_toJson (h.1 a ha)
  | delete s =>
    refine exact_singleton (exact_object (["table"] ++ ["filter"]) ?_ (by decide) ?_)
    · rw [filterMember_eq, List.map_cons]
      exact (List.Sublist.refl ["table"]).append (keys_memberOf _ _ _)
    · rw [filterMember_eq]
      simp only [forall_mem_memberOf, List.forall_mem_cons]
      exact ⟨exact_string _, Filter.exact_optional h⟩

end BoundSql
