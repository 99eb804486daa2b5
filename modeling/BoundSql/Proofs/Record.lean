import BoundSql.Json.Reader
import BoundSql.Proofs.Tree

/-! Reading records and choices that were written. A record is written in the order of its fields, without
    those that are absent, and `Fills` follows its reader along these fields; then the record is read as a
    whole (`record_of_fills`). A choice is read from its name or from its one member. -/

namespace BoundSql.Json

/-! ### What fits a reader -/

/-- A value that a reader may read which can open `depth` more brackets. -/
structure Fits (depth : Nat) (v : Value) : Prop where
  exact : v.Exact
  nesting : v.nesting ≤ depth

namespace Value

theorem exactItems_iff {items : List Value} : ExactItems items ↔ ∀ v ∈ items, v.Exact := by
  induction items with
  | nil => simp [ExactItems]
  | cons v rest ih => rw [ExactItems, ih, List.forall_mem_cons]

theorem exactMembers_iff {members : List (String × Value)} : ExactMembers members ↔ ∀ m ∈ members, m.2.Exact := by
  induction members with
  | nil => simp [ExactMembers]
  | cons m rest ih => rw [ExactMembers, ih, List.forall_mem_cons]

theorem nestingItems_le_iff {depth : Nat} {items : List Value} :
    nestingItems items ≤ depth ↔ ∀ v ∈ items, v.nesting ≤ depth := by
  induction items with
  | nil => simp [nestingItems]
  | cons v rest ih => rw [nestingItems, Nat.max_le, ih, List.forall_mem_cons]

theorem nestingMembers_le_iff {depth : Nat} {members : List (String × Value)} :
    nestingMembers members ≤ depth ↔ ∀ m ∈ members, m.2.nesting ≤ depth := by
  induction members with
  | nil => simp [nestingMembers]
  | cons m rest ih => rw [nestingMembers, Nat.max_le, ih, List.forall_mem_cons]

end Value

namespace Fits
variable {depth : Nat}

theorem toValue {v : Value} (h : Fits depth v) : v.node.toValue depth = .ok v :=
  Value.toValue_node h.exact h.nesting

/-- A bracket is there to be opened, and the items fit inside it. -/
theorem of_array {items : List Value} (h : Fits depth (.array items)) :
    ∃ d, depth = d + 1 ∧ ∀ v ∈ items, Fits d v := by
  obtain ⟨he, hn⟩ := h
  rw [Value.Exact, Value.exactItems_iff] at he
  rw [Value.nesting] at hn
  obtain ⟨d, rfl⟩ := Nat.exists_eq_succ_of_ne_zero (show depth ≠ 0 by omega)
  have hn' : Value.nestingItems items ≤ d := by omega
  exact ⟨d, rfl, fun v hv => ⟨he v hv, Value.nestingItems_le_iff.mp hn' v hv⟩⟩

theorem of_object {members : List (String × Value)} (h : Fits depth (.object members)) :
    ∃ d, depth = d + 1 ∧ ∀ m ∈ members, Fits d m.2 := by
  obtain ⟨he, hn⟩ := h
  rw [Value.Exact, Value.exactMembers_iff] at he
  rw [Value.nesting] at hn
  obtain ⟨d, rfl⟩ := Nat.exists_eq_succ_of_ne_zero (show depth ≠ 0 by omega)
  have hn' : Value.nestingMembers members ≤ d := by omega
  exact ⟨d, rfl, fun m hm => ⟨he.2 m hm, Value.nestingMembers_le_iff.mp hn' m hm⟩⟩

end Fits

/-! ### Members that may be absent -/

/-- A member that is written when there is something to write. -/
def memberOf {α : Type} (key : String) (toJson : α → Value) (o : Option α) : List (String × Value) :=
  (o.map fun x => (key, toJson x)).toList

theorem keys_memberOf {α : Type} (key : String) (toJson : α → Value) (o : Option α) :
    ((memberOf key toJson o).map Prod.fst).Sublist [key] := by
  cases o with
  | none => exact List.nil_sublist _
  | some x => exact List.Sublist.refl _

theorem fst_of_mem_memberOf {α : Type} {key : String} {toJson : α → Value} {o : Option α} {m : String × Value}
    (h : m ∈ memberOf key toJson o) : m.1 = key := by
  obtain ⟨x, -, rfl⟩ : ∃ x ∈ o, (key, toJson x) = m := by simpa [memberOf] using h
  rfl

theorem forall_mem_memberOf {α : Type} {P : Value → Prop} {key : String} {toJson : α → Value} {o : Option α} :
    (∀ m ∈ memberOf key toJson o, P m.2) ↔ ∀ x ∈ o, P (toJson x) := by
  cases o <;> simp [memberOf]

namespace Reader
variable {α β : Type} {mode : Mode} {slot : Slot α} {slots : List (Slot α)} {a a' : α}
  {members : List (String × Value)}

/-! ### Records -/

/-- The members, in the order of the slots, take the record from `a` to `a'`. -/
inductive Fills (mode : Mode) : List (Slot α) → α → List (String × Value) → α → Prop
  | nil {a : α} : Fills mode [] a [] a
  | skip {slot : Slot α} {slots : List (Slot α)} {a a' : α} {members : List (String × Value)}
      (h : slot.required = false) (rest : Fills mode slots a members a') : Fills mode (slot :: slots) a members a'
  | give {slot : Slot α} {slots : List (Slot α)} {a b a' : α} {v : Value} {members : List (String × Value)}
      (h : slot.read a mode v.node = .ok b) (rest : Fills mode slots b members a') :
      Fills mode (slot :: slots) a ((slot.name, v) :: members) a'

theorem optional_node {reader : Reader β} {v : Value} (h : v ≠ .null) :
    optional reader mode v.node = some <$> reader mode v.node := by
  cases v with
  | null => exact absurd rfl h
  | bool b => rfl
  | number n => rfl
  | string s => rfl
  | array items => rfl
  | object members => rfl

namespace Fills

theorem of {name : String} {reader : Reader β} {set : α → β → α} {v : Value} {x : β}
    (h : reader mode v.node = .ok x) (rest : Fills mode slots (set a x) members a') :
    Fills mode (Slot.of name reader set :: slots) a ((name, v) :: members) a' := by
  have hset : (Slot.of name reader set).read a mode v.node = .ok (set a x) := by
    show set a <$> reader mode v.node = _
    rw [h]
    rfl
  exact .give hset rest

theorem must {name : String} {reader : Reader β} {set : α → β → α} {v : Value} {x : β}
    (h : reader mode v.node = .ok x) (rest : Fills mode slots (set a x) members a') :
    Fills mode (Slot.must name reader set :: slots) a ((name, v) :: members) a' := by
  have hset : (Slot.must name reader set).read a mode v.node = .ok (set a x) := by
    show set a <$> reader mode v.node = _
    rw [h]
    rfl
  exact .give hset rest

/-- A field that is written only when it is there. -/
theorem optional {name : String} {reader : Reader β} {set : α → Option β → α} {toJson : β → Value} {o : Option β}
    (hnone : set a none = a) (hread : ∀ x ∈ o, toJson x ≠ .null ∧ reader mode (toJson x).node = .ok x)
    (rest : Fills mode slots (set a o) members a') :
    Fills mode (Slot.of name (.optional reader) set :: slots) a
      (memberOf name toJson o ++ members) a' := by
  cases o with
  | none =>
    rw [hnone] at rest
    exact .skip rfl rest
  | some x =>
    obtain ⟨hnull, hx⟩ := hread x rfl
    have hsome : Reader.optional reader mode (toJson x).node = .ok (some x) := by
      rw [optional_node hnull, hx]
      rfl
    exact .of hsome rest

end Fills

theorem name_notMem_of_nodup {done : List (Slot α)} (h : ((done ++ slot :: slots).map Slot.name).Nodup) :
    slot.name ∉ done.map Slot.name := by
  intro hm
  rw [List.map_append, List.nodup_append] at h
  exact h.2.2 _ hm _ List.mem_cons_self rfl

/-- A slot is found by its name behind slots of other names. -/
theorem find?_slot {done : List (Slot α)} (h : ((done ++ slot :: slots).map Slot.name).Nodup) :
    (done ++ slot :: slots).find? (·.name == slot.name) = some slot := by
  have hdone : done.find? (·.name == slot.name) = none := by
    rw [List.find?_eq_none]
    intro other ho hname
    exact name_notMem_of_nodup h (by rw [← beq_iff_eq.mp hname]; exact List.mem_map_of_mem ho)
  rw [List.find?_append, hdone, Option.none_or, List.find?_cons_of_pos (by simp)]

/-- The members fill the slots that are still open, behind others that are done. -/
theorem foldlM_member {todo : List (Slot α)} (h : Fills mode todo a members a') :
    ∀ (done : List (Slot α)) (seen : List String), ((done ++ todo).map Slot.name).Nodup →
      (∀ name ∈ seen, name ∈ done.map Slot.name) →
      ∃ seen', (Value.memberNodes members).foldlM (member (done ++ todo) mode) (a, seen) = .ok (a', seen') ∧
        (∀ name ∈ seen, name ∈ seen') ∧ ∀ slot ∈ todo, slot.required = true → slot.name ∈ seen' := by
  induction h with
  | nil => exact fun _ _ _ _ => ⟨_, rfl, fun _ hn => hn, by simp⟩
  | @skip slot slots a a' members hr _ ih =>
    intro done seen hnd hseen
    rw [List.append_cons] at hnd ⊢
    obtain ⟨seen', hfold, hkeep, hreq⟩ := ih (done ++ [slot]) seen hnd fun name hn => by
      rw [List.map_append]
      exact List.mem_append_left _ (hseen name hn)
    refine ⟨seen', hfold, hkeep, List.forall_mem_cons.mpr ⟨fun h => ?_, hreq⟩⟩
    rw [hr] at h
    cases h
  | @give slot slots a b a' v members hread _ ih =>
    intro done seen hnd hseen
    have hfind := find?_slot hnd
    have hstep : member (done ++ slot :: slots) mode (a, seen) (.ok slot.name, v.node) =
        .ok (b, slot.name :: seen) := by
      have hc : seen.contains slot.name = false := by
        rw [Bool.eq_false_iff]
        intro hc
        exact name_notMem_of_nodup hnd (hseen _ (by simpa using hc))
      simp only [member, key, Except.mapError, bind, Except.bind, hfind, hc, hread]
      rfl
    rw [List.append_cons] at hnd
    obtain ⟨seen', hfold, hkeep, hreq⟩ := ih (done ++ [slot]) (slot.name :: seen) hnd fun name hn => by
      rw [List.map_append, List.mem_append]
      rcases List.mem_cons.mp hn with rfl | hn
      · exact Or.inr List.mem_cons_self
      · exact Or.inl (hseen name hn)
    obtain ⟨hname, hkeep⟩ := List.forall_mem_cons.mp hkeep
    refine ⟨seen', ?_, hkeep, List.forall_mem_cons.mpr ⟨fun _ => hname, hreq⟩⟩
    rw [Value.memberNodes, List.foldlM_cons, hstep, List.append_cons]
    exact hfold

/-- A record is read from the members that fill its slots. -/
theorem ofMembers_of_fills (h : Fills mode slots a members a') (hnd : (slots.map Slot.name).Nodup) :
    ofMembers slots a mode (Value.memberNodes members) .closed = .ok a' := by
  obtain ⟨seen, hfold, -, hreq⟩ := foldlM_member h [] [] hnd (by simp)
  have hfind : slots.find? (fun slot => slot.required && !seen.contains slot.name) = none := by
    rw [List.find?_eq_none]
    intro slot hs hmissing
    rw [Bool.and_eq_true] at hmissing
    simp [hreq slot hs hmissing.1] at hmissing
  rw [List.nil_append] at hfold
  simp only [ofMembers, hfold, bind, Except.bind, hfind]
  rfl

theorem record_of_fills {depth : Nat} (title : String) (hnd : (slots.map Slot.name).Nodup)
    (h : Fills mode slots a members a') :
    record (depth + 1) title slots a mode (Value.object members).node = .ok a' := by
  rw [Value.node, record]
  exact ofMembers_of_fills h hnd

/-- A member that no slot asks for is passed over. -/
theorem ofMembers_cons_of_forall_ne {name : String} (hn : ∀ slot ∈ slots, slot.name ≠ name) (v : Value) :
    ofMembers slots a mode (Value.memberNodes ((name, v) :: members)) .closed =
      ofMembers slots a mode (Value.memberNodes members) .closed := by
  have hfind : slots.find? (·.name == name) = none := by
    rw [List.find?_eq_none]
    intro slot hs
    simpa using hn slot hs
  have hstep : member slots mode (a, []) (.ok name, v.node) = .ok (a, []) := by
    simp only [member, key, Except.mapError, bind, Except.bind, hfind, lift, v.skip_node]
    rfl
  simp only [ofMembers, Value.memberNodes, List.foldlM_cons, hstep, bind, Except.bind]
  rfl

/-! ### Lists -/

theorem mapM_nodes {item : Reader β} : ∀ {items : List Value} {xs : List β},
    List.Forall₂ (fun v x => item mode v.node = .ok x) items xs → (Value.nodes items).mapM (item mode) = .ok xs
  | [], [], .nil => rfl
  | v :: items, x :: xs, .cons h hs => by
    rw [Value.nodes, List.mapM_cons, h, mapM_nodes hs]
    rfl

theorem listOf_nodes {depth : Nat} {item : Reader β} {items : List Value} {xs : List β}
    (h : List.Forall₂ (fun v x => item mode v.node = .ok x) items xs) :
    listOf (depth + 1) item mode (Value.array items).node = .ok xs := by
  rw [Value.node, listOf, mapM_nodes h]
  rfl

/-! ### Choices -/

theorem choice_member {depth : Nat} {variants : List (Variant β)} {name kind : String} {names : List String}
    {reader : Reader β} {v : Value} {x : β}
    (hfind : variants.find? (·.names.contains name) = some ⟨names, .holding kind reader⟩)
    (hread : reader mode v.node = .ok x) :
    choice (depth + 1) variants mode (Value.object [(name, v)]).node = .ok x := by
  have hmember : ofMember variants mode (.ok name, v.node) = .ok x := by
    simp only [ofMember, key, Except.mapError, form, hfind, bind, Except.bind, Form.read, hread]
  rw [Value.node, Value.memberNodes, Value.memberNodes]
  cases mode with
  | stream =>
    rw [choice]
    simp only [hmember, bind, Except.bind]
    rfl
  | held =>
    rw [choice]
    exact hmember

end Reader
end BoundSql.Json
