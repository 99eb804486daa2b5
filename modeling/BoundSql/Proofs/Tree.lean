import BoundSql.Json.Document
import BoundSql.Proofs.Lexing

/-! Values as trees. The tokens of a value build a tree without faults (`document_compact`), and the value is read
    from it again when its brackets nest no deeper than allowed and its keys are distinct (`toValue_node`). -/

namespace BoundSql.Json
open Document

namespace Value

/-! ### Trees of values -/

mutual

/-- The tree of a value's text. -/
def node : Value → Node
  | .null => .null
  | .bool b => .bool b
  | .number n => .number n
  | .string s => .string s
  | .array items => .list (nodes items) .closed
  | .object members => .object (memberNodes members) .closed

def nodes : List Value → List Node
  | [] => []
  | v :: rest => v.node :: nodes rest

def memberNodes : List (String × Value) → List (Key × Node)
  | [] => []
  | (key, v) :: rest => (.ok key, v.node) :: memberNodes rest

end

/-! ### Building a tree -/

/-- A place where a value may start. -/
def Awaits (progress : Progress) (frames : List Frame) : Prop :=
  ∀ token, token ≠ .closeList → step progress token = start frames token

theorem awaits_value (frames : List Frame) : Awaits (.value frames) frames := fun _ _ => rfl

theorem awaits_firstItem (frames : List Frame) : Awaits (.firstItem frames) (.list [] :: frames) := by
  intro token h
  rw [step, if_neg h]

theorem awaits_nextItem (before : List Node) (frames : List Frame) :
    Awaits (.nextItem before frames) (.list before :: frames) := by
  intro token h
  rw [step, if_neg h]

mutual

/-- The tokens of a value build its tree. -/
theorem foldl_toTokens : ∀ (v : Value) {progress : Progress} {frames : List Frame}, Awaits progress frames →
    v.toTokens.foldl step progress = .after v.node frames
  | .null, _, _, h => h .null (by simp)
  | .bool b, _, _, h => h (.bool b) (by simp)
  | .number n, _, _, h => h (.number n) (by simp)
  | .string s, _, _, h => h (.string s) (by simp)
  | .array items, progress, frames, h => by
    have hopen : step progress .openList = .firstItem frames := h .openList (by simp)
    rw [toTokens, List.foldl_cons, hopen, node]
    cases items with
    | nil => rfl
    | cons v rest =>
      rw [itemTokens, List.nil_append, List.append_assoc, List.foldl_append,
        foldl_toTokens v (awaits_firstItem frames), foldl_itemTokens rest]
      rfl
  | .object members, progress, frames, h => by
    have hopen : step progress .openObject = .firstKey frames := h .openObject (by simp)
    rw [toTokens, List.foldl_cons, hopen, node]
    cases members with
    | nil => rfl
    | cons m rest =>
      obtain ⟨key, v⟩ := m
      have hkey : step (step (.firstKey frames) (.string key)) .colon = .value (.object [] (.ok key) :: frames) := rfl
      rw [memberTokens, List.nil_append, List.append_assoc, List.cons_append, List.cons_append, List.foldl_cons,
        List.foldl_cons, hkey, List.foldl_append, foldl_toTokens v (awaits_value _), foldl_memberTokens rest]
      rfl

/-- The items behind the first, and the bracket that closes the list. -/
theorem foldl_itemTokens : ∀ (items : List Value) {before : List Node} {n : Node} {frames : List Frame},
    (itemTokens [.comma] items ++ [Token.closeList]).foldl step (.after n (.list before :: frames)) =
      .after (.list ((n :: before).reverse ++ nodes items) .closed) frames
  | [], before, n, frames => by
    rw [nodes, List.append_nil]
    rfl
  | v :: rest, before, n, frames => by
    have hcomma : step (.after n (.list before :: frames)) .comma = .nextItem (n :: before) frames := rfl
    rw [itemTokens, List.append_assoc, List.append_assoc, List.singleton_append, List.foldl_cons, hcomma,
      List.foldl_append, foldl_toTokens v (awaits_nextItem _ _), foldl_itemTokens rest, nodes,
      List.reverse_cons (a := v.node), List.append_assoc, List.singleton_append]

theorem foldl_memberTokens : ∀ (members : List (String × Value)) {before : List (Key × Node)} {key : Key} {n : Node}
    {frames : List Frame},
    (memberTokens [.comma] members ++ [Token.closeObject]).foldl step (.after n (.object before key :: frames)) =
      .after (.object (((key, n) :: before).reverse ++ memberNodes members) .closed) frames
  | [], before, key, n, frames => by
    rw [memberNodes, List.append_nil]
    rfl
  | (name, v) :: rest, before, key, n, frames => by
    have hcomma : step (step (step (.after n (.object before key :: frames)) .comma) (.string name)) .colon =
        .value (.object ((key, n) :: before) (.ok name) :: frames) := rfl
    rw [memberTokens, List.append_assoc, List.append_assoc, List.singleton_append, List.foldl_cons,
      List.cons_append, List.cons_append, List.foldl_cons, List.foldl_cons, hcomma, List.foldl_append,
      foldl_toTokens v (awaits_value _), foldl_memberTokens rest, memberNodes,
      List.reverse_cons (a := (Except.ok name, v.node)), List.append_assoc, List.singleton_append]

end

/-- A text that is cut into the tokens of a value is a document without faults. -/
theorem document_of_tokens {v : Value} {text : String} (h : tokens text = v.toTokens) :
    Document.ofText text = ⟨v.node, false⟩ := by
  rw [Document.ofText, Document.ofTokens, h, foldl_toTokens v (awaits_value [])]
  rfl

theorem document_compact {v : Value} (hv : v.Exact) : Document.ofText v.compact = ⟨v.node, false⟩ :=
  document_of_tokens (tokens_compact hv)

/-! ### Reading a tree -/

mutual

/-- How many brackets of a value are open at once. -/
def nesting : Value → Nat
  | .null | .bool _ | .number _ | .string _ => 0
  | .array items => 1 + nestingItems items
  | .object members => 1 + nestingMembers members

def nestingItems : List Value → Nat
  | [] => 0
  | v :: rest => max v.nesting (nestingItems rest)

def nestingMembers : List (String × Value) → Nat
  | [] => 0
  | (_, v) :: rest => max v.nesting (nestingMembers rest)

end

mutual

/-- A reader that does not want the value finds no fault in it. -/
theorem skip_node : ∀ v : Value, v.node.skip = .ok ()
  | .null | .bool _ | .number _ | .string _ => rfl
  | .array items => by
    rw [node, Node.skip, skipItems_nodes items]
    rfl
  | .object members => by
    rw [node, Node.skip, skipMembers_memberNodes members]
    rfl

theorem skipItems_nodes : ∀ items : List Value, Node.skipItems (nodes items) = .ok ()
  | [] => rfl
  | v :: rest => by
    rw [nodes, Node.skipItems, skip_node v, skipItems_nodes rest]
    rfl

theorem skipMembers_memberNodes : ∀ members : List (String × Value), Node.skipMembers (memberNodes members) = .ok ()
  | [] => rfl
  | (key, v) :: rest => by
    rw [memberNodes, Node.skipMembers, skip_node v, skipMembers_memberNodes rest]
    rfl

end

theorem put_of_not_mem {members : List (String × Value)} {key : String} (h : key ∉ members.map Prod.fst) (v : Value) :
    put members key v = members ++ [(key, v)] := by
  rw [put, if_neg]
  simpa using h

mutual

/-- An exact value is read from its tree, if that nests no deeper than allowed. -/
theorem toValue_node : ∀ {v : Value} {depth : Nat}, v.Exact → v.nesting ≤ depth → v.node.toValue depth = .ok v
  | .null, _, _, _ | .bool _, _, _, _ | .number _, _, _, _ | .string _, _, _, _ => by rw [node, Node.toValue]
  | .array items, depth, hv, hn => by
    rw [Exact] at hv
    rw [nesting] at hn
    rw [node, Node.toValue, if_neg (by omega), toItems_nodes [] hv (by omega)]
    rfl
  | .object members, depth, hv, hn => by
    rw [Exact] at hv
    rw [nesting] at hn
    rw [node, Node.toValue, if_neg (by omega), toMembers_memberNodes [] hv.1 hv.2 (by omega)]
    rfl

theorem toItems_nodes : ∀ {items : List Value} {depth : Nat} (before : List Value), ExactItems items →
    nestingItems items ≤ depth → Node.toItems depth before (nodes items) = .ok (before.reverse ++ items)
  | [], depth, before, _, _ => by rw [nodes, Node.toItems, List.append_nil]
  | v :: rest, depth, before, hv, hn => by
    rw [nestingItems] at hn
    rw [nodes, Node.toItems, toValue_node hv.1 (by omega)]
    have hrest : nestingItems rest ≤ depth := by omega
    have ih := toItems_nodes (v :: before) hv.2 hrest
    rw [List.reverse_cons, List.append_assoc, List.singleton_append] at ih
    exact ih

theorem toMembers_memberNodes : ∀ {members : List (String × Value)} {depth : Nat} (before : List (String × Value)),
    ((before ++ members).map Prod.fst).Nodup → ExactMembers members → nestingMembers members ≤ depth →
      Node.toMembers depth before (memberNodes members) = .ok (before ++ members)
  | [], depth, before, _, _, _ => by rw [memberNodes, Node.toMembers, List.append_nil]
  | (key, v) :: rest, depth, before, hk, hv, hn => by
    rw [nestingMembers] at hn
    have hkey : key ∉ before.map Prod.fst := by
      intro hm
      rw [List.map_append, List.nodup_append] at hk
      exact hk.2.2 key hm key List.mem_cons_self rfl
    rw [List.append_cons] at hk
    have hrest : nestingMembers rest ≤ depth := by omega
    have ih := toMembers_memberNodes (before ++ [(key, v)]) hk hv.2 hrest
    rw [memberNodes, Node.toMembers, toValue_node hv.1 (by omega)]
    rw [List.append_assoc, List.singleton_append, ← put_of_not_mem hkey v] at ih
    exact ih

end

end Value
end BoundSql.Json
