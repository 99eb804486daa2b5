import BoundSql.Command.Settings

/-! Files of settings. Each setting has a key of its own in a file, and `Setting.among` reads one off the members of
    an object without a look at any other key. A text is read just where it is an object of which every setting can
    be read in this way and all other members are well formed, and its layer is made of these settings
    (`ofText_iff`). -/

namespace BoundSql
open Json

/-! ### Readers -/

section Results
variable {ε α β : Type} {x : Except ε α} {b : β}

theorem map_eq_ok {f : α → β} : f <$> x = .ok b ↔ ∃ a, x = .ok a ∧ f a = b := by
  cases x <;> simp [Functor.map, Except.map]

theorem bind_eq_ok {f : α → Except ε β} : x >>= f = .ok b ↔ ∃ a, x = .ok a ∧ f a = .ok b := by
  cases x <;> simp [bind, Except.bind]

end Results

namespace Json.Reader
variable {α : Type} {a : α}

theorem lift_eq_ok {x : Except Fault α} : lift x = .ok a ↔ x = .ok a := by
  cases x with
  | error fault => exact ⟨nofun, nofun⟩
  | ok v =>
    constructor
    all_goals
      intro h
      cases h
      rfl

theorem check_eq_ok {fault : Option Fault} {u : Unit} : check fault = .ok u ↔ fault = none := by
  cases fault with
  | none => exact ⟨fun _ => rfl, fun _ => rfl⟩
  | some fault => exact ⟨nofun, nofun⟩

theorem mismatch_ne_ok {expected : String} {node : Node} : mismatch expected node ≠ .ok a := by
  cases node <;> exact nofun

theorem ofText_eq_ok {reader : Reader α} {text : String} : ofText reader text = .ok a ↔
    ∃ node, Document.ofText text = ⟨node, false⟩ ∧ reader .stream node = .ok a := by
  unfold ofText
  generalize Document.ofText text = document
  obtain ⟨root, trailing⟩ := document
  rw [bind_eq_ok]
  cases trailing with
  | true => exact ⟨by rintro ⟨_, -, ⟨⟩⟩, by rintro ⟨_, ⟨⟩, -⟩⟩
  | false =>
    constructor
    · rintro ⟨a', hread, h⟩
      cases h
      exact ⟨root, rfl, hread⟩
    · rintro ⟨node, h, hread⟩
      cases h
      exact ⟨a, hread, rfl⟩

/-- Where all values go by names of their own, a string is read as the value that goes by it. -/
theorem choice_name {depth : Nat} {mode : Mode} {all : List α} {names : α → String} {name : String}
    (hall : ∀ a, a ∈ all) (hnames : ∀ a b, names a = names b → a = b) :
    choice depth (bareVariants all fun a => [names a]) mode (.string name) = .ok a ↔ name = names a := by
  have hchoice : choice depth (bareVariants all fun a => [names a]) mode (.string name) =
      form (bareVariants all fun a => [names a]) name >>= Form.alone := by cases mode <;> rfl
  rw [hchoice, form, bareVariants, List.find?_map]
  cases hfind : all.find? ((fun v : Variant α => v.names.contains name) ∘ fun a => ⟨[names a], .bare a⟩) with
  | none =>
    refine ⟨nofun, fun hname => absurd ?_ (List.find?_eq_none.mp hfind a (hall a))⟩
    exact List.contains_iff_mem.mpr (List.mem_singleton.mpr hname)
  | some b =>
    have hcontains := List.find?_some hfind
    have hname : name = names b := List.mem_singleton.mp (List.contains_iff_mem.mp hcontains)
    constructor
    · intro h
      cases h
      exact hname
    · intro hname'
      rw [hnames a b (hname'.symm.trans hname)]
      rfl

end Json.Reader

/-- A string is read as the dialect of this name. -/
theorem Dialect.reader_string {depth : Nat} {mode : Mode} {name : String} {dialect : Dialect} :
    Dialect.reader depth mode (.string name) = .ok dialect ↔ name = dialect.name := by
  refine Reader.choice_name (fun d => ?_) fun d e => ?_
  · cases d <;> decide
  · cases d <;> cases e <;> decide

namespace Command
variable {α β : Type} {depth : Nat} {name : String}

/-- A string is read as the format of this name. -/
theorem Format.reader_string {mode : Mode} {format : Format} :
    Format.reader depth mode (.string name) = .ok format ↔ name = format.name := by
  refine Reader.choice_name (fun f => ?_) fun f g => ?_
  · cases f <;> decide
  · cases f <;> cases g <;> decide

/-! ### Settings -/

/-- The slot leaves a place in the layer as it is. -/
def Spares (get : Layer → Option α) (slot : Reader.Slot Layer) : Prop :=
  ∀ layer node layer', slot.read layer .stream node = .ok layer' → get layer' = get layer

/-- A setting: its key and its reader in a file, its place in a layer, and what counts where no layer has it. The
    slot under its key fills this place, and no other slot does. -/
structure Setting (α : Type) where
  name : String
  reader : Nat → Reader α
  get : Layer → Option α
  set : Layer → Option α → Layer
  fallback : α
  find?_slots : ∀ depth, (FileLayer.slots depth).find? (·.name == name) =
    some (.of name (.optional (reader depth)) set)
  get_set : ∀ layer x, get (set layer x) = x
  spares : ∀ depth, ∀ slot ∈ FileLayer.slots depth, slot.name ≠ name → Spares get slot
  get_above : ∀ upper lower : Layer, get (upper.above lower) = (get upper).or (get lower)
  get_empty : get {} = none

theorem read_slotOf {reader : Reader β} {set : Layer → β → Layer} {layer layer' : Layer} {node : Node} :
    (Reader.Slot.of name reader set).read layer .stream node = .ok layer' ↔
      ∃ x, reader .stream node = .ok x ∧ set layer x = layer' :=
  map_eq_ok

theorem Spares.of {get : Layer → Option α} {reader : Reader β} {set : Layer → β → Layer}
    (h : ∀ layer x, get (set layer x) = get layer) : Spares get (.of name reader set) := by
  intro layer node layer' hread
  obtain ⟨x, -, rfl⟩ := read_slotOf.mp hread
  exact h layer x

theorem forall_mem_slots {P : Reader.Slot Layer → Prop} : (∀ slot ∈ FileLayer.slots depth, P slot) ↔
    P (.of "dialect" (.optional (Dialect.reader depth)) fun l dialect => { l with dialect }) ∧
    P (.of "max_request_bytes" (.optional (.natural "usize")) fun l limit => { l with limit }) ∧
    P (.of "output" (.optional (Format.reader depth)) fun l format => { l with format }) := by
  simp [FileLayer.slots]

namespace Setting

def dialect : Setting Dialect where
  name := "dialect"
  reader := Dialect.reader
  get := Layer.dialect
  set l dialect := { l with dialect }
  fallback := .postgres
  find?_slots _ := rfl
  get_set _ _ := rfl
  spares _ := forall_mem_slots.mpr
    ⟨fun h => absurd rfl h, fun _ => .of fun _ _ => rfl, fun _ => .of fun _ _ => rfl⟩
  get_above _ _ := rfl
  get_empty := rfl

def limit : Setting Nat where
  name := "max_request_bytes"
  reader _ := .natural "usize"
  get := Layer.limit
  set l limit := { l with limit }
  fallback := defaultRequestLimit
  find?_slots _ := rfl
  get_set _ _ := rfl
  spares _ := forall_mem_slots.mpr
    ⟨fun _ => .of fun _ _ => rfl, fun h => absurd rfl h, fun _ => .of fun _ _ => rfl⟩
  get_above _ _ := rfl
  get_empty := rfl

def format : Setting Format where
  name := "output"
  reader := Format.reader
  get := Layer.format
  set l format := { l with format }
  fallback := .text
  find?_slots _ := rfl
  get_set _ _ := rfl
  spares _ := forall_mem_slots.mpr
    ⟨fun _ => .of fun _ _ => rfl, fun _ => .of fun _ _ => rfl, fun h => absurd rfl h⟩
  get_above _ _ := rfl
  get_empty := rfl

end Setting

/-- The keys of the settings. -/
def settingNames : List String := ["dialect", "max_request_bytes", "output"]

theorem find?_slots_eq_none : (FileLayer.slots depth).find? (·.name == name) = none ↔ name ∉ settingNames := by
  rw [List.find?_eq_none, forall_mem_slots]
  simp [settingNames, Reader.Slot.of, eq_comm (a := name)]

theorem mem_settingNames {slot : Reader.Slot Layer}
    (h : (FileLayer.slots depth).find? (·.name == name) = some slot) : name ∈ settingNames := by
  refine Decidable.byContradiction fun hunknown => ?_
  rw [find?_slots_eq_none.mpr hunknown] at h
  cases h

/-! ### Members -/

section Members
variable {s : Setting α} {m : Key × Node} {members : List (Key × Node)}

/-- The nodes under a key. -/
def under (name : String) (members : List (Key × Node)) : List Node :=
  members.filterMap fun m => if m.1.toOption = some name then some m.2 else none

theorem under_cons_of_eq (h : m.1 = .ok name) : under name (m :: members) = m.2 :: under name members :=
  List.filterMap_cons_some (by rw [h]; exact if_pos rfl)

theorem under_cons_of_ne (h : m.1 ≠ .ok name) : under name (m :: members) = under name members := by
  refine List.filterMap_cons_none (if_neg fun heq => h ?_)
  cases hkey : m.1 with
  | error d => simp [hkey, Except.toOption] at heq
  | ok key =>
    rw [hkey] at heq
    rw [Option.some.inj heq]

/-- A setting as the members give it, where that can be read: not at all, or by the one value under its key, which
    may be null. -/
def Setting.among (s : Setting α) (depth : Nat) (members : List (Key × Node)) : Option (Option α) :=
  match under s.name members with
  | [] => some none
  | [node] => (Reader.optional (s.reader depth) .stream node).toOption
  | _ => none

/-- A setting does not notice a member under another key. -/
theorem Setting.among_insert {before after : List (Key × Node)} (h : m.1 ≠ .ok s.name) :
    s.among depth (before ++ m :: after) = s.among depth (before ++ after) := by
  have hunder : under s.name (before ++ m :: after) = under s.name (before ++ after) := by
    have hafter : under s.name (m :: after) = under s.name after := under_cons_of_ne h
    unfold under at hafter ⊢
    rw [List.filterMap_append, List.filterMap_append, hafter]
  rw [among, among, hunder]

/-- A string under the key of a setting gives what the setting's reader makes of it. -/
theorem Setting.among_string {text : String} {a : α} (h : under s.name members = [.string text]) :
    s.among depth members = some (some a) ↔ s.reader depth .stream (.string text) = .ok a := by
  have hread : Reader.optional (s.reader depth) .stream (.string text) =
      some <$> s.reader depth .stream (.string text) := rfl
  rw [among, h]
  dsimp only
  rw [hread]
  cases s.reader depth .stream (.string text) with
  | error e => exact ⟨nofun, nofun⟩
  | ok b => simp [Functor.map, Except.map, Except.toOption]

/-- A string gives the dialect that it names. -/
theorem Setting.dialect_among {text : String} {d : Dialect}
    (h : under Setting.dialect.name members = [.string text]) :
    Setting.dialect.among depth members = some (some d) ↔ text = d.name := by
  rw [among_string h]
  show Dialect.reader depth .stream (.string text) = .ok d ↔ _
  exact Dialect.reader_string

/-- A string gives the format that it names. -/
theorem Setting.format_among {text : String} {f : Format}
    (h : under Setting.format.name members = [.string text]) :
    Setting.format.among depth members = some (some f) ↔ text = f.name := by
  rw [among_string h]
  show Format.reader depth .stream (.string text) = .ok f ↔ _
  exact Format.reader_string

/-- The key of a member is a string, and its value is well formed unless the key is that of a setting. -/
def Readable (depth : Nat) (m : Key × Node) : Prop :=
  ∃ name, m.1 = .ok name ∧ (name ∈ settingNames ∨ ∃ v, m.2.toValue depth = .ok v)

/-- The members of a file of settings. Each setting is given at most once, by a value of its kind. -/
structure Sound (depth : Nat) (members : List (Key × Node)) : Prop where
  readable : ∀ m ∈ members, Readable depth m
  dialect : (Setting.dialect.among depth members).isSome
  limit : (Setting.limit.among depth members).isSome
  format : (Setting.format.among depth members).isSome

/-- The layer of the settings among the members. -/
def layerOf (depth : Nat) (members : List (Key × Node)) : Layer where
  dialect := (Setting.dialect.among depth members).join
  limit := (Setting.limit.among depth members).join
  format := (Setting.format.among depth members).join

/-! ### Reading one member -/

variable {file file' : FileLayer} {seen seen' : List String}

theorem member_eq (name : String) (node : Node) : FileLayer.member depth (file, seen) (.ok name, node) =
    match (FileLayer.slots depth).find? (·.name == name) with
    | some slot =>
      if seen.contains name then .error (.duplicateField name)
      else (fun layer => ({ file with layer }, name :: seen)) <$> slot.read file.layer .stream node
    | none =>
      let unknown := if file.unknown.contains name then file.unknown else file.unknown ++ [name]
      (fun _ => ({ file with unknown }, seen)) <$> Reader.lift (node.toValue depth) := by
  have hany : (FileLayer.slots depth).any (·.name == name) =
      ((FileLayer.slots depth).find? (·.name == name)).isSome := by
    rw [Bool.eq_iff_iff, List.any_eq_true, List.find?_isSome]
  have hkey : Reader.key (.ok name) = .ok name := rfl
  simp only [FileLayer.member, Reader.member, hkey, bind, Except.bind, hany]
  cases (FileLayer.slots depth).find? (·.name == name) with
  | none => cases Reader.lift (node.toValue depth) <;> rfl
  | some slot =>
    simp only [Option.isSome_some, if_true]
    cases seen.contains name with
    | true => rfl
    | false =>
      simp only [Bool.false_eq_true, if_false]
      cases slot.read file.layer .stream node <;> rfl

/-- A member that is read gives a setting for the first time, or else it leaves the layer as it is. -/
theorem member_cases (h : FileLayer.member depth (file, seen) m = .ok (file', seen')) : ∃ name, m.1 = .ok name ∧
    ((∃ slot, (FileLayer.slots depth).find? (·.name == name) = some slot ∧ name ∉ seen ∧ seen' = name :: seen ∧
        slot.read file.layer .stream m.2 = .ok file'.layer) ∨
      (name ∉ settingNames ∧ seen' = seen ∧ file'.layer = file.layer ∧ ∃ v, m.2.toValue depth = .ok v)) := by
  obtain ⟨key, node⟩ := m
  cases key with
  | error d => cases h
  | ok name =>
    refine ⟨name, rfl, ?_⟩
    rw [member_eq] at h
    split at h
    · rename_i slot hfind
      split at h
      · cases h
      · rename_i hseen
        obtain ⟨layer, hread, heq⟩ := map_eq_ok.mp h
        cases heq
        exact .inl ⟨slot, hfind, by simpa using hseen, rfl, hread⟩
    · rename_i hfind
      obtain ⟨v, hv, heq⟩ := map_eq_ok.mp h
      cases heq
      exact .inr ⟨find?_slots_eq_none.mp hfind, rfl, rfl, v, Reader.lift_eq_ok.mp hv⟩

/-- What a member does to a setting. -/
theorem get_of_member (s : Setting α) (h : FileLayer.member depth (file, seen) m = .ok (file', seen')) :
    (m.1 = .ok s.name ∧ s.name ∉ seen ∧ s.name ∈ seen' ∧
        Reader.optional (s.reader depth) .stream m.2 = .ok (s.get file'.layer)) ∨
      (m.1 ≠ .ok s.name ∧ seen ⊆ seen' ∧ s.get file'.layer = s.get file.layer) := by
  obtain ⟨name, hkey, ⟨slot, hfind, hfresh, rfl, hread⟩ | ⟨hunknown, rfl, hlayer, -⟩⟩ := member_cases h
  · by_cases hname : name = s.name
    · subst hname
      rw [s.find?_slots] at hfind
      cases hfind
      obtain ⟨x, hx, hset⟩ := read_slotOf.mp hread
      exact .inl ⟨hkey, hfresh, List.mem_cons_self, by rw [← hset, s.get_set, hx]⟩
    · have hslot : slot.name = name := by simpa using List.find?_some hfind
      have hspared := s.spares depth slot (List.mem_of_find?_eq_some hfind) (by rwa [hslot])
      exact .inr ⟨by simpa [hkey] using hname, List.subset_cons_self _ _, hspared _ _ _ hread⟩
  · refine .inr ⟨fun heq => ?_, List.Subset.refl _, congrArg s.get hlayer⟩
    obtain rfl : name = s.name := Except.ok.inj (hkey.symm.trans heq)
    exact absurd (mem_settingNames (s.find?_slots depth)) hunknown

/-! ### Reading all members -/

/-- Along the members a setting stays as it was, or it is given once. -/
theorem get_of_foldlM (s : Setting α) (h : members.foldlM (FileLayer.member depth) (file, seen) = .ok (file', seen')) :
    (under s.name members = [] ∧ s.get file'.layer = s.get file.layer) ∨
      (s.name ∉ seen ∧ ∃ node, under s.name members = [node] ∧
        Reader.optional (s.reader depth) .stream node = .ok (s.get file'.layer)) := by
  induction members generalizing file seen with
  | nil =>
    cases h
    exact .inl ⟨rfl, rfl⟩
  | cons m rest ih =>
    rw [List.foldlM_cons] at h
    obtain ⟨⟨middle, seen₁⟩, hstep, hrest⟩ := bind_eq_ok.mp h
    rcases get_of_member s hstep with ⟨hkey, hfresh, hseen₁, hread⟩ | ⟨hkey, hsub, hget⟩
    · -- The key has been seen now, so that the rest does not hold it again.
      rw [under_cons_of_eq hkey]
      rcases ih hrest with ⟨hunder, hkept⟩ | ⟨hseen, -⟩
      · exact .inr ⟨hfresh, m.2, by rw [hunder], by rw [hkept, hread]⟩
      · exact absurd hseen₁ hseen
    · rw [under_cons_of_ne hkey, ← hget]
      exact (ih hrest).imp_right fun ⟨hseen, hgiven⟩ => ⟨fun hs => hseen (hsub hs), hgiven⟩

theorem Setting.among_eq_some (h : members.foldlM (FileLayer.member depth) ({}, []) = .ok (file, seen)) :
    s.among depth members = some (s.get file.layer) := by
  unfold among
  rcases get_of_foldlM s h with ⟨hunder, hget⟩ | ⟨-, node, hunder, hread⟩
  · rw [hunder, hget]
    exact congrArg some s.get_empty.symm
  · rw [hunder]
    show (Reader.optional (s.reader depth) .stream node).toOption = _
    rw [hread]
    rfl

theorem readable_of_foldlM (h : members.foldlM (FileLayer.member depth) (file, seen) = .ok (file', seen')) :
    ∀ m ∈ members, Readable depth m := by
  induction members generalizing file seen with
  | nil => exact List.forall_mem_nil _
  | cons m rest ih =>
    rw [List.foldlM_cons] at h
    obtain ⟨⟨middle, seen₁⟩, hstep, hrest⟩ := bind_eq_ok.mp h
    refine List.forall_mem_cons.mpr ⟨?_, ih hrest⟩
    obtain ⟨name, hkey, ⟨slot, hfind, -⟩ | ⟨-, -, -, hvalue⟩⟩ := member_cases hstep
    · exact ⟨name, hkey, .inl (mem_settingNames hfind)⟩
    · exact ⟨name, hkey, .inr hvalue⟩

/-- The members can fill a slot: none is under its key, or one is, the slot is still empty and takes the node. -/
def Fillable (seen : List String) (members : List (Key × Node)) (slot : Reader.Slot Layer) : Prop :=
  under slot.name members = [] ∨ slot.name ∉ seen ∧ ∃ node, under slot.name members = [node] ∧
    ∀ layer, ∃ layer', slot.read layer .stream node = .ok layer'

namespace Fillable
variable {slot : Reader.Slot Layer} {rest : List (Key × Node)}

/-- The member under its key fills a slot, and then the others leave it alone. -/
theorem of_cons_eq (h : Fillable seen (m :: rest) slot) (hkey : m.1 = .ok slot.name) :
    slot.name ∉ seen ∧ under slot.name rest = [] ∧ ∀ layer, ∃ layer', slot.read layer .stream m.2 = .ok layer' := by
  rw [Fillable, under_cons_of_eq hkey] at h
  obtain ⟨hseen, node, hunder, hread⟩ := h.resolve_left (List.cons_ne_nil _ _)
  obtain ⟨rfl, hrest⟩ := List.cons.inj hunder
  exact ⟨hseen, hrest, hread⟩

theorem of_cons_ne (h : Fillable seen (m :: rest) slot) (hkey : m.1 = .ok name) (hne : name ≠ slot.name)
    (hseen : seen' ⊆ name :: seen) : Fillable seen' rest slot := by
  rw [Fillable, under_cons_of_ne (by simpa [hkey] using hne)] at h
  refine h.imp_right fun ⟨hfresh, hnode⟩ => ⟨fun hs => ?_, hnode⟩
  exact (List.mem_cons.mp (hseen hs)).elim (fun heq => hne heq.symm) hfresh

theorem of_among (h : (s.among depth members).isSome) :
    Fillable [] members (.of s.name (.optional (s.reader depth)) s.set) := by
  unfold Setting.among at h
  split at h
  · rename_i hunder
    exact .inl hunder
  · rename_i node hunder
    refine .inr ⟨List.not_mem_nil, node, hunder, fun layer => ?_⟩
    cases hx : Reader.optional (s.reader depth) .stream node with
    | error e => simp [hx, Except.toOption] at h
    | ok x => exact ⟨s.set layer x, read_slotOf.mpr ⟨x, hx, rfl⟩⟩
  · cases h

end Fillable

theorem exists_foldlM (hreadable : ∀ m ∈ members, Readable depth m)
    (hslots : ∀ slot ∈ FileLayer.slots depth, Fillable seen members slot) :
    ∃ state, members.foldlM (FileLayer.member depth) (file, seen) = .ok state := by
  induction members generalizing file seen with
  | nil => exact ⟨_, rfl⟩
  | cons m rest ih =>
    obtain ⟨⟨name, hkey, hvalue⟩, hrest⟩ := List.forall_mem_cons.mp hreadable
    obtain ⟨key, node⟩ := m
    obtain rfl : key = .ok name := hkey
    rw [List.foldlM_cons, member_eq]
    cases hfind : (FileLayer.slots depth).find? (·.name == name) with
    | none =>
      -- An unknown member leaves all slots to the rest; another one fills its slot, and the rest the others.
      obtain ⟨v, hv⟩ := hvalue.resolve_left (find?_slots_eq_none.mp hfind)
      have hne : ∀ slot ∈ FileLayer.slots depth, slot.name ≠ name := by simpa using List.find?_eq_none.mp hfind
      simp only [Reader.lift_eq_ok.mpr hv]
      exact ih hrest fun slot hs => (hslots slot hs).of_cons_ne rfl (hne slot hs).symm (List.subset_cons_self _ _)
    | some slot =>
      obtain rfl : slot.name = name := by simpa using List.find?_some hfind
      obtain ⟨hfresh, hunder, hread⟩ := (hslots slot (List.mem_of_find?_eq_some hfind)).of_cons_eq rfl
      obtain ⟨layer, hlayer⟩ := hread file.layer
      simp only [List.contains_eq_mem, hfresh, decide_false, hlayer]
      refine ih hrest fun other ho => ?_
      by_cases hne : slot.name = other.name
      · exact .inl (hne ▸ hunder)
      · exact (hslots other ho).of_cons_ne rfl hne (List.Subset.refl _)

/-- Members are read one after another just where they are sound, and each setting comes from its own key. -/
theorem foldlM_member_iff {layer : Layer} :
    (∃ file seen, members.foldlM (FileLayer.member depth) ({}, []) = .ok (file, seen) ∧ file.layer = layer) ↔
      Sound depth members ∧ layer = layerOf depth members := by
  have hlayer : ∀ {file seen}, members.foldlM (FileLayer.member depth) ({}, []) = .ok (file, seen) →
      file.layer = layerOf depth members := by
    intro file seen h
    rw [layerOf, Setting.among_eq_some h, Setting.among_eq_some h, Setting.among_eq_some h]
    rfl
  constructor
  · rintro ⟨file, seen, h, rfl⟩
    have hsome : ∀ {α} (s : Setting α), (s.among depth members).isSome := fun s => by
      rw [Setting.among_eq_some h]
      rfl
    exact ⟨⟨readable_of_foldlM h, hsome _, hsome _, hsome _⟩, hlayer h⟩
  · rintro ⟨hsound, rfl⟩
    have hslots := forall_mem_slots.mpr
      ⟨Fillable.of_among hsound.dialect, Fillable.of_among hsound.limit, Fillable.of_among hsound.format⟩
    obtain ⟨⟨file, seen⟩, h⟩ := exists_foldlM hsound.readable hslots
    exact ⟨file, seen, h, hlayer h⟩

end Members

/-! ### Texts -/

section Texts
variable {text : String} {members : List (Key × Node)}

/-- The members of a text that is one object. -/
def membersOf? (text : String) : Option (List (Key × Node)) :=
  match Document.ofText text with
  | ⟨.object members close, false⟩ => if (close.objectFault? members.isEmpty).isNone then some members else none
  | _ => none

/-- A text is a file of settings. -/
def Decodes (text : String) : Prop := ∃ members, membersOf? text = some members ∧ Sound (depthLimit - 1) members

/-- A setting as a file of settings gives it. -/
def Setting.inText (s : Setting α) (text : String) : Option α :=
  ((membersOf? text).bind (s.among (depthLimit - 1))).join

theorem Setting.inText_insert {s : Setting α} {text' : String} {before after : List (Key × Node)} {m : Key × Node}
    (h : membersOf? text = some (before ++ m :: after)) (h' : membersOf? text' = some (before ++ after))
    (hkey : m.1 ≠ .ok s.name) : s.inText text = s.inText text' := by
  rw [inText, inText, h, h', Option.bind_some, Option.bind_some, among_insert hkey]

theorem membersOf?_eq_some : membersOf? text = some members ↔ ∃ close,
    Document.ofText text = ⟨.object members close, false⟩ ∧ close.objectFault? members.isEmpty = none := by
  unfold membersOf?
  split
  · rename_i members' close' hdoc
    rw [hdoc]
    constructor
    · intro h
      split at h
      · rename_i hclose
        cases h
        exact ⟨close', rfl, Option.isNone_iff_eq_none.mp hclose⟩
      · cases h
    · rintro ⟨close, heq, hclose⟩
      cases heq
      rw [hclose]
      rfl
  · rename_i hdoc
    exact ⟨nofun, fun ⟨close, heq, _⟩ => absurd heq (hdoc _ _)⟩

theorem reader_eq_ok {mode : Mode} {node : Node} {file : FileLayer} :
    FileLayer.reader (depth + 1) mode node = .ok file ↔ ∃ members close seen, node = .object members close ∧
      members.foldlM (FileLayer.member depth) ({}, []) = .ok (file, seen) ∧
      close.objectFault? members.isEmpty = none := by
  unfold FileLayer.reader
  split
  · rename_i members close
    constructor
    · intro h
      obtain ⟨_, -, h⟩ := bind_eq_ok.mp h
      obtain ⟨⟨file', seen⟩, hfold, h⟩ := bind_eq_ok.mp h
      obtain ⟨_, hcheck, h⟩ := bind_eq_ok.mp h
      cases h
      exact ⟨members, close, seen, rfl, hfold, Reader.check_eq_ok.mp hcheck⟩
    · rintro ⟨members', close', seen, heq, hfold, hclose⟩
      cases heq
      refine bind_eq_ok.mpr ⟨(), rfl, bind_eq_ok.mpr ⟨(file, seen), hfold, ?_⟩⟩
      exact bind_eq_ok.mpr ⟨(), Reader.check_eq_ok.mpr hclose, rfl⟩
  · rename_i hobject
    refine ⟨fun h => absurd h Reader.mismatch_ne_ok, ?_⟩
    rintro ⟨members, close, -, rfl, -⟩
    exact absurd rfl (hobject members close)

/-- A text is read just where it is a file of settings, and each setting comes from its own key. -/
theorem ofText_iff {layer : Layer} :
    (∃ file, Reader.ofText (FileLayer.reader depthLimit) text = .ok file ∧ file.layer = layer) ↔
      Decodes text ∧ layer = ⟨Setting.dialect.inText text, Setting.limit.inText text, Setting.format.inText text⟩ := by
  have hlayer : ∀ {members}, membersOf? text = some members → layerOf (depthLimit - 1) members =
      ⟨Setting.dialect.inText text, Setting.limit.inText text, Setting.format.inText text⟩ := by
    intro members hmembers
    simp only [Setting.inText, hmembers]
    rfl
  constructor
  · rintro ⟨file, h, heq⟩
    obtain ⟨node, hdoc, hread⟩ := Reader.ofText_eq_ok.mp h
    obtain ⟨members, close, seen, rfl, hfold, hclose⟩ := reader_eq_ok.mp hread
    obtain ⟨hsound, rfl⟩ := foldlM_member_iff.mp ⟨file, seen, hfold, heq⟩
    have hmembers := membersOf?_eq_some.mpr ⟨close, hdoc, hclose⟩
    exact ⟨⟨members, hmembers, hsound⟩, hlayer hmembers⟩
  · rintro ⟨⟨members, hmembers, hsound⟩, rfl⟩
    obtain ⟨close, hdoc, hclose⟩ := membersOf?_eq_some.mp hmembers
    obtain ⟨file, seen, hfold, heq⟩ := foldlM_member_iff.mpr ⟨hsound, rfl⟩
    have hread : FileLayer.reader depthLimit .stream (.object members close) = .ok file :=
      reader_eq_ok.mpr ⟨members, close, seen, rfl, hfold, hclose⟩
    exact ⟨file, Reader.ofText_eq_ok.mpr ⟨_, hdoc, hread⟩, heq.trans (hlayer hmembers)⟩

end Texts
end Command
end BoundSql
