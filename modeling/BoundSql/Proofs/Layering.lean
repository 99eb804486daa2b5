import BoundSql.Proofs.SettingsFile

/-! Layers of settings. A run consults the file that is named or else the one in the current directory, and the one
    in the home directory. It has settings just where the named file is there, all consulted ones are files of
    settings and the limit is not zero in the end; each setting is then the first that is set, from the arguments
    down to the defaults (`Settings.load_layered`). -/

namespace BoundSql.Command
open Json

/-! ### Results of a run -/

namespace Run
variable {ε α β : Type} {x : Run Id ε α} {a : α} {p q : Prop}

/-- The result of a computation in surroundings that do not change, and the log behind it. -/
def outcome (x : Run Id ε α) (log : List LogLine) : Except ε α × List LogLine := x.run.run log

theorem outcome_bind (x : Run Id ε α) (f : α → Run Id ε β) (log : List LogLine) :
    (x >>= f).outcome log = match x.outcome log with
      | (.ok a, log') => (f a).outcome log'
      | (.error e, log') => (.error e, log') := by
  unfold outcome ExceptT.run StateT.run
  simp only [bind, ExceptT.bind, ExceptT.mk, StateT.bind, ExceptT.bindCont]
  cases x log with
  | mk result log' => cases result <;> rfl

/-- Whatever has been logged before, the computation has the result `a` if `p` holds, and else it fails. -/
def Gives (x : Run Id ε α) (p : Prop) (a : α) : Prop := ∀ log b, (x.outcome log).1 = .ok b ↔ p ∧ b = a

theorem gives_pure (a : α) (hp : p) : Gives (pure a : Run Id ε α) p a := by
  intro log b
  show Except.ok a = Except.ok b ↔ _
  rw [Except.ok.injEq, eq_comm]
  exact (and_iff_right hp).symm

theorem gives_throw (e : ε) (hp : ¬p) : Gives (throw e : Run Id ε α) p a :=
  fun _ _ => ⟨nofun, fun ⟨h, _⟩ => absurd h hp⟩

theorem gives_throw_bind (e : ε) {f : α → Run Id ε β} {b : β} (hp : ¬p) : Gives (throw e >>= f) p b := by
  intro log b'
  rw [outcome_bind]
  exact gives_throw e hp log b'

theorem gives_effect (a : α) : Gives (effect a : Run Id ε α) True a := gives_pure a trivial

theorem gives_log (level : Level) (text : String) : Gives (log level text : Run Id ε Unit) True () :=
  fun _ _ => ⟨fun _ => ⟨trivial, rfl⟩, fun _ => rfl⟩

namespace Gives
variable {f : α → Run Id ε β} {b : β}

theorem congr (h : Gives x p a) (hpq : p ↔ q) : Gives x q a := by
  rw [← propext hpq]
  exact h

theorem bind (h : Gives x p a) (hf : p → Gives (f a) q b) : Gives (x >>= f) (p ∧ q) b := by
  intro log b'
  have hx := h log
  rw [outcome_bind]
  cases hrun : x.outcome log with
  | mk result log' =>
    rw [hrun] at hx
    cases result with
    | error e =>
      refine ⟨nofun, fun ⟨⟨hp, _⟩, _⟩ => ?_⟩
      cases (hx a).mpr ⟨hp, rfl⟩
    | ok a' =>
      obtain ⟨hp, rfl⟩ := (hx a').mp rfl
      exact (hf hp log' b').trans (and_congr_left' (and_iff_right hp)).symm

theorem next (h : Gives x True a) (hf : Gives (f a) q b) : Gives (x >>= f) q b :=
  (h.bind fun _ => hf).congr (and_iff_right trivial)

theorem returning {g : α → β} (h : Gives x p a) : Gives (x >>= fun a => pure (g a)) p (g a) :=
  (h.bind fun _ => gives_pure (g a) trivial).congr (and_iff_left trivial)

end Gives
end Run

/-! ### Files -/

section Files
variable {α : Type} (host : Host Id)

/-- There is a file of settings at a path. -/
def DecodesAt (path : String) : Prop := ∃ text, host.fileText path = .ok text ∧ Decodes text

/-- A setting as the file at a path gives it. -/
def Setting.inFile (s : Setting α) (path : String) : Option α :=
  match (host.fileText path : Except String String) with
  | .ok text => s.inText text
  | .error _ => none

def layerAt (path : String) : Layer where
  dialect := Setting.dialect.inFile host path
  limit := Setting.limit.inFile host path
  format := Setting.format.inFile host path

/-- The paths that are there. -/
def existing (paths : List String) : List String := paths.filter host.fileExists

/-- The files at some paths with their layers. -/
def layersAt (paths : List String) : List (String × Layer) := paths.map fun path => (path, layerAt host path)

variable {host} {path : String}

theorem decodesAt_iff {text : String} (h : host.fileText path = .ok text) : DecodesAt host path ↔ Decodes text := by
  refine ⟨fun ⟨text', htext, hdec⟩ => ?_, fun hdec => ⟨text, h, hdec⟩⟩
  rw [h] at htext
  cases htext
  exact hdec

theorem Setting.inFile_eq {s : Setting α} {text : String} (h : host.fileText path = .ok text) :
    s.inFile host path = s.inText text := by
  rw [inFile, h]

theorem layerAt_eq {text : String} (h : host.fileText path = .ok text) : layerAt host path =
    ⟨Setting.dialect.inText text, Setting.limit.inText text, Setting.format.inText text⟩ := by
  rw [layerAt, Setting.inFile_eq h, Setting.inFile_eq h, Setting.inFile_eq h]

theorem existing_of_absent (h : host.fileExists path = false) : existing host [path] = [] :=
  List.filter_cons_of_neg (Bool.eq_false_iff.mp h)

theorem existing_of_present (h : host.fileExists path = true) : existing host [path] = [path] :=
  List.filter_cons_of_pos h

/-! ### Loading files -/

open Run

theorem gives_loadFile : (loadFile host path).Gives (DecodesAt host path) (layerAt host path) := by
  refine (gives_log _ _).next ((gives_effect _).next ?_)
  cases hfile : (host.fileText path : Except String String) with
  | error reason =>
    refine gives_throw _ ?_
    rintro ⟨text, htext, -⟩
    rw [hfile] at htext
    cases htext
  | ok text =>
    rw [decodesAt_iff hfile, layerAt_eq hfile]
    dsimp only
    cases hread : Reader.ofText (FileLayer.reader depthLimit) text with
    | error e =>
      refine gives_throw _ fun hdecodes => ?_
      obtain ⟨file, hfile, -⟩ := ofText_iff.mpr ⟨hdecodes, rfl⟩
      rw [hread] at hfile
      cases hfile
    | ok file =>
      obtain ⟨hdecodes, hlayer⟩ := ofText_iff.mp ⟨file, hread, rfl⟩
      rw [← hlayer]
      dsimp only
      split
      · exact (gives_log _ _).next (gives_pure _ hdecodes)
      · exact gives_pure _ hdecodes

theorem gives_loadIfExists_of_absent (h : host.fileExists path = false) :
    (loadIfExists host path).Gives True none := by
  refine (gives_effect _).next ?_
  rw [h]
  exact gives_pure none trivial

theorem gives_loadIfExists_of_present (h : host.fileExists path = true) :
    (loadIfExists host path).Gives (DecodesAt host path) (some (layerAt host path)) := by
  refine (gives_effect _).next ?_
  rw [h, if_pos rfl, map_eq_pure_bind]
  exact gives_loadFile.returning

/-- A file is read if it is there. -/
theorem gives_found : Gives (return ((← loadIfExists host path).map fun layer => (path, layer)).toList)
    (∀ p ∈ existing host [path], DecodesAt host p) (layersAt host (existing host [path])) := by
  cases h : (host.fileExists path : Bool) with
  | false =>
    rw [existing_of_absent h]
    exact (gives_loadIfExists_of_absent h).next (gives_pure [] (List.forall_mem_nil _))
  | true =>
    rw [existing_of_present h, List.forall_mem_singleton]
    exact (gives_loadIfExists_of_present h).returning

/-- The file in the home directory. -/
def homePath? (home : Option String) : Option String :=
  home.map fun home => joinPath (joinPath home ("." ++ programName)) settingsFile

/-- The file that is named, or else the one in the current directory. -/
def nearPath (home config : Option String) : String := (config.map (expandPath home)).getD settingsFile

theorem gives_loadHome (home : Option String) : (loadHome host home).Gives
    (∀ p ∈ existing host (homePath? home).toList, DecodesAt host p)
    (layersAt host (existing host (homePath? home).toList)) := by
  cases home with
  | none => exact gives_pure [] (List.forall_mem_nil _)
  | some home => exact gives_found

theorem gives_loadNear (home config : Option String) : (loadNear host home config).Gives
    ((∀ c ∈ config, host.fileExists (expandPath home c) = true) ∧
      ∀ p ∈ existing host [nearPath home config], DecodesAt host p)
    (layersAt host (existing host [nearPath home config])) := by
  cases config with
  | none => exact gives_found.congr (and_iff_right nofun).symm
  | some config =>
    show Gives _ ((∀ c ∈ some config, host.fileExists (expandPath home c) = true) ∧
      ∀ p ∈ existing host [expandPath home config], DecodesAt host p)
      (layersAt host (existing host [expandPath home config]))
    cases h : (host.fileExists (expandPath home config) : Bool) with
    | false =>
      have hmissing : ¬∀ c ∈ some config, host.fileExists (expandPath home c) = true := by simp [h]
      exact (gives_loadIfExists_of_absent h).next (gives_throw _ fun ⟨hthere, _⟩ => hmissing hthere)
    | true =>
      have hthere : ∀ c ∈ some config, host.fileExists (expandPath home c) = true := by simp [h]
      rw [existing_of_present h, List.forall_mem_singleton]
      refine Gives.congr ((gives_loadIfExists_of_present h).bind fun _ => gives_pure _ hthere) and_comm

end Files

/-! ### Layers -/

section Layers
variable {α : Type} {s : Setting α} {host : Host Id} {home : Option String} {request : Request}

/-- The files that a run consults, the one that counts more in front. -/
def consulted (host : Host Id) (home config : Option String) : List String :=
  existing host (nearPath home config :: (homePath? home).toList)

theorem consulted_eq (config : Option String) : consulted host home config =
    existing host [nearPath home config] ++ existing host (homePath? home).toList :=
  List.filter_append [nearPath home config] _

/-- What the layers of a run have for a setting, the one that counts most in front. -/
def Setting.stack (s : Setting α) (host : Host Id) (home : Option String) (request : Request) : List (Option α) :=
  s.get request.settings :: (consulted host home request.config).map (s.inFile host)

/-- The first that is set, or else the default. -/
def Setting.resolved (s : Setting α) (host : Host Id) (home : Option String) (request : Request) : α :=
  ((s.stack host home request).findSome? id).getD s.fallback

theorem Setting.resolved_of_stack {upper lower : List (Option α)} {a : α}
    (h : s.stack host home request = upper ++ some a :: lower) (hupper : ∀ x ∈ upper, x = none) :
    s.resolved host home request = a := by
  have hnone : upper.findSome? id = none := List.findSome?_eq_none_iff.mpr hupper
  rw [resolved, h, List.findSome?_append, hnone]
  rfl

/-- Layers that are joined from above give each setting from the first that has it. -/
theorem Setting.get_foldl_above {files : List (String × Layer)} {layer : Layer} :
    s.get (files.foldl (fun upper file => upper.above file.2) layer) =
      (s.get layer :: files.map fun file => s.get file.2).findSome? id := by
  induction files generalizing layer with
  | nil =>
    rw [List.map_nil, List.findSome?_singleton]
    rfl
  | cons file rest ih =>
    rw [List.foldl_cons, ih, s.get_above, List.map_cons]
    cases s.get layer <;> simp

theorem Setting.resolved_eq (h : ∀ path, s.get (layerAt host path) = s.inFile host path) :
    (s.get ((layersAt host (consulted host home request.config)).foldl (fun upper file => upper.above file.2)
      request.settings)).getD s.fallback = s.resolved host home request := by
  have hfiles : (layersAt host (consulted host home request.config)).map (fun file => s.get file.2) =
      (consulted host home request.config).map (s.inFile host) := by
    rw [layersAt, List.map_map]
    exact List.map_congr_left fun path _ => h path
  rw [resolved, stack, Setting.get_foldl_above, hfiles]

/-- Settings that are each the first that is set. -/
def resolvedSettings (host : Host Id) (home : Option String) (request : Request) : Settings where
  dialect := Setting.dialect.resolved host home request
  limit := Setting.limit.resolved host home request
  format := Setting.format.resolved host home request

theorem settings_layersAt : ((layersAt host (existing host [nearPath home request.config]) ++
    layersAt host (existing host (homePath? home).toList)).foldl (fun upper file => upper.above file.2)
      request.settings).settings = resolvedSettings host home request := by
  have hfiles : layersAt host (existing host [nearPath home request.config]) ++
      layersAt host (existing host (homePath? home).toList) =
        layersAt host (consulted host home request.config) := by
    rw [consulted_eq, layersAt, layersAt, layersAt, List.map_append]
  rw [hfiles, resolvedSettings, ← Setting.resolved_eq fun _ => rfl, ← Setting.resolved_eq fun _ => rfl,
    ← Setting.resolved_eq fun _ => rfl]
  rfl

open Run

theorem gives_load : (Settings.load host home request).Gives
    ((∀ config ∈ request.config, host.fileExists (expandPath home config) = true) ∧
      (∀ path ∈ consulted host home request.config, DecodesAt host path) ∧
      Setting.limit.resolved host home request ≠ 0)
    (resolvedSettings host home request) := by
  -- The home file is read first, although it counts least.
  have hload : (Settings.load host home request).Gives
      ((∀ path ∈ existing host (homePath? home).toList, DecodesAt host path) ∧
        ((∀ config ∈ request.config, host.fileExists (expandPath home config) = true) ∧
          ∀ path ∈ existing host [nearPath home request.config], DecodesAt host path) ∧
        Setting.limit.resolved host home request ≠ 0)
      (resolvedSettings host home request) := by
    refine (gives_log _ _).next ((gives_loadHome home).bind fun _ => (gives_loadNear home request.config).bind
      fun _ => (gives_log _ _).next ?_)
    dsimp only
    rw [settings_layersAt]
    split
    · rename_i hzero
      exact gives_throw_bind _ fun hlimit => hlimit hzero
    · rename_i hlimit
      exact (gives_log _ _).next (gives_pure _ hlimit)
  refine hload.congr ?_
  rw [consulted_eq, List.forall_mem_append]
  constructor
  · rintro ⟨hhome, ⟨hthere, hnear⟩, hlimit⟩
    exact ⟨hthere, ⟨hnear, hhome⟩, hlimit⟩
  · rintro ⟨hthere, ⟨hnear, hhome⟩, hlimit⟩
    exact ⟨hhome, ⟨hthere, hnear⟩, hlimit⟩

end Layers

/-! ### Other files -/

section Agreement
variable {host other : Host Id} {home : Option String} {path : String}

/-- Two file systems have the same file at a path, or none. -/
def SameAt (host other : Host Id) (path : String) : Prop :=
  other.fileExists path = host.fileExists path ∧ other.fileText path = host.fileText path

theorem loadIfExists_congr (h : SameAt host other path) : loadIfExists other path = loadIfExists host path := by
  obtain ⟨hexists, htext⟩ := h
  rw [loadIfExists, loadIfExists, loadFile, loadFile, hexists, htext]

theorem loadHome_congr (h : ∀ path ∈ homePath? home, SameAt host other path) :
    loadHome other home = loadHome host home := by
  cases home with
  | none => rfl
  | some home =>
    have hload := loadIfExists_congr (h _ rfl)
    simp only [loadHome, hload]

theorem loadNear_congr {config : Option String} (h : SameAt host other (nearPath home config)) :
    loadNear other home config = loadNear host home config := by
  have hload := loadIfExists_congr h
  cases config with
  | none =>
    rw [nearPath, Option.map_none, Option.getD_none] at hload
    simp only [loadNear, hload]
  | some config =>
    rw [nearPath, Option.map_some, Option.getD_some] at hload
    simp only [loadNear, hload]

/-- A run looks at no other files than the near one and the one in the home directory. -/
theorem load_congr {request : Request} (hnear : SameAt host other (nearPath home request.config))
    (hhome : ∀ path ∈ homePath? home, SameAt host other path) :
    Settings.load other home request = Settings.load host home request := by
  unfold Settings.load
  rw [loadHome_congr hhome, loadNear_congr hnear]

end Agreement

/-! ### Settings of a run -/

/-- A run has these settings. -/
def Settings.Loads (host : Host Id) (home : Option String) (request : Request) (log : List LogLine)
    (settings : Settings) : Prop :=
  ((load host home request).outcome log).1 = .ok settings

/-- A run has settings just where the named file is there, every consulted one is a file of settings, and the limit
    is not zero in the end. Each setting is then the first that is set: by the arguments, by the file that is named
    or lies in the current directory, by the file in the home directory, and else it is the default. In a file it
    depends on its own key alone, a limit above zero hides any that stands below it, and beside a named file only
    the one in the home directory counts. -/
theorem Settings.load_layered (host : Host Id) (home : Option String) (request : Request) (log : List LogLine) :
    ((∃ settings, Loads host home request log settings) ↔
      (∀ config ∈ request.config, host.fileExists (expandPath home config) = true) ∧
      (∀ path ∈ consulted host home request.config, DecodesAt host path) ∧
      Setting.limit.resolved host home request ≠ 0) ∧
    (∀ settings, Loads host home request log settings →
      settings.dialect = Setting.dialect.resolved host home request ∧
      settings.limit = Setting.limit.resolved host home request ∧
      settings.format = Setting.format.resolved host home request) ∧
    (∀ (α : Type) (s : Setting α) text text' before m after, membersOf? text = some (before ++ m :: after) →
      membersOf? text' = some (before ++ after) → m.1 ≠ .ok s.name → s.inText text = s.inText text') ∧
    (∀ upper n lower, Setting.limit.stack host home request = upper ++ some n :: lower → (∀ x ∈ upper, x = none) →
      n ≠ 0 → ((∃ settings, Loads host home request log settings) ↔
        (∀ config ∈ request.config, host.fileExists (expandPath home config) = true) ∧
        ∀ path ∈ consulted host home request.config, DecodesAt host path)) ∧
    ∀ config ∈ request.config, ∀ other, SameAt host other (expandPath home config) →
      (∀ path ∈ homePath? home, SameAt host other path) → load other home request = load host home request := by
  have hloads : ∀ settings, Loads host home request log settings ↔ _ := gives_load log
  have hexists : (∃ settings, Loads host home request log settings) ↔ _ :=
    ⟨fun ⟨settings, h⟩ => ((hloads settings).mp h).1, fun h => ⟨_, (hloads _).mpr ⟨h, rfl⟩⟩⟩
  refine ⟨hexists, fun settings h => ?_, fun α s text text' before m after => Setting.inText_insert,
    fun upper n lower hstack hupper hn => ?_, fun config hconfig other hnamed hhome => ?_⟩
  · rw [((hloads settings).mp h).2]
    exact ⟨rfl, rfl, rfl⟩
  · rw [hexists, Setting.resolved_of_stack hstack hupper]
    exact ⟨fun ⟨hthere, hdecodes, _⟩ => ⟨hthere, hdecodes⟩, fun ⟨hthere, hdecodes⟩ => ⟨hthere, hdecodes, hn⟩⟩
  · have hnear : nearPath home request.config = expandPath home config := by
      rw [nearPath, Option.mem_def.mp hconfig]
      rfl
    exact load_congr (hnear ▸ hnamed) hhome

/-! ### An example -/

theorem length_le_length_joinPath (directory path : String) : path.length ≤ (joinPath directory path).length := by
  unfold joinPath
  split
  · exact Nat.le_refl _
  · split
    · rw [String.length_append]
      exact Nat.le_add_left _ _
    · rw [String.length_append, String.length_append]
      exact Nat.le_add_left _ _

/-- A file of settings with a limit of zero and a misspelt key. -/
def annsText : String :=
  "\x7b\"dialect\": \"mssql\", \"max_request_bytes\": 0, \"output\": \"json\", \"dialet\": [1]\x7d"

/-- One that leaves the format open. -/
def teamText : String := "\x7b\"max_request_bytes\": 512, \"dialect\": \"mysql\", \"output\": null\x7d"

def annsHome : String := joinPath (joinPath "/home/ann" ("." ++ programName)) settingsFile

/-- The first text lies in the home directory and the second beside a text that is no JSON. -/
def annsFile (path : String) : Except String String :=
  if path = annsHome then .ok annsText
  else if path = "team.json" then .ok teamText
  else if path = settingsFile then .ok "\x7bnot json"
  else .error "No such file or directory"

def annsHost : Host Id where
  environment _ := none
  directory := "/home/ann/notes"
  fileExists path := (annsFile path).isOk
  fileText := annsFile
  input := ""

def annsRequest : Request where
  settings := { dialect := some .sqlite }
  config := some "team.json"

def annsMembers : List (Key × Node) :=
  [(.ok "dialect", .string "mssql"), (.ok "max_request_bytes", .number (.integer 0)), (.ok "output", .string "json"),
    (.ok "dialet", .list [.number (.integer 1)] .closed)]

theorem membersOf?_annsText : membersOf? annsText = some annsMembers := rfl

theorem decodes_annsText : Decodes annsText := by
  refine ⟨annsMembers, membersOf?_annsText, ?_, rfl, rfl, rfl⟩
  have hvalue : (Node.list [.number (.integer 1)] .closed).toValue (depthLimit - 1) =
    .ok (.array [.number (.integer 1)]) := rfl
  simp [annsMembers, Readable, settingNames, hvalue]

/-- The file names its format. -/
theorem format_annsText : Setting.format.inText annsText = some .json := by
  have hunder : under Setting.format.name annsMembers = [.string "json"] := rfl
  have hamong : Setting.format.among (depthLimit - 1) annsMembers = some (some .json) :=
    (Setting.format_among hunder).mpr rfl
  rw [Setting.inText, membersOf?_annsText, Option.bind_some, hamong]
  rfl

theorem decodes_teamText : Decodes teamText := by
  refine ⟨[(.ok "max_request_bytes", .number (.integer 512)), (.ok "dialect", .string "mysql"), (.ok "output", .null)],
    rfl, ?_, rfl, rfl, rfl⟩
  simp [Readable, settingNames]

theorem annsFile_home : annsFile annsHome = .ok annsText := if_pos rfl

theorem annsFile_team : annsFile "team.json" = .ok teamText := by
  have hne : "team.json" ≠ annsHome := by
    intro heq
    have hlength := length_le_length_joinPath (joinPath "/home/ann" ("." ++ programName)) settingsFile
    rw [show joinPath _ settingsFile = "team.json" from heq.symm] at hlength
    exact absurd hlength (by decide)
  rw [annsFile, if_neg hne, if_pos rfl]

theorem expandPath_team : expandPath (some "/home/ann") "team.json" = "team.json" := rfl

theorem consulted_anns : consulted annsHost (some "/home/ann") annsRequest.config = ["team.json", annsHome] := by
  show existing annsHost [expandPath (some "/home/ann") "team.json", annsHome] = _
  rw [expandPath_team]
  refine List.filter_eq_self.mpr (List.forall_mem_cons.mpr ⟨?_, List.forall_mem_singleton.mpr ?_⟩)
  · exact congrArg Except.isOk annsFile_team
  · exact congrArg Except.isOk annsFile_home

theorem Setting.stack_anns {α : Type} (s : Setting α) : s.stack annsHost (some "/home/ann") annsRequest =
    [s.get annsRequest.settings, s.inText teamText, s.inText annsText] := by
  rw [stack, consulted_anns, List.map_cons, List.map_singleton, inFile_eq annsFile_team, inFile_eq annsFile_home]

/-- The dialect comes from the arguments, the limit from the team, and the format from the home directory. -/
theorem annsSettings_layered : (∃ settings, Settings.Loads annsHost (some "/home/ann") annsRequest [] settings) ∧
    ∀ settings, Settings.Loads annsHost (some "/home/ann") annsRequest [] settings →
      settings = { dialect := .sqlite, limit := 512, format := .json } := by
  obtain ⟨-, hfirst, -, hlimit, -⟩ := Settings.load_layered annsHost (some "/home/ann") annsRequest []
  have hstack : Setting.limit.stack annsHost (some "/home/ann") annsRequest = [none, some 512, some 0] :=
    Setting.limit.stack_anns
  have hthere : ∀ config ∈ annsRequest.config, annsHost.fileExists (expandPath (some "/home/ann") config) = true := by
    intro config hconfig
    obtain rfl : "team.json" = config := Option.some.inj hconfig
    rw [expandPath_team]
    exact congrArg Except.isOk annsFile_team
  have hdecodes : ∀ path ∈ consulted annsHost (some "/home/ann") annsRequest.config, DecodesAt annsHost path := by
    rw [consulted_anns]
    exact List.forall_mem_cons.mpr ⟨⟨_, annsFile_team, decodes_teamText⟩,
      List.forall_mem_singleton.mpr ⟨_, annsFile_home, decodes_annsText⟩⟩
  refine ⟨(hlimit [none] 512 [some 0] hstack (by decide) (by decide)).mpr ⟨hthere, hdecodes⟩, ?_⟩
  rintro ⟨dialect, limit, format⟩ h
  obtain ⟨hd, hl, hf⟩ := hfirst _ h
  rw [Setting.resolved, Setting.stack_anns] at hd hl hf
  rw [format_annsText] at hf
  dsimp only at hd hl hf
  rw [hd, hl, hf]
  rfl

end BoundSql.Command
