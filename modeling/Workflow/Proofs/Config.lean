import Workflow.CommandLine.Program
import Workflow.Proofs.Config.Reading

/-! Where each setting of a configuration comes from. No source decides more than the settings it is for. -/

namespace Workflow

/-- No other variable tells the environments apart. -/
def Environment.AgreesBut (env : Environment) (name : String) (env' : Environment) : Prop :=
  ∀ other, other ≠ name → env.get? other = env'.get? other

namespace Config

/-- The file that is asked for, or else the one of the variable, or else none. -/
inductive Chooses (env : Environment) : Option String → Option String → Prop
  | asked (path : String) : Chooses env (some path) (some path)
  | variable {path : String} (h : env.get? "STATEWRIGHT_CONFIG" = some path) : Chooses env none (some path)
  | nothing (h : env.get? "STATEWRIGHT_CONFIG" = none) : Chooses env none none

/-- What is written in the file, or nothing if there is none. -/
inductive States {Document Node : Type} (yaml : Yaml.Reader Document Node) (files : Files) :
    Option String → Written → Prop
  | nothing : States yaml files none {}
  | file {path text : String} {d : Document} {w : Written} (htext : files.text path = .ok text)
      (hd : yaml.document? text = some d) (hw : w.StatedIn yaml d) : States yaml files (some path) w

/-- Why a file gives no configuration. -/
inductive Fails (read : String → Except String Config) (files : Files) (path : String) : ConfigError → Prop
  | unreadable {e : ReadError} (h : files.text path = .error e) : Fails read files path (.unreadable path e)
  | malformed {text reason : String} (htext : files.text path = .ok text)
      (h : read text = .error reason) : Fails read files path (.malformed path reason)

/-- A switch goes by its variable, unless that is unset or has a value that is not known. -/
inductive Switched (written : Bool) : Option String → Bool → Prop
  | on {value : String} (h : Text.lower value ∈ ["1", "true", "yes"]) : Switched written (some value) true
  | off {value : String} (h : Text.lower value ∈ ["0", "false", "no"]) : Switched written (some value) false
  | unknown {value : String} (h : Text.lower value ∉ ["1", "true", "yes", "0", "false", "no"]) :
      Switched written (some value) written
  | unset : Switched written none written

/-- Each setting is drawn from the variable for it, or else from the file, or else is the default. -/
structure Drawn (env : Environment) (w : Written) (c : Config) : Prop where
  filter : c.logging.filter = ((env.get? "STATEWRIGHT_LOG").or w.filter).getD "warn"
  names : c.hooks.names = w.names.getD []
  autoBind : Switched (w.autoBind.getD false) (env.get? "STATEWRIGHT_AUTO_BIND") c.hooks.autoBind
  historyFile : c.repl.historyFile = (env.get? "STATEWRIGHT_HISTORY").or (w.historyFile.getD none)
  prompt : c.repl.prompt = w.prompt.getD "statewright>"

structure SameBut (shared : String → Prop) (c c' : Config) : Prop where
  filter : shared "STATEWRIGHT_LOG" → c.logging.filter = c'.logging.filter
  names : c.hooks.names = c'.hooks.names
  autoBind : shared "STATEWRIGHT_AUTO_BIND" → c.hooks.autoBind = c'.hooks.autoBind
  historyFile : shared "STATEWRIGHT_HISTORY" → c.repl.historyFile = c'.repl.historyFile
  prompt : c.repl.prompt = c'.repl.prompt

/-- Two attempts that fail with the same error, or load configurations that are the same but for the
variables that are not shared. -/
inductive Alike (shared : String → Prop) :
    Except ConfigError Config → Except ConfigError Config → Prop
  | failed (e : ConfigError) : Alike shared (.error e) (.error e)
  | loaded {c c' : Config} (h : SameBut shared c c') : Alike shared (.ok c) (.ok c')

section Switch

open HooksConfig (switch?)

variable {value : String}

theorem switch?_eq_some_true_iff : switch? value = some true ↔ Text.lower value ∈ ["1", "true", "yes"] := by
  unfold switch?
  split <;> simp_all

theorem switch?_eq_some_false_iff : switch? value = some false ↔ Text.lower value ∈ ["0", "false", "no"] := by
  unfold switch?
  split <;> simp_all

theorem switch?_eq_none_iff :
    switch? value = none ↔ Text.lower value ∉ ["1", "true", "yes", "0", "false", "no"] := by
  unfold switch?
  split <;> simp_all

theorem switched_iff {written b : Bool} {value? : Option String} :
    Switched written value? b ↔ b = (value?.bind switch?).getD written := by
  constructor
  · rintro (h | h | h | _)
    · rw [Option.bind_some, switch?_eq_some_true_iff.mpr h, Option.getD_some]
    · rw [Option.bind_some, switch?_eq_some_false_iff.mpr h, Option.getD_some]
    · rw [Option.bind_some, switch?_eq_none_iff.mpr h, Option.getD_none]
    · rfl
  · rintro rfl
    cases value? with
    | none => exact .unset
    | some value =>
      rw [Option.bind_some]
      cases h : switch? value with
      | none => exact .unknown (switch?_eq_none_iff.mp h)
      | some b =>
        cases b with
        | true => exact .on (switch?_eq_some_true_iff.mp h)
        | false => exact .off (switch?_eq_some_false_iff.mp h)

end Switch

section Loading

variable {Document Node : Type} {yaml : Yaml.Reader Document Node} {read : String → Except String Config}
  {files files' : Files} {env env' : Environment} {asked asked' chosen : Option String} {path : String}
  {c : Config} {e : ConfigError} {w : Written}

theorem chooses_iff : Chooses env asked chosen ↔ path? env asked = chosen := by
  constructor
  · rintro (_ | h | h)
    · rfl
    · exact h
    · exact h
  · rintro rfl
    cases asked with
    | some path => exact .asked path
    | none =>
      cases h : env.get? "STATEWRIGHT_CONFIG" with
      | some path => rw [path?, h]; exact .variable h
      | none => rw [path?, h]; exact .nothing h

theorem drawn_iff : Drawn env w c ↔ c = w.config.override env := by
  constructor
  · rintro ⟨hfilter, hnames, hautoBind, hhistoryFile, hprompt⟩
    obtain ⟨⟨filter⟩, ⟨names, autoBind⟩, ⟨historyFile, prompt⟩⟩ := c
    rw [switched_iff] at hautoBind
    dsimp only at hfilter hnames hautoBind hhistoryFile hprompt
    subst hfilter hnames hautoBind hhistoryFile hprompt
    rw [Option.getD_or]
    rfl
  · rintro rfl
    exact ⟨Option.getD_or.symm, rfl, switched_iff.mpr rfl, rfl, rfl⟩

theorem ofFile_eq_ok_iff :
    ofFile read files path = .ok c ↔ ∃ text, files.text path = .ok text ∧ read text = .ok c := by
  unfold ofFile
  cases files.text path with
  | error e => simp
  | ok text => cases hread : read text <;> simp [hread]

theorem ofFile_eq_error_iff : ofFile read files path = .error e ↔ Fails read files path e := by
  constructor
  · intro h
    unfold ofFile at h
    split at h
    next htext =>
      obtain rfl := Except.error.inj h
      exact .unreadable htext
    next text htext =>
      split at h
      next hread =>
        obtain rfl := Except.error.inj h
        exact .malformed htext hread
      next => cases h
  · rintro (htext | ⟨htext, hread⟩)
    · simp only [ofFile, htext]
    · simp only [ofFile, htext, hread]

theorem loadBy_of_chooses (h : Chooses env asked chosen) :
    loadBy read files env asked = (chosen.elim (.ok {}) (ofFile read files)).map fun c => c.override env := by
  rw [loadBy, chooses_iff.mp h]

theorem exists_chooses (env : Environment) (asked : Option String) : ∃ chosen, Chooses env asked chosen :=
  ⟨_, chooses_iff.mpr rfl⟩

theorem elim_ofFile_eq_ok_iff (hread : ReadsDeclared yaml read) :
    chosen.elim (.ok {}) (ofFile read files) = .ok c ↔
      ∃ w : Written, States yaml files chosen w ∧ c = w.config := by
  cases chosen with
  | some path =>
    rw [Option.elim_some, ofFile_eq_ok_iff]
    constructor
    · rintro ⟨text, htext, hc⟩
      obtain ⟨d, w, hd, hw, rfl⟩ := hread.eq_ok_iff.mp hc
      exact ⟨w, .file htext hd hw, rfl⟩
    · rintro ⟨w, _ | ⟨htext, hd, hw⟩, rfl⟩
      exact ⟨_, htext, hread.eq_ok_iff.mpr ⟨_, w, hd, hw, rfl⟩⟩
  | none =>
    constructor
    · intro h
      exact ⟨{}, .nothing, (Except.ok.inj h).symm⟩
    · rintro ⟨_, ⟨⟩, rfl⟩
      rfl

theorem loadBy_eq_ok_iff (hread : ReadsDeclared yaml read) : loadBy read files env asked = .ok c ↔
    ∃ chosen, ∃ w : Written, Chooses env asked chosen ∧ States yaml files chosen w ∧ Drawn env w c := by
  constructor
  · intro h
    obtain ⟨chosen, hchosen⟩ := exists_chooses env asked
    rw [loadBy_of_chooses hchosen] at h
    cases hfile : chosen.elim (.ok {}) (ofFile read files) with
    | error e => rw [hfile] at h; cases h
    | ok written =>
      rw [hfile] at h
      obtain ⟨w, hw, rfl⟩ := (elim_ofFile_eq_ok_iff hread).mp hfile
      exact ⟨chosen, w, hchosen, hw, drawn_iff.mpr (Except.ok.inj h).symm⟩
  · rintro ⟨chosen, w, hchosen, hw, hc⟩
    have hfile : chosen.elim (.ok {}) (ofFile read files) = .ok w.config :=
      (elim_ofFile_eq_ok_iff hread).mpr ⟨w, hw, rfl⟩
    rw [loadBy_of_chooses hchosen, hfile, drawn_iff.mp hc]
    rfl

theorem loadBy_eq_error_iff : loadBy read files env asked = .error e ↔
    ∃ path, Chooses env asked (some path) ∧ Fails read files path e := by
  constructor
  · intro h
    obtain ⟨chosen, hchosen⟩ := exists_chooses env asked
    rw [loadBy_of_chooses hchosen] at h
    cases chosen with
    | none => cases h
    | some path =>
      refine ⟨path, hchosen, ofFile_eq_error_iff.mp ?_⟩
      rw [Option.elim_some] at h
      cases hfile : ofFile read files path with
      | error e => rw [hfile] at h; exact congrArg Except.error (Except.error.inj h)
      | ok written => rw [hfile] at h; cases h
  · rintro ⟨path, hchosen, hfails⟩
    rw [loadBy_of_chooses hchosen, Option.elim_some, ofFile_eq_error_iff.mpr hfails]
    rfl

theorem sameBut_override (written : Config) :
    SameBut (fun name => env.get? name = env'.get? name) (written.override env) (written.override env') where
  filter h := congrArg (Option.getD · written.logging.filter) h
  names := rfl
  autoBind h := congrArg (fun value? => (value?.bind HooksConfig.switch?).getD written.hooks.autoBind) h
  historyFile h := congrArg (Option.or · written.repl.historyFile) h
  prompt := rfl

theorem Alike.mono {shared shared' : String → Prop} {r r' : Except ConfigError Config}
    (h : Alike shared r r') (hshared : ∀ name, shared' name → shared name) : Alike shared' r r' := by
  cases h with
  | failed e => exact .failed e
  | loaded h =>
    exact .loaded {
      filter := fun hname => h.filter (hshared _ hname)
      names := h.names
      autoBind := fun hname => h.autoBind (hshared _ hname)
      historyFile := fun hname => h.historyFile (hshared _ hname)
      prompt := h.prompt }

theorem ofFile_congr (h : files path = files' path) : ofFile read files path = ofFile read files' path := by
  rw [ofFile, ofFile, Files.text, Files.text, h]

theorem loadBy_alike (hchosen : Chooses env asked chosen) (hchosen' : Chooses env' asked' chosen)
    (hfiles : ∀ path ∈ chosen, files path = files' path) :
    Alike (fun name => env.get? name = env'.get? name) (loadBy read files env asked)
      (loadBy read files' env' asked') := by
  have hfile : chosen.elim (.ok {}) (ofFile read files') = chosen.elim (.ok {}) (ofFile read files) := by
    cases chosen with
    | none => rfl
    | some path => exact (ofFile_congr (hfiles path rfl)).symm
  rw [loadBy_of_chooses hchosen, loadBy_of_chooses hchosen', hfile]
  cases chosen.elim (.ok {}) (ofFile read files) with
  | error e => exact .failed e
  | ok written => exact .loaded (sameBut_override written)

theorem loadBy_alike_of_agreesBut {name : String} (hname : name ≠ "STATEWRIGHT_CONFIG")
    (henv : env.AgreesBut name env') (files : Files) (asked : Option String) :
    Alike (· ≠ name) (loadBy read files env asked) (loadBy read files env' asked) := by
  obtain ⟨chosen, hchosen⟩ := exists_chooses env asked
  have hchosen' : Chooses env' asked chosen := by
    rw [chooses_iff, path?, ← henv _ hname.symm]
    exact chooses_iff.mp hchosen
  exact (loadBy_alike hchosen hchosen' fun path _ => rfl).mono henv

theorem loadConfigBy_eq_error_iff {i : CommandLine.Invocation} :
    i.loadConfigBy read files env = .error e ↔ loadBy read files env i.config = .error e := by
  rw [CommandLine.Invocation.loadConfigBy]
  cases loadBy read files env i.config <;> simp [Except.map]

theorem exists_loadConfigBy {i : CommandLine.Invocation} (hc : loadBy read files env i.config = .ok c) :
    ∃ c', i.loadConfigBy read files env = .ok c' ∧ SameBut (· ≠ "STATEWRIGHT_AUTO_BIND") c c' ∧
      (c'.hooks.autoBind = true ↔ i.autoBind = true ∨ c.hooks.autoBind = true) := by
  refine ⟨_, by rw [CommandLine.Invocation.loadConfigBy, hc]; rfl, ?_, Bool.or_eq_true_iff⟩
  exact ⟨fun _ => rfl, rfl, fun h => absurd rfl h, fun _ => rfl, rfl⟩

end Loading

/-- Variables and files decide each setting on their own, and no variable makes up for a file that cannot
be loaded. This does not depend on how YAML is read, if only what is read is what the files state. -/
theorem load_settings_by_source {Document Node : Type} {yaml : Yaml.Reader Document Node}
    {read : String → Except String Config} (hread : ReadsDeclared yaml read) (files : Files)
    (env : Environment) (asked : Option String) :
    (∀ c, loadBy read files env asked = .ok c ↔ ∃ chosen, ∃ w : Written,
      Chooses env asked chosen ∧ States yaml files chosen w ∧ Drawn env w c) ∧
    (∀ e, loadBy read files env asked = .error e ↔
      ∃ path, Chooses env asked (some path) ∧ Fails read files path e) ∧
    (∀ files' env' asked' chosen, Chooses env asked chosen → Chooses env' asked' chosen →
      (∀ path ∈ chosen, files path = files' path) →
      Alike (fun name => env.get? name = env'.get? name) (loadBy read files env asked)
        (loadBy read files' env' asked')) ∧
    (∀ name env', name ≠ "STATEWRIGHT_CONFIG" → env.AgreesBut name env' →
      Alike (· ≠ name) (loadBy read files env asked) (loadBy read files env' asked)) ∧
    ∀ i : CommandLine.Invocation, i.config = asked →
      (∀ e, i.loadConfigBy read files env = .error e ↔ loadBy read files env asked = .error e) ∧
      ∀ c, loadBy read files env asked = .ok c → ∃ c', i.loadConfigBy read files env = .ok c' ∧
        SameBut (· ≠ "STATEWRIGHT_AUTO_BIND") c c' ∧
        (c'.hooks.autoBind = true ↔ i.autoBind = true ∨ c.hooks.autoBind = true) := by
  refine ⟨fun c => loadBy_eq_ok_iff hread, fun e => loadBy_eq_error_iff,
    fun files' env' asked' chosen => loadBy_alike,
    fun name env' hname henv => loadBy_alike_of_agreesBut hname henv files asked, ?_⟩
  rintro i rfl
  exact ⟨fun e => loadConfigBy_eq_error_iff, fun c => exists_loadConfigBy⟩

/-- A switch that the file turns on, under a value that says nothing and then under one that turns it off,
beside settings of the file alone; and a file that is asked for and not there. -/
theorem load_settings_by_source_two_switches :
    let files : Files := fun path =>
      if path = "settings.yaml" then .ok ("hooks:\n  auto_bind: true\n  names: [OnRun]\n" ++
        "logging: \x7bfilter: info\x7d\nrepl:\n  prompt: 'go>'\n  history_file: old\n").toByteArray
      else .error .notFound
    let settings (switch : String) : Environment :=
      ⟨[("STATEWRIGHT_CONFIG", "settings.yaml"), ("STATEWRIGHT_AUTO_BIND", switch)]⟩
    let logging : LoggingConfig := { filter := "info" }
    let repl : ReplConfig := { historyFile := some "old", prompt := "go>" }
    load files (settings "maybe") none = .ok ⟨logging, { names := ["OnRun"], autoBind := true }, repl⟩ ∧
      load files (settings "NO") none = .ok ⟨logging, { names := ["OnRun"], autoBind := false }, repl⟩ ∧
      Alike (· ≠ "STATEWRIGHT_AUTO_BIND") (load files (settings "maybe") none)
        (load files (settings "NO") none) ∧
      ∀ env, load files env (some "missing.yaml") = .error (.unreadable "missing.yaml" .notFound) := by
  intro files settings logging repl
  obtain ⟨-, -, -, halike, -⟩ := load_settings_by_source readsDeclared_ofText files (settings "maybe") none
  have hbut : (settings "maybe").AgreesBut "STATEWRIGHT_AUTO_BIND" (settings "NO") := by
    intro other hother
    simp only [settings, Environment.get?, List.lookup_cons, beq_eq_false_iff_ne.mpr hother]
  refine ⟨by decide +kernel, by decide +kernel, halike _ _ (by decide) hbut, fun env => ?_⟩
  exact ((load_settings_by_source readsDeclared_ofText files env (some "missing.yaml")).2.1 _).mpr
    ⟨_, .asked _, .unreadable (by decide +kernel)⟩

end Config

end Workflow
