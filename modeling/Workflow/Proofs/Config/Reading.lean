import Workflow.Config.Reader
import Workflow.Proofs.Definition.Reading
import Workflow.Proofs.Yaml.Document

/-! Settings read from documents: what a file states of them, and what is expected of a reader. -/

namespace Workflow.Config

open Definition (bind_eq_ok_iff)
open Yaml (Says Reader says_nil_iff toOption_eq_some_iff)
open Yaml.Document (read_eq_ok_iff read_section_eq_ok_iff)

/-- The values that a document has for the settings, as far as it has them. -/
structure Written where
  filter : Option String := none
  names : Option (List String) := none
  autoBind : Option Bool := none
  historyFile : Option (Option String) := none
  prompt : Option String := none

/-- The settings that are written, with those that are declared for the others. -/
def Written.config (w : Written) : Config :=
  let declared : Config := {}
  { logging := { filter := w.filter.getD declared.logging.filter }
    hooks := {
      names := w.names.getD declared.hooks.names
      autoBind := w.autoBind.getD declared.hooks.autoBind }
    repl := {
      historyFile := w.historyFile.getD declared.repl.historyFile
      prompt := w.prompt.getD declared.repl.prompt } }

section Declaration

variable {Document Node : Type}

structure Written.StatedIn (yaml : Reader Document Node) (w : Written) (d : Document) : Prop where
  filter : yaml.Says d "logging" "filter" yaml.text? w.filter
  names : yaml.Says d "hooks" "names" yaml.texts? w.names
  autoBind : yaml.Says d "hooks" "auto_bind" yaml.boolean? w.autoBind
  historyFile : yaml.Says d "repl" "history_file" yaml.optionalText? w.historyFile
  prompt : yaml.Says d "repl" "prompt" yaml.text? w.prompt

theorem Written.StatedIn.unique {yaml : Reader Document Node} {w w' : Written} {d : Document}
    (h : w.StatedIn yaml d) (h' : w'.StatedIn yaml d) : w = w' := by
  obtain ⟨filter, names, autoBind, historyFile, prompt⟩ := w
  rw [mk.injEq]
  exact ⟨h.filter.unique h'.filter, h.names.unique h'.names, h.autoBind.unique h'.autoBind,
    h.historyFile.unique h'.historyFile, h.prompt.unique h'.prompt⟩

/-- What is expected of a way to read configurations. A text is accepted if its document states settings
of the declared types. Those that it states are taken over, and the others are as declared. -/
structure ReadsDeclared (yaml : Reader Document Node) (read : String → Except String Config) : Prop where
  accepts : ∀ text, (∃ c, read text = .ok c) ↔
    ∃ d, ∃ w : Written, yaml.document? text = some d ∧ w.StatedIn yaml d
  takesOver : ∀ text c d, ∀ w : Written, read text = .ok c → yaml.document? text = some d →
    w.StatedIn yaml d → c = w.config

theorem ReadsDeclared.eq_ok_iff {yaml : Reader Document Node} {read : String → Except String Config}
    (h : ReadsDeclared yaml read) {text : String} {c : Config} : read text = .ok c ↔
      ∃ d, ∃ w : Written, yaml.document? text = some d ∧ w.StatedIn yaml d ∧ c = w.config := by
  constructor
  · intro hc
    obtain ⟨d, w, hd, hw⟩ := (h.accepts text).mp ⟨c, hc⟩
    exact ⟨d, w, hd, hw, h.takesOver text c d w hc hd hw⟩
  · rintro ⟨d, w, hd, hw, rfl⟩
    obtain ⟨c, hc⟩ := (h.accepts text).mpr ⟨d, w, hd, hw⟩
    rw [hc, h.takesOver text c d w hc hd hw]

end Declaration

section Document

open Yaml.Document (reader texts?_reader optionalText?_reader sections?_reader)

variable {d : Yaml.Document} {n : Yaml.Node} {ms : Yaml.Document.Members}

theorem readLogging_eq_ok_iff {l : LoggingConfig} :
    readLogging d n = .ok l ↔ ∃ fields, d.members n = .ok fields ∧
      ∃ filter, Says fields "filter" (reader.text? d) filter ∧ l = { filter := filter.getD "warn" } := by
  simp only [readLogging, bind_eq_ok_iff, read_eq_ok_iff, pure, Except.pure, Except.ok.injEq]
  refine exists_congr fun fields => and_congr_right fun _ => ?_
  constructor
  · rintro ⟨_, ⟨filter, hfilter, rfl⟩, rfl⟩
    exact ⟨filter, hfilter, rfl⟩
  · rintro ⟨filter, hfilter, rfl⟩
    exact ⟨_, ⟨filter, hfilter, rfl⟩, rfl⟩

theorem readHooks_eq_ok_iff {h : HooksConfig} :
    readHooks d n = .ok h ↔ ∃ fields, d.members n = .ok fields ∧
      ∃ names autoBind, Says fields "names" (reader.texts? d) names ∧
        Says fields "auto_bind" (reader.boolean? d) autoBind ∧
        h = { names := names.getD [], autoBind := autoBind.getD false } := by
  simp only [readHooks, bind_eq_ok_iff, read_eq_ok_iff, ← texts?_reader, pure, Except.pure, Except.ok.injEq]
  refine exists_congr fun fields => and_congr_right fun _ => ?_
  constructor
  · rintro ⟨_, ⟨names, hnames, rfl⟩, _, ⟨autoBind, hautoBind, rfl⟩, rfl⟩
    exact ⟨names, autoBind, hnames, hautoBind, rfl⟩
  · rintro ⟨names, autoBind, hnames, hautoBind, rfl⟩
    exact ⟨_, ⟨names, hnames, rfl⟩, _, ⟨autoBind, hautoBind, rfl⟩, rfl⟩

theorem readRepl_eq_ok_iff {r : ReplConfig} :
    readRepl d n = .ok r ↔ ∃ fields, d.members n = .ok fields ∧
      ∃ historyFile prompt, Says fields "history_file" (reader.optionalText? d) historyFile ∧
        Says fields "prompt" (reader.text? d) prompt ∧
        r = { historyFile := historyFile.getD none, prompt := prompt.getD "statewright>" } := by
  simp only [readRepl, bind_eq_ok_iff, read_eq_ok_iff, ← optionalText?_reader, pure, Except.pure,
    Except.ok.injEq]
  refine exists_congr fun fields => and_congr_right fun _ => ?_
  constructor
  · rintro ⟨_, ⟨historyFile, hhistoryFile, rfl⟩, _, ⟨prompt, hprompt, rfl⟩, rfl⟩
    exact ⟨historyFile, prompt, hhistoryFile, hprompt, rfl⟩
  · rintro ⟨historyFile, prompt, hhistoryFile, hprompt, rfl⟩
    exact ⟨_, ⟨historyFile, hhistoryFile, rfl⟩, _, ⟨prompt, hprompt, rfl⟩, rfl⟩

theorem read_logging_eq_ok_iff {l : LoggingConfig} :
    ms.read "logging" {} (readLogging d) = .ok l ↔ ∃ fields, Says ms "logging" (reader.members? d) fields ∧
      ∃ filter, Says (fields.getD []) "filter" (reader.text? d) filter ∧ l = { filter := filter.getD "warn" } :=
  read_section_eq_ok_iff (fun _ _ => readLogging_eq_ok_iff) fun _ => by simp [says_nil_iff]

theorem read_hooks_eq_ok_iff {h : HooksConfig} :
    ms.read "hooks" {} (readHooks d) = .ok h ↔ ∃ fields, Says ms "hooks" (reader.members? d) fields ∧
      ∃ names autoBind, Says (fields.getD []) "names" (reader.texts? d) names ∧
        Says (fields.getD []) "auto_bind" (reader.boolean? d) autoBind ∧
        h = { names := names.getD [], autoBind := autoBind.getD false } :=
  read_section_eq_ok_iff (fun _ _ => readHooks_eq_ok_iff) fun _ => by simp [says_nil_iff]

theorem read_repl_eq_ok_iff {r : ReplConfig} :
    ms.read "repl" {} (readRepl d) = .ok r ↔ ∃ fields, Says ms "repl" (reader.members? d) fields ∧
      ∃ historyFile prompt, Says (fields.getD []) "history_file" (reader.optionalText? d) historyFile ∧
        Says (fields.getD []) "prompt" (reader.text? d) prompt ∧
        r = { historyFile := historyFile.getD none, prompt := prompt.getD "statewright>" } :=
  read_section_eq_ok_iff (fun _ _ => readRepl_eq_ok_iff) fun _ => by simp [says_nil_iff]

theorem ofDocument_eq_ok_iff {c : Config} :
    ofDocument d = .ok c ↔ ∃ w : Written, w.StatedIn reader d ∧ c = w.config := by
  have hsections (sections : Yaml.Document.Members) :
      d.rootMembers = .ok sections ↔ reader.sections? d = some sections := by
    rw [sections?_reader, toOption_eq_some_iff]
  simp only [ofDocument, bind_eq_ok_iff, hsections, read_logging_eq_ok_iff, read_hooks_eq_ok_iff,
    read_repl_eq_ok_iff, pure, Except.pure, Except.ok.injEq]
  constructor
  · rintro ⟨root, hroot, _, ⟨_, hl, filter, hfilter, rfl⟩, _, ⟨_, hh, names, autoBind, hnames, hautoBind, rfl⟩,
      _, ⟨_, hr, historyFile, prompt, hhistoryFile, hprompt, rfl⟩, rfl⟩
    exact ⟨⟨filter, names, autoBind, historyFile, prompt⟩, {
      filter := ⟨_, ⟨root, hroot, hl⟩, hfilter⟩
      names := ⟨_, ⟨root, hroot, hh⟩, hnames⟩
      autoBind := ⟨_, ⟨root, hroot, hh⟩, hautoBind⟩
      historyFile := ⟨_, ⟨root, hroot, hr⟩, hhistoryFile⟩
      prompt := ⟨_, ⟨root, hroot, hr⟩, hprompt⟩ }, rfl⟩
  · rintro ⟨w, hw, rfl⟩
    obtain ⟨_, ⟨root, hroot, hl⟩, hfilter⟩ := hw.filter
    obtain ⟨_, ⟨root', hroot', hh⟩, hnames⟩ := hw.names
    obtain ⟨_, ⟨root'', hroot'', hr⟩, hhistoryFile⟩ := hw.historyFile
    obtain rfl : root = root' := Option.some.inj (hroot.symm.trans hroot')
    obtain rfl : root = root'' := Option.some.inj (hroot.symm.trans hroot'')
    have hautoBind := hw.autoBind.of_part ⟨root, hroot, hh⟩
    have hprompt := hw.prompt.of_part ⟨root, hroot, hr⟩
    exact ⟨root, hroot, _, ⟨_, hl, _, hfilter, rfl⟩, _, ⟨_, hh, _, _, hnames, hautoBind, rfl⟩, _,
      ⟨_, hr, _, _, hhistoryFile, hprompt, rfl⟩, rfl⟩

theorem ofText_eq_ok_iff {text : String} {c : Config} : ofText text = .ok c ↔
    ∃ d, ∃ w : Written, reader.document? text = some d ∧ w.StatedIn reader d ∧ c = w.config := by
  have hyaml : ofText text = .ok c ↔ ofYaml text = .ok c := by
    rw [ofText]
    cases ofYaml text <;> simp [Except.mapError]
  have hdocument (d : Yaml.Document) : Yaml.Document.ofText text = .ok d ↔ reader.document? text = some d :=
    toOption_eq_some_iff.symm
  simp only [hyaml, ofYaml, bind_eq_ok_iff, hdocument, ofDocument_eq_ok_iff, exists_and_left]

/-- The program's own way to read configurations is as expected. -/
theorem readsDeclared_ofText : ReadsDeclared reader ofText where
  accepts text := by
    constructor
    · rintro ⟨c, hc⟩
      obtain ⟨d, w, hd, hw, -⟩ := ofText_eq_ok_iff.mp hc
      exact ⟨d, w, hd, hw⟩
    · rintro ⟨d, w, hd, hw⟩
      exact ⟨w.config, ofText_eq_ok_iff.mpr ⟨d, w, hd, hw, rfl⟩⟩
  takesOver text c d w hc hd hw := by
    obtain ⟨d', w', hd', hw', rfl⟩ := ofText_eq_ok_iff.mp hc
    obtain rfl : d = d' := Option.some.inj (hd.symm.trans hd')
    rw [hw.unique hw']

end Document

end Workflow.Config
