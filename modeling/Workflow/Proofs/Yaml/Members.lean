import Workflow.Proofs.Json

/-! What YAML documents say of the fields of their sections, whichever way YAML is read. -/

namespace Workflow.Yaml

/-- A way to read YAML. Asked for something of a kind, a node gives it or is not of that kind. -/
structure Reader (Document Node : Type) where
  document? : String → Option Document
  /-- A document of comments alone has no root. -/
  root : Document → Option Node
  members? : Document → Node → Option (List (String × Node))
  items? : Document → Node → Option (List Node)
  text? : Document → Node → Option String
  boolean? : Document → Node → Option Bool
  isNull? : Document → Node → Option Bool

section Members

variable {Node α : Type} {ms : List (String × Node)} {key : String} {read? : Node → Option α}
  {said said' : Option α}

/-- Nothing is said of a key that is absent. One that is present has to be there once, with a node that
can be read. -/
inductive Says (ms : List (String × Node)) (key : String) (read? : Node → Option α) : Option α → Prop
  | absent (h : key ∉ ms.map Prod.fst) : Says ms key read? none
  | present {before after : List (String × Node)} {n : Node} {a : α}
      (hms : ms = before ++ (key, n) :: after) (hbefore : key ∉ before.map Prod.fst)
      (hafter : key ∉ after.map Prod.fst) (hread : read? n = some a) : Says ms key read? (some a)

theorem says_none_iff : Says ms key read? none ↔ (ms.filter fun m => m.1 == key) = [] := by
  rw [filter_key_eq_nil_iff]
  exact ⟨fun | .absent h => h, .absent⟩

theorem says_some_iff {a : α} : Says ms key read? (some a) ↔
    ∃ n, (ms.filter fun m => m.1 == key) = [(key, n)] ∧ read? n = some a := by
  constructor
  · rintro (_ | ⟨hms, hbefore, hafter, hread⟩)
    exact ⟨_, filter_key_eq_singleton_iff.mpr ⟨_, _, hms, hbefore, rfl, hafter⟩, hread⟩
  · rintro ⟨n, hone, hread⟩
    obtain ⟨before, after, hms, hbefore, -, hafter⟩ := filter_key_eq_singleton_iff.mp hone
    exact .present hms hbefore hafter hread

theorem Says.unique (h : Says ms key read? said) (h' : Says ms key read? said') : said = said' := by
  cases said with
  | none =>
    cases said' with
    | none => rfl
    | some a' =>
      obtain ⟨n, hone, -⟩ := says_some_iff.mp h'
      rw [says_none_iff.mp h] at hone
      cases hone
  | some a =>
    obtain ⟨n, hone, hread⟩ := says_some_iff.mp h
    cases said' with
    | none =>
      rw [says_none_iff.mp h'] at hone
      cases hone
    | some a' =>
      obtain ⟨n', hone', hread'⟩ := says_some_iff.mp h'
      cases hone.symm.trans hone'
      exact hread.symm.trans hread'

theorem says_nil_iff : Says [] key read? said ↔ said = none :=
  ⟨fun h => h.unique (says_none_iff.mpr rfl), fun h => h ▸ says_none_iff.mpr rfl⟩

end Members

namespace Reader

variable {Document Node α : Type} (yaml : Reader Document Node)

def texts? (d : Document) (n : Node) : Option (List String) :=
  (yaml.items? d n).bind fun items => items.mapM (yaml.text? d)

def optionalText? (d : Document) (n : Node) : Option (Option String) :=
  (yaml.isNull? d n).bind fun isNull => if isNull then some none else (yaml.text? d n).map some

def sections? (d : Document) : Option (List (String × Node)) :=
  (yaml.root d).elim (some []) (yaml.members? d)

def Part (d : Document) (part : String) (fields : Option (List (String × Node))) : Prop :=
  ∃ sections, yaml.sections? d = some sections ∧ Yaml.Says sections part (yaml.members? d) fields

/-- What a document says of a field of a section. -/
def Says (d : Document) (part key : String) (read? : Document → Node → Option α)
    (said : Option α) : Prop :=
  ∃ fields, yaml.Part d part fields ∧ Yaml.Says (fields.getD []) key (read? d) said

variable {yaml} {d : Document} {part key : String} {fields fields' : Option (List (String × Node))}
  {read? : Document → Node → Option α} {said said' : Option α}

theorem Part.unique (h : yaml.Part d part fields) (h' : yaml.Part d part fields') : fields = fields' := by
  obtain ⟨sections, hsections, hfields⟩ := h
  obtain ⟨sections', hsections', hfields'⟩ := h'
  obtain rfl : sections = sections' := Option.some.inj (hsections.symm.trans hsections')
  exact hfields.unique hfields'

theorem Says.of_part (h : yaml.Says d part key read? said) (hfields : yaml.Part d part fields) :
    Yaml.Says (fields.getD []) key (read? d) said := by
  obtain ⟨_, hpart, hsaid⟩ := h
  rwa [hpart.unique hfields] at hsaid

theorem Says.unique (h : yaml.Says d part key read? said) (h' : yaml.Says d part key read? said') :
    said = said' := by
  obtain ⟨_, hpart, hsaid⟩ := h'
  exact (h.of_part hpart).unique hsaid

end Reader

end Workflow.Yaml
