import Mathlib.Data.List.Basic
import Workflow.Hook
import Workflow.Proofs.Text.Words

/-! What a trail tells of the current state. Events of level DEBUG name the states that are left and entered,
and each is left where the one before has ended. Their messages can be read. -/

namespace Workflow

open Text (isBlank words Unbroken)

namespace Record

/-- What is left of a word without the quote before it and the last `n` characters. -/
def unquote (n : Nat) (w : List Char) : String := String.ofList (w.tail.take (w.tail.length - n))

/-- The state that the words of a message name as current from then on. How the first one begins tells which
of the others that is. -/
def named? : List (List Char) → Option String
  | [] => none
  | first :: rest =>
    if first.take 1 = "'".toList then rest[1]?.map (unquote 1)
    else if first = "forcing".toList then rest[2]?.map (unquote 1)
    else if first = "built".toList then rest[5]?.map (unquote 2)
    else none

def target? (r : Record) : Option String := named? (words r.message.toList)

theorem unquote_enclosed (name after : String) :
    unquote after.length ("'" ++ name ++ after).toList = name := by
  rw [← String.length_toList]
  simp [unquote]

theorem target?_of_words {r : Record} {ws : List (List Char)} {rest : List Char}
    (hmessage : r.message.toList = ws.flatMap (· ++ [' ']) ++ rest)
    (hws : ∀ w ∈ ws, Unbroken w) : r.target? = named? (ws ++ words rest) := by
  rw [target?, hmessage, Text.words_flatMap hws]

theorem target?_eq_none {r : Record} (first : String) (hfirst : first ∈ ["condition", "cannot", "invoking"])
    (hbegins : (first ++ " ").toList <+: r.message.toList) : r.target? = none := by
  obtain ⟨rest, hrest⟩ := hbegins
  have hmessage : r.message.toList = [first.toList].flatMap (· ++ [' ']) ++ rest := by
    simp [← hrest]
  simp only [List.mem_cons, List.not_mem_nil, or_false] at hfirst
  rcases hfirst with rfl | rfl | rfl <;> exact target?_of_words hmessage (by decide)

end Record

def Entry.debugEvent? : Entry → Option Event
  | event e => if e.record.level = .debug then some e else none
  | line _ => none

namespace Event

def source? : Event → Option String
  | moved state _ _ => some state
  | forced state _ _ => some state
  | _ => none

def target? : Event → Option String
  | built _ initial _ => some initial
  | moved _ _ target => some target
  | forced _ target _ => some target
  | _ => none

/-- The names in a message that come before its end, or tell where the event leads. -/
def names : Event → List String
  | built _ initial _ => [initial]
  | moved state condition target => [state, condition, target]
  | forced state target _ => [state, target]
  | _ => []

theorem target?_record {e : Event} (h : ∀ name ∈ e.names, ∀ c ∈ name.toList, isBlank c = false) :
    e.record.target? = e.target? := by
  have hquoted : ∀ name ∈ e.names, Unbroken ("'" ++ name ++ "'").toList :=
    fun name hname => Text.unbroken_enclosed (h name hname) (by decide) (by decide)
  cases e with
  | built states initial checksum =>
    have hmessage : (built states initial checksum).record.message.toList =
        ["built".toList, "state".toList, "machine:".toList, (toString states).toList, "states,".toList,
          "initial".toList, ("'" ++ initial ++ "',").toList].flatMap (· ++ [' ']) ++
          ("checksum " ++ checksum).toList := by
      simp [record]
    rw [Record.target?_of_words hmessage]
    · exact congrArg some (Record.unquote_enclosed initial "',")
    · simp only [List.forall_mem_cons, List.not_mem_nil, false_imp_iff, implies_true, and_true]
      exact ⟨by decide, by decide, by decide, Text.unbroken_toString states, by decide, by decide,
        Text.unbroken_enclosed (h initial (by simp [names])) (by decide) (by decide)⟩
  | moved state condition target =>
    have hmessage : (moved state condition target).record.message.toList =
        [("'" ++ state ++ "'").toList, ("--" ++ condition ++ "-->").toList].flatMap (· ++ [' ']) ++
          ("'" ++ target ++ "'").toList := by
      simp [record]
    have hlast := (hquoted target (by simp [names])).words_eq
    have hfirst : ("'" ++ state ++ "'").toList.take 1 = "'".toList := by simp
    rw [Record.target?_of_words hmessage, hlast, List.cons_append, Record.named?, if_pos hfirst]
    · exact congrArg some (Record.unquote_enclosed target "'")
    · simp only [List.forall_mem_cons, List.not_mem_nil, false_imp_iff, implies_true, and_true]
      exact ⟨hquoted state (by simp [names]),
        Text.unbroken_enclosed (h condition (by simp [names])) (by decide) (by decide)⟩
  | ignored state condition => exact Record.target?_eq_none "condition" (by decide) (by simp [record])
  | forced state target hooks =>
    have hmessage : (forced state target hooks).record.message.toList =
        ["forcing".toList, ("'" ++ state ++ "'").toList, "->".toList, ("'" ++ target ++ "'").toList].flatMap
          (· ++ [' ']) ++ ("(hooks: " ++ (if hooks then "true" else "false") ++ ")").toList := by
      simp [record]
    rw [Record.target?_of_words hmessage]
    · exact congrArg some (Record.unquote_enclosed target "'")
    · simp only [List.forall_mem_cons, List.not_mem_nil, false_imp_iff, implies_true, and_true]
      exact ⟨by decide, hquoted state (by simp [names]), by decide,
        hquoted target (by simp [names])⟩
  | unknownState name => exact Record.target?_eq_none "cannot" (by decide) (by simp [record])
  | invoking hook host => exact Record.target?_eq_none "invoking" (by decide) (by simp [record])

/-- The events lead from one state to another: each leaves the state that is current then. -/
inductive Lead : String → List Event → String → Prop
  | nil (s : String) : Lead s [] s
  | stays {e : Event} {s t : String} {es : List Event} (hsource : e.source? = none)
      (htarget : e.target? = none) (hrest : Lead s es t) : Lead s (e :: es) t
  | moves {e : Event} {s t u : String} {es : List Event} (hsource : e.source? = some s)
      (htarget : e.target? = some t) (hrest : Lead t es u) : Lead s (e :: es) u

namespace Lead

variable {s t u : String} {es es' : List Event}

theorem append (h : Lead s es t) (h' : Lead t es' u) : Lead s (es ++ es') u := by
  induction h with
  | nil s => exact h'
  | stays hsource htarget _ ih => exact .stays hsource htarget (ih h')
  | moves hsource htarget _ ih => exact .moves hsource htarget (ih h')

theorem getLastD_target? (h : Lead s es t) : (es.filterMap target?).getLastD s = t := by
  induction h with
  | nil s => rfl
  | stays _ htarget _ ih => rwa [List.filterMap_cons_none htarget]
  | moves _ htarget _ ih => rwa [List.filterMap_cons_some htarget, List.getLastD_cons]

end Lead

end Event

namespace Trail

def debugEvents (t : Trail) : List Event := t.filterMap Entry.debugEvent?

def standing? (t : Trail) : Option String := (t.debugEvents.filterMap fun e => e.record.target?).getLast?

theorem debugEvents_append (t t' : Trail) : debugEvents (t ++ t') = t.debugEvents ++ t'.debugEvents :=
  List.filterMap_append

theorem debugEvents_flatMap {α : Type} (f : α → Trail) (xs : List α) :
    debugEvents (xs.flatMap f) = xs.flatMap fun x => (f x).debugEvents := List.filterMap_flatMap

theorem debugEvents_hooks (bs : List BoundHook) : debugEvents (bs.flatMap BoundHook.trail) = [] := by
  have hlines : ∀ lines : List String, debugEvents (lines.map Entry.line) = [] := by
    intro lines
    simp [debugEvents, Entry.debugEvent?]
  have hinvoking : ∀ hook host, Entry.debugEvent? (.event (.invoking hook host)) = none :=
    fun _ _ => rfl
  rw [debugEvents_flatMap, List.flatMap_eq_nil_iff]
  intro b _
  rw [BoundHook.trail, debugEvents, List.filterMap_cons_none (hinvoking _ _)]
  exact hlines _

theorem debugEvents_report {e : Event} (h : e.record.level = .debug) (bs : List BoundHook) :
    debugEvents (.event e :: bs.flatMap BoundHook.trail) = [e] := by
  have he : Entry.debugEvent? (.event e) = some e := if_pos h
  rw [debugEvents, List.filterMap_cons_some he]
  exact congrArg (e :: ·) (debugEvents_hooks bs)

/-- Every line is one that a hook of `bs` writes, and stands behind the announcement of that hook and the lines
it has written before. -/
def Announced (bs : List BoundHook) (t : Trail) : Prop :=
  ∀ before text rest, t = before ++ .line text :: rest →
    ∃ b ∈ bs, ∃ earlier lines more,
      before = earlier ++ .event (.invoking b.name b.host) :: lines.map .line ∧
        b.hook.effects.filterMap Effect.line? = lines ++ text :: more

namespace Announced

variable {bs : List BoundHook} {t t' : Trail}

theorem nil (bs : List BoundHook) : Announced bs [] := by
  intro before text rest h
  simp at h

theorem append (h : Announced bs t) (h' : Announced bs t') : Announced bs (t ++ t') := by
  intro before text rest hsplit
  rcases List.append_eq_append_iff.mp hsplit with ⟨front, rfl, ht'⟩ | ⟨back, ht, hback⟩
  · obtain ⟨b, hb, earlier, lines, more, rfl, hlines⟩ := h' front text rest ht'
    exact ⟨b, hb, t ++ earlier, lines, more, (List.append_assoc ..).symm, hlines⟩
  · cases back with
    | nil =>
      obtain ⟨b, -, earlier, lines, more, hnil, -⟩ := h' [] text rest hback.symm
      simp at hnil
    | cons entry back =>
      obtain ⟨rfl, -⟩ := List.cons.inj hback
      exact h before text back ht

theorem event (e : Event) (h : Announced bs t) : Announced bs (.event e :: t) := by
  refine Announced.append (t := [.event e]) (fun before text rest hsplit => ?_) h
  have hmem : Entry.line text ∈ [Entry.event e] := hsplit ▸ by simp
  simp at hmem

theorem hook {b : BoundHook} (hb : b ∈ bs) : Announced bs b.trail := by
  intro before text rest hsplit
  rw [BoundHook.trail] at hsplit
  cases before with
  | nil => simp at hsplit
  | cons entry before =>
    obtain ⟨rfl, hlines⟩ := List.cons.inj hsplit
    obtain ⟨lines, others, hall, rfl, hothers⟩ := List.map_eq_append_iff.mp hlines
    obtain ⟨text', more, rfl, htext, -⟩ := List.map_eq_cons_iff.mp hothers
    cases htext
    exact ⟨b, hb, [], lines, more, rfl, hall⟩

theorem flatMap {α : Type} {xs : List α} {f : α → Trail} (h : ∀ x ∈ xs, Announced bs (f x)) :
    Announced bs (xs.flatMap f) := by
  induction xs with
  | nil => exact nil bs
  | cons x xs ih =>
    obtain ⟨hx, hxs⟩ := List.forall_mem_cons.mp h
    exact hx.append (ih hxs)

end Announced

end Trail

end Workflow
