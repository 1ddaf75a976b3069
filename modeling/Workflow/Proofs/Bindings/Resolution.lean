import Workflow.Proofs.Definition.Arrangement
import Workflow.Proofs.StateGraph.Rejection

/-! Hosts resolved to bindings. It succeeds where no name is registered twice, in whatever order the hosts
and their hooks stand, and otherwise the first repetition is reported. -/

namespace Workflow

namespace BoundHook

/-- The first registration that has the name of an earlier one is `second`, and `first` is the earlier
one. -/
structure FirstRepeated (regs : List BoundHook) (first second : BoundHook) : Prop where
  name_eq : first.name = second.name
  exists_split : ∃ before middle after, regs = before ++ first :: middle ++ second :: after ∧
    ((before ++ first :: middle).map name).Nodup

variable {regs before : List BoundHook} {second : BoundHook} {e : DefinitionError}

theorem faultless_iff_nodup : Faultless fault? regs ↔ (regs.map name).Nodup := by
  have hexamine : errorOf? (({} : Bindings).register regs) = (examine fault? regs).2 :=
    Bindings.errorOf?_register {} regs
  have hregister : errorOf? (({} : Bindings).register regs) = none ↔
      ∃ b, ({} : Bindings).register regs = .ok b := by
    cases ({} : Bindings).register regs <;> simp [errorOf?]
  rw [← examine_eq_none_iff, ← hexamine, hregister]
  simp [Bindings.register_eq_ok_iff, Bindings.get?]

theorem fault?_eq_some_iff :
    fault? before second = some e ↔ ∃ first earlier middle, before = earlier ++ first :: middle ∧
      (∀ b ∈ earlier, b.name ≠ second.name) ∧ first.name = second.name ∧
      e = .duplicateBinding second.name first.host second.host := by
  simp only [fault?, Option.map_eq_some_iff, List.find?_eq_some_iff_append]
  constructor
  · rintro ⟨first, ⟨hname, earlier, middle, hbefore, hearlier⟩, rfl⟩
    exact ⟨first, earlier, middle, hbefore, by simpa using hearlier, by simpa using hname, rfl⟩
  · rintro ⟨first, earlier, middle, hbefore, hearlier, hname, rfl⟩
    exact ⟨first, ⟨by simpa using hname, earlier, middle, hbefore, by simpa using hearlier⟩, rfl⟩

theorem exists_firstFault_iff :
    (∃ before, FirstFault fault? regs before e) ↔ ∃ first second, FirstRepeated regs first second ∧
      e = .duplicateBinding second.name first.host second.host := by
  constructor
  · rintro ⟨before, hfaultless, second, after, hregs, hfault⟩
    obtain ⟨first, earlier, middle, rfl, -, hname, he⟩ := fault?_eq_some_iff.mp hfault
    have hnodup := faultless_iff_nodup.mp hfaultless
    exact ⟨first, second, ⟨hname, earlier, middle, after, hregs, hnodup⟩, he⟩
  · rintro ⟨first, second, ⟨hname, earlier, middle, after, hregs, hnodup⟩, he⟩
    have hearlier : ∀ b ∈ earlier, b.name ≠ second.name := by
      intro b hb hsame
      rw [List.map_append, List.nodup_append] at hnodup
      exact hnodup.2.2 b.name (List.mem_map_of_mem hb) first.name (by simp) (hsame.trans hname.symm)
    exact ⟨_, faultless_iff_nodup.mpr hnodup, second, after, hregs,
      fault?_eq_some_iff.mpr ⟨first, earlier, middle, rfl, hearlier, hname, he⟩⟩

end BoundHook

namespace Host

variable {hosts : List Host} {b : BoundHook}

theorem mem_registrations_iff :
    b ∈ hosts.flatMap registrations ↔ ∃ h ∈ hosts, b.host = h.name ∧ (b.name, b.hook) ∈ h.hooks := by
  simp only [List.mem_flatMap, registrations, List.mem_map, Prod.exists]
  constructor
  · rintro ⟨h, hh, name, hook, hmem, rfl⟩
    exact ⟨h, hh, rfl, hmem⟩
  · rintro ⟨h, hh, hhost, hmem⟩
    exact ⟨h, hh, b.name, b.hook, hmem, hhost ▸ rfl⟩

end Host

namespace Bindings

variable {hosts hosts' : List Host} {b b' : Bindings} {e : DefinitionError}

theorem exists_ofHosts_eq_ok_iff :
    (∃ b, ofHosts hosts = .ok b) ↔ ((hosts.flatMap Host.registrations).map BoundHook.name).Nodup := by
  simp [ofHosts_eq_ok_iff, Host.map_name_registrations]

theorem hooks_of_ofHosts (h : ofHosts hosts = .ok b) : b.hooks = hosts.flatMap Host.registrations := by
  rw [(ofHosts_eq_ok_iff.mp h).1]

theorem nodup_of_ofHosts (h : ofHosts hosts = .ok b) : (b.hooks.map BoundHook.name).Nodup := by
  rw [hooks_of_ofHosts h]
  exact exists_ofHosts_eq_ok_iff.mp ⟨b, h⟩

theorem ofHosts_eq_error_iff :
    ofHosts hosts = .error e ↔ ∃ first second,
      BoundHook.FirstRepeated (hosts.flatMap Host.registrations) first second ∧
        e = .duplicateBinding second.name first.host second.host := by
  rw [← BoundHook.exists_firstFault_iff, ← errorOf?_eq_some_iff, errorOf?_ofHosts]
  simp only [← examine_eq_some_iff]
  constructor
  · exact fun h => ⟨_, Prod.ext rfl h⟩
  · rintro ⟨before, h⟩
    rw [h]

theorem contains_eq_false_iff {name : String} : b.contains name = false ↔ b.get? name = none := by
  rw [contains, Option.isSome_eq_false_iff, Option.isNone_iff_eq_none]

theorem get?_eq_some_iff_of_ofHosts (h : ofHosts hosts = .ok b) {name : String} {hook : BoundHook} :
    b.get? name = some hook ↔ hook.name = name ∧
      ∃ host ∈ hosts, hook.host = host.name ∧ (name, hook.hook) ∈ host.hooks := by
  rw [get?, find?_eq_some_iff_of_nodup (nodup_of_ofHosts h), hooks_of_ofHosts h, Host.mem_registrations_iff]
  constructor
  · rintro ⟨hhost, rfl⟩
    exact ⟨rfl, hhost⟩
  · rintro ⟨rfl, hhost⟩
    exact ⟨hhost, rfl⟩

theorem get?_eq_of_rearranges (hsame : Shuffled Host.Rearranges hosts hosts')
    (h : ofHosts hosts = .ok b) (h' : ofHosts hosts' = .ok b') (name : String) :
    b.get? name = b'.get? name := by
  have hperm : b.hooks.Perm b'.hooks := by
    rw [hooks_of_ofHosts h, hooks_of_ofHosts h']
    exact Host.registrations_perm hsame
  exact find?_eq_of_perm hperm (nodup_of_ofHosts h) name

theorem exists_ofHosts_eq_ok_of_rearranges (hsame : Shuffled Host.Rearranges hosts hosts') :
    (∃ b, ofHosts hosts = .ok b) ↔ ∃ b', ofHosts hosts' = .ok b' := by
  rw [exists_ofHosts_eq_ok_iff, exists_ofHosts_eq_ok_iff]
  exact ((Host.registrations_perm hsame).map BoundHook.name).nodup_iff

/-- Hosts are resolved if and only if no name is registered twice. A name then gives the hook that was
registered with it and the host that did, and the order of the hosts and of the hooks of a host does not
matter. Otherwise the first registration that repeats a name is reported with the one it repeats. -/
theorem hosts_resolved (hosts : List Host) :
    let regs := hosts.flatMap Host.registrations
    ((∃ b, ofHosts hosts = .ok b) ↔ (regs.map BoundHook.name).Nodup) ∧
      (∀ b, ofHosts hosts = .ok b → b.size = regs.length ∧ ∀ name,
        (b.get? name = none ↔ b.contains name = false) ∧
          (b.contains name = false ↔ name ∉ regs.map BoundHook.name) ∧
          ∀ hook, b.get? name = some hook ↔ hook.name = name ∧
            ∃ host ∈ hosts, hook.host = host.name ∧ (name, hook.hook) ∈ host.hooks) ∧
      (∀ e, ofHosts hosts = .error e ↔ ∃ first second, BoundHook.FirstRepeated regs first second ∧
        e = .duplicateBinding second.name first.host second.host) ∧
      ∀ hosts', Shuffled Host.Rearranges hosts hosts' →
        ((∃ b, ofHosts hosts = .ok b) ↔ ∃ b', ofHosts hosts' = .ok b') ∧
          ∀ b b', ofHosts hosts = .ok b → ofHosts hosts' = .ok b' → ∀ name,
            b.get? name = b'.get? name ∧ b.contains name = b'.contains name := by
  intro regs
  refine ⟨exists_ofHosts_eq_ok_iff, fun b h => ⟨?_, fun name => ⟨contains_eq_false_iff.symm, ?_,
    fun hook => get?_eq_some_iff_of_ofHosts h⟩⟩, fun e => ofHosts_eq_error_iff, fun hosts' hsame =>
      ⟨exists_ofHosts_eq_ok_of_rearranges hsame, fun b b' h h' name => ?_⟩⟩
  · rw [size, hooks_of_ofHosts h]
  · rw [contains_eq_false_iff, get?_eq_none_iff, hooks_of_ofHosts h]
  · have hget := get?_eq_of_rearranges hsame h h' name
    exact ⟨hget, by rw [contains, contains, hget]⟩

/-- Two names are repeated, and the repetition that comes first is that of the name that is not first.
Without it the hosts are resolved, also in another order. -/
theorem hosts_resolved_interleaved :
    let x : Hook := ⟨[.write "x"], none⟩
    let y : Hook := ⟨[.intern "own" "y"], some "failed"⟩
    let one : Host := ⟨"h", [("a", x), ("b", y)]⟩
    let other : Host := ⟨"h", [("c", x)]⟩
    ofHosts [one, ⟨"k", [("c", x), ("b", x), ("a", y)]⟩, other] =
        .error (.duplicateBinding "b" "h" "k") ∧
      ∃ b b', ofHosts [one, other] = .ok b ∧ ofHosts [other, ⟨"h", [("b", y), ("a", x)]⟩] = .ok b' ∧
        b.size = 3 ∧ b'.get? "b" = some ⟨"b", "h", y⟩ ∧ b.get? "b" = b'.get? "b" ∧
          b.contains "d" = b'.contains "d" := by
  intro x y one other
  obtain ⟨-, -, herror, -⟩ := hosts_resolved [one, ⟨"k", [("c", x), ("b", x), ("a", y)]⟩, other]
  obtain ⟨hok, hbindings, -, hrearranged⟩ := hosts_resolved [one, other]
  have hsame : Shuffled Host.Rearranges [one, other] [other, ⟨"h", [("b", y), ("a", x)]⟩] :=
    ⟨[other, one], .swap other one [], .cons ⟨rfl, .refl _⟩ (.cons ⟨rfl, .swap _ _ []⟩ .nil)⟩
  obtain ⟨b, hb⟩ := hok.mpr (by decide)
  obtain ⟨hboth, hget⟩ := hrearranged _ hsame
  obtain ⟨b', hb'⟩ := hboth.mp ⟨b, hb⟩
  obtain ⟨hsize, hnames⟩ := hbindings b hb
  have hb₁ : b.get? "b" = some ⟨"b", "h", y⟩ := ((hnames "b").2.2 _).mpr ⟨rfl, one, by simp, rfl, by simp [one]⟩
  have hsecond : BoundHook.FirstRepeated
      ([one, ⟨"k", [("c", x), ("b", x), ("a", y)]⟩, other].flatMap Host.registrations)
      ⟨"b", "h", y⟩ ⟨"b", "k", x⟩ :=
    ⟨rfl, [⟨"a", "h", x⟩], [⟨"c", "k", x⟩], [⟨"a", "k", y⟩, ⟨"c", "h", x⟩], rfl, by decide⟩
  refine ⟨(herror _).mpr ⟨_, _, hsecond, rfl⟩, b, b', hb, hb', hsize, ?_, (hget b b' hb hb' "b").1,
    (hget b b' hb hb' "d").2⟩
  rw [← (hget b b' hb hb' "b").1, hb₁]

end Bindings

end Workflow
