import Workflow.Proofs.Machine.View
import Workflow.World

/-! Machines in one world do not interfere. What shows at a place is what its own deeds would show if
nothing else was in the world, and if they went to other registries. -/

namespace Workflow

namespace Deed

/-- The deeds differ in nothing but registries, handles and the way in which hosts are offered. -/
inductive Alike : Deed → Deed → Prop
  | build (text : String) {requests requests' : List Builder.Request}
      (h : requests.flatMap Builder.Request.offered = requests'.flatMap Builder.Request.offered) :
      Alike (.build text requests) (.build text requests')
  | operate {x x' : Operation} (h : x.Alike x') : Alike (.operate x) (.operate x')

/-- The same deed with the conditions of a new machine in the registry `id`. -/
def within (id : RegistryId) : Deed → Deed
  | build text requests =>
    .build text [.hosts (requests.flatMap Builder.Request.offered), .registry id]
  | operate x => .operate x

theorem alike_within (id : RegistryId) (d : Deed) : d.Alike (d.within id) := by
  cases d with
  | build text requests => exact .build text (by simp [Builder.Request.offered])
  | operate x => exact .operate (.same x)

abbrev SamePlace : Option Machine → Option Machine → Prop := Option.Rel Machine.Alike

theorem samePlace_or {c c' : Construction} (h : SameOutcome Machine.Alike c.outcome c'.outcome)
    {o o' : Option Machine} (ho : SamePlace o o') :
    SamePlace (c.outcome.toOption.or o) (c'.outcome.toOption.or o') := by
  generalize c.outcome = result at h ⊢
  generalize c'.outcome = result' at h ⊢
  cases h with
  | error e => simpa [Except.toOption] using ho
  | ok h => exact .some h

/-- One deed: what shows is the same, and what is at the place afterwards shows the same. -/
theorem Alike.perform {d d' : Deed} (h : d.Alike d') {o o' : Option Machine} (ho : SamePlace o o')
    (rs rs' : Registries) :
    (d.perform o rs).view = (d'.perform o' rs').view ∧
      SamePlace (d.perform o rs).machine (d'.perform o' rs').machine := by
  cases h with
  | @build text requests requests' h =>
    have hview : ((Builder.ofRequests text requests).build rs).view =
        ((Builder.ofRequests text requests').build rs').view := by
      simp only [Builder.build, Builder.ofRequests, Builder.text_follow, Builder.hosts_follow, h]
      exact Machine.view_build ..
    exact ⟨congrArg DeedView.built hview, samePlace_or (Machine.sameOutcome_of_view_eq hview) ho⟩
  | operate h =>
    cases ho with
    | none => exact ⟨rfl, .none⟩
    | some hm =>
      have hview := hm.perform h rs rs'
      exact ⟨congrArg DeedView.operated hview, .some (Machine.alike_of_view_eq hview)⟩

end Deed

namespace World

open Deed (SamePlace)

variable {place : String} {x : Happening}

theorem perform_of_deedAt?_eq_none (h : x.deedAt? place = none) (w : World) :
    (w.perform x).1.machine? place = w.machine? place ∧ viewsAt place (w.perform x).2 = [] := by
  cases x with
  | deed other d =>
    have hother : other ≠ place := by
      rintro rfl
      simp [Happening.deedAt?] at h
    exact ⟨if_neg hother.symm, List.filterMap_cons_none (if_neg hother)⟩
  | create => exact ⟨rfl, rfl⟩
  | label label id => exact ⟨rfl, rfl⟩
  | intern id name => exact ⟨rfl, rfl⟩

theorem perform_of_deedAt?_eq_some {d : Deed} (h : x.deedAt? place = some d) (w : World) :
    let scene := d.perform (w.machine? place) w.registries
    (w.perform x).1.machine? place = scene.machine ∧ viewsAt place (w.perform x).2 = [scene.view] := by
  cases x with
  | deed other d' =>
    obtain ⟨rfl, hd⟩ := Option.ite_none_right_eq_some.mp h
    cases hd
    exact ⟨if_pos rfl, List.filterMap_cons_some (if_pos rfl)⟩
  | create => cases h
  | label label id => cases h
  | intern id name => cases h

theorem viewsAt_run {w : World} {o : Option Machine} (ho : SamePlace (w.machine? place) o)
    {xs : List Happening} {alone : List Deed}
    (halone : List.Forall₂ Deed.Alike (xs.filterMap (Happening.deedAt? place)) alone)
    (rs : Registries) : viewsAt place (w.run xs) = Deed.run o rs alone := by
  induction xs generalizing w o rs alone with
  | nil =>
    cases halone
    rfl
  | cons x xs ih =>
    have hviews : viewsAt place (w.run (x :: xs)) =
        viewsAt place (w.perform x).2 ++ viewsAt place ((w.perform x).1.run xs) :=
      List.filterMap_append
    cases hdeed : x.deedAt? place with
    | none =>
      obtain ⟨hmachine, hnothing⟩ := perform_of_deedAt?_eq_none hdeed w
      rw [List.filterMap_cons_none hdeed] at halone
      rw [hviews, hnothing, List.nil_append, ih (hmachine ▸ ho) halone rs]
    | some d =>
      obtain ⟨hmachine, hscene⟩ := perform_of_deedAt?_eq_some hdeed w
      rw [List.filterMap_cons_some hdeed] at halone
      obtain ⟨d', rest, hd, hrest, rfl⟩ := List.forall₂_cons_left_iff.mp halone
      obtain ⟨hview, hnext⟩ := hd.perform ho w.registries rs
      rw [hviews, hscene, ih (hmachine ▸ hnext) hrest (d'.perform o rs).registries, Deed.run, ← hview]
      rfl

/-- What is built at a place and operated there shows as if it was alone in the world, with a fresh
registry, or with any others. A handle of another registry does what the machine's own does. -/
theorem run_does_not_interfere (rs : Registries) (xs : List Happening) (place : String) :
    let views := viewsAt place (({ registries := rs } : World).run xs)
    let deeds := xs.filterMap (Happening.deedAt? place)
    let (fresh, rs₀) := ({} : Registries).create
    views = Deed.run none rs₀ (deeds.map (Deed.within fresh)) ∧
      (∀ alone rs', List.Forall₂ Deed.Alike deeds alone → views = Deed.run none rs' alone) ∧
      ∀ (m : Machine) (rs' : Registries) (c : Condition),
        let (own, rs'') := rs'.intern m.registry c.name
        (Operation.move (.change c)).perform m rs'' = (Operation.move (.change own)).perform m rs'' ∧
          (Operation.inspect (.peek c)).perform m rs'' =
            (Operation.inspect (.peek own)).perform m rs'' := by
  have hviews : ∀ alone rs', List.Forall₂ Deed.Alike (xs.filterMap (Happening.deedAt? place)) alone →
      viewsAt place (({ registries := rs } : World).run xs) = Deed.run none rs' alone :=
    fun alone rs' h => viewsAt_run .none h rs'
  refine ⟨hviews _ _ ?_, hviews, fun m rs' c => ⟨?_, ?_⟩⟩
  · exact List.forall₂_map_right_iff.mpr (List.forall₂_same.mpr fun d _ => d.alike_within _)
  · exact (Operation.Alike.change rfl).perform_eq m _
  · exact (Operation.Alike.peek rfl).perform_eq m _

/-- Two machines of one text share a registry, in which their hooks and a third party intern, and a
handle comes from another. Alone, the hosts are offered together and the handle is the machine's. -/
theorem run_does_not_interfere_shared_registry :
    let text := "(A, , out) -> \x7bgo: B\x7d; (B, in) -> \x7bgo: A\x7d"
    let h : Host := ⟨"h", [("in", ⟨[.write "entered"], some "in failed"⟩)]⟩
    let k : Host := ⟨"k", [("out", ⟨[.intern "common" "go", .write "left"], none⟩)]⟩
    let xs : List Happening := [.label "common" .shared, .deed "a" (.build text [.host h, .host k]),
      .intern .shared "gone", .deed "b" (.build text [.hosts [h, k]]),
      .deed "b" (.operate (.move (.changeByName "new"))), .create,
      .deed "a" (.operate (.move (.change ⟨⟨1⟩, 0, "go"⟩))),
      .deed "b" (.operate (.move (.sync "B"))), .deed "a" (.operate (.move (.set "B"))),
      .deed "a" (.operate (.inspect .listing))]
    let alone : List Deed := [.build text [.registry ⟨4⟩, .hosts [h, k]],
      .operate (.move (.change ⟨⟨4⟩, 1, "go"⟩)), .operate (.move (.set "B")),
      .operate (.inspect .listing)]
    let views := viewsAt "a" (({} : World).run xs)
    views = Deed.run none {} alone ∧ views.map (fun view => view.trail.callbacks) =
      [[], [.event (.invoking "out" "k"), .line "left", .event (.invoking "in" "h"), .line "entered"],
        [.event (.invoking "out" "k"), .line "left", .event (.invoking "in" "h"), .line "entered"],
        []] := by
  intro text h k xs alone views
  have hviews : views = Deed.run none {} alone :=
    (run_does_not_interfere {} xs "a").2.1 alone {}
      (.cons (.build text rfl) (.cons (.operate (.change rfl)) (.cons (.operate (.same _))
        (.cons (.operate (.same _)) .nil))))
  refine ⟨hviews, ?_⟩
  decide +kernel

end World

end Workflow
