import Wqm1.Breaker.Commands

/-! An OFF request leaves the interlock de-energised until a confirmed ON or a fail-safe
in mode ON. -/

set_option autoImplicit false

namespace Wqm1.Breaker.BreakerUnit

open Wqm1.Library

/-- The vendor is kept and relay writes succeed. -/
def written (_ : BreakerUnit) (event : BreakerEvent) : Prop :=
  (∀ settings ∈ event.settings, settings.vendor = .ableedge) ∧ ∀ outcome ∈ event.outcomes, outcome = true

/-- Besides, the interlock relay is not changed while a coil is energised. -/
def steady (unit : BreakerUnit) (event : BreakerEvent) : Prop :=
  written unit event ∧ keepsInterlock unit event

/-- Besides, no ON request is confirmed. -/
def unconfirmed (unit : BreakerUnit) (event : BreakerEvent) : Prop :=
  written unit event ∧ ¬ confirmsOn unit event

theorem linked_of_written {unit : BreakerUnit} (reached : Reachable written unit) : Linked unit :=
  (accounted_of_reachable (fun _ _ permitted => permitted.1) reached).linked

theorem onlyInterlock_of_steady {unit : BreakerUnit} (reached : Reachable steady unit) : OnlyInterlock unit := by
  obtain ⟨settings, relays, vendor, run⟩ := reached
  apply run.invariant
  · intro channel energised
    cases energised
  · intro before event after earlier permitted stepped only
    have linked : Linked before := linked_of_written
      ⟨settings, relays, vendor, earlier.mono fun _ _ permitted => permitted.1⟩
    exact only.step linked.vendor permitted.2 stepped

/-- An OFF request is one: with the vendor and a client it is not refused. -/
theorem request_off {unit : BreakerUnit} (linked : Linked unit) (source : String) (reason : Option String)
    (reply : Reply Unit) (outcomes : List Bool) : ∃ why answer,
      unit.request false source reason reply outcomes =
        (unit.begun outcomes (some unit.now)).requestOff why reply answer := by
  cases unit.request_cases linked.vendor false source reason reply outcomes with
  | refused lastOff answer same unasked refusal =>
    cases refusal with
    | inl wanted => cases wanted
    | inr absent =>
      rw [linked.client] at absent
      cases absent
  | asksOn answer wanted same => cases wanted
  | asksOff why answer wanted same => exact ⟨why, answer, same⟩

theorem requestOff_interlockOk {unit : BreakerUnit} (obeyed : Obeyed unit) (why : String) (reply : Reply Unit)
    (answer : RequestAnswer) : (unit.requestOff why reply answer).2.interlockOk = some true := by
  have dropped := (setInterlock_obeyed obeyed false).1
  unfold requestOff
  cases reply.result with
  | ok _ => exact congrArg some dropped
  | error error => exact congrArg some dropped

/-- After the drop, only a fail-safe in mode ON energises a coil. -/
theorem coil_of_requestOff {unit : BreakerUnit} {why : String} {reply : Reply Unit} {answer : RequestAnswer}
    (same : (unit.requestOff why reply answer).1.onApplied = unit.onApplied) {channel : Int}
    (energised : (unit.requestOff why reply answer).1.coils channel = true) :
    (unit.setInterlock false).1.coils channel = true := by
  have quiet := (unit.quietStep_requestOff why reply answer).quiet
  obtain ⟨coils, outcomes, dropped⟩ := unit.setInterlock_frame false
  apply quiet _ channel energised
  rw [same, dropped]

theorem quietStep_of_unconfirmed {first last : BreakerUnit} (linked : Linked first) (owed : Owed first)
    (run : Events.Reaches step unconfirmed first last) : QuietStep first last := by
  have kept : Accounted last ∧ QuietStep first last := by
    apply run.invariant
    · exact ⟨⟨linked, owed⟩, quietStep_of_same rfl rfl⟩
    · intro before event after _ permitted stepped held
      obtain ⟨accounted, quiet⟩ := held
      exact ⟨accounted.step permitted.1.1 stepped,
        quiet.trans (quietStep_step accounted.linked.vendor permitted.2 stepped)⟩
  exact kept.2

/-- When an OFF request returns and the fail-safe was not applied in mode ON meanwhile, it
answers that the interlock was dropped, and it was: the interlock is de-energised and no coil
was energised; in a run that kept the interlock relay all coils are off. From then on a coil is
energised by a confirmed ON request or a fail-safe in mode ON only. -/
theorem off_request_stays_off {unit off : BreakerUnit} {answer : RequestAnswer}
    (reached : Reachable written unit) (source : String) (reason : Option String) (reply : Reply Unit)
    (outcomes : List Bool) (vendor : reply.settings.vendor = .ableedge)
    (succeed : ∀ outcome ∈ outcomes, outcome = true)
    (returns : unit.request false source reason reply outcomes = (off, answer)) :
    (off.onApplied = unit.onApplied →
      answer.interlockOk = some true ∧
      (∀ channel, unit.controller.relays = true → unit.settings.interlock = some channel →
        off.coils channel = false) ∧
      (∀ channel, off.coils channel = true → unit.coils channel = true) ∧
      (Reachable steady unit → ∀ channel, off.coils channel = false)) ∧
    ∀ later, Events.Reaches step unconfirmed off later → later.onApplied = off.onApplied →
      ∀ channel, later.coils channel = true → off.coils channel = true := by
  have linked := linked_of_written reached
  have begun : Linked (unit.begun outcomes (some unit.now)) :=
    ⟨linked.vendor, linked.client, linked.once, linked.fresh, linked.down⟩
  have obeyed : Obeyed (unit.begun outcomes (some unit.now)) := succeed
  obtain ⟨why, asked, same⟩ := request_off linked source reason reply outcomes
  obtain ⟨rfl, rfl⟩ := Prod.mk.inj (returns.symm.trans same)
  refine ⟨fun unchanged => ⟨requestOff_interlockOk obeyed why reply asked, ?_, ?_, ?_⟩, ?_⟩
  · intro channel relays interlock
    have dropped := (setInterlock_obeyed obeyed false).2.2 relays channel interlock
    apply Bool.eq_false_of_not_eq_true
    intro energised
    rw [coil_of_requestOff unchanged energised] at dropped
    cases dropped
  · intro channel energised
    have remaining : ((unit.begun outcomes (some unit.now)).setInterlock false).1.coils channel = true :=
      coil_of_requestOff unchanged energised
    have already : (unit.begun outcomes (some unit.now)).coils channel = true := coil_of_dropped remaining
    exact already
  · intro kept channel
    have steadily := onlyInterlock_of_steady kept
    have only : OnlyInterlock (unit.begun outcomes (some unit.now)) := steadily
    apply Bool.eq_false_of_not_eq_true
    intro energised
    have silent := only.dropped obeyed channel
    rw [coil_of_requestOff unchanged energised] at silent
    cases silent
  · intro later run same channel energised
    have quiet := quietStep_of_unconfirmed (begun.requestOff why asked vendor) (.requestOff ..) run
    exact quiet.quiet same channel energised

instance (unit : BreakerUnit) (event : BreakerEvent) : Decidable (written unit event) :=
  inferInstanceAs (Decidable (_ ∧ _))

instance (unit : BreakerUnit) (event : BreakerEvent) : Decidable (confirmsOn unit event) := by
  cases event <;> unfold confirmsOn <;> infer_instance

instance (unit : BreakerUnit) (event : BreakerEvent) : Decidable (unconfirmed unit event) :=
  inferInstanceAs (Decidable (_ ∧ _))

theorem off_request_stays_off_circuit :
    ∃ unit off : BreakerUnit, ∃ answer, unit.coils 3 = true ∧
      unit.request false "local" none ⟨.error "timeout", circuit, 1⟩ [] = (off, answer) ∧
      answer.interlockOk = some true ∧ off.coils 3 = false := by
  have played : ((Events.play step written (start circuit true)
      [.request true "local" none ⟨.ok (), circuit, 1⟩ []]).map fun unit =>
        (unit.coils 3, unit.controller.relays, unit.settings.interlock, unit.onApplied,
          (unit.request false "local" none ⟨.error "timeout", circuit, 1⟩ []).1.onApplied)) =
      some (true, true, some 3, 0, 0) := by
    decide +kernel
  obtain ⟨unit, reached, seen⟩ := Option.map_eq_some_iff.mp played
  simp only [Prod.mk.injEq] at seen
  have dropped := off_request_stays_off ⟨circuit, true, rfl, Events.reaches_play reached⟩ "local" none
    ⟨.error "timeout", circuit, 1⟩ [] rfl (fun _ listed => absurd listed List.not_mem_nil) rfl
  have quiet := dropped.1 (seen.2.2.2.2.trans seen.2.2.2.1.symm)
  exact ⟨unit, _, _, seen.1, rfl, quiet.1, quiet.2.1 3 seen.2.1 seen.2.2.1⟩

/-- A circuit whose load must run while the link is lost. -/
def needed : BreakerSettings := { circuit with failSafe := .on }

/-- The fail-safe in mode ON energises the interlock after an OFF that was confirmed. -/
theorem fail_safe_on_after_off :
    ¬ ∀ unit : BreakerUnit, Reachable written unit → ∀ (source : String) (reason : Option String)
      (reply : Reply Unit), reply.settings.vendor = .ableedge → 0 ≤ reply.elapsed →
        (∀ channel, (unit.request false source reason reply []).1.coils channel = false) ∧
        (unit.request false source reason reply []).2.interlockOk = some true ∧
        ∀ later, Events.Reaches step unconfirmed (unit.request false source reason reply []).1 later →
          ∀ channel, later.coils channel = false := by
  intro claimed
  have played : (Events.play step unconfirmed
      ((start needed true).request false "local" none ⟨.ok (), needed, 1⟩ []).1
      [.poll ⟨.ok (), needed, 0⟩ ⟨.error "timeout", needed, 1⟩ ⟨.error "timeout", needed, 0⟩ []]).map
        (fun unit => unit.coils 3) = some true := by
    decide +kernel
  obtain ⟨later, run, energised⟩ := Option.map_eq_some_iff.mp played
  have off := claimed (start needed true) ⟨needed, true, rfl, .start⟩ "local" none ⟨.ok (), needed, 1⟩ rfl zero_le_one
  rw [off.2.2 later (Events.reaches_play run) 3] at energised
  cases energised

end Wqm1.Breaker.BreakerUnit
