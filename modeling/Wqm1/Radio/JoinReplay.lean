import Wqm1.Radio.MacRun
import Wqm1.Radio.Unit

/-! A JoinAccept that was accepted before is not accepted again while its AppNonce
is among the remembered ones. -/

set_option autoImplicit false

namespace Wqm1.Radio.JoinReplay

open Wqm1.Library

variable {crypto : Crypto} {device : Device} {sf : Int}

/-- The AppNonce that a frame gives when it is read as a JoinAccept. -/
def appNonceOf (crypto : Crypto) (device : Device) (data : Bytes) : Nat :=
  let decrypted := decryptJoinAccept crypto device.appKey (data.drop 1)
  (JoinAccept.ofBody (decrypted.take (decrypted.length - 4))).appNonceInt

/-- The AppNonces that must be refused. -/
def remembered (run : MacRun) : List Nat := lastOf recentAppNoncesKept run.accepted

/-- A restart comes after every accepted join was persisted. -/
def persistsJoins (run : MacRun) : MacOp → Prop
  | .restart => run.unsaved = false
  | _ => True

instance (run : MacRun) (op : MacOp) : Decidable (persistsJoins run op) := by
  cases op <;> unfold persistsJoins <;> infer_instance

theorem lastOf_append {α : Type} (count : Nat) (values : List α) (value : α) :
    lastOf count (lastOf count values ++ [value]) = lastOf count (values ++ [value]) := by
  unfold lastOf
  rw [← List.drop_append_of_le_length (Nat.sub_le ..), List.drop_drop]
  congr 1
  simp only [List.length_drop, List.length_append, List.length_singleton]
  omega

theorem lastOf_sublist {α : Type} (count : Nat) (values : List α) : (lastOf count values).Sublist values :=
  List.drop_sublist ..

theorem lastOf_lastOf {α : Type} (count : Nat) (values : List α) :
    lastOf count (lastOf count values) = lastOf count values := by
  unfold lastOf
  rw [List.drop_drop, List.length_drop]
  congr 1
  omega

/-- The nonces a rebuilt MAC layer remembers. -/
theorem rebuild_recentAppNonces (stored : StoredSession) (history : List MacEvent) :
    (Mac.rebuild device sf stored history).recentAppNonces =
      (stored.macParams.bind MacParams.appNonces).elim [] fun seen =>
        lastOf recentAppNoncesKept (seen.filter fun nonce => nonce ≤ 0xFFFFFF) := by
  unfold Mac.rebuild Mac.restoreSession Mac.restoreMacParams
  cases stored.macParams with
  | none => split <;> rfl
  | some params =>
    cases seen : params.appNonces with
    | none => split <;> simp [Mac.applyMacParams, seen, Mac.construct, Mac.initial]
    | some nonces => split <;> simp [Mac.applyMacParams, seen]

/-- The MAC layer remembers the last accepted AppNonces, and so does the row once
they are persisted. -/
structure Remembers (device : Device) (sf : Int) (run : MacRun) : Prop where
  live : run.mac.recentAppNonces = remembered run
  bounded : ∀ nonce ∈ run.accepted, nonce ≤ 0xFFFFFF
  stored : run.unsaved = false → ∀ history,
    (Mac.rebuild device sf run.row.load history).recentAppNonces = remembered run

private theorem bounded_filter {accepted : List Nat} (bounded : ∀ nonce ∈ accepted, nonce ≤ 0xFFFFFF) :
    (lastOf recentAppNoncesKept accepted).filter (fun nonce => decide (nonce ≤ 0xFFFFFF)) =
      lastOf recentAppNoncesKept accepted := by
  apply List.filter_eq_self.mpr
  intro nonce member
  exact decide_eq_true (bounded nonce ((lastOf_sublist ..).subset member))

theorem remembers_start : Remembers device sf (.start device sf) where
  live := rfl
  bounded := fun _ member => absurd member List.not_mem_nil
  stored := by
    intro _ history
    rw [rebuild_recentAppNonces]
    rfl

/-- An operation that accepts no join, writes no row and rebuilds nothing. -/
private theorem Remembers.same {run : MacRun} {mac : Mac} (remembers : Remembers device sf run)
    (kept : mac.recentAppNonces = run.mac.recentAppNonces) : Remembers device sf { run with mac := mac } where
  live := kept.trans remembers.live
  bounded := remembers.bounded
  stored := remembers.stored

private theorem prepareUplink_recentAppNonces (payload : Bytes) (fport : UInt8) (confirmed : Bool) (mac : Mac) :
    (mac.prepareUplink crypto device payload fport confirmed).1.recentAppNonces = mac.recentAppNonces := by
  have counted : mac.countUplink.recentAppNonces = mac.recentAppNonces :=
    (Mac.answered_countUplink mac).recentAppNonces
  obtain ⟨_, same⟩ | ⟨_, _, same⟩ | ⟨_, _, _, same⟩ | ⟨_, _, _, same⟩ :=
    Mac.prepareUplink_cases crypto device payload fport confirmed mac
  · rw [same]
  · rw [same]; rfl
  · rw [same]; exact counted
  · rw [same]; exact counted

private theorem processDownlink_recentAppNonces (snr : Option Rat) (data : Bytes) (mac : Mac) :
    (mac.processDownlink crypto snr data).1.recentAppNonces = mac.recentAppNonces := by
  cases verified : mac.verifyDownlink crypto data with
  | none => rw [Mac.processDownlink_of_rejected verified]
  | some fcnt =>
    obtain ⟨_, answered⟩ := Mac.processDownlink_of_verified snr verified
    exact answered.recentAppNonces

theorem remembers_apply {run : MacRun} {op : MacOp} (permitted : persistsJoins run op)
    (remembers : Remembers device sf run) : Remembers device sf (run.apply crypto device sf op) := by
  cases op with
  | drawDevNonce random => exact remembers.same rfl
  | prepareUplink payload fport confirmed =>
    exact remembers.same (prepareUplink_recentAppNonces payload fport confirmed run.mac)
  | downlink snr data => exact remembers.same (processDownlink_recentAppNonces snr data run.mac)
  | tune channel frequency => exact remembers.same rfl
  | record event => exact remembers.same rfl
  | forgetSession => exact remembers.same rfl
  | joinAccept data =>
    cases verified : run.mac.verifyJoinAccept crypto device data with
    | none =>
      rw [MacRun.apply_joinAccept_rejected verified]
      exact remembers
    | some accept =>
      rw [MacRun.apply_joinAccept_verified verified]
      constructor
      · change lastOf recentAppNoncesKept (run.mac.recentAppNonces ++ [accept.appNonceInt]) = _
        rw [remembers.live, remembered, lastOf_append]
        rfl
      · intro nonce member
        cases List.mem_append.mp member with
        | inl earlier => exact remembers.bounded nonce earlier
        | inr new =>
          rw [List.mem_singleton.mp new]
          exact appNonceInt_le accept
      · intro saved
        cases saved
  | persist =>
    refine ⟨remembers.live, remembers.bounded, fun _ history => ?_⟩
    change (Mac.rebuild device sf (SessionRow.save run.mac).load history).recentAppNonces = remembered run
    rw [SessionRow.load_save, rebuild_recentAppNonces]
    change lastOf _ (run.mac.recentAppNonces.filter _) = _
    rw [remembers.live, remembered, bounded_filter remembers.bounded, lastOf_lastOf]
  | restart => exact ⟨remembers.stored permitted _, remembers.bounded, remembers.stored⟩

theorem remembers_reachable {run : MacRun} (reached : run.Reachable crypto device sf persistsJoins) :
    Remembers device sf run := by
  apply reached.invariant remembers_start
  intro before op after _ permitted stepped remembers
  cases stepped
  exact remembers_apply permitted remembers

/-- In every run whose restarts come after the accepted joins were persisted: a
JoinAccept whose AppNonce is among the last eight accepted changes nothing, whatever
the nonce of the current request. -/
theorem replayed_join_accept_rejected {run : MacRun}
    (reached : run.Reachable crypto device sf persistsJoins) (devNonce : Nat) {data : Bytes}
    (replayed : appNonceOf crypto device data ∈ remembered run) :
    { run.mac with devNonce := devNonce }.processJoinAccept crypto device data =
      ({ run.mac with devNonce := devNonce }, false) := by
  apply Mac.processJoinAccept_of_rejected
  have known : appNonceOf crypto device data ∈ run.mac.recentAppNonces := by
    rw [(remembers_reachable reached).live]
    exact replayed
  cases verified : Mac.verifyJoinAccept crypto device data { run.mac with devNonce := devNonce } with
  | none => rfl
  | some accept => exact absurd known (Mac.verifyJoinAccept_eq_some.mp verified).2.2.2.2.1

/-- A new unit joins, persists, forgets its session, restarts and hears the same
JoinAccept again. -/
def replays : List MacOp :=
  [.drawDevNonce 0, .joinAccept Sample.joinAccept, .persist, .forgetSession, .persist, .restart,
    .drawDevNonce 0]

theorem replayed_join_accept_rejected_restarted :
    ∃ run : MacRun, run.Reachable .aes Sample.device 9 persistsJoins ∧ run.accepted.length = 1 ∧
      { run.mac with devNonce := 7 }.processJoinAccept .aes Sample.device Sample.joinAccept =
        ({ run.mac with devNonce := 7 }, false) := by
  have played : ((Events.play (MacRun.step .aes Sample.device 9) persistsJoins (.start Sample.device 9)
      replays).map MacRun.accepted) = some [appNonceOf .aes Sample.device Sample.joinAccept] := by
    decide +kernel
  obtain ⟨run, reached, accepted⟩ := Option.map_eq_some_iff.mp played
  refine ⟨run, Events.reaches_play reached, by rw [accepted]; rfl, ?_⟩
  apply replayed_join_accept_rejected (Events.reaches_play reached)
  rw [remembered, accepted]
  exact List.mem_singleton.mpr rfl

end Wqm1.Radio.JoinReplay
