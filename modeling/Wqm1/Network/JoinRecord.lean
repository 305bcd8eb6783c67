import Wqm1.Library.Crew
import Wqm1.Library.Text

/-! A Wi-Fi join in the background: one lock for the join and for the polls that ask whether one
runs, and the record of the last join. -/

set_option autoImplicit false

namespace Wqm1.Network.JoinRecord

open Wqm1.Library Wqm1.Library.Events

/-- A decimal octet without leading zeros. -/
def octet (text : Text) : Option Nat :=
  let value := text.foldl (fun value c => 10 * value + (c.toNat - 48)) 0
  if text = [] ∨ 3 < text.length ∨ text.all Char.isDigit = false ∨ (text ≠ ['0'] ∧ text.head? = some '0') ∨ 255 < value
  then none else some value

/-- `usable_ipv4`: an address that is not link-local, loopback, unspecified or multicast. -/
def usableIpv4 (addr : Text) : Bool :=
  match ((Text.strip ((addr.splitOn '/').headD [])).splitOn '.').map octet with
  | [some first, some second, some third, some fourth] =>
    !((first = 169 && second = 254) || first = 127 || [first, second, third, fourth] = [0, 0, 0, 0] ||
      (224 ≤ first && first ≤ 239))
  | _ => false

inductive JoinState where
  | joining
  | joined
  | failed
deriving DecidableEq

/-- The record on disk. `join`, for the statements only, is the join that it is about. -/
structure Record where
  state : JoinState
  ssid : Text
  reason : Option Text
  ip : Option Text
  join : Nat
deriving DecidableEq

/-- What `join_network` returns. -/
structure JoinResult where
  connected : Bool
  ip : Option Text
  reason : Option Text
deriving DecidableEq

def JoinResult.proven (result : JoinResult) : Bool := result.connected && usableIpv4 (result.ip.getD [])

inductive Holder where
  | join (id : Nat)
  | probe
deriving DecidableEq

/-- How a write of the record ends: an `OSError` of the write itself is logged and swallowed,
one of the directory is raised. -/
inductive Written where
  | works
  | swallowed
  | raised
deriving DecidableEq

/-- The lock and the record. For the statements only: how many joins have had the lock, the
last join whose worker released it alive, if no other has taken it since, with whether its
join was proven, and what polls have answered, with who held the lock when they looked. -/
structure Desk where
  lock : Option Holder := none
  record : Option Record
  drawn : Nat
  ended : Option (Nat × Bool) := none
  answered : List (Option Record × Option Holder) := []
deriving DecidableEq

/-- Where a thread is: in `start_join` and then in the worker, in `read_state`, or in a look of
`wait_for_follow_up`. -/
inductive Place where
  | idle
  | locking (ssid : Text) (retries : Nat)
  | recording (ssid : Text) (join : Nat)
  | spawning (ssid : Text) (join : Nat)
  | running (ssid : Text) (join : Nat)
  | forgetting (ssid : Text) (join : Nat) (result : JoinResult)
  | recordingJoined (ssid : Text) (join : Nat) (result : JoinResult)
  | followingUp (join : Nat)
  | recordingFailed (ssid : Text) (join : Nat) (reason : Option Text)
  | restoring (ssid : Text) (join : Nat)
  | releasing (join : Nat) (proven : Bool)
  | leaked (join : Nat)
  | reading
  | probing (record : Option Record)
  | probed (record : Option Record)
deriving DecidableEq

/-- What a thread does next, and how it turns out. `joined` without a result is a
`join_network` that raises; `kill` is the death of the process. -/
inductive Action where
  | startJoin (ssid : Text)
  | tryLock (raises : Bool)
  | write (written : Written)
  | spawn (works : Bool)
  | early (reason : Option Text) (written : Written)
  | joined (result : Option JoinResult)
  | forget (raises : Bool)
  | followUp
  | release
  | poll
  | waitForFollowUp
  | read (raises : Bool)
  | probe (raises : Bool)
  | kill

def lockRetries : Nat := 4

def noAssociation : Text := "no_association".toList

/-- What the lock is held for at a place. -/
def Place.holder : Place → Option Holder
  | .recording _ join | .spawning _ join | .running _ join | .forgetting _ join _ | .recordingJoined _ join _
  | .followingUp join | .recordingFailed _ join _ | .restoring _ join | .releasing join _ | .leaked join =>
    some (.join join)
  | .probed _ => some .probe
  | .idle | .locking .. | .reading | .probing _ => none

def Desk.write (desk : Desk) (record : Record) (written : Written) : Desk :=
  if written = .works then { desk with record := some record } else desk

def Desk.answer (desk : Desk) (answer : Option Record) : Desk :=
  { desk with answered := (answer, desk.lock) :: desk.answered }

/-- `_failed`. -/
def failed (ssid : Text) (reason : Option Text) (join : Nat) : Record :=
  ⟨.failed, ssid, some ((reason.filter (· ≠ [])).getD noAssociation), none, join⟩

/-- What is answered for a `joining` record when no join holds the lock. -/
def Record.interrupted (record : Record) : Record :=
  { record with state := .failed, reason := some "interrupted".toList }

/-- `_try_lock` and what `start_join` does with its answer. -/
def tryLock (desk : Desk) (ssid : Text) (retries : Nat) : Desk × Place :=
  match desk.lock with
  | none =>
    ({ desk with lock := some (.join desk.drawn), drawn := desk.drawn + 1, ended := none }, .recording ssid desk.drawn)
  | some _ => (desk, if retries = 0 then .reading else .locking ssid (retries - 1))

/-- The writes of the record, at the start of a join and at its end. -/
def write (desk : Desk) (written : Written) : Place → Option (Desk × Place)
  | .recording ssid join => some (desk.write ⟨.joining, ssid, none, none, join⟩ written,
    if written = .raised then .leaked join else .spawning ssid join)
  | .recordingJoined ssid join result => some (desk.write ⟨.joined, ssid, none, result.ip, join⟩ written,
    if written = .raised then .releasing join true else .followingUp join)
  | .recordingFailed ssid join reason => some (desk.write (failed ssid reason join) written,
    if written = .raised then .restoring ssid join else .releasing join false)
  | .restoring ssid join => some (desk.write (failed ssid none join) written, .releasing join false)
  | _ => none

/-- The record as `read_state` finds it; there is none where the file cannot be read. -/
def read (desk : Desk) (raises : Bool) : Desk × Place :=
  match if raises then none else desk.record with
  | none => (desk.answer none, .idle)
  | some record => if record.state = .joining then (desk, .probing (some record)) else (desk.answer (some record), .idle)

/-- `_lock_held`, in `read_state` with a `joining` record in hand and in `wait_for_follow_up`
with none. -/
def probe (desk : Desk) (raises : Bool) (record : Option Record) : Desk × Place :=
  if raises then
    match record with
    | some record => (desk.answer (some record.interrupted), .idle)
    | none => (desk, .idle)
  else
    match desk.lock, record with
    | none, record => ({ desk with lock := some .probe }, .probed record)
    | some _, some record => (desk.answer (some record), .idle)
    | some _, none => (desk, .idle)

/-- `_release`, at the end of a worker and of a probe. -/
def release (desk : Desk) : Place → Option (Desk × Place)
  | .releasing join proven => some ({ desk with lock := none, ended := some (join, proven) }, .idle)
  | .probed (some record) => some ({ desk.answer (some record.interrupted) with lock := none }, .idle)
  | .probed none => some ({ desk with lock := none }, .idle)
  | _ => none

/-- The end of `join_network` in a worker. -/
def joined (ssid : Text) (join : Nat) : Option JoinResult → Place
  | none => .restoring ssid join
  | some result => if result.proven then .forgetting ssid join result else .recordingFailed ssid join result.reason

def action (desk : Desk) (place : Place) : Action → Option (Desk × Place)
  | .startJoin ssid => if place = .idle then some (desk, .locking ssid lockRetries) else none
  | .tryLock raises =>
    match place with
    | .locking ssid retries => some (if raises then (desk, .idle) else tryLock desk ssid retries)
    | _ => none
  | .write written => write desk written place
  | .spawn works =>
    match place with
    | .spawning ssid join => some (if works then (desk, .running ssid join) else ({ desk with lock := none }, .idle))
    | _ => none
  | .early reason written =>
    match place with
    | .running ssid join => some (desk.write (failed ssid reason join) written, place)
    | _ => none
  | .joined result =>
    match place with
    | .running ssid join => some (desk, joined ssid join result)
    | _ => none
  | .forget raises =>
    match place with
    | .forgetting ssid join result =>
      some (desk, if raises then .releasing join true else .recordingJoined ssid join result)
    | _ => none
  | .followUp =>
    match place with
    | .followingUp join => some (desk, .releasing join true)
    | _ => none
  | .release => release desk place
  | .poll => if place = .idle then some (desk, .reading) else none
  | .waitForFollowUp => if place = .idle then some (desk, .probing none) else none
  | .read raises => if place = .reading then some (read desk raises) else none
  | .probe raises =>
    match place with
    | .probing record => some (probe desk raises record)
    | _ => none
  | .kill => some (if place.holder.isSome then { desk with lock := none } else desk, .idle)

abbrev step : Crew Desk Place → Nat × Action → Option (Crew Desk Place) := Crew.act action

/-- The record of an earlier run, if there is one, and idle threads. -/
def initial (record : Option Record) (threads : Nat) : Crew Desk Place :=
  ⟨{ record, drawn := (record.map fun record => record.join + 1).getD 0 }, List.replicate threads .idle⟩

/-- The record says how a join ended. -/
def Reports (desk : Desk) (join : Nat) (proven : Bool) : Prop :=
  ∃ record, desk.record = some record ∧ record.join = join ∧ record.state = if proven then .joined else .failed

/-- `join_network` is running. -/
def Place.joins : Place → Bool
  | .running .. => true
  | _ => false

structure Truthful (crew : Crew Desk Place) : Prop where
  alone : Crew.Alone Place.joins crew
  answered : ∀ record holder, (some record, holder) ∈ crew.shared.answered → record.state = .joining →
    holder = some (.join record.join) ∨ holder = some .probe
  ended : ∀ join proven, crew.shared.ended = some (join, proven) → Reports crew.shared join proven

/-- The record says already that a join has failed. -/
def Desk.hasFailed (desk : Desk) (join : Nat) : Bool :=
  desk.record.any fun record => record.state = .failed && record.join = join

/-- No join but its own holds the lock. -/
def Desk.ownedBy (desk : Desk) (record : Record) : Bool :=
  match desk.lock with
  | some (.join join) => join = record.join
  | _ => true

/-- Nothing raises between the proof of a join and its record, the last record of a join is
written, and no poll with the `joining` record of one join in hand finds the lock with another. -/
def undisturbed (desk : Desk) (place : Place) : Action → Bool
  | .probe raises =>
    match place with
    | .probing (some record) => raises || desk.ownedBy record
    | _ => true
  | .forget raises => !raises
  | .write written =>
    match place with
    | .recordingJoined .. => written = .works
    | .recordingFailed _ join _ => written ≠ .swallowed || desk.hasFailed join
    | .restoring _ join => written = .works || desk.hasFailed join
    | _ => true
  | _ => true

def Undisturbed (crew : Crew Desk Place) (event : Nat × Action) : Prop :=
  (crew.places[event.1]?).all (fun place => undisturbed crew.shared place event.2) = true

instance (crew : Crew Desk Place) (event : Nat × Action) : Decidable (Undisturbed crew event) :=
  inferInstanceAs (Decidable (_ = true))

variable {desk after : Desk} {place next elsewhere : Place} {taken : Action} {written : Written}
  {crew final : Crew Desk Place}

namespace Desk

@[simp] theorem lock_write (record : Record) : (desk.write record written).lock = desk.lock := by
  unfold Desk.write
  split <;> rfl

@[simp] theorem ended_write (record : Record) : (desk.write record written).ended = desk.ended := by
  unfold Desk.write
  split <;> rfl

@[simp] theorem answered_write (record : Record) : (desk.write record written).answered = desk.answered := by
  unfold Desk.write
  split <;> rfl

theorem write_fails (record : Record) (fails : written ≠ .works) : desk.write record written = desk := if_neg fails

end Desk

/-- What a step does to the lock. -/
inductive LockStep (desk : Desk) (place : Place) (after : Desk) (next : Place) : Prop where
  | stays (lock : after.lock = desk.lock) (holder : next.holder = place.holder)
  | takes (free : desk.lock = none) (outside : place.holder = none) (lock : after.lock = next.holder)
  | drops (inside : place.holder.isSome = true) (lock : after.lock = none) (holder : next.holder = none)

theorem lockStep_tryLock {ssid : Text} {retries : Nat} (tried : tryLock desk ssid retries = (after, next)) :
    LockStep desk (.locking ssid retries) after next := by
  unfold tryLock at tried
  split at tried
  next free => cases tried; exact .takes free rfl rfl
  next => cases tried; exact .stays rfl (by split <;> rfl)

theorem lockStep_write (wrote : write desk written place = some (after, next)) : LockStep desk place after next := by
  unfold write at wrote
  split at wrote
  next => cases wrote; exact .stays (Desk.lock_write _) (by split <;> rfl)
  next => cases wrote; exact .stays (Desk.lock_write _) (by split <;> rfl)
  next => cases wrote; exact .stays (Desk.lock_write _) (by split <;> rfl)
  next => cases wrote; exact .stays (Desk.lock_write _) rfl
  next => cases wrote

theorem lockStep_read {raises : Bool} (found : read desk raises = (after, next)) : LockStep desk .reading after next := by
  unfold read at found
  split at found
  next => cases found; exact .stays rfl rfl
  next =>
    split at found
    next => cases found; exact .stays rfl rfl
    next => cases found; exact .stays rfl rfl

theorem lockStep_probe {raises : Bool} {record : Option Record} (probed : probe desk raises record = (after, next)) :
    LockStep desk (.probing record) after next := by
  unfold probe at probed
  split at probed
  next =>
    split at probed
    next => cases probed; exact .stays rfl rfl
    next => cases probed; exact .stays rfl rfl
  next =>
    split at probed
    next free => cases probed; exact .takes free rfl rfl
    next => cases probed; exact .stays rfl rfl
    next => cases probed; exact .stays rfl rfl

theorem lockStep_release (released : release desk place = some (after, next)) :
    LockStep desk place after next := by
  unfold release at released
  split at released
  next => cases released; exact .drops rfl rfl rfl
  next => cases released; exact .drops rfl rfl rfl
  next => cases released; exact .drops rfl rfl rfl
  next => cases released

theorem holder_joined (ssid : Text) (join : Nat) (result : Option JoinResult) :
    (joined ssid join result).holder = some (.join join) := by
  cases result with
  | none => rfl
  | some result =>
    unfold joined
    dsimp only
    split <;> rfl

theorem lockStep (acted : action desk place taken = some (after, next)) : LockStep desk place after next := by
  cases taken with
  | startJoin ssid | poll | waitForFollowUp =>
    obtain ⟨idle, done⟩ := Option.ite_none_right_eq_some.mp acted
    cases idle
    cases done
    exact .stays rfl rfl
  | tryLock raises =>
    dsimp only [action] at acted
    split at acted
    next =>
      cases raises with
      | true => cases acted; exact .stays rfl rfl
      | false => exact lockStep_tryLock (Option.some.inj acted)
    next => cases acted
  | write written => exact lockStep_write acted
  | spawn works =>
    dsimp only [action] at acted
    split at acted
    next =>
      cases works with
      | true => cases acted; exact .stays rfl rfl
      | false => cases acted; exact .drops rfl rfl rfl
    next => cases acted
  | early reason written =>
    dsimp only [action] at acted
    split at acted
    next => cases acted; exact .stays (Desk.lock_write _) rfl
    next => cases acted
  | joined result =>
    dsimp only [action] at acted
    split at acted
    next ssid join => cases acted; exact .stays rfl (holder_joined ssid join result)
    next => cases acted
  | forget raises =>
    dsimp only [action] at acted
    split at acted
    next => cases acted; exact .stays rfl (by split <;> rfl)
    next => cases acted
  | followUp =>
    dsimp only [action] at acted
    split at acted
    next => cases acted; exact .stays rfl rfl
    next => cases acted
  | release => exact lockStep_release acted
  | read raises =>
    obtain ⟨reading, done⟩ := Option.ite_none_right_eq_some.mp acted
    cases reading
    exact lockStep_read (Option.some.inj done)
  | probe raises =>
    dsimp only [action] at acted
    split at acted
    next => exact lockStep_probe (Option.some.inj acted)
    next => cases acted
  | kill =>
    cases acted
    split
    next inside => exact .drops inside rfl rfl
    next outside => exact .stays rfl (Option.not_isSome_iff_eq_none.mp outside).symm

/-- A thread that is inside for a holder has the lock for it. -/
def Holds (desk : Desk) (_ : Nat) (place : Place) : Prop :=
  ∀ holder, place.holder = some holder → desk.lock = some holder

structure Exclusive (crew : Crew Desk Place) : Prop where
  holds : Crew.Annotated (fun _ => True) Holds crew
  alone : Crew.Alone (fun place => place.holder.isSome) crew

namespace Exclusive

theorem outside (exclusive : Exclusive crew) (free : crew.shared.lock = none) :
    ∀ elsewhere ∈ crew.places, elsewhere.holder.isSome = false := by
  intro elsewhere member
  obtain ⟨other, seen⟩ := List.getElem?_of_mem member
  cases inside : elsewhere.holder with
  | none => rfl
  | some holder =>
    have locked := exclusive.holds.places other elsewhere seen holder inside
    rw [free] at locked
    cases locked

theorem enters (exclusive : Exclusive crew) (stepped : LockStep crew.shared place after next) :
    next.holder.isSome = true →
      place.holder.isSome = true ∨ ∀ elsewhere ∈ crew.places, elsewhere.holder.isSome = false := by
  intro inside
  cases stepped with
  | stays _ holder => exact .inl (holder ▸ inside)
  | takes free => exact .inr (exclusive.outside free)
  | drops _ _ holder =>
    rw [holder] at inside
    cases inside

theorem step (exclusive : Exclusive crew) {thread : Nat} (acted : step crew (thread, taken) = some final) :
    Exclusive final := by
  obtain ⟨place, after, next, found, possible, rfl⟩ := Crew.act_eq_some acted
  have stepped := lockStep possible
  have enters := exclusive.enters stepped
  refine ⟨exclusive.holds.set found trivial ?_ ?_, exclusive.alone.set found enters⟩
  · intro holder inside
    cases stepped with
    | stays lock same =>
      rw [lock]
      exact exclusive.holds.places thread place found holder (same ▸ inside)
    | takes _ _ lock => exact lock.trans inside
    | drops _ _ left =>
      rw [left] at inside
      cases inside
  · intro other elsewhere different seen holds holder inside
    cases stepped with
    | stays lock => exact lock.trans (holds holder inside)
    | takes free =>
      have locked := holds holder inside
      rw [free] at locked
      cases locked
    | drops within =>
      have left := exclusive.alone.outside found within different seen
      rw [inside] at left
      cases left

theorem joins (exclusive : Exclusive crew) : Crew.Alone Place.joins crew := by
  have inside (place : Place) (joins : place.joins = true) : place.holder.isSome = true := by
    cases place with
    | running => rfl
    | _ => cases joins
  intro left right here there foundHere foundThere joinsHere joinsThere
  exact exclusive.alone left right here there foundHere foundThere (inside here joinsHere) (inside there joinsThere)

end Exclusive

/-- One join at a time, whatever raises. -/
theorem exclusive_run {record : Option Record} {threads : Nat}
    (run : Reaches step anything (initial record threads) crew) : Exclusive crew := by
  have rests : ∀ place ∈ (initial record threads).places, place = .idle := fun _ member => List.eq_of_mem_replicate member
  have begins : Exclusive (initial record threads) :=
    ⟨Crew.Annotated.resting rests trivial fun _ _ impossible => (by cases impossible),
      Crew.Alone.resting rests rfl⟩
  exact run.invariant begins fun _ _ _ _ _ stepped exclusive => exclusive.step stepped

/-- The end of a join that is on record by now. -/
def Place.told : Place → Option (Nat × Bool)
  | .followingUp join => some (join, true)
  | .releasing join proven => some (join, proven)
  | _ => none

structure Known (desk : Desk) : Prop where
  answered : ∀ record holder, (some record, holder) ∈ desk.answered → record.state = .joining →
    holder = some (.join record.join) ∨ holder = some .probe
  ended : ∀ join proven, desk.ended = some (join, proven) →
    Reports desk join proven ∧ ∀ other, desk.lock ≠ some (.join other)

def Knows (desk : Desk) (_ : Nat) (place : Place) : Prop :=
  ∀ join proven, place.told = some (join, proven) → Reports desk join proven

theorem reports_of_hasFailed {join : Nat} (failed : desk.hasFailed join = true) : Reports desk join false := by
  obtain ⟨record, found, same⟩ := (Option.any_eq_true _ _).mp failed
  obtain ⟨state, about⟩ := (Bool.and_eq_true _ _).mp same
  exact ⟨record, found, of_decide_eq_true about, of_decide_eq_true state⟩

variable {thread : Nat}

/-- A place where nothing is known. -/
theorem knows_plain (told : place.told = none) : Knows desk thread place := by
  intro join proven known
  rw [told] at known
  cases known

namespace Known

variable (known : Known desk)

include known

/-- A step that takes the lock for no join. -/
theorem relocked (record : after.record = desk.record) (ended : after.ended = desk.ended)
    (answered : after.answered = desk.answered)
    (lock : ∀ join, after.lock = some (.join join) → desk.lock = some (.join join)) : Known after where
  answered answer holder member := known.answered answer holder (answered ▸ member)
  ended join proven finished := by
    obtain ⟨⟨found, same⟩, free⟩ := known.ended join proven (ended ▸ finished)
    exact ⟨⟨found, record ▸ same⟩, fun other held => free other (lock other held)⟩

theorem answer {answer : Option Record}
    (fine : ∀ record, answer = some record → record.state = .joining →
      desk.lock = some (.join record.join) ∨ desk.lock = some .probe) : Known (desk.answer answer) where
  answered record holder member joining := by
    rcases List.mem_cons.mp member with now | before
    · obtain ⟨said, asked⟩ := Prod.mk.inj now
      exact asked ▸ fine record said.symm joining
    · exact known.answered record holder before joining
  ended := known.ended

/-- A write of a thread that has the lock for its join. -/
theorem write {join : Nat} (held : desk.lock = some (.join join)) (record : Record) (written : Written) :
    Known (desk.write record written) where
  answered := by
    rw [Desk.answered_write]
    exact known.answered
  ended other proven finished := by
    rw [Desk.ended_write] at finished
    exact absurd held ((known.ended other proven finished).2 join)

end Known

/-- What a step leaves. -/
structure Kept (desk : Desk) (thread : Nat) (place : Place) (after : Desk) (next : Place) : Prop where
  known : Known after
  knows : Knows after thread next
  record : after.record = desk.record ∨ place.holder.isSome = true

theorem tryLock_kept {ssid : Text} {retries : Nat} (known : Known desk)
    (tried : tryLock desk ssid retries = (after, next)) :
    Kept desk thread (.locking ssid retries) after next := by
  unfold tryLock at tried
  split at tried
  next free =>
    cases tried
    exact ⟨⟨known.answered, fun _ _ impossible => (by cases impossible)⟩, knows_plain rfl, .inl rfl⟩
  next =>
    cases tried
    refine ⟨known, ?_, .inl rfl⟩
    split
    next => exact knows_plain rfl
    next => exact knows_plain rfl

/-- A write of a thread that has the lock for its join. -/
theorem kept_write {join : Nat} (known : Known desk) (held : desk.lock = some (.join join))
    (holder : place.holder = some (.join join)) {record : Record}
    (knows : Knows (desk.write record written) thread next) :
    Kept desk thread place (desk.write record written) next where
  known := known.write held record written
  knows := knows
  record := .inr (by rw [holder]; rfl)

theorem knows_released {join : Nat} {proven : Bool} (reports : Reports desk join proven) :
    Knows desk thread (.releasing join proven) := by
  intro other shown told
  cases told
  exact reports

theorem reports_failed {ssid : Text} {reason : Option Text} {join : Nat}
    (final : written = .works ∨ desk.hasFailed join = true) :
    Reports (desk.write (failed ssid reason join) written) join false := by
  by_cases works : written = .works
  · rw [works]
    exact ⟨_, rfl, rfl, rfl⟩
  · rw [Desk.write_fails _ works]
    exact reports_of_hasFailed (final.resolve_left works)

theorem write_kept (known : Known desk) (holds : Holds desk thread place)
    (undisturbed : match place with
      | .recordingJoined .. => written = .works
      | .recordingFailed _ join _ => written ≠ .swallowed ∨ desk.hasFailed join = true
      | .restoring _ join => written = .works ∨ desk.hasFailed join = true
      | _ => True)
    (wrote : write desk written place = some (after, next)) : Kept desk thread place after next := by
  unfold write at wrote
  split at wrote
  next ssid join =>
    cases wrote
    refine kept_write known (holds _ rfl) rfl ?_
    split
    next => exact knows_plain rfl
    next => exact knows_plain rfl
  next ssid join result =>
    cases wrote
    cases undisturbed
    refine kept_write known (holds _ rfl) rfl ?_
    intro join proven told
    cases told
    exact ⟨_, rfl, rfl, rfl⟩
  next ssid join reason =>
    cases wrote
    refine kept_write known (holds _ rfl) rfl ?_
    split
    next => exact knows_plain rfl
    next whole =>
      have final : written = .works ∨ desk.hasFailed join = true := by
        cases written with
        | works => exact .inl rfl
        | swallowed => exact .inr (undisturbed.resolve_left fun different => different rfl)
        | raised => exact absurd rfl whole
      exact knows_released (reports_failed final)
  next ssid join =>
    cases wrote
    exact kept_write known (holds _ rfl) rfl (knows_released (reports_failed undisturbed))
  next => cases wrote

/-- A step that leaves the desk as it is. -/
theorem kept_still (known : Known desk) (knows : Knows desk thread next) : Kept desk thread place desk next :=
  ⟨known, knows, .inl rfl⟩

/-- A step that leaves the lock to no one. -/
theorem kept_unlocked (known : Known desk) (told : next.told = none) :
    Kept desk thread place { desk with lock := none } next :=
  ⟨known.relocked rfl rfl rfl fun _ impossible => (by cases impossible), knows_plain told, .inl rfl⟩

/-- An answer of a poll. -/
theorem kept_answer (known : Known desk) {answer : Option Record}
    (fine : ∀ record, answer = some record → record.state = .joining →
      desk.lock = some (.join record.join) ∨ desk.lock = some .probe) :
    Kept desk thread place (desk.answer answer) .idle :=
  ⟨known.answer fine, knows_plain rfl, .inl rfl⟩

theorem fine_interrupted {record answer : Record} (said : some record.interrupted = some answer)
    (joining : answer.state = .joining) :
    desk.lock = some (.join answer.join) ∨ desk.lock = some .probe := by
  cases said
  cases joining

theorem read_kept {raises : Bool} (known : Known desk) (found : read desk raises = (after, next)) :
    Kept desk thread .reading after next := by
  unfold read at found
  split at found
  next =>
    cases found
    exact kept_answer known fun _ impossible => by cases impossible
  next record stored =>
    split at found
    next joining =>
      cases found
      exact kept_still known (knows_plain rfl)
    next other =>
      cases found
      refine kept_answer known fun said same joining => absurd ?_ other
      cases same
      exact joining

theorem probe_kept {raises : Bool} {record : Option Record} (known : Known desk)
    (calm : undisturbed desk (.probing record) (.probe raises) = true)
    (probed : probe desk raises record = (after, next)) : Kept desk thread (.probing record) after next := by
  unfold probe at probed
  split at probed
  next =>
    split at probed
    next =>
      cases probed
      exact kept_answer known fun _ => fine_interrupted
    next =>
      cases probed
      exact kept_still known (knows_plain rfl)
  next looks =>
    split at probed
    next =>
      cases probed
      exact ⟨known.relocked rfl rfl rfl fun _ impossible => (by cases impossible), knows_plain rfl, .inl rfl⟩
    next holder record held =>
      cases probed
      refine kept_answer known fun said same _ => ?_
      cases same
      cases holder with
      | probe => exact .inr held
      | join join =>
        have own := (Bool.or_eq_true_iff.mp calm).resolve_left looks
        unfold Desk.ownedBy at own
        rw [held] at own
        exact .inl (of_decide_eq_true own ▸ held)
    next =>
      cases probed
      exact kept_still known (knows_plain rfl)

theorem release_kept (known : Known desk) (knows : Knows desk thread place)
    (released : release desk place = some (after, next)) : Kept desk thread place after next := by
  unfold release at released
  split at released
  next join proven =>
    cases released
    have reports := knows join proven rfl
    refine ⟨⟨known.answered, fun other shown finished => ?_⟩, knows_plain rfl, .inl rfl⟩
    cases finished
    exact ⟨reports, fun _ impossible => (by cases impossible)⟩
  next record =>
    cases released
    have answered : Known (desk.answer (some record.interrupted)) := known.answer fun _ => fine_interrupted
    exact ⟨answered.relocked rfl rfl rfl fun _ impossible => (by cases impossible), knows_plain rfl, .inl rfl⟩
  next =>
    cases released
    exact kept_unlocked known rfl
  next => cases released

theorem kept (known : Known desk) (knows : Knows desk thread place) (holds : Holds desk thread place)
    (calm : undisturbed desk place taken = true) (acted : action desk place taken = some (after, next)) :
    Kept desk thread place after next := by
  cases taken with
  | startJoin ssid | poll | waitForFollowUp =>
    obtain ⟨idle, done⟩ := Option.ite_none_right_eq_some.mp acted
    cases done
    exact kept_still known (knows_plain rfl)
  | tryLock raises =>
    dsimp only [action] at acted
    split at acted
    next =>
      cases raises with
      | true =>
        cases acted
        exact kept_still known (knows_plain rfl)
      | false => exact tryLock_kept known (Option.some.inj acted)
    next => cases acted
  | write written =>
    refine write_kept known holds ?_ acted
    cases place with
    | recordingJoined => exact of_decide_eq_true calm
    | recordingFailed =>
      exact (Bool.or_eq_true_iff.mp calm).imp_left of_decide_eq_true
    | restoring => exact (Bool.or_eq_true_iff.mp calm).imp_left of_decide_eq_true
    | _ => trivial
  | spawn works =>
    dsimp only [action] at acted
    split at acted
    next =>
      cases works with
      | true =>
        cases acted
        exact kept_still known (knows_plain rfl)
      | false =>
        cases acted
        exact kept_unlocked known rfl
    next => cases acted
  | early reason written =>
    dsimp only [action] at acted
    split at acted
    next =>
      cases acted
      exact kept_write known (holds _ rfl) rfl (knows_plain rfl)
    next => cases acted
  | joined result =>
    dsimp only [action] at acted
    split at acted
    next ssid join =>
      cases acted
      refine kept_still known ?_
      unfold joined
      split
      next => exact knows_plain rfl
      next =>
        split
        next => exact knows_plain rfl
        next => exact knows_plain rfl
    next => cases acted
  | forget raises =>
    cases raises with
    | true => cases calm
    | false =>
      dsimp only [action] at acted
      split at acted
      next =>
        cases acted
        exact kept_still known (knows_plain rfl)
      next => cases acted
  | followUp =>
    dsimp only [action] at acted
    split at acted
    next join =>
      cases acted
      exact kept_still known (knows_released (knows join true rfl))
    next => cases acted
  | release => exact release_kept known knows acted
  | read raises =>
    obtain ⟨reading, done⟩ := Option.ite_none_right_eq_some.mp acted
    cases reading
    exact read_kept known (Option.some.inj done)
  | probe raises =>
    dsimp only [action] at acted
    split at acted
    next => exact probe_kept known calm (Option.some.inj acted)
    next => cases acted
  | kill =>
    cases acted
    split
    next => exact kept_unlocked known rfl
    next => exact kept_still known (knows_plain rfl)

/-- What the other threads know outlives a step. -/
theorem Knows.others {other : Nat} (kept : Kept desk thread place after next)
    (alone : place.holder.isSome = true → elsewhere.holder.isSome = false)
    (knows : Knows desk other elsewhere) : Knows after other elsewhere := by
  intro join proven told
  have inside : elsewhere.holder.isSome = true := by
    cases elsewhere with
    | followingUp | releasing => rfl
    | _ => cases told
  rcases kept.record with same | within
  · obtain ⟨record, found, reports⟩ := knows join proven told
    exact ⟨record, same.trans found, reports⟩
  · rw [alone within] at inside
    cases inside

structure Sound (crew : Crew Desk Place) : Prop where
  exclusive : Exclusive crew
  annotated : Crew.Annotated Known Knows crew

theorem Sound.step (sound : Sound crew) {event : Nat × Action} (calm : Undisturbed crew event)
    (acted : step crew event = some final) : Sound final := by
  obtain ⟨thread, taken⟩ := event
  refine ⟨sound.exclusive.step acted, ?_⟩
  obtain ⟨place, after, next, found, possible, rfl⟩ := Crew.act_eq_some acted
  unfold Undisturbed at calm
  rw [found] at calm
  have kept := kept sound.annotated.shared (sound.annotated.places thread place found)
    (sound.exclusive.holds.places thread place found) calm possible
  refine sound.annotated.set found kept.known kept.knows fun other elsewhere different seen knows => ?_
  exact knows.others kept fun within => sound.exclusive.alone.outside found within different seen

theorem Sound.truthful (sound : Sound crew) : Truthful crew where
  alone := sound.exclusive.joins
  answered := sound.annotated.shared.answered
  ended join proven finished := (sound.annotated.shared.ended join proven finished).1

/-- While nothing comes between a join and its record, and no other join between a poll's reading
and its look at the lock, records are truthful. -/
theorem records_truthful {record : Option Record} {threads : Nat}
    (run : Reaches step Undisturbed (initial record threads) crew) : Truthful crew := by
  have rests : ∀ place ∈ (initial record threads).places, place = .idle := fun _ member => List.eq_of_mem_replicate member
  have known : Known (initial record threads).shared :=
    ⟨fun _ _ impossible => (by cases impossible), fun _ _ impossible => (by cases impossible)⟩
  have begins : Sound (initial record threads) :=
    ⟨exclusive_run .start, Crew.Annotated.resting rests known fun _ => knows_plain rfl⟩
  have sound : Sound crew := run.invariant begins fun _ _ _ _ calm stepped sound => sound.step calm stepped
  exact sound.truthful

def leased : JoinResult := ⟨true, some "192.168.1.20/24".toList, none⟩

/-- A join that is proven, with a poll while it runs. -/
def provenJoin : List (Nat × Action) :=
  [(0, .startJoin "Depot".toList), (0, .tryLock false), (0, .write .works), (1, .poll), (0, .spawn true), (1, .read false),
    (1, .probe false), (0, .joined (some leased)), (0, .forget false), (0, .write .works), (0, .followUp), (0, .release)]

theorem records_truthful_proven : ∃ crew, play step Undisturbed (initial none 2) provenJoin = some crew ∧
    crew.shared.ended = some (0, true) ∧ Truthful crew := by
  have ends : ((play step Undisturbed (initial none 2) provenJoin).any
      fun crew => crew.shared.ended = some (0, true)) = true := by decide +kernel
  obtain ⟨crew, played, ended⟩ := (Option.any_eq_true _ _).mp ends
  exact ⟨crew, played, of_decide_eq_true ended, records_truthful (reaches_play played)⟩

/-- The saved networks cannot be forgotten after a join that is proven. -/
def unforgotten : List (Nat × Action) :=
  [(0, .startJoin "Depot".toList), (0, .tryLock false), (0, .write .works), (0, .spawn true), (0, .joined (some leased)),
    (0, .forget true), (0, .release)]

theorem proven_join_unrecorded : ¬ ∀ (record : Option Record) (threads : Nat) (crew : Crew Desk Place),
    Reaches step anything (initial record threads) crew → Truthful crew := by
  intro claim
  have ends : ((play step anything (initial none 1) unforgotten).any fun crew =>
      crew.shared.ended = some (0, true) && crew.shared.record.any fun record => record.state = .joining) = true := by
    decide +kernel
  obtain ⟨crew, played, both⟩ := (Option.any_eq_true _ _).mp ends
  obtain ⟨ended, stands⟩ := (Bool.and_eq_true _ _).mp both
  obtain ⟨record, found, -, state⟩ := (claim none 1 crew (reaches_play played)).ended 0 true (of_decide_eq_true ended)
  rw [found] at stands
  cases state.symm.trans (of_decide_eq_true stands)

end Wqm1.Network.JoinRecord
