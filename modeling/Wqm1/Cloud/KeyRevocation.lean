import Wqm1.Library.Crew
import Mathlib.Data.Option.Basic
import Mathlib.Logic.Function.Basic

/-! The HTTP key of the device: requests carry it, a 401 clears it from the client, the
key file and the config, and a registration stores and attaches a new one. -/

set_option autoImplicit false

namespace Wqm1.Cloud.HttpKey

open Wqm1.Library

/-- Who keeps a key. -/
inductive Keeper where
  | client | keyFile | config
deriving DecidableEq

inductive RegisterStatus where
  | pending | registered | conflict | error
deriving DecidableEq

/-- The keys in place, the empty string for none. The last fields are for the statements
only: the keys carried by the requests answered 401, and the keys taken away. -/
structure KeyStore where
  keys : Keeper → String
  status : RegisterStatus
  revokeLock : Bool := false
  refused : List String := []
  removed : List (Keeper × String) := []

def KeyStore.put (store : KeyStore) (keeper : Keeper) (key : String) : KeyStore :=
  { store with keys := Function.update store.keys keeper key }

def KeyStore.clear (store : KeyStore) (keeper : Keeper) : KeyStore :=
  { store.put keeper "" with
    removed := if store.keys keeper = "" then store.removed
      else store.removed ++ [(keeper, store.keys keeper)] }

/-- Where a thread is: in `_request`, in `note_http_key_revoked` after a 401, or in
`attempt_register` and what follows it; `attaches` in the worker that hands the key on. -/
inductive Place where
  | idle
  | requesting (carried : String)
  | unauthorized (carried : String)
  | waiting (carried : String)
  | revoking (carried : String)
  | unlinking (carried : String) (hadKey : Bool)
  | stripping (carried : String) (hadKey : Bool)
  | rescheduling (hadKey : Bool)
  | registering (attaches : Bool)
  | issued (attaches : Bool) (key : String)
  | stored (attaches : Bool) (key : String)
  | persisted (attaches : Bool)
  | recorded
deriving DecidableEq

inductive Action where
  | request
  /-- The last answer to the request, after its retries. -/
  | answer (code : Int)
  | register (due force attaches : Bool)
  /-- HTTP 200 with this key, empty when there is none in the body. -/
  | registerAnswer (key : String)
  | registerRefused (status : RegisterStatus)
  /-- The next step of a thread on its way; `works` when the step has its effect. -/
  | proceed (works : Bool)
deriving DecidableEq

/-- The guard of `DeviceRegisterWorker.step` and of `attempt_register`. -/
def KeyStore.mayRegister (store : KeyStore) (force : Bool) : Bool :=
  force || (store.status ≠ .conflict && !(store.status = .registered && store.keys .keyFile ≠ ""))

/-- The end of `_request`. -/
def KeyStore.answered (store : KeyStore) (carried : String) (code : Int) : KeyStore × Place :=
  if code = 401 then
    ({ store with refused := store.refused ++ [carried] },
      if store.keys .client = "" then .idle else .unauthorized carried)
  else (store, .idle)

/-- The steps after a 401, of which those from `revoking` on are in the lock. -/
def KeyStore.revoke (store : KeyStore) (works : Bool) : Place → Option (KeyStore × Place)
  | .unauthorized carried => some (store.clear .client, .waiting carried)
  | .waiting carried =>
    if store.revokeLock then none else some ({ store with revokeLock := true }, .revoking carried)
  | .revoking carried => some (store, .unlinking carried (works && store.keys .keyFile ≠ ""))
  | .unlinking carried hadKey =>
    some (if works then store.clear .keyFile else store, .stripping carried hadKey)
  | .stripping _ hadKey => some (if works then store.clear .config else store, .rescheduling hadKey)
  | .rescheduling hadKey =>
    some ({ store with
      revokeLock := false
      status := if works && (hadKey || store.status ≠ .pending) then .pending else store.status }, .idle)
  | _ => none

/-- The steps after a registration that issued a key. -/
def KeyStore.keep (store : KeyStore) (works : Bool) : Place → Option (KeyStore × Place)
  | .issued attaches key =>
    if works then some (store.put .keyFile key, .stored attaches key) else some (store, .idle)
  | .stored attaches key => some (if works then store.put .config key else store, .persisted attaches)
  | .persisted attaches =>
    if works then some ({ store with status := .registered }, if attaches then .recorded else .idle)
    else some (store, .idle)
  | .recorded =>
    some (if works && store.keys .keyFile ≠ "" then store.put .client (store.keys .keyFile) else store, .idle)
  | _ => none

def action (store : KeyStore) (place : Place) : Action → Option (KeyStore × Place)
  | .request => if place = .idle then some (store, .requesting (store.keys .client)) else none
  | .answer code =>
    match place with
    | .requesting carried => some (store.answered carried code)
    | _ => none
  | .register due force attaches =>
    if place = .idle then
      some (store, if due && store.mayRegister force then .registering attaches else .idle)
    else none
  | .registerAnswer key =>
    match place with
    | .registering attaches =>
      if key = "" then some ({ store with status := .error }, .idle)
      else some (store, .issued attaches key)
    | _ => none
  | .registerRefused status =>
    match place with
    | .registering _ => if status = .registered then none else some ({ store with status := status }, .idle)
    | _ => none
  | .proceed works => (store.revoke works place).or (store.keep works place)

abbrev step : Crew KeyStore Place → Nat × Action → Option (Crew KeyStore Place) := Crew.act action

/-- The key that was refused to a thread which has still to clear this keeper. -/
def Place.clears : Place → Keeper → Option String
  | .unauthorized carried, _ => some carried
  | .waiting carried, keeper | .revoking carried, keeper | .unlinking carried _, keeper =>
    if keeper = .client then none else some carried
  | .stripping carried _, keeper => if keeper = .config then some carried else none
  | _, _ => none

def Place.carried : Place → Option String
  | .requesting carried => some carried
  | _ => none

/-- The key that a registration puts in place with its next step. -/
def Place.puts (store : KeyStore) : Place → Option (Keeper × String)
  | .issued _ key => some (.keyFile, key)
  | .stored _ key => some (.config, key)
  | .recorded => some (.client, store.keys .keyFile)
  | _ => none

/-- A 401 is handled only while no other key than the refused one is in place, and no other
key is put where a 401 has still to be acted on. -/
def Unreplaced (crew : Crew KeyStore Place) (event : Nat × Action) : Prop :=
  match event.2 with
  | .answer code => code = 401 → crew.shared.keys .client ≠ "" →
    ∀ carried ∈ crew.places[event.1]?.bind Place.carried,
      ∀ keeper ∈ [Keeper.client, .keyFile, .config],
        crew.shared.keys keeper = "" ∨ crew.shared.keys keeper = carried
  | .proceed _ => ∀ put ∈ crew.places[event.1]?.bind (Place.puts crew.shared),
    ∀ place ∈ crew.places, place.clears put.1 = none ∨ place.clears put.1 = some put.2
  | _ => True

instance (crew : Crew KeyStore Place) : ∀ event, Decidable (Unreplaced crew event)
  | (_, .answer _) => inferInstanceAs (Decidable (_ → _ → ∀ carried ∈ _, ∀ keeper ∈ _, _ ∨ _))
  | (_, .proceed _) => inferInstanceAs (Decidable (∀ put ∈ _, ∀ place ∈ _, _ ∨ _))
  | (_, .request) | (_, .register ..) | (_, .registerAnswer _) | (_, .registerRefused _) =>
    inferInstanceAs (Decidable True)

/-- Whatever was taken away had been refused. -/
def Justified (store : KeyStore) : Prop :=
  ∀ keeper key, (keeper, key) ∈ store.removed → key ∈ store.refused

/-- What a thread clears holds nothing but the key that was refused to it. -/
def Clears (store : KeyStore) (_ : Nat) (place : Place) : Prop :=
  ∀ keeper carried, place.clears keeper = some carried →
    carried ∈ store.refused ∧ (store.keys keeper = "" ∨ store.keys keeper = carried)

/-- What an action can do to the keys and to what the thread has still to clear. -/
inductive Effect (store : KeyStore) (place : Place) : Action → KeyStore → Place → Prop where
  | quiet {taken : Action} {after : KeyStore} {next : Place} (keys : after.keys = store.keys)
      (refused : after.refused = store.refused) (removed : after.removed = store.removed)
      (narrows : ∀ keeper carried, next.clears keeper = some carried → place.clears keeper = some carried) :
      Effect store place taken after next
  | refusal {next : Place} (carried : String) (requesting : place = .requesting carried)
      (handles : next = .idle ∨ store.keys .client ≠ "" ∧ next = .unauthorized carried) :
      Effect store place (.answer 401) { store with refused := store.refused ++ [carried] } next
  | clearing {taken : Action} {next : Place} (keeper : Keeper) (carried : String)
      (clears : place.clears keeper = some carried)
      (narrows : ∀ keeper carried, next.clears keeper = some carried → place.clears keeper = some carried) :
      Effect store place taken (store.clear keeper) next
  | putting {works : Bool} {next : Place} (keeper : Keeper) (key : String)
      (puts : place.puts store = some (keeper, key)) (clears : ∀ keeper, next.clears keeper = none) :
      Effect store place (.proceed works) (store.put keeper key) next

theorem revoke_effect {store after : KeyStore} {place next : Place} {works : Bool} {taken : Action}
    (revoked : store.revoke works place = some (after, next)) : Effect store place taken after next := by
  unfold KeyStore.revoke at revoked
  split at revoked
  next carried =>
    cases revoked
    refine .clearing .client carried rfl fun keeper key clears => ?_
    simp only [Place.clears, Option.ite_none_left_eq_some] at clears ⊢
    exact clears.2
  next carried =>
    split at revoked
    next => cases revoked
    next =>
      cases revoked
      exact .quiet rfl rfl rfl fun _ _ clears => clears
  next carried =>
    cases revoked
    exact .quiet rfl rfl rfl fun _ _ clears => clears
  next carried hadKey =>
    cases revoked
    have narrows (keeper : Keeper) (key : String)
        (clears : (Place.stripping carried hadKey).clears keeper = some key) :
        (Place.unlinking carried hadKey).clears keeper = some key := by
      cases keeper with
      | client => cases clears
      | keyFile => cases clears
      | config => exact clears
    cases works with
    | true => exact .clearing .keyFile carried rfl narrows
    | false => exact .quiet rfl rfl rfl narrows
  next carried hadKey =>
    cases revoked
    cases works with
    | true => exact .clearing .config carried rfl fun _ _ clears => by cases clears
    | false => exact .quiet rfl rfl rfl fun _ _ clears => by cases clears
  next hadKey =>
    cases revoked
    exact .quiet rfl rfl rfl fun _ _ clears => by cases clears
  next => cases revoked

theorem keep_effect {store after : KeyStore} {place next : Place} {works : Bool}
    (kept : store.keep works place = some (after, next)) :
    Effect store place (.proceed works) after next := by
  unfold KeyStore.keep at kept
  split at kept
  next attaches key =>
    split at kept
    · cases kept
      exact .putting .keyFile key rfl fun _ => rfl
    · cases kept
      exact .quiet rfl rfl rfl fun _ _ clears => by cases clears
  next attaches key =>
    cases kept
    split
    · exact .putting .config key rfl fun _ => rfl
    · exact .quiet rfl rfl rfl fun _ _ clears => by cases clears
  next attaches =>
    split at kept
    · cases kept
      refine .quiet rfl rfl rfl fun _ _ clears => ?_
      cases attaches <;> cases clears
    · cases kept
      exact .quiet rfl rfl rfl fun _ _ clears => by cases clears
  next =>
    cases kept
    split
    · exact .putting .client _ rfl fun _ => rfl
    · exact .quiet rfl rfl rfl fun _ _ clears => by cases clears
  next => cases kept

theorem action_effect {store after : KeyStore} {place next : Place} {taken : Action}
    (acted : action store place taken = some (after, next)) : Effect store place taken after next := by
  cases taken with
  | request =>
    obtain ⟨-, done⟩ := Option.ite_none_right_eq_some.mp acted
    cases done
    exact .quiet rfl rfl rfl fun _ _ clears => by cases clears
  | answer code =>
    simp only [action] at acted
    split at acted
    next carried =>
      unfold KeyStore.answered at acted
      split at acted
      next refused =>
        cases acted
        cases refused
        refine .refusal carried rfl ?_
        split
        · exact .inl rfl
        next present => exact .inr ⟨present, rfl⟩
      next =>
        cases acted
        exact .quiet rfl rfl rfl fun _ _ clears => by cases clears
    next => cases acted
  | register due force attaches =>
    obtain ⟨-, done⟩ := Option.ite_none_right_eq_some.mp acted
    cases done
    refine .quiet rfl rfl rfl fun _ _ clears => ?_
    split at clears <;> cases clears
  | registerAnswer key =>
    simp only [action] at acted
    split at acted
    next attaches =>
      split at acted <;> cases acted <;> exact .quiet rfl rfl rfl fun _ _ clears => by cases clears
    next => cases acted
  | registerRefused status =>
    simp only [action] at acted
    split at acted
    next attaches =>
      obtain ⟨-, done⟩ := Option.ite_none_left_eq_some.mp acted
      cases done
      exact .quiet rfl rfl rfl fun _ _ clears => by cases clears
    next => cases acted
  | proceed works =>
    simp only [action, Option.or_eq_some_iff] at acted
    rcases acted with revoked | ⟨-, kept⟩
    · exact revoke_effect revoked
    · exact keep_effect kept

theorem Clears.of_same {before after : KeyStore} {thread : Nat} {place next : Place}
    (clears : Clears before thread place) (keys : after.keys = before.keys)
    (refused : before.refused ⊆ after.refused)
    (narrows : ∀ keeper carried, next.clears keeper = some carried → place.clears keeper = some carried) :
    Clears after thread next := by
  intro keeper carried still
  obtain ⟨known, holds⟩ := clears keeper carried (narrows keeper carried still)
  exact ⟨refused known, keys ▸ holds⟩

theorem Clears.clear {store : KeyStore} {thread : Nat} {place : Place} (clears : Clears store thread place)
    (cleared : Keeper) : Clears (store.clear cleared) thread place := by
  intro keeper carried still
  obtain ⟨known, holds⟩ := clears keeper carried still
  refine ⟨known, ?_⟩
  by_cases same : keeper = cleared
  · subst same
    exact .inl (Function.update_self ..)
  · have unchanged : (store.clear cleared).keys keeper = store.keys keeper := Function.update_of_ne same ..
    rwa [unchanged]

theorem Clears.put {store : KeyStore} {thread : Nat} {place : Place} {put : Keeper × String}
    (clears : Clears store thread place)
    (permitted : place.clears put.1 = none ∨ place.clears put.1 = some put.2) :
    Clears (store.put put.1 put.2) thread place := by
  intro keeper carried still
  obtain ⟨known, holds⟩ := clears keeper carried still
  refine ⟨known, ?_⟩
  by_cases same : keeper = put.1
  · subst same
    rcases permitted with nothing | this
    · rw [nothing] at still; cases still
    · rw [this] at still
      cases still
      exact .inr (Function.update_self ..)
  · have unchanged : (store.put put.1 put.2).keys keeper = store.keys keeper := Function.update_of_ne same ..
    rwa [unchanged]

theorem Justified.clear {store : KeyStore} {thread : Nat} {place : Place} {keeper : Keeper}
    {carried : String} (justified : Justified store) (clears : Clears store thread place)
    (pending : place.clears keeper = some carried) : Justified (store.clear keeper) := by
  obtain ⟨known, holds⟩ := clears keeper carried pending
  intro other key gone
  simp only [KeyStore.clear] at gone
  split at gone
  next => exact justified other key gone
  next present =>
    rcases List.mem_append.mp gone with earlier | now
    · exact justified other key earlier
    · cases List.mem_singleton.mp now
      rcases holds with nothing | same
      · exact absurd nothing present
      · exact same ▸ known

abbrev Sound : Crew KeyStore Place → Prop := Crew.Annotated Justified Clears

theorem Sound.step {before after : Crew KeyStore Place} {event : Nat × Action} (sound : Sound before)
    (unreplaced : Unreplaced before event) (stepped : step before event = some after) : Sound after := by
  obtain ⟨thread, taken⟩ := event
  obtain ⟨place, store, next, found, acted, rfl⟩ := Crew.act_eq_some stepped
  have justified := sound.shared
  have clears := sound.places thread place found
  have reached : Justified store ∧ Clears store thread next := by
    cases action_effect acted with
    | quiet keys refused removed narrows =>
      refine ⟨fun keeper key gone => ?_, clears.of_same keys (refused ▸ List.Subset.refl _) narrows⟩
      rw [refused]
      exact justified keeper key (removed ▸ gone)
    | refusal carried requesting handles =>
      refine ⟨fun keeper key gone => List.mem_append_left _ (justified keeper key gone), ?_⟩
      rcases handles with idle | ⟨present, unauthorized⟩
      · subst idle
        intro keeper key pending
        cases pending
      · subst unauthorized
        intro keeper key pending
        cases pending
        have asked : carried ∈ before.places[thread]?.bind Place.carried := by
          rw [found, requesting]
          rfl
        have holds := unreplaced rfl present carried asked keeper (by cases keeper <;> simp)
        exact ⟨List.mem_append_right _ (List.mem_singleton.mpr rfl), holds⟩
    | clearing keeper carried pending narrows =>
      exact ⟨justified.clear clears pending,
        (clears.clear keeper).of_same rfl (List.Subset.refl _) narrows⟩
    | putting keeper key puts nothing =>
      refine ⟨justified, fun other carried pending => ?_⟩
      rw [nothing other] at pending
      cases pending
  refine sound.set found reached.1 reached.2 fun other elsewhere different seen known => ?_
  cases action_effect acted with
  | quiet keys refused removed narrows =>
    exact known.of_same keys (refused ▸ List.Subset.refl _) fun _ _ pending => pending
  | refusal carried requesting handles =>
    exact known.of_same rfl (List.subset_append_left _ _) fun _ _ pending => pending
  | clearing keeper carried pending narrows => exact known.clear keeper
  | putting keeper key puts nothing =>
    have permitted := unreplaced (keeper, key) (by rw [found]; exact puts) elsewhere
      (List.mem_of_getElem? seen)
    exact known.put permitted

theorem sound_resting {crew : Crew KeyStore Place} (fresh : crew.shared.removed = [])
    (resting : ∀ place ∈ crew.places, place = .idle) : Sound crew where
  shared keeper key gone := by
    rw [fresh] at gone
    cases gone
  places thread place found keeper carried pending := by
    rw [resting place (List.mem_of_getElem? found)] at pending
    cases pending

/-- In a run in which no key is replaced between a refusal and its end, a key is taken away
only after a 401 to a request that carried it. -/
theorem removed_only_refused {start final : Crew KeyStore Place} (fresh : start.shared.removed = [])
    (resting : ∀ place ∈ start.places, place = .idle)
    (run : Events.Reaches step Unreplaced start final) : Justified final.shared :=
  (run.invariant (sound_resting fresh resting)
    fun _ _ _ _ unreplaced stepped sound => sound.step unreplaced stepped).shared

/-- Three threads of a registered unit: two workers of the client and the register worker. -/
def registeredUnit : Crew KeyStore Place :=
  ⟨⟨fun _ => "first", .registered, false, [], []⟩, [.idle, .idle, .idle]⟩

/-- A 401 to the first worker and its end, and a registration that attaches a second key. -/
def rotation : List (Nat × Action) :=
  (0, .answer 401) :: List.replicate 6 (0, .proceed true) ++
    (2, .register true false true) :: (2, .registerAnswer "second") :: List.replicate 4 (2, .proceed true)

theorem removed_only_refused_rotation : ∃ final,
    Events.play step Unreplaced registeredUnit ((0, .request) :: rotation) = some final ∧
      Justified final.shared := by
  have plays : (Events.play step Unreplaced registeredUnit ((0, .request) :: rotation)).isSome := by
    decide +kernel
  obtain ⟨final, played⟩ := Option.isSome_iff_exists.mp plays
  exact ⟨final, played, removed_only_refused rfl (by decide) (Events.reaches_play played)⟩

/-- The second worker's request is answered after the registration: the new key goes. -/
theorem removed_unrefused :
    ¬ ∀ start final : Crew KeyStore Place, start.shared.removed = [] →
      (∀ place ∈ start.places, place = .idle) →
      Events.Reaches step Events.anything start final → Justified final.shared := by
  intro justified
  have plays : (Events.play step Events.anything registeredUnit
      ((0, .request) :: (1, .request) :: rotation ++
        [(1, .answer 401), (1, .proceed true)])).any (fun final =>
          (Keeper.client, "second") ∈ final.shared.removed ∧ "second" ∉ final.shared.refused) = true := by
    decide +kernel
  obtain ⟨final, played, taken⟩ := (Option.any_eq_true _ _).mp plays
  obtain ⟨removed, unrefused⟩ := of_decide_eq_true taken
  exact unrefused (justified registeredUnit final rfl (by decide) (Events.reaches_play played) _ _ removed)

end Wqm1.Cloud.HttpKey
