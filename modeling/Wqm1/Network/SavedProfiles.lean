import Mathlib.Data.Fintype.EquivFin
import Wqm1.Network.TerseNames

/-! The saved profiles after a proven join: the temporary profile takes the name of the network,
older ones are parked and deleted, then the other networks are forgotten. nmcli goes by name,
and names may repeat. -/

set_option autoImplicit false

namespace Wqm1.Network

open Wqm1.Library

/-- The saved Wi-Fi profiles in the order of nmcli, and which of the next commands work; after
the last of `outcomes` all of them do. -/
structure Nmcli where
  profiles : List SavedWifi
  outcomes : List Bool := []
deriving DecidableEq

/-- The SSIDs of the profiles with a name, in order. -/
def under (profiles : List SavedWifi) (name : Text) : List Text :=
  (profiles.filter (·.name = name)).map SavedWifi.ssid

/-- `saved_wifi`: the SSID is the one that nmcli shows for the name. -/
def savedWifi (profiles : List SavedWifi) : List SavedWifi :=
  (profiles.filter (·.name ≠ apConnectionName)).map fun profile =>
    ⟨profile.name, ssidOr (under profiles profile.name).head? profile.name⟩

/-- This is what is read of nmcli's output where no name or SSID has anything that is escaped
or stripped. -/
theorem savedWifi_networkManager {nm : NetworkManager}
    (whole : ∀ profile ∈ nm.profiles, profile.type = wirelessType ∧ ListedWhole profile) :
    nm.savedWifi = savedWifi (nm.profiles.map fun profile => ⟨profile.name, profile.ssid⟩) := by
  have shown : ∀ name, (under (nm.profiles.map fun profile => ⟨profile.name, profile.ssid⟩) name).head? =
      (nm.find name).map Profile.ssid := by
    intro name
    unfold under NetworkManager.find
    rw [List.filter_map, List.map_map, List.head?_map, List.head?_filter]
    rfl
  rw [NetworkManager.savedWifi_of_whole whole]
  unfold savedWifi
  rw [List.filter_map, List.map_map]
  apply List.map_congr_left
  intro profile _
  rw [Function.comp_apply, shown]

/-- The first profile with the old name gets the new one. -/
def renameFirst (old new : Text) : List SavedWifi → List SavedWifi
  | [] => []
  | profile :: profiles =>
    if profile.name = old then { profile with name := new } :: profiles
    else profile :: renameFirst old new profiles

namespace Nmcli

/-- Whether the next command works. -/
def next (nmcli : Nmcli) : Bool × Nmcli := (nmcli.outcomes.headD true, { nmcli with outcomes := nmcli.outcomes.tail })

/-- `_rename_profile`. -/
def rename (nmcli : Nmcli) (old new : Text) : Bool × Nmcli :=
  let (works, nmcli) := nmcli.next
  if works && nmcli.profiles.any (·.name = old) then
    (true, { nmcli with profiles := renameFirst old new nmcli.profiles })
  else (false, nmcli)

/-- `nmcli connection delete NAME`. -/
def delete (nmcli : Nmcli) (name : Text) : Bool × Nmcli :=
  let (works, nmcli) := nmcli.next
  if works && nmcli.profiles.any (·.name = name) then
    (true, { nmcli with profiles := nmcli.profiles.filter (·.name ≠ name) })
  else (false, nmcli)

/-- The parked profiles get their names back. -/
def restore (nmcli : Nmcli) (parked : List (Text × Text)) : Nmcli :=
  parked.reverse.foldl (fun nmcli (original, moved) => (nmcli.rename moved original).2) nmcli

/-- Renames the older profiles out of the way to names from `asides`, or gives those renamed
their names back and fails. -/
def park (asides : Nat → Text) : List Text → List (Text × Text) → Nmcli → Except Nmcli (List (Text × Text) × Nmcli)
  | [], parked, nmcli => .ok (parked, nmcli)
  | name :: older, parked, nmcli =>
    match nmcli.rename name (asides parked.length) with
    | (true, nmcli) => park asides older (parked ++ [(name, asides parked.length)]) nmcli
    | (false, nmcli) => .error (nmcli.restore parked)

/-- The names of the older profiles for an SSID. -/
def older (profiles : List SavedWifi) (tryName ssid : Text) : List Text :=
  ((savedWifi profiles).filter fun profile => profile.ssid = ssid && profile.name ≠ tryName).map SavedWifi.name

def promoteTryProfile (nmcli : Nmcli) (asides : Nat → Text) (tryName ssid : Text) : Nmcli :=
  match park asides (older nmcli.profiles tryName ssid) [] nmcli with
  | .error nmcli => nmcli
  | .ok (parked, nmcli) =>
    match nmcli.rename tryName ssid with
    | (false, nmcli) => nmcli.restore parked
    | (true, nmcli) => parked.foldl (fun nmcli (_, moved) => (nmcli.delete moved).2) nmcli

/-- Deletes the profiles of a listing but those for `keep`; with the SSIDs of those deleted and
those that could not be. -/
def forgetListed (keep : Option Text) : List SavedWifi → Nmcli → (List Text × List Text) × Nmcli
  | [], nmcli => (([], []), nmcli)
  | profile :: listed, nmcli =>
    if keep.any fun keep => keep ≠ [] && profile.ssid = keep then forgetListed keep listed nmcli
    else
      let (ok, nmcli) := nmcli.delete profile.name
      let ((forgotten, failed), nmcli) := forgetListed keep listed nmcli
      if ok then ((profile.ssid :: forgotten, failed), nmcli) else ((forgotten, profile.ssid :: failed), nmcli)

def forgetSavedWifi (nmcli : Nmcli) (keep : Option Text) : (List Text × List Text) × Nmcli :=
  forgetListed keep (savedWifi nmcli.profiles) nmcli

/-- What a proven join does to the saved profiles. -/
def afterJoin (nmcli : Nmcli) (asides : Nat → Text) (tryName ssid : Text) : Nmcli :=
  ((nmcli.promoteTryProfile asides tryName ssid).forgetSavedWifi (some ssid)).2

end Nmcli

section Under

variable {profiles : List SavedWifi} {name old new : Text}

theorem under_cons (profile : SavedWifi) (profiles : List SavedWifi) (name : Text) :
    under (profile :: profiles) name =
      if profile.name = name then profile.ssid :: under profiles name else under profiles name := by
  unfold under
  rw [List.filter_cons]
  by_cases same : profile.name = name
  · simp [same]
  · simp [same]

theorem under_eq_nil_iff : under profiles name = [] ↔ profiles.any (·.name = name) = false := by
  simp [under, List.filter_eq_nil_iff]

theorem under_rename_other (notOld : name ≠ old) (notNew : name ≠ new) :
    under (renameFirst old new profiles) name = under profiles name := by
  induction profiles with
  | nil => rfl
  | cons profile profiles ih =>
    rw [renameFirst]
    split
    next same =>
      rw [under_cons, under_cons, if_neg (Ne.symm notNew), if_neg (same ▸ Ne.symm notOld)]
    next => rw [under_cons, under_cons, ih]

theorem under_rename_old (different : old ≠ new) :
    under (renameFirst old new profiles) old = (under profiles old).tail := by
  induction profiles with
  | nil => rfl
  | cons profile profiles ih =>
    rw [renameFirst]
    split
    next same =>
      rw [under_cons, under_cons, if_pos same, if_neg (Ne.symm different)]
      rfl
    next other => rw [under_cons, under_cons, if_neg other, if_neg other, ih]

/-- The profile that is renamed joins those with the new name. -/
theorem under_rename_new (different : old ≠ new) {ssid : Text} {others : List Text}
    (first : under profiles old = ssid :: others) :
    (under (renameFirst old new profiles) new).Perm (ssid :: under profiles new) := by
  induction profiles with
  | nil => cases first
  | cons profile profiles ih =>
    rw [under_cons] at first
    rw [renameFirst]
    split
    next same =>
      rw [if_pos same] at first
      rw [under_cons, under_cons, if_pos rfl, if_neg (same ▸ different), (List.cons.inj first).1]
    next other =>
      rw [if_neg other] at first
      rw [under_cons, under_cons]
      split
      next => exact ((ih first).cons _).trans (.swap _ _ _)
      next => exact ih first

theorem under_delete_self : under (profiles.filter (·.name ≠ name)) name = [] := by
  simp [under, List.filter_filter]

theorem under_delete_other {other : Text} (different : name ≠ other) :
    under (profiles.filter (·.name ≠ other)) name = under profiles name := by
  unfold under
  rw [List.filter_filter]
  congr 1
  apply List.filter_congr
  intro profile _
  by_cases same : profile.name = name
  · simp [same, different]
  · simp [same]

end Under

namespace Nmcli

/-- None of the commands fails. -/
def Working (nmcli : Nmcli) : Prop := ∀ works ∈ nmcli.outcomes, works = true

/-- What a rename can do. -/
structure Renamed (nmcli : Nmcli) (old new : Text) (result : Bool × Nmcli) : Prop where
  kept : result.1 = false → result.2.profiles = nmcli.profiles
  renamed : result.1 = true →
    result.2.profiles = renameFirst old new nmcli.profiles ∧ under nmcli.profiles old ≠ []
  works : nmcli.Working → result.2.Working ∧ (result.1 = true ∨ under nmcli.profiles old = [])

/-- What a delete can do. -/
structure Deleted (nmcli : Nmcli) (name : Text) (result : Bool × Nmcli) : Prop where
  outcome : result.2.profiles = nmcli.profiles ∨ result.2.profiles = nmcli.profiles.filter (·.name ≠ name)
  works : nmcli.Working → result.2.Working ∧ under result.2.profiles name = []

variable {nmcli after : Nmcli} {asides : Nat → Text} {names : List Text} {parked parked' : List (Text × Text)}
  {tryName ssid name : Text}

theorem working_next (working : nmcli.Working) : nmcli.next.1 = true ∧ nmcli.next.2.Working := by
  unfold next
  constructor
  · cases outcomes : nmcli.outcomes with
    | nil => rfl
    | cons works rest => exact working works (outcomes ▸ List.mem_cons_self)
  · exact fun works mem => working works (List.mem_of_mem_tail mem)

theorem rename_spec (nmcli : Nmcli) (old new : Text) : Renamed nmcli old new (nmcli.rename old new) := by
  unfold rename
  cases called : nmcli.next with
  | mk works waiting =>
    have same : waiting.profiles = nmcli.profiles := congrArg (fun result => result.2.profiles) called.symm
    dsimp only
    rw [same]
    split
    next done =>
      obtain ⟨_, found⟩ := (Bool.and_eq_true _ _).mp done
      refine ⟨(fun impossible => by cases impossible), fun _ => ⟨rfl, ?_⟩, fun working => ?_⟩
      · intro empty
        rw [under_eq_nil_iff.mp empty] at found
        cases found
      · have next := (working_next working).2
        rw [called] at next
        exact ⟨next, .inl rfl⟩
    next failed =>
      refine ⟨fun _ => same, (fun impossible => by cases impossible), fun working => ?_⟩
      have next := working_next working
      rw [called] at next
      refine ⟨next.2, .inr (under_eq_nil_iff.mpr ?_)⟩
      have works : works = true := next.1
      rw [works, Bool.true_and] at failed
      exact eq_false_of_ne_true failed

theorem delete_spec (nmcli : Nmcli) (name : Text) : Deleted nmcli name (nmcli.delete name) := by
  unfold delete
  cases called : nmcli.next with
  | mk works waiting =>
    have same : waiting.profiles = nmcli.profiles := congrArg (fun result => result.2.profiles) called.symm
    dsimp only
    rw [same]
    split
    next =>
      refine ⟨.inr rfl, fun working => ?_⟩
      have next := (working_next working).2
      rw [called] at next
      exact ⟨next, under_delete_self⟩
    next failed =>
      refine ⟨.inl same, fun working => ?_⟩
      have next := working_next working
      rw [called] at next
      have works : works = true := next.1
      rw [works, Bool.true_and] at failed
      refine ⟨next.2, ?_⟩
      dsimp only
      rw [same]
      exact under_eq_nil_iff.mpr (eq_false_of_ne_true failed)

theorem under_rename (notOld : name ≠ tryName) (notNew : name ≠ ssid) :
    under (nmcli.rename tryName ssid).2.profiles name = under nmcli.profiles name := by
  have spec := rename_spec nmcli tryName ssid
  cases done : (nmcli.rename tryName ssid).1 with
  | false => rw [spec.kept done]
  | true => rw [(spec.renamed done).1, under_rename_other notOld notNew]

theorem under_delete (nmcli : Nmcli) {deleted : Text} (different : name ≠ deleted) :
    under (nmcli.delete deleted).2.profiles name = under nmcli.profiles name := by
  rcases (delete_spec nmcli deleted).outcome with same | filtered
  · rw [same]
  · rw [filtered, under_delete_other different]

/-- Giving the parked profiles their names back touches no other name. -/
theorem under_restore (originals : ∀ pair ∈ parked, name ≠ pair.1) (asideNames : ∀ pair ∈ parked, name ≠ pair.2) :
    under (nmcli.restore parked).profiles name = under nmcli.profiles name := by
  have each : ∀ (pairs : List (Text × Text)) (nmcli : Nmcli), (∀ pair ∈ pairs, name ≠ pair.1 ∧ name ≠ pair.2) →
      under (pairs.foldl (fun nmcli (original, moved) => (nmcli.rename moved original).2) nmcli).profiles name =
        under nmcli.profiles name := by
    intro pairs
    induction pairs with
    | nil => exact fun _ _ => rfl
    | cons pair pairs ih =>
      intro nmcli others
      obtain ⟨⟨original, moved⟩, rest⟩ := List.forall_mem_cons.mp others
      rw [List.foldl_cons, ih _ rest]
      exact under_rename moved original
  exact each _ nmcli fun pair mem =>
    ⟨originals pair (List.mem_reverse.mp mem), asideNames pair (List.mem_reverse.mp mem)⟩

/-- The name is one of those drawn for parked profiles. -/
def Aside (asides : Nat → Text) (name : Text) : Prop := ∃ index, asides index = name

/-- What every rename of a parking that succeeds keeps holds at its end. -/
theorem park_invariant {holds : List Text → List (Text × Text) → Nmcli → Prop}
    (result : park asides names parked nmcli = .ok (parked', after)) (begins : holds names parked nmcli)
    (kept : ∀ {first names parked before renamed}, before.rename first (asides parked.length) = (true, renamed) →
      holds (first :: names) parked before → holds names (parked ++ [(first, asides parked.length)]) renamed) :
    holds [] parked' after := by
  induction names generalizing parked nmcli with
  | nil =>
    cases result
    exact begins
  | cons first names ih =>
    rw [park] at result
    cases done : nmcli.rename first (asides parked.length) with
    | mk works renamed =>
      rw [done] at result
      cases works with
      | false => cases result
      | true => exact ih result (kept done begins)

theorem profiles_of_rename {old new : Text} (done : nmcli.rename old new = (true, after)) :
    after.profiles = renameFirst old new nmcli.profiles := by
  have spec := rename_spec nmcli old new
  rw [done] at spec
  exact (spec.renamed rfl).1

/-- Parking takes the first profiles of each name away, as many as are listed. -/
theorem under_park
    (result : park asides names parked nmcli = .ok (parked', after)) (notAside : ¬ Aside asides name) :
    under after.profiles name = (under nmcli.profiles name).drop (names.count name) := by
  apply @park_invariant _ _ _ _ _ _ (fun names _ before =>
    (under before.profiles name).drop (names.count name) = (under nmcli.profiles name).drop _) result rfl
  intro first names parked before renamed done holds
  have notNew : name ≠ asides parked.length := fun same => notAside ⟨_, same.symm⟩
  rw [← holds, profiles_of_rename done]
  by_cases same : name = first
  · subst same
    rw [under_rename_old notNew, List.count_cons_self, List.drop_tail]
  · rw [under_rename_other same notNew, List.count_cons_of_ne (Ne.symm same)]

/-- Every profile under an aside name has been parked there. -/
theorem asides_park (fresh : ∀ name ∈ names, ¬ Aside asides name)
    (result : park asides names parked nmcli = .ok (parked', after)) (aside : Aside asides name)
    (before : name ∈ parked.map Prod.snd ∨ under nmcli.profiles name = []) :
    name ∈ parked'.map Prod.snd ∨ under after.profiles name = [] := by
  refine (@park_invariant _ _ _ _ _ _ (fun names parked before => (∀ name ∈ names, ¬ Aside asides name) ∧
    (name ∈ parked.map Prod.snd ∨ under before.profiles name = [])) result ⟨fresh, before⟩ ?_).2
  intro first names parked before renamed done holds
  obtain ⟨firstFresh, rest⟩ := List.forall_mem_cons.mp holds.1
  refine ⟨rest, ?_⟩
  rw [List.map_append, List.mem_append]
  by_cases drawn : name = asides parked.length
  · exact .inl (.inr (by simp [drawn]))
  · rcases holds.2 with listed | empty
    · exact .inl (.inl listed)
    · have notOld : name ≠ first := fun same => firstFresh (same ▸ aside)
      exact .inr (by rw [profiles_of_rename done, under_rename_other notOld drawn, empty])

/-- Each of the parked profiles had a listed name and has an aside name. -/
theorem pairs_of_park (result : park asides names [] nmcli = .ok (parked', after)) :
    ∀ pair ∈ parked', pair.1 ∈ names ∧ Aside asides pair.2 := by
  refine (@park_invariant _ _ _ _ _ _ (fun later parked _ => (∀ name ∈ later, name ∈ names) ∧
    ∀ pair ∈ parked, pair.1 ∈ names ∧ Aside asides pair.2) result ⟨fun _ mem => mem, List.forall_mem_nil _⟩ ?_).2
  intro first later parked before renamed done holds
  obtain ⟨listed, rest⟩ := List.forall_mem_cons.mp holds.1
  refine ⟨rest, fun pair mem => ?_⟩
  rcases List.mem_append.mp mem with mem | mem
  · exact holds.2 pair mem
  · rw [List.mem_singleton.mp mem]
    exact ⟨listed, _, rfl⟩

/-- A parking that fails leaves alone what it was not asked to park. -/
theorem under_park_error (result : park asides names parked nmcli = .error after) (notAside : ¬ Aside asides name)
    (notListed : name ∉ names) (originals : ∀ pair ∈ parked, name ≠ pair.1)
    (drawn : ∀ pair ∈ parked, Aside asides pair.2) :
    under after.profiles name = under nmcli.profiles name := by
  induction names generalizing parked nmcli with
  | nil => cases result
  | cons first names ih =>
    have notFirst : name ≠ first := fun same => notListed (same ▸ List.mem_cons_self)
    have notNew : name ≠ asides parked.length := fun same => notAside ⟨_, same.symm⟩
    have kept := @under_rename nmcli _ _ _ notFirst notNew
    rw [park] at result
    cases done : nmcli.rename first (asides parked.length) with
    | mk works renamed =>
      rw [done] at result kept
      cases works with
      | false =>
        cases result
        rw [under_restore originals fun pair mem same => notAside (same ▸ drawn pair mem)]
        exact kept
      | true =>
        rw [ih result (fun mem => notListed (List.mem_cons_of_mem _ mem))]
        · exact kept
        · intro pair mem
          rcases List.mem_append.mp mem with mem | mem
          · exact originals pair mem
          · rw [List.mem_singleton.mp mem]
            exact notFirst
        · intro pair mem
          rcases List.mem_append.mp mem with mem | mem
          · exact drawn pair mem
          · rw [List.mem_singleton.mp mem]
            exact ⟨_, rfl⟩

/-- Where no command fails and the profiles are there, parking succeeds. -/
theorem park_works (fresh : ∀ name ∈ names, ¬ Aside asides name) (working : nmcli.Working)
    (enough : ∀ name, ¬ Aside asides name → names.count name ≤ (under nmcli.profiles name).length) :
    ∃ parked' after, park asides names parked nmcli = .ok (parked', after) ∧ after.Working := by
  induction names generalizing parked nmcli with
  | nil => exact ⟨parked, nmcli, rfl, working⟩
  | cons first names ih =>
    obtain ⟨firstFresh, rest⟩ := List.forall_mem_cons.mp fresh
    have spec := rename_spec nmcli first (asides parked.length)
    obtain ⟨still, found⟩ := spec.works working
    have present : under nmcli.profiles first ≠ [] := by
      intro empty
      have count := enough first firstFresh
      rw [empty, List.count_cons_self] at count
      exact Nat.not_succ_le_zero _ count
    rw [park]
    cases done : nmcli.rename first (asides parked.length) with
    | mk works renamed =>
      rw [done] at spec still found
      rcases found with ok | empty
      · have ok : works = true := ok
        subst ok
        apply ih rest still
        intro name notAside
        have notNew : name ≠ asides parked.length := fun same => notAside ⟨_, same.symm⟩
        have count := enough name notAside
        rw [(spec.renamed rfl).1]
        by_cases same : name = first
        · subst same
          rw [List.count_cons_self] at count
          rw [under_rename_old notNew, List.length_tail]
          omega
        · rw [List.count_cons_of_ne (Ne.symm same)] at count
          rw [under_rename_other same notNew]
          exact count
      · exact absurd empty present

theorem under_sweep (kept : name ∉ parked.map Prod.snd) (nmcli : Nmcli) :
    under (parked.foldl (fun nmcli (_, moved) => (nmcli.delete moved).2) nmcli).profiles name =
      under nmcli.profiles name := by
  induction parked generalizing nmcli with
  | nil => rfl
  | cons pair parked ih =>
    rw [List.map_cons] at kept
    rw [List.foldl_cons, ih (fun mem => kept (List.mem_cons_of_mem _ mem))]
    exact under_delete nmcli fun same => kept (same ▸ List.mem_cons_self)

theorem under_delete_nil (nmcli : Nmcli) (deleted : Text) (empty : under nmcli.profiles name = []) :
    under (nmcli.delete deleted).2.profiles name = [] := by
  rcases (delete_spec nmcli deleted).outcome with same | filtered
  · rw [same, empty]
  · by_cases here : name = deleted
    · rw [filtered, here, under_delete_self]
    · rw [filtered, under_delete_other here, empty]

theorem working_sweep (working : nmcli.Working) (parked : List (Text × Text)) :
    (parked.foldl (fun nmcli (_, moved) => (nmcli.delete moved).2) nmcli).Working := by
  induction parked generalizing nmcli with
  | nil => exact working
  | cons pair parked ih => exact ih ((delete_spec nmcli pair.2).works working).1

/-- Where no command fails, the parked profiles go. -/
theorem sweep_works (working : nmcli.Working)
    (parkedOrGone : name ∈ parked.map Prod.snd ∨ under nmcli.profiles name = []) :
    under (parked.foldl (fun nmcli (_, moved) => (nmcli.delete moved).2) nmcli).profiles name = [] := by
  induction parked generalizing nmcli with
  | nil => exact parkedOrGone.resolve_left List.not_mem_nil
  | cons pair parked ih =>
    obtain ⟨still, gone⟩ := (delete_spec nmcli pair.2).works working
    rw [List.foldl_cons]
    apply ih still
    rcases parkedOrGone with mem | empty
    · rcases List.mem_cons.mp mem with rfl | mem
      · exact .inr gone
      · exact .inl mem
    · exact .inr (under_delete_nil nmcli pair.2 empty)

variable {keep : Option Text} {listed : List SavedWifi}

/-- A name that is listed only for the network to keep is not touched. -/
theorem under_forgetListed (kept : ∀ profile ∈ listed, profile.name = name → profile.ssid = ssid) (named : ssid ≠ [])
    (nmcli : Nmcli) :
    under (forgetListed (some ssid) listed nmcli).2.profiles name = under nmcli.profiles name := by
  induction listed generalizing nmcli with
  | nil => rfl
  | cons profile listed ih =>
    obtain ⟨first, rest⟩ := List.forall_mem_cons.mp kept
    rw [forgetListed]
    split
    next => exact ih rest nmcli
    next other =>
      have different : name ≠ profile.name := by
        intro same
        apply other
        simp [named, first same.symm]
      have deleted := under_delete nmcli different
      have later := ih rest (nmcli.delete profile.name).2
      rw [deleted] at later
      dsimp only
      split <;> exact later

/-- A listing takes all profiles of a name or none. -/
theorem under_forgetListed_cases (keep : Option Text) (listed : List SavedWifi) (nmcli : Nmcli) (name : Text) :
    under (forgetListed keep listed nmcli).2.profiles name = under nmcli.profiles name ∨
      under (forgetListed keep listed nmcli).2.profiles name = [] := by
  induction listed generalizing nmcli with
  | nil => exact .inl rfl
  | cons profile listed ih =>
    rw [forgetListed]
    split
    next => exact ih nmcli
    next =>
      have later := ih (nmcli.delete profile.name).2
      have result : under (forgetListed keep listed (nmcli.delete profile.name).2).2.profiles name =
          under nmcli.profiles name ∨
          under (forgetListed keep listed (nmcli.delete profile.name).2).2.profiles name = [] := by
        rcases later with same | empty
        · rw [same]
          rcases (delete_spec nmcli profile.name).outcome with kept | filtered
          · exact .inl (by rw [kept])
          · by_cases here : name = profile.name
            · exact .inr (by rw [filtered, here, under_delete_self])
            · exact .inl (by rw [filtered, under_delete_other here])
        · exact .inr empty
      dsimp only
      split <;> exact result

/-- Where no command fails, a name that is listed for another network goes. -/
theorem forgetListed_works (working : nmcli.Working) (named : ssid ≠ [])
    (other : (∃ profile ∈ listed, profile.name = name ∧ profile.ssid ≠ ssid) ∨ under nmcli.profiles name = []) :
    under (forgetListed (some ssid) listed nmcli).2.profiles name = [] := by
  induction listed generalizing nmcli with
  | nil =>
    rcases other with ⟨profile, mem, _⟩ | empty
    · cases mem
    · exact empty
  | cons profile listed ih =>
    rw [forgetListed]
    split
    next kept =>
      apply ih working
      rcases other with ⟨found, mem, same, different⟩ | empty
      · rcases List.mem_cons.mp mem with rfl | mem
        · simp [named, different] at kept
        · exact .inl ⟨found, mem, same, different⟩
      · exact .inr empty
    next =>
      obtain ⟨still, gone⟩ := (delete_spec nmcli profile.name).works working
      have later : under (forgetListed (some ssid) listed (nmcli.delete profile.name).2).2.profiles name = [] := by
        apply ih still
        rcases other with ⟨found, mem, same, different⟩ | empty
        · rcases List.mem_cons.mp mem with rfl | mem
          · exact .inr (same ▸ gone)
          · exact .inl ⟨found, mem, same, different⟩
        · exact .inr (under_delete_nil nmcli profile.name empty)
      dsimp only
      split <;> exact later

end Nmcli

/-- The profiles at a proven join: the temporary one is the only one of its name, and none is
that of the setup AP. -/
structure Proven (profiles : List SavedWifi) (tryName ssid : Text) : Prop where
  joined : under profiles tryName = [ssid]
  named : ssid ≠ []
  ssids : ∀ profile ∈ profiles, profile.ssid ≠ []
  saved : ∀ profile ∈ profiles, profile.name ≠ apConnectionName

theorem head?_ssidOr {profiles : List SavedWifi} (ssids : ∀ profile ∈ profiles, profile.ssid ≠ []) {name first : Text}
    (shown : (under profiles name).head? = some first) : ssidOr (under profiles name).head? name = first := by
  have nonempty : first ≠ [] := by
    obtain ⟨profile, mem, rfl⟩ := List.mem_map.mp (List.mem_of_head? shown)
    exact ssids profile (List.mem_of_mem_filter mem)
  rw [shown]
  cases first with
  | nil => exact absurd rfl nonempty
  | cons c first => rfl

/-- The names of the older profiles are those for which nmcli shows the network. -/
theorem older_eq {profiles : List SavedWifi} {tryName ssid : Text} (proven : Proven profiles tryName ssid) :
    Nmcli.older profiles tryName ssid = (profiles.filter fun profile =>
      (under profiles profile.name).head? = some ssid && profile.name ≠ tryName).map SavedWifi.name := by
  have all : profiles.filter (·.name ≠ apConnectionName) = profiles :=
    List.filter_eq_self.mpr fun profile mem => decide_eq_true (proven.saved profile mem)
  unfold Nmcli.older savedWifi
  rw [all, List.filter_map, List.map_map]
  congr 1
  apply List.filter_congr
  intro profile mem
  obtain ⟨first, shown⟩ : ∃ first, (under profiles profile.name).head? = some first := by
    have present : under profiles profile.name ≠ [] := fun empty => by
      have absent := List.any_eq_false.mp (under_eq_nil_iff.mp empty) profile mem
      exact absent (decide_eq_true rfl)
    exact ⟨_, List.head?_eq_some_head present⟩
  have ssid := head?_ssidOr proven.ssids shown
  rw [shown] at ssid
  simp [shown, ssid]

/-- A name is among the older ones once for each of its profiles, if nmcli shows the network
for it, and else not at all. -/
theorem count_older {profiles : List SavedWifi} {tryName ssid : Text} (proven : Proven profiles tryName ssid)
    (name : Text) : (Nmcli.older profiles tryName ssid).count name =
      if (under profiles name).head? = some ssid ∧ name ≠ tryName then (under profiles name).length else 0 := by
  have counted : (Nmcli.older profiles tryName ssid).count name = ((profiles.filter (·.name = name)).filter
      fun _ => (under profiles name).head? = some ssid && name ≠ tryName).length := by
    rw [older_eq proven, List.count, List.countP_map, List.countP_filter, List.countP_eq_length_filter,
      List.filter_filter]
    congr 1
    apply List.filter_congr
    intro profile _
    by_cases same : profile.name = name
    · simp [same]
    · simp [same]
  rw [counted]
  split
  next shown =>
    have kept : (profiles.filter (·.name = name)).filter
        (fun _ => (under profiles name).head? = some ssid && name ≠ tryName) = profiles.filter (·.name = name) :=
      List.filter_eq_self.mpr fun _ _ =>
        (Bool.and_eq_true _ _).mpr ⟨decide_eq_true shown.1, decide_eq_true shown.2⟩
    rw [kept, under, List.length_map]
  next other =>
    rw [List.length_eq_zero_iff, List.filter_eq_nil_iff]
    intro profile _ kept
    exact other (by simpa using kept)

/-- The names drawn for parked profiles are new. -/
structure Fresh (profiles : List SavedWifi) (tryName ssid : Text) (asides : Nat → Text) : Prop where
  unused : ∀ index, under profiles (asides index) = []
  notTry : ∀ index, asides index ≠ tryName
  notSsid : ∀ index, asides index ≠ ssid

theorem renameFirst_self (name : Text) (profiles : List SavedWifi) : renameFirst name name profiles = profiles := by
  induction profiles with
  | nil => rfl
  | cons profile profiles ih =>
    rw [renameFirst, ih]
    split
    next same => rw [← same]
    next => rfl

section Promotion

variable {profiles : List SavedWifi} {tryName ssid : Text} {asides : Nat → Text}

/-- What is left under a name once the older profiles are parked. -/
def unparked (profiles : List SavedWifi) (tryName ssid name : Text) : List Text :=
  (under profiles name).drop ((Nmcli.older profiles tryName ssid).count name)

theorem unparked_try (proven : Proven profiles tryName ssid) : unparked profiles tryName ssid tryName = [ssid] := by
  rw [unparked, count_older proven, if_neg (fun both => both.2 rfl), proven.joined]
  rfl

theorem unparked_eq_nil (proven : Proven profiles tryName ssid) {name : Text} (notTry : name ≠ tryName)
    (first : ∀ first ∈ (under profiles name).head?, first = ssid) : unparked profiles tryName ssid name = [] := by
  rw [unparked, count_older proven]
  cases shown : under profiles name with
  | nil => exact List.drop_nil
  | cons head others =>
    have same : head = ssid := first head (by rw [shown]; rfl)
    rw [if_pos ⟨by rw [same]; rfl, notTry⟩, List.drop_length]

theorem unparked_other (proven : Proven profiles tryName ssid) {name : Text}
    (other : (under profiles name).head? ≠ some ssid) :
    unparked profiles tryName ssid name = under profiles name := by
  rw [unparked, count_older proven, if_neg (fun both => other both.1)]
  exact List.drop_zero

theorem not_aside_of_older (proven : Proven profiles tryName ssid) (fresh : Fresh profiles tryName ssid asides) :
    ∀ name ∈ Nmcli.older profiles tryName ssid, ¬ Nmcli.Aside asides name := by
  rintro name mem ⟨index, rfl⟩
  have positive := List.count_pos_iff.mpr mem
  rw [count_older proven, fresh.unused] at positive
  simp at positive

theorem try_not_older (proven : Proven profiles tryName ssid) : tryName ∉ Nmcli.older profiles tryName ssid := by
  rw [← List.count_eq_zero, count_older proven, if_neg (fun both => both.2 rfl)]

variable {outcomes : List Bool} {parked : List (Text × Text)} {nmcli after : Nmcli}

theorem not_mem_parked
    (result : Nmcli.park asides (Nmcli.older profiles tryName ssid) [] ⟨profiles, outcomes⟩ = .ok (parked, nmcli))
    {name : Text} (notAside : ¬ Nmcli.Aside asides name) : name ∉ parked.map Prod.snd := by
  intro mem
  obtain ⟨pair, inside, rfl⟩ := List.mem_map.mp mem
  exact notAside (Nmcli.pairs_of_park result pair inside).2

/-- The network has its name and the temporary profile its own no more, once it is renamed. -/
theorem under_ssid_promoted (proven : Proven profiles tryName ssid) (fresh : Fresh profiles tryName ssid asides)
    (different : tryName ≠ ssid)
    (result : Nmcli.park asides (Nmcli.older profiles tryName ssid) [] ⟨profiles, outcomes⟩ = .ok (parked, nmcli))
    (renamed : nmcli.rename tryName ssid = (true, after)) :
    (under after.profiles ssid).Perm (ssid :: unparked profiles tryName ssid ssid) := by
  have notAside : ¬ Nmcli.Aside asides ssid := fun ⟨index, same⟩ => fresh.notSsid index same
  have tryAside : ¬ Nmcli.Aside asides tryName := fun ⟨index, same⟩ => fresh.notTry index same
  have first : under nmcli.profiles tryName = [ssid] := (Nmcli.under_park result tryAside).trans (unparked_try proven)
  rw [Nmcli.profiles_of_rename renamed]
  have joined := under_rename_new different first
  rw [Nmcli.under_park result notAside] at joined
  exact joined

/-- However the commands fare, the network is left under the temporary name or its own. -/
theorem promote_keeps (proven : Proven profiles tryName ssid) (fresh : Fresh profiles tryName ssid asides)
    (first : ∀ first ∈ (under profiles ssid).head?, first = ssid) (outcomes : List Bool) :
    let after := (Nmcli.mk profiles outcomes).promoteTryProfile asides tryName ssid
    under after.profiles tryName = [ssid] ∨ under after.profiles ssid = [ssid] := by
  have tryAside : ¬ Nmcli.Aside asides tryName := fun ⟨index, same⟩ => fresh.notTry index same
  have ssidAside : ¬ Nmcli.Aside asides ssid := fun ⟨index, same⟩ => fresh.notSsid index same
  unfold Nmcli.promoteTryProfile
  dsimp only
  cases result : Nmcli.park asides (Nmcli.older profiles tryName ssid) [] ⟨profiles, outcomes⟩ with
  | error after =>
    left
    exact (Nmcli.under_park_error result tryAside (try_not_older proven) (List.forall_mem_nil _)
      (List.forall_mem_nil _)).trans proven.joined
  | ok pair =>
    obtain ⟨parked, nmcli⟩ := pair
    have joined : under nmcli.profiles tryName = [ssid] :=
      (Nmcli.under_park result tryAside).trans (unparked_try proven)
    have pairs := Nmcli.pairs_of_park result
    dsimp only
    cases renamed : nmcli.rename tryName ssid with
    | mk works after =>
      cases works with
      | false =>
        left
        have kept : after.profiles = nmcli.profiles := by
          have spec := (Nmcli.rename_spec nmcli tryName ssid).kept
          rw [renamed] at spec
          exact spec rfl
        dsimp only
        rw [Nmcli.under_restore, kept, joined]
        · intro pair mem same
          exact try_not_older proven (same ▸ (pairs pair mem).1)
        · intro pair mem same
          exact tryAside (same ▸ (pairs pair mem).2)
      | true =>
        right
        dsimp only
        rw [Nmcli.under_sweep (not_mem_parked result ssidAside)]
        by_cases same : tryName = ssid
        · subst same
          rw [Nmcli.profiles_of_rename renamed, renameFirst_self, joined]
        · have promoted := under_ssid_promoted proven fresh same result renamed
          rw [unparked_eq_nil proven (Ne.symm same) first] at promoted
          exact List.perm_singleton.mp promoted

/-- Where no command fails, the temporary profile is renamed and the parked ones go. -/
theorem promote_works (proven : Proven profiles tryName ssid) (fresh : Fresh profiles tryName ssid asides)
    (working : ∀ works ∈ outcomes, works = true) :
    let after := (Nmcli.mk profiles outcomes).promoteTryProfile asides tryName ssid
    after.Working ∧
      (∀ name, name ≠ ssid → under after.profiles name = [] ∨
        (under after.profiles name = under profiles name ∧ (under profiles name).head? ≠ some ssid)) ∧
      (tryName ≠ ssid → (under after.profiles ssid).Perm (ssid :: unparked profiles tryName ssid ssid)) := by
  have tryAside : ¬ Nmcli.Aside asides tryName := fun ⟨index, same⟩ => fresh.notTry index same
  have ssidAside : ¬ Nmcli.Aside asides ssid := fun ⟨index, same⟩ => fresh.notSsid index same
  have olderFresh := not_aside_of_older proven fresh
  obtain ⟨parked, nmcli, result, still⟩ := @Nmcli.park_works ⟨profiles, outcomes⟩ asides _ [] olderFresh working
    (by
      intro name _
      rw [count_older proven]
      split
      next => exact Nat.le_refl _
      next => exact Nat.zero_le _)
  have joined : under nmcli.profiles tryName = [ssid] :=
    (Nmcli.under_park result tryAside).trans (unparked_try proven)
  have spec := Nmcli.rename_spec nmcli tryName ssid
  unfold Nmcli.promoteTryProfile
  dsimp only
  rw [result]
  dsimp only
  cases renamed : nmcli.rename tryName ssid with
  | mk works after =>
    obtain ⟨afterWorking, found⟩ := spec.works still
    rw [renamed] at afterWorking found
    have ok : works = true := found.resolve_right (by rw [joined]; exact List.cons_ne_nil _ _)
    subst ok
    have profilesAfter := Nmcli.profiles_of_rename renamed
    refine ⟨?_, ?_, ?_⟩
    · exact Nmcli.working_sweep afterWorking parked
    · intro name notSsid
      by_cases aside : Nmcli.Aside asides name
      · left
        obtain ⟨index, rfl⟩ := aside
        have gone := Nmcli.asides_park olderFresh result ⟨index, rfl⟩ (.inr (fresh.unused index))
        rw [← under_rename_other (fresh.notTry index) (fresh.notSsid index), ← profilesAfter] at gone
        exact Nmcli.sweep_works afterWorking gone
      · rw [Nmcli.under_sweep (not_mem_parked result aside), profilesAfter]
        by_cases isTry : name = tryName
        · subst isTry
          left
          rw [under_rename_old notSsid, joined]
          rfl
        · rw [under_rename_other isTry notSsid, Nmcli.under_park result aside]
          by_cases shown : (under profiles name).head? = some ssid
          · left
            apply unparked_eq_nil proven isTry
            intro first isFirst
            rw [shown] at isFirst
            exact (Option.some.inj isFirst).symm
          · exact .inr ⟨unparked_other proven shown, shown⟩
    · intro different
      rw [Nmcli.under_sweep (not_mem_parked result ssidAside)]
      exact under_ssid_promoted proven fresh different result renamed

/-- A proven join leaves the network saved whichever commands fail, and if none does, the
network is the only one and has its own name. -/
structure NeverLost (profiles : List SavedWifi) (tryName ssid : Text) (asides : Nat → Text) : Prop where
  saved : ∀ outcomes, ∃ profile ∈ ((Nmcli.mk profiles outcomes).afterJoin asides tryName ssid).profiles,
    profile.ssid = ssid
  alone : ∀ outcomes, (∀ works ∈ outcomes, works = true) →
    ((Nmcli.mk profiles outcomes).afterJoin asides tryName ssid).profiles = [⟨ssid, ssid⟩]

theorem shown_savedWifi {profiles : List SavedWifi} {name : Text} {others : List Text} (named : ssid ≠ [])
    (shown : under profiles name = ssid :: others) :
    ∀ profile ∈ savedWifi profiles, profile.name = name → profile.ssid = ssid := by
  intro profile mem same
  obtain ⟨source, _, rfl⟩ := List.mem_map.mp mem
  have same : source.name = name := same
  show ssidOr (under profiles source.name).head? source.name = ssid
  rw [same, shown]
  cases ssid with
  | nil => exact absurd rfl named
  | cons c rest => rfl

theorem listed_of_under {profiles : List SavedWifi} {name shown : Text} (notSetup : name ≠ apConnectionName)
    (present : under profiles name ≠ []) (answer : ssidOr (under profiles name).head? name = shown) :
    ⟨name, shown⟩ ∈ savedWifi profiles := by
  have some : profiles.any (·.name = name) = true := by
    apply Bool.of_not_eq_false
    exact fun absent => present (under_eq_nil_iff.mpr absent)
  obtain ⟨source, mem, same⟩ := List.any_eq_true.mp some
  have same : source.name = name := of_decide_eq_true same
  apply List.mem_map.mpr
  refine ⟨source, List.mem_filter.mpr ⟨mem, decide_eq_true (same ▸ notSetup)⟩, ?_⟩
  rw [same, answer]

theorem saved_of_under {profiles : List SavedWifi} {name : Text} (single : under profiles name = [ssid]) :
    ∃ profile ∈ profiles, profile.ssid = ssid := by
  have mem : ssid ∈ under profiles name := single ▸ List.mem_cons_self
  obtain ⟨profile, mem, same⟩ := List.mem_map.mp mem
  exact ⟨profile, List.mem_of_mem_filter mem, same⟩

theorem saved_afterJoin (proven : Proven profiles tryName ssid) (fresh : Fresh profiles tryName ssid asides)
    (first : ∀ first ∈ (under profiles ssid).head?, first = ssid) (outcomes : List Bool) :
    ∃ profile ∈ ((Nmcli.mk profiles outcomes).afterJoin asides tryName ssid).profiles, profile.ssid = ssid := by
  rcases promote_keeps proven fresh first outcomes with kept | kept
  · exact saved_of_under ((Nmcli.under_forgetListed (shown_savedWifi proven.named kept) proven.named _).trans kept)
  · exact saved_of_under ((Nmcli.under_forgetListed (shown_savedWifi proven.named kept) proven.named _).trans kept)

/-- Profiles whose names and SSIDs are one and the same. -/
theorem eq_singleton_of_under {profiles : List SavedWifi} {name : Text} (single : under profiles name = [ssid])
    (others : ∀ other, other ≠ name → under profiles other = []) : profiles = [⟨name, ssid⟩] := by
  have all : profiles.filter (·.name = name) = profiles := by
    rw [List.filter_eq_self]
    intro profile mem
    by_contra different
    have different : profile.name ≠ name := fun same => different (decide_eq_true same)
    have absent := List.any_eq_false.mp (under_eq_nil_iff.mp (others _ different)) profile mem
    exact absent (decide_eq_true rfl)
  have ssids : profiles.map SavedWifi.ssid = [ssid] := by
    rw [← single, under, all]
  obtain ⟨profile, rfl, same⟩ := List.map_eq_singleton_iff.mp ssids
  have named : profile.name = name := by
    have kept := List.filter_eq_self.mp all profile List.mem_cons_self
    exact of_decide_eq_true kept
  rw [← named, ← same]

theorem alone_afterJoin (proven : Proven profiles tryName ssid) (fresh : Fresh profiles tryName ssid asides)
    (first : ∀ first ∈ (under profiles ssid).head?, first = ssid) (working : ∀ works ∈ outcomes, works = true) :
    ((Nmcli.mk profiles outcomes).afterJoin asides tryName ssid).profiles = [⟨ssid, ssid⟩] := by
  obtain ⟨still, others, joined⟩ := promote_works proven fresh working
  have single : under ((Nmcli.mk profiles outcomes).promoteTryProfile asides tryName ssid).profiles ssid = [ssid] := by
    by_cases same : tryName = ssid
    · rcases promote_keeps proven fresh first outcomes with kept | kept
      · exact same ▸ kept
      · exact kept
    · have promoted := joined same
      rw [unparked_eq_nil proven (Ne.symm same) first] at promoted
      exact List.perm_singleton.mp promoted
  apply eq_singleton_of_under
  · exact (Nmcli.under_forgetListed (shown_savedWifi proven.named single) proven.named _).trans single
  · intro other different
    apply Nmcli.forgetListed_works still proven.named
    rcases others other different with gone | ⟨same, notShown⟩
    · exact .inr gone
    · cases shown : under profiles other with
      | nil => exact .inr (same.trans shown)
      | cons head rest =>
        left
        obtain ⟨source, mem, isHead⟩ := List.mem_map.mp (shown ▸ List.mem_cons_self : head ∈ under profiles other)
        obtain ⟨mem, sourceName⟩ := List.mem_filter.mp mem
        have sourceName : source.name = other := of_decide_eq_true sourceName
        have notSetup : other ≠ apConnectionName := sourceName ▸ proven.saved source mem
        have answer : ssidOr (under profiles other).head? other = head :=
          head?_ssidOr proven.ssids (by rw [shown]; rfl)
        refine ⟨⟨other, head⟩, listed_of_under notSetup (by rw [same, shown]; exact List.cons_ne_nil _ _)
          (by rw [same]; exact answer), rfl, fun isSsid => notShown ?_⟩
        rw [shown]
        exact congrArg some isSsid

/-- A network whose name the first profile of that name has taken is not left alone. -/
theorem not_alone_afterJoin (proven : Proven profiles tryName ssid) (fresh : Fresh profiles tryName ssid asides)
    {first : Text} (shown : (under profiles ssid).head? = some first) (different : first ≠ ssid) :
    ((Nmcli.mk profiles []).afterJoin asides tryName ssid).profiles ≠ [⟨ssid, ssid⟩] := by
  intro alone
  have notTry : tryName ≠ ssid := by
    rintro rfl
    rw [proven.joined] at shown
    exact different (Option.some.inj shown).symm
  obtain ⟨_, _, joined⟩ := @promote_works _ _ _ _ [] proven fresh (List.forall_mem_nil _)
  have promoted := joined notTry
  have other : (under profiles ssid).head? ≠ some ssid := by
    rw [shown]
    exact fun same => different (Option.some.inj same)
  rw [unparked_other proven other] at promoted
  have single : under ((Nmcli.mk profiles []).afterJoin asides tryName ssid).profiles ssid = [ssid] := by
    rw [alone]
    simp [under]
  rcases Nmcli.under_forgetListed_cases (some ssid) (savedWifi _)
    ((Nmcli.mk profiles []).promoteTryProfile asides tryName ssid) ssid with same | empty
  · have lengths := (same.symm.trans single) ▸ promoted.length_eq
    cases taken : under profiles ssid with
    | nil =>
      rw [taken] at shown
      cases shown
    | cons head rest =>
      rw [taken] at lengths
      simp at lengths
  · cases empty.symm.trans single

theorem exists_fresh (profiles : List SavedWifi) (tryName ssid : Text) :
    ∃ asides, Fresh profiles tryName ssid asides := by
  obtain ⟨aside, new⟩ := Infinite.exists_notMem_finset (tryName :: ssid :: profiles.map SavedWifi.name).toFinset
  rw [List.mem_toFinset, List.mem_cons, List.mem_cons, not_or, not_or] at new
  refine ⟨fun _ => aside, fun _ => under_eq_nil_iff.mpr ?_, fun _ => new.1, fun _ => new.2.1⟩
  rw [List.any_eq_false]
  intro profile mem same
  exact new.2.2 (List.mem_map.mpr ⟨profile, mem, of_decide_eq_true same⟩)

/-- A proven network is never lost and is left alone exactly if the first profile under its
name, if there is one, is a profile for it. -/
theorem never_lost_iff (proven : Proven profiles tryName ssid) :
    (∀ asides, Fresh profiles tryName ssid asides → NeverLost profiles tryName ssid asides) ↔
      ∀ first ∈ (under profiles ssid).head?, first = ssid := by
  constructor
  · intro neverLost first shown
    by_contra different
    obtain ⟨asides, fresh⟩ := exists_fresh profiles tryName ssid
    exact not_alone_afterJoin proven fresh shown different ((neverLost asides fresh).alone [] (List.forall_mem_nil _))
  · intro first asides fresh
    exact ⟨saved_afterJoin proven fresh first, fun _ working => alone_afterJoin proven fresh first working⟩

end Promotion

/-- Two older profiles for a network, one of them under another name. -/
def depots : List SavedWifi :=
  [⟨"Depot".toList, "Depot".toList⟩, ⟨"site".toList, "Depot".toList⟩, ⟨"Barn".toList, "Barn".toList⟩,
    ⟨"bs-try-0a1b2c3d".toList, "Depot".toList⟩]

theorem depots_proven : Proven depots "bs-try-0a1b2c3d".toList "Depot".toList := by
  refine ⟨?_, ?_, ?_, ?_⟩ <;> decide

theorem never_lost_depots :
    NeverLost depots "bs-try-0a1b2c3d".toList "Depot".toList (fun _ => "bs-old-4e5f60".toList) := by
  have fresh : Fresh depots "bs-try-0a1b2c3d".toList "Depot".toList (fun _ => "bs-old-4e5f60".toList) := by
    refine ⟨fun _ => ?_, fun _ => ?_, fun _ => ?_⟩ <;> decide
  exact (never_lost_iff depots_proven).mpr (by decide) _ fresh

/-- A profile for another network has the name of the proven one: the proven one is lost. -/
def taken : List SavedWifi :=
  [⟨"Depot".toList, "Barn".toList⟩, ⟨"bs-try-0a1b2c3d".toList, "Depot".toList⟩]

theorem taken_name_loses : Proven taken "bs-try-0a1b2c3d".toList "Depot".toList ∧
    Fresh taken "bs-try-0a1b2c3d".toList "Depot".toList (fun _ => "bs-old-4e5f60".toList) ∧
    ((Nmcli.mk taken []).afterJoin (fun _ => "bs-old-4e5f60".toList) "bs-try-0a1b2c3d".toList
      "Depot".toList).profiles = [] ∧
    ¬ NeverLost taken "bs-try-0a1b2c3d".toList "Depot".toList (fun _ => "bs-old-4e5f60".toList) := by
  have lost : ((Nmcli.mk taken []).afterJoin (fun _ => "bs-old-4e5f60".toList) "bs-try-0a1b2c3d".toList
      "Depot".toList).profiles = [] := by decide +kernel
  refine ⟨⟨?_, ?_, ?_, ?_⟩, ⟨fun _ => ?_, fun _ => ?_, fun _ => ?_⟩, lost, fun neverLost => ?_⟩
  · decide
  · decide
  · decide
  · decide
  · decide
  · decide
  · decide
  · obtain ⟨profile, mem, _⟩ := neverLost.saved []
    rw [lost] at mem
    cases mem

end Wqm1.Network
