import Wqm1.Platform.HostPins

/-! When the nets of the HAT keep to lines of their own: the ways in which two pins of the header
come to share one, and that there are no others. -/

set_option autoImplicit false

namespace Wqm1.Platform

open Wqm1.Library

/-- The ways in which two names are resolved to one line. -/
inductive Clash (lgpio : Option KernelChips) (sysfs : List (Int × Int)) (first second : Text) : Prop where
  | sameLine (named : lgpioLineByName first lgpio ≠ none) (same : first = second)
  | sameNumber {number : Nat} (unnamed : lgpioLineByName first lgpio = none)
      (otherUnnamed : lgpioLineByName second lgpio = none) (numbered : socGlobalNumber first = some number)
      (otherNumbered : socGlobalNumber second = some number)
  /-- The kernel names a line after the first, and the number of the second falls on it. -/
  | namedLine {place : Place} {number : Nat} (named : lgpioLineByName first lgpio = some place)
      (unnamed : lgpioLineByName second lgpio = none) (numbered : socGlobalNumber second = some number)
      (falls : (sysfsLine number 0 (sysfsChipBases sysfs)).getD (sunxiLine number) = place)
  /-- A chip covers the number of the first, and none that of the second, which the convention
  alone puts on the same line. -/
  | guessedLine {number guessed : Nat} (unnamed : lgpioLineByName first lgpio = none)
      (otherUnnamed : lgpioLineByName second lgpio = none) (numbered : socGlobalNumber first = some number)
      (otherNumbered : socGlobalNumber second = some guessed)
      (uncovered : sysfsLine guessed 0 (sysfsChipBases sysfs) = none)
      (covered : sysfsLine number 0 (sysfsChipBases sysfs) = some (sunxiLine guessed))

variable {lgpio : Option KernelChips} {sysfs : List (Int × Int)} {first second : Text}

/-! Each of the three methods alone keeps pins apart. -/

theorem le_of_findLine {wanted : Text} {names : LineNames} {start line : Nat}
    (found : findLine wanted start names = some line) : start ≤ line := by
  induction names generalizing start with
  | nil => cases found
  | cons shown names ih =>
      cases shown with
      | none => cases found
      | some shown =>
          rw [findLine] at found
          split at found
          next =>
              cases found
              exact le_rfl
          next => exact (Nat.le_succ start).trans (ih found)

theorem findLine_injective {names : LineNames} {start line : Nat}
    (found : findLine first start names = some line)
    (other : findLine second start names = some line) :
    first = second := by
  induction names generalizing start with
  | nil => cases found
  | cons shown names ih =>
      cases shown with
      | none => cases found
      | some shown =>
          rw [findLine] at found other
          split at found
          next here =>
              cases found
              split at other
              next there => exact here.symm.trans there
              next =>
                  have later := le_of_findLine other
                  omega
          next =>
              split at other
              next =>
                  cases other
                  have later := le_of_findLine found
                  omega
              next => exact ih found other

theorem lgpioLineByName_eq_some {name : Text} {place : Place}
    (named : lgpioLineByName name lgpio = some place) :
    ∃ chips names line, lgpio = some chips ∧ chips place.1 = some names ∧
      findLine (upper name) 0 names = some line ∧ place.2 = line := by
  obtain ⟨chips, present, searched⟩ := Option.bind_eq_some_iff.mp named
  obtain ⟨chip, -, onChip⟩ := List.exists_of_findSome?_eq_some searched
  obtain ⟨names, opened, listed⟩ := Option.bind_eq_some_iff.mp onChip
  obtain ⟨line, found, same⟩ := Option.map_eq_some_iff.mp listed
  subst same
  exact ⟨chips, names, line, present, opened, found, rfl⟩

/-- A line of the kernel has one name. -/
theorem lgpioLineByName_injective {place : Place} (named : lgpioLineByName first lgpio = some place)
    (other : lgpioLineByName second lgpio = some place) : upper first = upper second := by
  obtain ⟨chips, names, line, present, opened, found, offset⟩ := lgpioLineByName_eq_some named
  obtain ⟨otherChips, otherNames, otherLine, otherPresent, otherOpened, otherFound, otherOffset⟩ :=
    lgpioLineByName_eq_some other
  rw [present] at otherPresent
  cases otherPresent
  rw [opened] at otherOpened
  cases otherOpened
  have same : line = otherLine := by
    rw [offset] at otherOffset
    exact_mod_cast otherOffset
  rw [← same] at otherFound
  exact findLine_injective found otherFound

theorem le_of_sysfsLine {chips : List (Int × Int)} {number index : Nat} {place : Place}
    (covered : sysfsLine number index chips = some place) : index ≤ place.1 := by
  induction chips generalizing index with
  | nil => cases covered
  | cons chip chips ih =>
      rw [sysfsLine] at covered
      split at covered
      next =>
          cases covered
          exact le_rfl
      next => exact (Nat.le_succ index).trans (ih covered)

theorem sysfsLine_injective {chips : List (Int × Int)} {number other index : Nat} {place : Place}
    (covered : sysfsLine number index chips = some place)
    (also : sysfsLine other index chips = some place) :
    number = other := by
  induction chips generalizing index with
  | nil => cases covered
  | cons chip chips ih =>
      rw [sysfsLine] at covered also
      split at covered
      next =>
          cases covered
          split at also
          next =>
              have offsets := congrArg Prod.snd (Option.some.inj also)
              dsimp only at offsets
              omega
          next =>
              have later := le_of_sysfsLine also
              dsimp only at later
              omega
      next =>
          split at also
          next =>
              cases also
              have later := le_of_sysfsLine covered
              dsimp only at later
              omega
          next => exact ih covered also

theorem sunxiLine_injective {number other : Nat} (same : sunxiLine number = sunxiLine other) :
    number = other := by
  unfold sunxiLine at same
  split at same <;> split at same <;> simp only [Prod.mk.injEq] at same <;> omega

/-! The methods mixed. -/

/-- Two numbers on one line are the same, or one of them is a guess onto a line that a chip has. -/
theorem eq_or_guessed {chips : List (Int × Int)} {number other : Nat}
    (same : (sysfsLine number 0 chips).getD (sunxiLine number) = (sysfsLine other 0 chips).getD (sunxiLine other)) :
    number = other ∨
      (sysfsLine other 0 chips = none ∧ sysfsLine number 0 chips = some (sunxiLine other)) ∨
      (sysfsLine number 0 chips = none ∧ sysfsLine other 0 chips = some (sunxiLine number)) := by
  cases covered : sysfsLine number 0 chips with
  | some line =>
      cases otherCovered : sysfsLine other 0 chips with
      | some otherLine =>
          rw [covered, otherCovered, Option.getD_some, Option.getD_some] at same
          rw [← same] at otherCovered
          exact .inl (sysfsLine_injective covered otherCovered)
      | none =>
          rw [covered, otherCovered, Option.getD_some, Option.getD_none] at same
          exact .inr (.inl ⟨rfl, congrArg some same⟩)
  | none =>
      cases otherCovered : sysfsLine other 0 chips with
      | some otherLine =>
          rw [covered, otherCovered, Option.getD_none, Option.getD_some] at same
          exact .inr (.inr ⟨rfl, congrArg some same.symm⟩)
      | none =>
          rw [covered, otherCovered, Option.getD_none, Option.getD_none] at same
          exact .inl (sunxiLine_injective same)

theorem resolveSocLine_of_named {name : Text} {place : Place}
    (named : lgpioLineByName name lgpio = some place) :
    resolveSocLine lgpio sysfs name = some place := by
  simp only [resolveSocLine, named]

theorem resolveSocLine_of_unnamed {name : Text} (unnamed : lgpioLineByName name lgpio = none) :
    resolveSocLine lgpio sysfs name = (socGlobalNumber name).map fun number =>
      (sysfsLine number 0 (sysfsChipBases sysfs)).getD (sunxiLine number) := by
  simp only [resolveSocLine, unnamed]

theorem Clash.shared (clash : Clash lgpio sysfs first second) :
    ∃ place, resolveSocLine lgpio sysfs first = some place ∧
      resolveSocLine lgpio sysfs second = some place := by
  cases clash with
  | sameLine named same =>
      subst same
      obtain ⟨place, found⟩ := Option.ne_none_iff_exists'.mp named
      exact ⟨place, resolveSocLine_of_named found, resolveSocLine_of_named found⟩
  | sameNumber unnamed otherUnnamed numbered otherNumbered =>
      rw [resolveSocLine_of_unnamed unnamed, resolveSocLine_of_unnamed otherUnnamed, numbered, otherNumbered]
      exact ⟨_, rfl, rfl⟩
  | namedLine named unnamed numbered falls =>
      rw [resolveSocLine_of_named named, resolveSocLine_of_unnamed unnamed, numbered]
      exact ⟨_, rfl, congrArg some falls⟩
  | guessedLine unnamed otherUnnamed numbered otherNumbered uncovered covered =>
      rw [resolveSocLine_of_unnamed unnamed, resolveSocLine_of_unnamed otherUnnamed, numbered, otherNumbered]
      simp only [Option.map_some, uncovered, covered, Option.getD_some, Option.getD_none]
      exact ⟨_, rfl, rfl⟩

/-- Two names share a line in these ways only. -/
theorem clash_of_shared (firstUpper : upper first = first) (secondUpper : upper second = second)
    {place : Place}
    (resolved : resolveSocLine lgpio sysfs first = some place)
    (also : resolveSocLine lgpio sysfs second = some place) :
    Clash lgpio sysfs first second ∨ Clash lgpio sysfs second first := by
  cases named : lgpioLineByName first lgpio with
  | some line =>
      rw [resolveSocLine_of_named named] at resolved
      cases resolved
      cases other : lgpioLineByName second lgpio with
      | some line =>
          rw [resolveSocLine_of_named other] at also
          cases also
          have same := lgpioLineByName_injective named other
          rw [firstUpper, secondUpper] at same
          exact .inl (.sameLine (by rw [named]; exact Option.some_ne_none _) same)
      | none =>
          rw [resolveSocLine_of_unnamed other] at also
          obtain ⟨number, numbered, falls⟩ := Option.map_eq_some_iff.mp also
          exact .inl (.namedLine named other numbered falls)
  | none =>
      rw [resolveSocLine_of_unnamed named] at resolved
      obtain ⟨number, numbered, lands⟩ := Option.map_eq_some_iff.mp resolved
      cases other : lgpioLineByName second lgpio with
      | some line =>
          rw [resolveSocLine_of_named other] at also
          cases also
          exact .inr (.namedLine other named numbered lands)
      | none =>
          rw [resolveSocLine_of_unnamed other] at also
          obtain ⟨otherNumber, otherNumbered, falls⟩ := Option.map_eq_some_iff.mp also
          rcases eq_or_guessed (lands.trans falls.symm) with same | ⟨uncovered, covered⟩ | ⟨uncovered, covered⟩
          · rw [← same] at otherNumbered
            exact .inl (.sameNumber named other numbered otherNumbered)
          · exact .inl (.guessedLine named other numbered otherNumbered uncovered covered)
          · exact .inr (.guessedLine other named otherNumbered numbered uncovered covered)

/-! The nets. -/

/-- The header gives every net a pin of its own. -/
theorem header_bijective {net other : Nat × Int} (mem : net ∈ piHeaderBcmToPhysical)
    (otherMem : other ∈ piHeaderBcmToPhysical) : net.1 = other.1 ↔ net.2 = other.2 := by
  have pairs : ∀ net ∈ piHeaderBcmToPhysical, ∀ other ∈ piHeaderBcmToPhysical, net.1 = other.1 ↔ net.2 = other.2 := by
    decide +kernel
  exact pairs net mem other otherMem

theorem mem_lines_iff {overrides : List Override} {bcm : Nat} {place : Place} :
    (bcm, some place) ∈ (orangepiZero3wPins lgpio sysfs overrides).lines ↔
      ∃ physical name, (bcm, physical) ∈ piHeaderBcmToPhysical ∧
        assignedName overrides physical = some name ∧
        resolveSocLine lgpio sysfs name = some place := by
  have lines : (orangepiZero3wPins lgpio sysfs overrides).lines =
      piHeaderBcmToPhysical.map fun net =>
        (net.1, (assignedName overrides net.2).bind (resolveSocLine lgpio sysfs)) := by
    refine List.map_congr_left fun net mem => ?_
    have onHeader : net.2 ∈ headerPins := List.mem_map_of_mem mem
    rw [← mergePhysicalOverrides_eq overrides onHeader]
  rw [lines, List.mem_map]
  constructor
  · rintro ⟨⟨net, physical⟩, mem, same⟩
    simp only [Prod.mk.injEq] at same
    obtain ⟨rfl, resolved⟩ := same
    obtain ⟨name, named, found⟩ := Option.bind_eq_some_iff.mp resolved
    exact ⟨physical, name, mem, named, found⟩
  · rintro ⟨physical, name, mem, named, found⟩
    exact ⟨(bcm, physical), mem, by simp only [named, Option.bind_some, found]⟩

/-- No two pins of the header have names that clash. -/
def NamesApart (lgpio : Option KernelChips) (sysfs : List (Int × Int)) (overrides : List Override) : Prop :=
  ∀ pin ∈ headerPins, ∀ other ∈ headerPins, pin ≠ other →
    ∀ name otherName, assignedName overrides pin = some name →
    assignedName overrides other = some otherName → ¬ Clash lgpio sysfs name otherName

theorem lines_apart_iff_names_apart (lgpio : Option KernelChips) (sysfs : List (Int × Int))
    (overrides : List Override) :
    (orangepiZero3wPins lgpio sysfs overrides).LinesApart ↔ NamesApart lgpio sysfs overrides := by
  constructor
  · intro apart pin onHeader other otherOnHeader differ name otherName named otherNamed clash
    obtain ⟨⟨net, _⟩, mem, rfl⟩ := List.mem_map.mp onHeader
    obtain ⟨⟨otherNet, _⟩, otherMem, rfl⟩ := List.mem_map.mp otherOnHeader
    obtain ⟨place, resolved, also⟩ := clash.shared
    have same := apart net otherNet place (mem_lines_iff.mpr ⟨_, name, mem, named, resolved⟩)
      (mem_lines_iff.mpr ⟨_, otherName, otherMem, otherNamed, also⟩)
    exact differ ((header_bijective mem otherMem).mp same)
  · intro apart net otherNet place line otherLine
    obtain ⟨pin, name, mem, named, resolved⟩ := mem_lines_iff.mp line
    obtain ⟨other, otherName, otherMem, otherNamed, also⟩ := mem_lines_iff.mp otherLine
    have onHeader : pin ∈ headerPins := List.mem_map_of_mem mem
    have otherOnHeader : other ∈ headerPins := List.mem_map_of_mem otherMem
    by_cases same : pin = other
    · exact (header_bijective mem otherMem).mpr same
    · rcases clash_of_shared (upper_assignedName named) (upper_assignedName otherNamed) resolved also with clash | clash
      · exact absurd clash
          (apart pin onHeader other otherOnHeader same name otherName named otherNamed)
      · exact absurd clash
          (apart other otherOnHeader pin onHeader (Ne.symm same) otherName name otherNamed named)

theorem socGlobalNumber_lt {name : Text} {number : Nat}
    (numbered : socGlobalNumber name = some number) :
    number < 13 * 32 := by
  obtain ⟨⟨port, pin⟩, matched, kept⟩ := Option.bind_eq_some_iff.mp numbered
  have upTo : port ≤ 'M' := by
    unfold matchSocPin at matched
    split at matched
    next =>
        split at matched
        next range =>
            obtain ⟨values, -, same⟩ := Option.map_eq_some_iff.mp matched
            cases same
            exact range.2.1
        next => cases matched
    next => cases matched
  have bound : port.toNat ≤ 'M'.toNat := upTo
  have letters : 'M'.toNat = 77 ∧ 'A'.toNat = 65 := by decide
  dsimp only at kept
  split at kept
  next => cases kept
  next =>
      cases kept
      omega

/-- Where the kernel names no line and its chips cover every pin, pins of different numbers have
different lines. -/
theorem namesApart_of_covered {overrides : List Override}
    (unnamed : ∀ name, lgpioLineByName name lgpio = none)
    (covered : ∀ number < 13 * 32, sysfsLine number 0 (sysfsChipBases sysfs) ≠ none)
    (distinct : ∀ pin ∈ headerPins, ∀ other ∈ headerPins, pin ≠ other → ∀ name otherName,
      assignedName overrides pin = some name → assignedName overrides other = some otherName →
        ∀ number, socGlobalNumber name = some number → socGlobalNumber otherName ≠ some number) :
    NamesApart lgpio sysfs overrides := by
  intro pin onHeader other otherOnHeader differ name otherName named otherNamed clash
  cases clash with
  | sameLine found => exact found (unnamed name)
  | sameNumber _ _ numbered otherNumbered =>
      exact distinct pin onHeader other otherOnHeader differ name otherName named otherNamed _ numbered otherNumbered
  | namedLine found =>
      rw [unnamed name] at found
      cases found
  | guessedLine _ _ _ otherNumbered uncovered => exact covered _ (socGlobalNumber_lt otherNumbered) uncovered

/-- The published pinout alone keeps the nets apart on such a board. -/
theorem published_linesApart (covered : ∀ number < 13 * 32, sysfsLine number 0 (sysfsChipBases sysfs) ≠ none) :
    (orangepiZero3wPins none sysfs []).LinesApart := by
  refine (lines_apart_iff_names_apart none sysfs []).mpr
    (namesApart_of_covered (fun _ => rfl) covered ?_)
  intro pin onHeader other otherOnHeader differ name otherName named otherNamed number numbered otherNumbered
  have numbers : ∀ pin ∈ headerPins, ∀ other ∈ headerPins, pin ≠ other →
      (published pin).bind socGlobalNumber ≠ none →
        (published pin).bind socGlobalNumber ≠ (published other).bind socGlobalNumber := by
    decide +kernel
  have here : published pin = some name := named
  have there : published other = some otherName := otherNamed
  refine numbers pin onHeader other otherOnHeader differ ?_ ?_
  · rw [here, Option.bind_some, numbered]
    exact Option.some_ne_none _
  · rw [here, there, Option.bind_some, Option.bind_some, numbered, otherNumbered]

end Wqm1.Platform
