import Wqm1.Library.Numeral

/-! Where the nets of the HAT land on an Orange Pi: the published pinout, the overrides written at
the bench, and the line of the kernel that a pin's name is resolved to. -/

set_option autoImplicit false

namespace Wqm1.Platform

open Wqm1.Library

/-- From BCM numbers to the physical pins of the header. -/
def piHeaderBcmToPhysical : List (Nat × Int) :=
  [(2, 3), (3, 5), (4, 7), (14, 8), (15, 10), (17, 11), (18, 12), (27, 13), (22, 15), (23, 16), (24, 18), (10, 19),
    (9, 21), (25, 22), (11, 23), (8, 24), (7, 26), (0, 27), (1, 28), (5, 29), (6, 31), (12, 32), (13, 33), (19, 35),
    (16, 36), (26, 37), (20, 38), (21, 40)]

/-- The keys of `PHYSICAL_TO_BCM`. -/
def headerPins : List Int := piHeaderBcmToPhysical.map Prod.snd

def orangepiZero3wPhysicalToSoc : List (Int × Option Text) :=
  [(3, some "PB3".toList), (5, some "PB2".toList), (7, some "PB4".toList), (8, some "PB9".toList),
    (10, some "PB10".toList), (11, some "PB0".toList), (12, none), (13, some "PB1".toList), (15, none),
    (16, some "PL2".toList), (18, some "PL3".toList), (19, some "PE2".toList), (21, some "PE3".toList), (22, none),
    (23, some "PE1".toList), (24, some "PE0".toList), (26, some "PE4".toList), (27, none), (28, none), (29, none),
    (31, none), (32, some "PD1".toList), (33, some "PD3".toList), (35, some "PB6".toList), (36, some "PD2".toList),
    (37, some "PD4".toList), (38, some "PB8".toList), (40, some "PB7".toList)]

/-- The names of the published pinout, or nothing for a pin that it does not name. -/
def published (physical : Int) : Option Text := (orangepiZero3wPhysicalToSoc.lookup physical).join

/-- `upper`, as far as the names of pins go: beyond ASCII only the dotless i has one of their
letters for its capital. -/
def upperChar (c : Char) : Char :=
  if c = 'ı' then 'I' else if 'a' ≤ c ∧ c ≤ 'z' then Char.ofNat (c.toNat - 32) else c

def upper (text : Text) : Text := text.map upperChar

/-- `value.strip().upper()`. -/
def normalize (value : Text) : Text := upper (Text.strip value)

/-- What `_SOC_PIN_RE` captures: a port from A to M and one or two digits of any script. -/
def matchSocPin : Text → Option (Char × Nat)
  | 'P' :: port :: digits =>
    if 'A' ≤ port ∧ port ≤ 'M' ∧ (digits.length = 1 ∨ digits.length = 2) then
      (digits.mapM Numeral.digitValue).map fun values => (port, values.foldl (fun value digit => 10 * value + digit) 0)
    else none
  | _ => none

/-- Nothing is a `ValueError`. -/
def socGlobalNumber (name : Text) : Option Nat :=
  (matchSocPin (normalize name)).bind fun (port, pin) =>
    if 31 < pin then none else some ((port.toNat - 'A'.toNat) * 32 + pin)

def sunxiRpioBase : Nat := ('L'.toNat - 'A'.toNat) * 32

/-- A chip and a line of it. -/
abbrev Place := Nat × Int

/-- The names of a chip's lines, where nothing stands for a line that cannot be read. -/
abbrev LineNames := List (Option Text)

/-- The chips of the kernel, where nothing stands for one that cannot be opened. -/
abbrev KernelChips := Nat → Option LineNames

/-- The first line of a name, before any line that cannot be read. -/
def findLine (wanted : Text) (line : Nat) : LineNames → Option Nat
  | [] | none :: _ => none
  | some shown :: rest => if normalize shown = wanted then some line else findLine wanted (line + 1) rest

def lgpioLineByName (name : Text) (lgpio : Option KernelChips) : Option Place :=
  lgpio.bind fun chips =>
    (List.range 4).findSome? fun chip =>
      (chips chip).bind fun names => (findLine (upper name) 0 names).map fun (line : Nat) => (chip, (line : Int))

/-- The bases and sizes that sysfs tells, in order. -/
def sysfsChipBases (entries : List (Int × Int)) : List (Int × Int) :=
  entries.mergeSort fun left right => left.1 < right.1 || (left.1 == right.1 && left.2 ≤ right.2)

/-- The chips count from `index`. -/
def sysfsLine (number : Nat) (index : Nat) : List (Int × Int) → Option Place
  | [] => none
  | (base, ngpio) :: chips =>
    if base ≤ number ∧
      number < base + ngpio then some (index, number - base) else sysfsLine number (index + 1) chips

/-- The convention alone. -/
def sunxiLine (number : Nat) : Place :=
  if sunxiRpioBase ≤ number then (1, (number : Int) - sunxiRpioBase) else (0, number)

variable (lgpio : Option KernelChips) (sysfs : List (Int × Int))

/-- Nothing is a `ValueError`. -/
def resolveSocLine (name : Text) : Option Place :=
  match lgpioLineByName name lgpio with
  | some place => some place
  | none => (socGlobalNumber name).map fun number =>
      (sysfsLine number 0 (sysfsChipBases sysfs)).getD (sunxiLine number)

/-- An entry of the overrides: what `int` makes of its key, nothing where that is no number, and
what `str` makes of its value, nothing where that is null. -/
structure Override where
  key : Option Int
  value : Option Text

inductive Conflict where
  | notAName (physical : Int) (value : Text)
  | contradicts (physical : Int) (published reported : Text)
deriving DecidableEq

/-- Physical pins to names, as `get` reads them. -/
abbrev PinTable := Int → Option Text

def mergeOverride (base : PinTable) (merged : PinTable × List Conflict) (entry : Override) :
    PinTable × List Conflict :=
  match entry.key with
  | none => merged
  | some physical =>
    if physical ∉ headerPins then merged
    else
      match entry.value with
      | none => merged
      | some value =>
        if (matchSocPin (normalize value)).isNone then (merged.1, merged.2 ++ [.notAName physical value])
        else
          let conflicts :=
            match base physical with
            | none => []
            | some name =>
              if name ≠ [] ∧ name ≠ normalize value then [Conflict.contradicts physical name (normalize value)] else []
          (Function.update merged.1 physical (some (normalize value)), merged.2 ++ conflicts)

/-- The table and its conflicts. -/
def mergePhysicalOverrides (base : PinTable) (overrides : List Override) :
    PinTable × List Conflict :=
  overrides.foldl (mergeOverride base) (base, [])

structure HostPins where
  socNames : List (Nat × Option Text)
  lines : List (Nat × Option Place)

def orangepiZero3wPins (overrides : List Override) : HostPins where
  socNames := piHeaderBcmToPhysical.map fun (bcm, physical) =>
    (bcm, (mergePhysicalOverrides published overrides).1 physical)
  lines := piHeaderBcmToPhysical.map fun (bcm, physical) =>
    (bcm, ((mergePhysicalOverrides published overrides).1 physical).bind (resolveSocLine lgpio sysfs))

/-- No two nets have the same line. -/
def HostPins.LinesApart (pins : HostPins) : Prop :=
  ∀ first second place, (first, some place) ∈ pins.lines → (second, some place) ∈ pins.lines →
    first = second

/-- An override names the pin of a relay for another net too. -/
theorem override_shares_relay_line :
    ¬ (orangepiZero3wPins none [] [⟨some 12, some "PB0".toList⟩]).LinesApart := by
  intro apart
  have same := apart 17 18 (0, 32) (by decide +kernel) (by decide +kernel)
  cases same

/-! What a pin is called after all the overrides. -/

/-- The name that an entry gives to a pin. -/
def Override.naming (entry : Override) (physical : Int) : Option Text :=
  if entry.key = some physical then
    entry.value.bind fun value => if (matchSocPin (normalize value)).isSome then some (normalize value) else none
  else none

/-- The name that the last entry with one gives, or else the published one. -/
def assignedName (overrides : List Override) (physical : Int) : Option Text :=
  (overrides.reverse.findSome? fun entry => entry.naming physical).or (published physical)

variable {lgpio sysfs}

theorem mergeOverride_eq (base : PinTable) (merged : PinTable × List Conflict) (entry : Override)
    {physical : Int}
    (onHeader : physical ∈ headerPins) :
    (mergeOverride base merged entry).1 physical =
      (entry.naming physical).or (merged.1 physical) := by
  unfold mergeOverride Override.naming
  cases entry.key with
  | none => rfl
  | some key =>
      by_cases here : key = physical
      · subst here
        dsimp only
        rw [if_neg (not_not.mpr onHeader), if_pos rfl]
        cases entry.value with
        | none => rfl
        | some value =>
            dsimp only [Option.bind_some]
            cases matchSocPin (normalize value) with
            | none => rfl
            | some pin => simp
      · have other : some key ≠ some physical := fun same => here (Option.some.inj same)
        dsimp only
        rw [if_neg other]
        split
        next => rfl
        next =>
            cases entry.value with
            | none => rfl
            | some value =>
                dsimp only
                split
                next => rfl
                next => exact Function.update_of_ne (Ne.symm here) _ _

theorem mergePhysicalOverrides_eq (overrides : List Override) {physical : Int}
    (onHeader : physical ∈ headerPins) :
    (mergePhysicalOverrides published overrides).1 physical = assignedName overrides physical := by
  induction overrides using List.reverseRecOn with
  | nil => rfl
  | append_singleton overrides entry ih =>
      have last : mergePhysicalOverrides published (overrides ++ [entry]) =
          mergeOverride published (mergePhysicalOverrides published overrides) entry :=
            List.foldl_concat ..
      rw [last, mergeOverride_eq _ _ _ onHeader, ih]
      unfold assignedName
      rw [List.reverse_append, List.reverse_singleton, List.singleton_append, List.findSome?_cons]
      cases entry.naming physical <;> rfl

theorem upperChar_upperChar (c : Char) : upperChar (upperChar c) = upperChar c := by
  by_cases dotless : c = 'ı'
  · rw [dotless]
    decide
  · by_cases lower : 'a' ≤ c ∧ c ≤ 'z'
    · have first : 97 ≤ c.toNat := lower.1
      have last : c.toNat ≤ 122 := lower.2
      have capital :
          upperChar c = Char.ofNat (c.toNat - 32) := by rw [upperChar, if_neg dotless, if_pos lower]
      have capitals : ∀ offset < 26, upperChar (Char.ofNat (65 + offset)) = Char.ofNat (65 + offset) := by decide
      have place : c.toNat - 32 = 65 + (c.toNat - 97) := by omega
      rw [capital, place]
      exact capitals (c.toNat - 97) (by omega)
    · have same : upperChar c = c := by rw [upperChar, if_neg dotless, if_neg lower]
      rw [same, same]

theorem upper_normalize (value : Text) : upper (normalize value) = normalize value := by
  simp [normalize, upper, upperChar_upperChar]

theorem upper_published {physical : Int} {name : Text} (named : published physical = some name) :
    upper name = name := by
  have capitals : ∀ row ∈ orangepiZero3wPhysicalToSoc, row.2.map upper = row.2 := by decide +kernel
  obtain ⟨before, after, table, -⟩ := List.lookup_eq_some_iff.mp (Option.join_eq_some_iff.mp named)
  have row := capitals (physical, some name)
      (by rw [table]; exact List.mem_append_right _ List.mem_cons_self)
  exact Option.some.inj row

theorem upper_assignedName {overrides : List Override} {physical : Int} {name : Text}
    (named : assignedName overrides physical = some name) : upper name = name := by
  rcases Option.or_eq_some_iff.mp named with last | ⟨-, publishes⟩
  · obtain ⟨entry, -, names⟩ := List.exists_of_findSome?_eq_some last
    unfold Override.naming at names
    split at names
    next =>
        obtain ⟨value, -, kept⟩ := Option.bind_eq_some_iff.mp names
        split at kept
        next =>
            rw [← Option.some.inj kept]
            exact upper_normalize value
        next => cases kept
    next => cases names
  · exact upper_published publishes

end Wqm1.Platform
