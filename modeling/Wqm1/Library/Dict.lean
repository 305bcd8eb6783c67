import Mathlib.Data.List.Nodup

/-! Dictionaries that keep the order in which their keys came in. -/

set_option autoImplicit false

namespace Wqm1.Library

variable {Key Value : Type} [DecidableEq Key]

@[ext] structure Dict (Key Value : Type) where
  entries : List (Key × Value)
  nodup : (entries.map Prod.fst).Nodup

namespace Dict

instance [DecidableEq Value] : DecidableEq (Dict Key Value) := fun left right =>
  decidable_of_iff (left.entries = right.entries) Dict.ext_iff.symm

def empty : Dict Key Value := ⟨[], List.nodup_nil⟩

def keys (dict : Dict Key Value) : List Key := dict.entries.map Prod.fst

def get (dict : Dict Key Value) (key : Key) : Option Value := dict.entries.lookup key

omit [DecidableEq Key] in
theorem nodup_filter {entries : List (Key × Value)} (nodup : (entries.map Prod.fst).Nodup)
    (keep : Key × Value → Bool) : ((entries.filter keep).map Prod.fst).Nodup :=
  (List.filter_sublist.map Prod.fst).nodup nodup

/-- The entries that a test keeps. -/
def filter (dict : Dict Key Value) (keep : Key × Value → Bool) : Dict Key Value :=
  ⟨dict.entries.filter keep, nodup_filter dict.nodup keep⟩

/-- The value at a key is replaced where the key stands, and a new key comes last. -/
def setEntries (entries : List (Key × Value)) (key : Key) (value : Value) : List (Key × Value) :=
  match entries with
  | [] => [(key, value)]
  | entry :: rest => if entry.1 = key then (key, value) :: rest else entry :: setEntries rest key value

theorem mem_keys_setEntries {entries : List (Key × Value)} {key other : Key} {value : Value}
    (member : other ∈ (setEntries entries key value).map Prod.fst) :
    other = key ∨ other ∈ entries.map Prod.fst := by
  induction entries with
  | nil => exact .inl (List.mem_singleton.mp member)
  | cons entry rest ih =>
      rw [setEntries] at member
      split at member
      next => grind
      next =>
        cases List.mem_cons.mp member with
        | inl first => exact .inr (List.mem_cons.mpr (.inl first))
        | inr later =>
            cases ih later with
            | inl same => exact .inl same
            | inr before => exact .inr (List.mem_cons_of_mem _ before)

theorem nodup_setEntries {entries : List (Key × Value)} (nodup : (entries.map Prod.fst).Nodup) (key : Key)
    (value : Value) : ((setEntries entries key value).map Prod.fst).Nodup := by
  induction entries with
  | nil => exact List.nodup_singleton key
  | cons entry rest ih =>
      rw [List.map_cons, List.nodup_cons] at nodup
      rw [setEntries]
      split
      next same =>
        rw [List.map_cons, List.nodup_cons, ← same]
        exact nodup
      next other =>
        rw [List.map_cons, List.nodup_cons]
        refine ⟨fun member => ?_, ih nodup.2⟩
        cases mem_keys_setEntries member with
        | inl same => exact other same
        | inr before => exact nodup.1 before

def set (dict : Dict Key Value) (key : Key) (value : Value) : Dict Key Value :=
  ⟨setEntries dict.entries key value, nodup_setEntries dict.nodup key value⟩

theorem lookup_cons (entry : Key × Value) (rest : List (Key × Value)) (key : Key) :
    (entry :: rest).lookup key = if key = entry.1 then some entry.2 else rest.lookup key := by
  rw [List.lookup_cons]
  by_cases same : key = entry.1
  · rw [if_pos same, beq_iff_eq.mpr same]
  · rw [if_neg same, beq_false_of_ne same]

theorem lookup_setEntries (entries : List (Key × Value)) (key other : Key) (value : Value) :
    (setEntries entries key value).lookup other = if other = key then some value else entries.lookup other := by
  induction entries with
  | nil => exact lookup_cons (key, value) [] other
  | cons entry rest ih =>
      rw [setEntries]
      split
      next same =>
        rw [lookup_cons, lookup_cons, same]
        grind
      next =>
        rw [lookup_cons, lookup_cons, ih]
        grind

theorem lookup_eq_none {entries : List (Key × Value)} {key : Key} (absent : key ∉ entries.map Prod.fst) :
    entries.lookup key = none := by
  apply List.lookup_eq_none_iff.mpr
  intro entry member
  have different : key ≠ entry.1 := fun same => absent (same ▸ List.mem_map_of_mem member)
  simpa using different

@[simp] theorem get_set (dict : Dict Key Value) (key other : Key) (value : Value) :
    (dict.set key value).get other = if other = key then some value else dict.get other :=
  lookup_setEntries dict.entries key other value

theorem lookup_eq_some_iff {entries : List (Key × Value)} (nodup : (entries.map Prod.fst).Nodup) {key : Key}
    {value : Value} : entries.lookup key = some value ↔ (key, value) ∈ entries := by
  induction entries with
  | nil => simp
  | cons entry rest ih =>
      rw [List.map_cons, List.nodup_cons] at nodup
      rw [lookup_cons, List.mem_cons]
      by_cases same : key = entry.1
      · have absent : (key, value) ∉ rest := by
          intro member
          exact nodup.1 (List.mem_map.mpr ⟨(key, value), member, same⟩)
        rw [if_pos same]
        constructor
        · intro found
          left
          rw [same, ← Option.some.inj found]
        · intro member
          rw [← member.resolve_right absent]
      · rw [if_neg same, ih nodup.2]
        constructor
        · exact .inr
        · intro member
          exact member.resolve_left fun first => same (congrArg Prod.fst first)

theorem get_eq_some_iff {dict : Dict Key Value} {key : Key} {value : Value} :
    dict.get key = some value ↔ (key, value) ∈ dict.entries :=
  lookup_eq_some_iff dict.nodup

theorem get_filter_eq_some_iff {dict : Dict Key Value} {keep : Key × Value → Bool} {key : Key} {value : Value} :
    (dict.filter keep).get key = some value ↔ dict.get key = some value ∧ keep (key, value) = true := by
  rw [get_eq_some_iff, get_eq_some_iff]
  exact List.mem_filter

theorem mem_keys_iff {dict : Dict Key Value} {key : Key} : key ∈ dict.keys ↔ ∃ value, dict.get key = some value := by
  unfold keys
  simp only [get_eq_some_iff, List.mem_map, Prod.exists]
  constructor
  · intro member
    obtain ⟨found, value, listed, same⟩ := member
    exact ⟨value, by rwa [← same]⟩
  · intro member
    obtain ⟨value, listed⟩ := member
    exact ⟨key, value, listed, rfl⟩

theorem setEntries_of_absent {entries : List (Key × Value)} {key : Key} (absent : key ∉ entries.map Prod.fst)
    (value : Value) : setEntries entries key value = entries ++ [(key, value)] := by
  induction entries with
  | nil => rfl
  | cons entry rest ih =>
      rw [List.map_cons, List.mem_cons, not_or] at absent
      rw [setEntries, if_neg (Ne.symm absent.1), ih absent.2, List.cons_append]

/-- Keys that come in one after another stay in that order. -/
theorem entries_foldl_set {dict : Dict Key Value} {added : List (Key × Value)}
    (nodup : ((dict.entries ++ added).map Prod.fst).Nodup) :
    (added.foldl (fun dict entry => dict.set entry.1 entry.2) dict).entries = dict.entries ++ added := by
  induction added generalizing dict with
  | nil => exact (List.append_nil _).symm
  | cons entry rest ih =>
      have absent : entry.1 ∉ dict.entries.map Prod.fst := by
        rw [List.map_append, List.nodup_append] at nodup
        exact fun member => nodup.2.2 _ member _ List.mem_cons_self rfl
      have grown : (dict.set entry.1 entry.2).entries = dict.entries ++ [entry] :=
        setEntries_of_absent absent entry.2
      have next := @ih (dict.set entry.1 entry.2) (by
        rwa [grown, List.append_assoc, List.singleton_append])
      rw [List.foldl_cons, next, grown, List.append_assoc, List.singleton_append]

/-- `dict.update(updates)`. -/
def update (dict updates : Dict Key Value) : Dict Key Value :=
  updates.entries.foldl (fun dict entry => dict.set entry.1 entry.2) dict

theorem get_foldl_set {added : List (Key × Value)} (nodup : (added.map Prod.fst).Nodup)
    (dict : Dict Key Value) (key : Key) :
    (added.foldl (fun dict entry => dict.set entry.1 entry.2) dict).get key =
      (added.lookup key).or (dict.get key) := by
  induction added generalizing dict with
  | nil => rfl
  | cons entry rest ih =>
      rw [List.map_cons, List.nodup_cons] at nodup
      rw [List.foldl_cons, ih nodup.2, get_set, lookup_cons]
      by_cases same : key = entry.1
      · have absent : rest.lookup key = none := by
          rw [same]
          exact lookup_eq_none nodup.1
        rw [if_pos same, if_pos same, absent]
        rfl
      · rw [if_neg same, if_neg same]

@[simp] theorem get_update (dict updates : Dict Key Value) (key : Key) :
    (dict.update updates).get key = (updates.get key).or (dict.get key) :=
  get_foldl_set updates.nodup dict key

/-- Without the keys that came in first. -/
def drop (dict : Dict Key Value) (count : Nat) : Dict Key Value :=
  ⟨dict.entries.drop count, ((List.drop_sublist ..).map Prod.fst).nodup dict.nodup⟩

theorem get_drop {dict : Dict Key Value} {count : Nat} {key : Key} {value : Value}
    (found : (dict.drop count).get key = some value) : dict.get key = some value := by
  rw [get_eq_some_iff] at found ⊢
  exact List.mem_of_mem_drop found

/-- `OrderedDict.move_to_end` of a key that is there. -/
def moveToEnd (dict : Dict Key Value) (key : Key) : Dict Key Value :=
  match dict.get key with
  | none => dict
  | some value => (dict.filter fun entry => entry.1 ≠ key).set key value

@[simp] theorem get_erase (dict : Dict Key Value) (key other : Key) :
    (dict.filter fun entry => entry.1 ≠ key).get other = if other = key then none else dict.get other := by
  apply Option.ext
  intro value
  rw [get_filter_eq_some_iff, decide_eq_true_eq]
  by_cases same : other = key
  · rw [if_pos same]
    exact ⟨fun both => absurd same both.2, fun none => by cases none⟩
  · rw [if_neg same]
    exact ⟨fun both => both.1, fun found => ⟨found, same⟩⟩

@[simp] theorem get_moveToEnd (dict : Dict Key Value) (key other : Key) :
    (dict.moveToEnd key).get other = dict.get other := by
  unfold moveToEnd
  cases found : dict.get key with
  | none => rfl
  | some value =>
      dsimp only
      rw [get_set, get_erase]
      by_cases same : other = key
      · rw [if_pos same, same, found]
      · rw [if_neg same, if_neg same]

end Dict

end Wqm1.Library
