import Wqm1.Library.Dict
import Wqm1.Library.Double

/-! Parsed YAML documents: the values of a safe loader, before anything is asked of them. -/

set_option autoImplicit false

namespace Wqm1.Library

/-- Keys are compared by what they are. The remaining ones (null, Booleans, dates and so on)
are named by how they print. -/
inductive YamlKey where
  | text (text : String)
  | int (number : Int)
  | other (printed : String)
deriving DecidableEq

inductive Yaml where
  | null
  | bool (value : Bool)
  | int (number : Int)
  | float (number : Double)
  | text (text : String)
  | seq (items : List Yaml)
  | mapping (entries : List (YamlKey × Yaml))
  | other (truthy : Bool)

namespace YamlKey

/-- The least magnitude of more than 4300 digits. -/
def unprintable : Nat := 10 ^ 4300

/-- `str(key)`, which refuses an integer of more than 4300 digits. -/
def printed : YamlKey → Option String
  | .text word => some word
  | .int number => if number.natAbs < unprintable then some (toString number) else none
  | .other shown => some shown

theorem printed_eq_none_iff (key : YamlKey) :
    key.printed = none ↔ ∃ number : Int, key = .int number ∧ unprintable ≤ number.natAbs := by
  cases key with
  | int number => simp [printed]
  | text word => simp [printed]
  | other shown => simp [printed]

end YamlKey

namespace Yaml

def truthy : Yaml → Bool
  | .null => false
  | .bool value => value
  | .int number => number != 0
  | .float number => number != .finite 0
  | .text word => word != ""
  | .seq items => !items.isEmpty
  | .mapping entries => !entries.isEmpty
  | .other holds => holds

/-- `content or {}`. -/
def orEmpty (content : Yaml) : Yaml :=
  if content.truthy then content else .mapping []

end Yaml

/-- The construction of a mapping, where a repeated key keeps its last value. -/
def Dict.ofList {Key Value : Type} [DecidableEq Key] (entries : List (Key × Value)) : Dict Key Value :=
  entries.foldl (fun dict entry => dict.set entry.1 entry.2) .empty

/-- The dictionary of a mapping, and an empty one for any other content. -/
def Yaml.dict : Yaml → Dict YamlKey Yaml
  | .mapping entries => Dict.ofList entries
  | _ => .empty

theorem Dict.entries_ofList {Key Value : Type} [DecidableEq Key] {entries : List (Key × Value)}
    (nodup : (entries.map Prod.fst).Nodup) : (Dict.ofList entries).entries = entries :=
  Dict.entries_foldl_set nodup

/-- A dictionary with its keys as the text keys of a mapping. -/
def Yaml.ofDict (dict : Dict String Yaml) : Yaml :=
  .mapping (dict.entries.map fun entry => (.text entry.1, entry.2))

theorem Yaml.entries_ofDict (dict : Dict String Yaml) :
    (Yaml.ofDict dict).dict.entries = dict.entries.map fun entry => (.text entry.1, entry.2) := by
  apply Dict.entries_ofList
  have keys : (dict.entries.map fun entry => (YamlKey.text entry.1, entry.2)).map Prod.fst =
      (dict.entries.map Prod.fst).map YamlKey.text := by
    rw [List.map_map, List.map_map]
    rfl
  rw [keys]
  exact dict.nodup.map fun left right same => YamlKey.text.inj same

theorem Yaml.get_ofDict (dict : Dict String Yaml) (name : String) :
    (Yaml.ofDict dict).dict.get (.text name) = dict.get name := by
  apply Option.ext
  intro value
  rw [Dict.get_eq_some_iff, Dict.get_eq_some_iff, Yaml.entries_ofDict]
  simp

theorem Yaml.dict_of_not_mapping {content : Yaml} (other : ∀ entries, content ≠ .mapping entries) :
    content.dict = .empty := by
  unfold Yaml.dict
  split
  next entries => exact absurd rfl (other entries)
  next => rfl

@[simp] theorem Yaml.dict_orEmpty (content : Yaml) : content.orEmpty.dict = content.dict := by
  unfold orEmpty
  cases content with
  | mapping entries =>
      cases entries with
      | nil => rw [ite_self]
      | cons entry rest => rw [if_pos (show (mapping (entry :: rest)).truthy = true from rfl)]
  | null | bool value | int number | float number | text word | seq items | other holds =>
      split <;> rfl

end Wqm1.Library
