import Wqm1.Library.Escape
import Mathlib.Data.Fin.Basic

/-! The text of the Wi-Fi QR code and the grammar a phone reads it with. -/

set_option autoImplicit false

namespace Wqm1.Network

open Wqm1.Library

/-- A character of a Python string, which may be a lone surrogate. -/
abbrev CodePoint := Fin 0x110000

def letter (c : Char) : CodePoint := Fin.ofNat 0x110000 c.toNat

def letters (text : String) : List CodePoint := text.toList.map letter

def esc (value : List CodePoint) : List CodePoint := Escape.escape (letter '\\') (letters "\\;,:\"") value

def wifiQrPayload (ssid : List CodePoint) (password : Option (List CodePoint)) : List CodePoint :=
  match password with
  | none | some [] => letters "WIFI:T:nopass;S:" ++ esc ssid ++ letters ";;"
  | some password => letters "WIFI:T:WPA;S:" ++ esc ssid ++ letters ";P:" ++ esc password ++ letters ";;"

structure QrField where
  key : List CodePoint
  value : List CodePoint
deriving DecidableEq

namespace QrField

def parse (raw : List CodePoint) : Option QrField :=
  match raw.dropWhile (· ≠ letter ':') with
  | [] => none
  | _ :: value =>
    (Escape.unescape (letter '\\') false value).map fun value => ⟨raw.takeWhile (· ≠ letter ':'), value⟩

/-- An empty part ends the payload, and only the end of the text follows it. -/
def parseAll : List (List CodePoint) → Option (List QrField)
  | [] => none
  | raw :: raws =>
    if raw = [] then
      if raws = [[]] then some [] else none
    else (parse raw).bind fun field => (parseAll raws).map (field :: ·)

end QrField

/-- The Wi-Fi QR grammar. -/
def parseWifiQr (payload : List CodePoint) : Option (List QrField) :=
  if payload.take 5 = letters "WIFI:" then
    QrField.parseAll (Escape.split (letter '\\') (letter ';') false (payload.drop 5))
  else none

/-- What the payload says. -/
def qrFields (ssid : List CodePoint) (password : Option (List CodePoint)) : List QrField :=
  match password with
  | none | some [] => [⟨letters "T", letters "nopass"⟩, ⟨letters "S", ssid⟩]
  | some password => [⟨letters "T", letters "WPA"⟩, ⟨letters "S", ssid⟩, ⟨letters "P", password⟩]

example : parseWifiQr (letters "WIFI:T:WPA;S:a\\;b;P:p\\:q;;") =
    some (qrFields (letters "a;b") (some (letters "p:q"))) := by decide +kernel

/-- A field as the payload writes it. -/
def QrField.written (field : QrField) : List CodePoint := field.key ++ letter ':' :: esc field.value

/-- The key of the field needs no escape. -/
def QrField.Plain (field : QrField) : Prop :=
  ∀ c ∈ field.key, c ≠ letter '\\' ∧ c ≠ letter ';' ∧ c ≠ letter ':'

theorem QrField.Plain.inert {field : QrField} (plain : field.Plain) :
    Escape.Inert (letter '\\') (letter ';') field.written := by
  have key : Escape.Inert (letter '\\') (letter ';') field.key :=
    .of_plain fun c mem => ⟨(plain c mem).1, (plain c mem).2.1⟩
  have colon : Escape.Inert (letter '\\') (letter ';') [letter ':'] := .plain (by decide) (by decide)
  exact key.append (colon.append (.escape (by decide) (by decide +kernel) (by decide +kernel) field.value))

theorem QrField.Plain.parse_written {field : QrField} (plain : field.Plain) :
    QrField.parse field.written = some field := by
  have inside : ∀ c ∈ field.key, decide (c ≠ letter ':') = true := fun c mem => decide_eq_true (plain c mem).2.2
  have value : field.written.dropWhile (· ≠ letter ':') = letter ':' :: esc field.value := by
    rw [written, List.dropWhile_append_of_pos inside]
    simp
  have key : field.written.takeWhile (· ≠ letter ':') = field.key := by
    rw [written, List.takeWhile_append_of_pos inside]
    simp
  unfold parse
  rw [value, key]
  dsimp only
  rw [esc, Escape.unescape_escape (by decide +kernel)]
  rfl

theorem QrField.parseAll_written {fields : List QrField} (plain : ∀ field ∈ fields, field.Plain) :
    QrField.parseAll (fields.map QrField.written ++ [[], []]) = some fields := by
  induction fields with
  | nil => rfl
  | cons field fields ih =>
      obtain ⟨first, others⟩ := List.forall_mem_cons.mp plain
      have some : field.written ≠ [] := by simp [written]
      rw [List.map_cons, List.cons_append, parseAll, if_neg some, first.parse_written, ih others]
      rfl

/-- Fields with plain keys are read back from the payload that joins them. -/
theorem parseWifiQr_join {fields : List QrField} (plain : ∀ field ∈ fields, field.Plain) :
    parseWifiQr (letters "WIFI:" ++ Escape.join (letter ';') (fields.map QrField.written ++ [[]])) = some fields := by
  have start : (letters "WIFI:").length = 5 := rfl
  have inert : ∀ part ∈ fields.map QrField.written ++ [[]], Escape.Inert (letter '\\') (letter ';') part := by
    intro part mem
    rcases List.mem_append.mp mem with written | last
    · obtain ⟨field, listed, rfl⟩ := List.mem_map.mp written
      exact (plain field listed).inert
    · rw [List.mem_singleton.mp last]
      exact .nil
  unfold parseWifiQr
  rw [List.take_left' start, List.drop_left' start, if_pos rfl, Escape.split_join inert, List.append_assoc]
  exact QrField.parseAll_written plain

theorem qrFields_plain (ssid : List CodePoint) (password : Option (List CodePoint)) :
    ∀ field ∈ qrFields ssid password, field.Plain := by
  have keyT (value : List CodePoint) : QrField.Plain ⟨letters "T", value⟩ :=
    List.forall_mem_singleton.mpr (by decide)
  have keyS (value : List CodePoint) : QrField.Plain ⟨letters "S", value⟩ :=
    List.forall_mem_singleton.mpr (by decide)
  have keyP (value : List CodePoint) : QrField.Plain ⟨letters "P", value⟩ :=
    List.forall_mem_singleton.mpr (by decide)
  unfold qrFields
  split <;> simp [keyT, keyS, keyP]

theorem wifiQrPayload_eq (ssid : List CodePoint) (password : Option (List CodePoint)) :
    wifiQrPayload ssid password =
      letters "WIFI:" ++ Escape.join (letter ';') ((qrFields ssid password).map QrField.written ++ [[]]) := by
  have nopass : letters "WIFI:T:nopass;S:" =
      letters "WIFI:" ++ (letters "T" ++ letter ':' :: esc (letters "nopass")) ++
        letter ';' :: (letters "S" ++ [letter ':']) := by
    decide +kernel
  have wpa : letters "WIFI:T:WPA;S:" =
      letters "WIFI:" ++ (letters "T" ++ letter ':' :: esc (letters "WPA")) ++
        letter ';' :: (letters "S" ++ [letter ':']) := by
    decide +kernel
  have key : letters ";P:" = letter ';' :: (letters "P" ++ [letter ':']) := rfl
  have ended : letters ";;" = [letter ';', letter ';'] := rfl
  unfold wifiQrPayload qrFields
  split
  · rw [nopass, ended]
    simp [QrField.written, Escape.join]
  · rw [nopass, ended]
    simp [QrField.written, Escape.join]
  · rw [wpa, key, ended]
    simp [QrField.written, Escape.join]

theorem wifiQrPayload_unambiguous :
    (∀ (ssid : List CodePoint) (password : Option (List CodePoint)),
      parseWifiQr (wifiQrPayload ssid password) = some (qrFields ssid password)) ∧
      Function.Injective fun network : List CodePoint × { password : List CodePoint // password ≠ [] } =>
        wifiQrPayload network.1 (some network.2) := by
  have reads (ssid : List CodePoint) (password : Option (List CodePoint)) :
      parseWifiQr (wifiQrPayload ssid password) = some (qrFields ssid password) := by
    rw [wifiQrPayload_eq]
    exact parseWifiQr_join (qrFields_plain ssid password)
  refine ⟨reads, ?_⟩
  rintro ⟨ssid, password, some⟩ ⟨otherSsid, otherPassword, otherSome⟩ same
  have fields := congrArg parseWifiQr same
  dsimp only at fields
  rw [reads, reads] at fields
  cases password with
  | nil => exact absurd rfl some
  | cons first password =>
      cases otherPassword with
      | nil => exact absurd rfl otherSome
      | cons otherFirst otherPassword =>
          simp only [qrFields, Option.some.injEq, List.cons.injEq, QrField.mk.injEq, true_and, and_true] at fields
          obtain ⟨sameSsid, sameFirst, samePassword⟩ := fields
          rw [sameSsid]
          simp only [sameFirst, samePassword]

end Wqm1.Network
