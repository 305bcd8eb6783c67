import Wqm1.Radio.Downlink

/-! Which bytes of an accepted downlink are read as MAC commands or as payload. -/

set_option autoImplicit false

namespace Wqm1.Radio

open Wqm1.Library

/-- How many bytes the command loop reads, and whether an unknown command ends it. The fuel
is at least the number of bytes left. -/
def commandRun : Nat → Bytes → Nat × Bool
  | 0, _ => (0, false)
  | _ + 1, [] => (0, false)
  | fuel + 1, cid :: rest =>
      match macReqLen cid with
      | none => (1, true)
      | some length =>
          if rest.length < length then (1 + rest.length, false)
          else
            let later := commandRun fuel (rest.drop length)
            (1 + length + later.1, later.2)

def commandsRead (cmds : Bytes) : Nat := (commandRun cmds.length cmds).1

def endsUnknown (cmds : Bytes) : Bool := (commandRun cmds.length cmds).2

theorem commandRun_le (fuel : Nat) (cmds : Bytes) : (commandRun fuel cmds).1 ≤ cmds.length := by
  induction fuel generalizing cmds with
  | zero => exact Nat.zero_le _
  | succ fuel ih =>
      cases cmds with
      | nil => exact le_rfl
      | cons cid rest =>
          rw [commandRun, List.length_cons]
          split
          next => simp
          next length _ =>
            split
            next =>
              dsimp only
              omega
            next complete =>
              have later := ih (rest.drop length)
              rw [List.length_drop] at later
              dsimp only
              omega

/-- The command loop looks at no other byte than those it is said to read. -/
theorem handleMacCommands_read (snr : Option Rat) (cmds : Bytes) (mac : Mac) :
    mac.handleMacCommands snr (cmds.take (commandsRead cmds)) = mac.handleMacCommands snr cmds := by
  suffices same : ∀ fuel, ∀ {cmds : Bytes} {mac : Mac}, cmds.length ≤ fuel →
      mac.handleMacCommands snr (cmds.take (commandRun fuel cmds).1) = mac.handleMacCommands snr cmds from
    same cmds.length le_rfl
  intro fuel
  induction fuel with
  | zero =>
      intro cmds mac none_left
      obtain rfl := List.eq_nil_of_length_eq_zero (Nat.le_zero.mp none_left)
      rfl
  | succ fuel ih =>
      intro cmds mac enough
      cases cmds with
      | nil => rfl
      | cons cid rest =>
          rw [List.length_cons, Nat.add_le_add_iff_right] at enough
          rw [commandRun]
          cases known : macReqLen cid with
          | none =>
              dsimp only
              rw [List.take_succ_cons, Mac.handleMacCommands_cons, Mac.handleMacCommands_cons, known]
          | some length =>
              dsimp only
              split
              next => rw [List.take_of_length_le (by rw [List.length_cons]; omega)]
              next complete =>
                have later : (rest.drop length).length ≤ fuel := by
                  rw [List.length_drop]
                  omega
                have read := commandRun_le fuel (rest.drop length)
                rw [List.length_drop] at read
                have taken : (cid :: rest).take (1 + length + (commandRun fuel (rest.drop length)).1) =
                    cid :: rest.take (length + (commandRun fuel (rest.drop length)).1) := by
                  rw [Nat.add_assoc, Nat.add_comm 1]
                  rfl
                rw [taken, Mac.handleMacCommands_cons, Mac.handleMacCommands_cons, known]
                dsimp only
                rw [if_neg (by rw [List.length_take]; omega), if_neg complete, List.take_take,
                  Nat.min_eq_left (Nat.le_add_right _ _), List.drop_take, Nat.add_sub_cancel_left]
                exact ih later

theorem commandRun_pos {fuel : Nat} {cmds : Bytes} (some_byte : cmds ≠ []) (enough : cmds.length ≤ fuel) :
    0 < (commandRun fuel cmds).1 := by
  cases cmds with
  | nil => exact absurd rfl some_byte
  | cons cid rest =>
      obtain ⟨fuel, rfl⟩ := Nat.exists_eq_add_one_of_ne_zero (n := fuel) (by rintro rfl; simp at enough)
      rw [commandRun]
      split
      next => exact Nat.one_pos
      next =>
        dsimp only
        split <;> (dsimp only; omega)

/-- An unknown command hides what follows. -/
theorem commandRun_append_of_unknown {fuel more : Nat} {cmds : Bytes} (rest : Bytes)
    (enough : (cmds ++ rest).length ≤ more) (unknown : (commandRun fuel cmds).2 = true) :
    commandRun more (cmds ++ rest) = commandRun fuel cmds := by
  induction fuel generalizing more cmds with
  | zero => cases unknown
  | succ fuel ih =>
      cases cmds with
      | nil => cases unknown
      | cons cid args =>
          obtain ⟨more, rfl⟩ := Nat.exists_eq_add_one_of_ne_zero (n := more) (by rintro rfl; simp at enough)
          rw [List.cons_append, List.length_cons, Nat.add_le_add_iff_right] at enough
          rw [commandRun] at unknown
          rw [List.cons_append, commandRun, commandRun]
          cases known : macReqLen cid with
          | none => rfl
          | some length =>
              rw [known] at unknown
              dsimp only at unknown ⊢
              by_cases cut : args.length < length
              · rw [if_pos cut] at unknown
                cases unknown
              · rw [if_neg cut] at unknown ⊢
                have complete : ¬(args ++ rest).length < length := by
                  rw [List.length_append]
                  omega
                have dropped : (args ++ rest).drop length = args.drop length ++ rest :=
                  List.drop_append_of_le_length (not_lt.mp cut)
                have fits : (args.drop length ++ rest).length ≤ more := by
                  rw [← dropped, List.length_drop]
                  omega
                rw [if_neg complete, dropped, ih fits unknown]

/-- Without one, the commands read on. -/
theorem lt_commandRun_append {fuel more : Nat} {cmds rest : Bytes} (some_byte : rest ≠ [])
    (enough : (cmds ++ rest).length ≤ more) (fits : cmds.length ≤ fuel) (unending : (commandRun fuel cmds).2 = false) :
    cmds.length < (commandRun more (cmds ++ rest)).1 := by
  have positive := List.length_pos_of_ne_nil some_byte
  induction fuel generalizing more cmds with
  | zero =>
      obtain rfl := List.eq_nil_of_length_eq_zero (Nat.le_zero.mp fits)
      exact commandRun_pos some_byte enough
  | succ fuel ih =>
      cases cmds with
      | nil => exact commandRun_pos some_byte enough
      | cons cid args =>
          obtain ⟨more, rfl⟩ := Nat.exists_eq_add_one_of_ne_zero (n := more) (by rintro rfl; simp at enough)
          rw [List.cons_append, List.length_cons, Nat.add_le_add_iff_right] at enough
          rw [List.length_cons, Nat.add_le_add_iff_right] at fits
          rw [commandRun] at unending
          rw [List.cons_append, List.length_cons, commandRun]
          rw [List.length_append] at enough
          cases known : macReqLen cid with
          | none =>
              rw [known] at unending
              cases unending
          | some length =>
              rw [known] at unending
              dsimp only at unending ⊢
              by_cases cut : (args ++ rest).length < length
              · rw [if_pos cut, List.length_append]
                dsimp only
                omega
              · rw [if_neg cut]
                dsimp only
                by_cases short : args.length < length
                · omega
                · rw [if_neg short] at unending
                  have dropped : (args ++ rest).drop length = args.drop length ++ rest :=
                    List.drop_append_of_le_length (not_lt.mp short)
                  have shorter : (args.drop length).length = args.length - length := List.length_drop
                  have later := @ih more (args.drop length) (by rw [List.length_append]; omega) (by omega) unending
                  rw [dropped]
                  omega

namespace Mac

/-- The positions in a downlink of the bytes that are read as MAC commands, in the frame
options, and as FPort and payload; port 0 reads the payload as commands. -/
def interpreted (data : Bytes) : List Nat :=
  let foptsLen := (data.getD 5 0 &&& 0x0F).toNat
  let body := data.take (data.length - 4)
  let headerLen := 8 + foptsLen
  List.range' 8 (if foptsLen = 0 then 0 else commandsRead (slice data 8 headerLen)) ++
    List.range' headerLen (body.length - headerLen)

/-- What is interpreted is authenticated, and none of it is of the header. -/
def InterpretsBody (data : Bytes) : Prop :=
  ∀ position ∈ interpreted data, 8 ≤ position ∧ position < data.length - 4

variable {crypto : Crypto} {data : Bytes} {mac : Mac}

/-- Only the bytes read as commands in the frame options can lie outside. -/
theorem interpretsBody_iff_read (long : 8 ≤ data.length - 4) :
    InterpretsBody data ↔ ((data.getD 5 0 &&& 0x0F).toNat ≠ 0 →
      commandsRead (slice data 8 (8 + (data.getD 5 0 &&& 0x0F).toNat)) ≤ data.length - 4 - 8) := by
  unfold InterpretsBody interpreted
  dsimp only
  generalize (data.getD 5 0 &&& 0x0F).toNat = foptsLen
  generalize commandsRead (slice data 8 (8 + foptsLen)) = read
  simp only [List.mem_append, List.mem_range'_1, List.length_take]
  constructor
  · intro within present
    by_contra further
    have last := within (data.length - 4) (.inl (by rw [if_neg present]; omega))
    omega
  · intro few position member
    by_cases absent : foptsLen = 0
    · rw [if_pos absent] at member
      omega
    · have fits := few absent
      rw [if_neg absent] at member
      omega

theorem slice_beyond {foptsLen : Nat} (long : 12 ≤ data.length) (beyond : ¬ 8 + foptsLen ≤ data.length - 4) :
    ∃ mic, mic ≠ [] ∧ slice data 8 (8 + foptsLen) = slice data 8 (data.length - 4) ++ mic := by
  have parts : 8 + foptsLen - 8 = (data.length - 4 - 8) + (foptsLen - (data.length - 4 - 8)) := by omega
  refine ⟨((data.drop 8).drop (data.length - 4 - 8)).take (foptsLen - (data.length - 4 - 8)), ?_, ?_⟩
  · apply List.ne_nil_of_length_pos
    rw [List.length_take, List.length_drop, List.length_drop]
    omega
  · unfold slice
    rw [parts, List.take_add]

/-- An accepted downlink is interpreted within its authenticated part if and only if its
frame options end there, or an unknown command ends them there. -/
theorem interprets_body_iff {fcnt : Nat} (verified : mac.verifyDownlink crypto data = some fcnt) :
    InterpretsBody data ↔
      8 + (data.getD 5 0 &&& 0x0F).toNat ≤ data.length - 4 ∨ endsUnknown (slice data 8 (data.length - 4)) = true := by
  have long := (verifyDownlink_eq_some.mp verified).1
  rw [interpretsBody_iff_read (by omega)]
  have cut : (slice data 8 (data.length - 4)).length = data.length - 4 - 8 := by
    rw [length_slice]
    omega
  by_cases inside : 8 + (data.getD 5 0 &&& 0x0F).toNat ≤ data.length - 4
  · refine iff_of_true (fun _ => ?_) (.inl inside)
    have read : commandsRead (slice data 8 (8 + (data.getD 5 0 &&& 0x0F).toNat)) ≤ _ := commandRun_le _ _
    rw [length_slice] at read
    exact read.trans (by omega)
  · obtain ⟨beyond, some_byte, whole⟩ := slice_beyond long inside
    have present : (data.getD 5 0 &&& 0x0F).toNat ≠ 0 := by omega
    rw [or_iff_right inside]
    constructor
    · intro within
      by_contra known
      have further := lt_commandRun_append some_byte le_rfl le_rfl (Bool.eq_false_iff.mpr known)
      have read := within present
      unfold commandsRead at read
      rw [whole] at read
      omega
    · intro unknown _
      have read := commandRun_le (slice data 8 (data.length - 4)).length (slice data 8 (data.length - 4))
      unfold commandsRead
      rw [whole, commandRun_append_of_unknown beyond le_rfl unknown]
      omega

/-- A frame with a DevStatusReq in its frame options. -/
def statusFrame : Bytes :=
  let body : Bytes := [mhdrUnconfirmedDown, 0, 0, 0, 0, 0x01, 0, 0, cidDevStatus]
  body ++ Crypto.aes.computeFrameMic (.zero 16) (.zero 4) 0 body .downlink

theorem interprets_body_statusFrame : InterpretsBody statusFrame :=
  (interprets_body_iff (show (Mac.initial ⟨.zero 8, .zero 8, .zero 16, 2⟩ []).verifyDownlink Crypto.aes statusFrame =
    some 0 by decide +kernel)).mpr (.inl (by decide +kernel))

/-- A frame without room for its four bytes of frame options: the unit reads its MIC instead. -/
def shortFrame : Bytes :=
  let body : Bytes := [mhdrUnconfirmedDown, 0, 0, 0, 0, 0x04, 0, 0]
  body ++ Crypto.aes.computeFrameMic (.zero 16) (.zero 4) 0 body .downlink

theorem short_frame_reads_mic : ¬ ∀ (crypto : Crypto) (data : Bytes) (mac : Mac) (fcnt : Nat),
    mac.verifyDownlink crypto data = some fcnt → InterpretsBody data := by
  intro claimed
  have interprets := claimed Crypto.aes shortFrame (Mac.initial ⟨.zero 8, .zero 8, .zero 16, 2⟩ []) 0 (by decide +kernel)
  have outside : interpreted shortFrame ≠ [] ∧ shortFrame.length = 12 := by decide +kernel
  obtain ⟨position, member⟩ := List.exists_mem_of_ne_nil _ outside.1
  have within := interprets position member
  omega

end Mac

end Wqm1.Radio
