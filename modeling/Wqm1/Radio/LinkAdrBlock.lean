import Wqm1.Radio.MacCommands

/-! A block of contiguous LinkADRReq commands as the specification reads it, one
working mask and one verdict, against the MAC layer's handling of one request
after another. -/

set_option autoImplicit false

namespace Wqm1.Radio

open Wqm1.Library

namespace ChannelMask

theorem get_ofFn (channel : Nat → Bool) {index : Nat} (inside : index < us915NumChannels) :
    (ofFn channel).get index = channel index := by
  simp [get, ofFn, inside]

theorem ext_get {left right : ChannelMask}
    (same : ∀ channel < us915NumChannels, left.get channel = right.get channel) : left = right := by
  refine ChannelMask.ext (List.ext_getElem (left.length_eq.trans right.length_eq.symm) ?_)
  intro channel inLeft inRight
  have agrees := same channel (left.length_eq ▸ inLeft)
  simpa [get, inLeft, inRight] using agrees

theorem set_eq_some (mask : ChannelMask) (on : Bool) {index : Nat} (inside : index < us915NumChannels) :
    ∃ written, mask.set index on = some written ∧
      ∀ channel, written.get channel = if channel = index then on else mask.get channel := by
  refine ⟨_, if_pos inside, fun channel => ?_⟩
  have long : index < mask.enabled.length := mask.length_eq.symm ▸ inside
  simp only [get, List.getD_eq_getElem?_getD, List.getElem?_set, long, if_true]
  by_cases here : channel = index
  · simp [here]
  · simp [here, Ne.symm here]

end ChannelMask

namespace LinkAdrBlock

variable {req : LinkAdrReq} {mask : ChannelMask} {mac : Mac}

/-- What a request makes of the working mask: 16 channels for the control values 0 to 3,
the 500 kHz channels for 4, all 125 kHz channels at once for 6 and 7; 5 is not supported. -/
def applied (req : LinkAdrReq) (mask : ChannelMask) : Option ChannelMask :=
  if req.chMaskCntl ≤ 3 then
    some (.ofFn fun channel =>
      if channel / 16 = req.chMaskCntl then req.chMask.testBit (channel % 16) else mask.get channel)
  else if req.chMaskCntl = 4 then
    some (.ofFn fun channel =>
      if 64 ≤ channel then req.chMask.testBit (channel - 64) else mask.get channel)
  else if req.chMaskCntl = 6 ∨ req.chMaskCntl = 7 then
    some (.ofFn fun channel =>
      if channel < 64 then req.chMaskCntl == 6 else req.chMask.testBit (channel - 64))
  else none

/-- The requests of a block applied in order to one working mask. -/
def workingMask (block : List LinkAdrReq) (mask : ChannelMask) : Option ChannelMask :=
  block.foldlM (fun mask req => applied req mask) mask

/-- The verdict on the block that ends in `last`: the mask is judged when all requests are
applied, data rate and power are those of the last request. -/
def blockStatus (earlier : List LinkAdrReq) (last : LinkAdrReq) (mask : ChannelMask) : Nat :=
  linkAdrStatus ((workingMask (earlier ++ [last]) mask).any ChannelMask.any125k) last.drOk last.powerOk

def queueAnswers (answers : List Bytes) (mac : Mac) : Mac :=
  { mac with
    pendingFOpts := mac.pendingFOpts ++ answers.flatten
    history := answers.reverse.map .answerQueued ++ mac.history }

/-- The block as one command: all of it is applied or nothing, and every request gets the
same answer. -/
def atomic (earlier : List LinkAdrReq) (last : LinkAdrReq) (mac : Mac) : Mac :=
  let status := blockStatus earlier last mac.channelMask
  let settled :=
    if status = 0x07 then
      { mac with
        channelMask := (workingMask (earlier ++ [last]) mac.channelMask).getD mac.channelMask
        sf := if last.dr = 0x0F then mac.sf else (SpreadingFactor.ofUplinkDr last.dr).getD mac.sf }
    else mac
  queueAnswers (List.replicate (earlier.length + 1) [cidLinkAdr, UInt8.ofNat status]) settled

/-- The requests as the MAC layer handles them, one after another; one that raises is skipped. -/
def inTurn (block : List LinkAdrReq) (mac : Mac) : Mac :=
  block.foldl (fun mac req => (mac.answerLinkAdr req).getD mac) mac

/-- The commands of a block. -/
def commands (block : List (FixedBytes 4)) : List MacRequest :=
  block.map fun args => ⟨cidLinkAdr, args.bytes, args.length_eq.symm ▸ rfl⟩

def requests (block : List (FixedBytes 4)) : List LinkAdrReq :=
  block.map fun args => .ofArgs args.bytes

/-- The requests of a block reach the MAC layer in turn. -/
theorem handleMacCommands_block (snr : Option Rat) (block : List (FixedBytes 4)) (mac : Mac) :
    mac.handleMacCommands snr (MacRequest.bytes (commands block)) = inTurn (requests block) mac := by
  have handled := Mac.handleMacCommands_append snr (commands block) [] mac
  rw [List.append_nil, Mac.handleMacCommands_nil] at handled
  rw [handled, commands, inTurn, requests, List.foldl_map, List.foldl_map]
  rfl

private theorem foldlM_set {bits : Nat} (few : bits ≤ 16) (low : req.chMaskCntl ≤ 3) :
    (List.range bits).foldlM (fun (mask : ChannelMask) bit =>
      mask.set (req.chMaskCntl * 16 + bit) (req.chMask.testBit bit)) mask =
      some (.ofFn fun channel =>
        if channel / 16 = req.chMaskCntl ∧ channel % 16 < bits then req.chMask.testBit (channel % 16)
        else mask.get channel) := by
  induction bits with
  | zero =>
      have same : mask = .ofFn fun channel => mask.get channel := ChannelMask.ext_get fun channel inside =>
        (ChannelMask.get_ofFn _ inside).symm
      simpa using same
  | succ bits ih =>
      rw [List.range_succ, List.foldlM_append, ih (Nat.le_of_succ_le few)]
      have inside : req.chMaskCntl * 16 + bits < us915NumChannels := by
        simp only [us915NumChannels, us915Num125kChannels, us915Num500kChannels]
        omega
      obtain ⟨written, set, gets⟩ := ChannelMask.set_eq_some
        (.ofFn fun channel => if channel / 16 = req.chMaskCntl ∧ channel % 16 < bits then
          req.chMask.testBit (channel % 16) else mask.get channel) (req.chMask.testBit bits) inside
      simp only [List.foldlM_cons, List.foldlM_nil, Option.bind_eq_bind, Option.bind_some, set]
      refine congrArg some (ChannelMask.ext_get fun channel known => ?_)
      rw [gets, ChannelMask.get_ofFn _ known, ChannelMask.get_ofFn _ known]
      by_cases here : channel = req.chMaskCntl * 16 + bits
      · have block : channel / 16 = req.chMaskCntl := by omega
        have bit : channel % 16 = bits := by omega
        rw [if_pos here, if_pos ⟨block, bit.trans_lt (Nat.lt_succ_self bits)⟩, bit]
      · have elsewhere : channel / 16 = req.chMaskCntl ∧ channel % 16 < bits + 1 ↔
            channel / 16 = req.chMaskCntl ∧ channel % 16 < bits := by omega
        simp only [if_neg here, elsewhere]

private theorem foldlM_set_none (past : req.chMaskCntl = 4) (bits : List Nat) (beyond : 8 ∈ bits) :
    bits.foldlM (fun (mask : ChannelMask) bit =>
      mask.set (req.chMaskCntl * 16 + bit) (req.chMask.testBit bit)) mask = none := by
  induction bits generalizing mask with
  | nil => cases beyond
  | cons bit bits ih =>
      rw [List.foldlM_cons]
      rcases List.mem_cons.mp beyond with rfl | later
      · have outside : ¬req.chMaskCntl * 16 + 8 < us915NumChannels := by rw [past]; decide
        simp [ChannelMask.set, outside]
      · cases mask.set (req.chMaskCntl * 16 + bit) (req.chMask.testBit bit) with
        | none => rfl
        | some written => exact ih later

/-- The control value 4 always raises; the others do what the specification says. -/
theorem newMask_eq (known : req.chMaskCntl ≠ 4) :
    req.newMask mask = some ((applied req mask).getD mask, (applied req mask).isSome) := by
  unfold LinkAdrReq.newMask applied
  by_cases low : req.chMaskCntl ≤ 3
  · have most : req.chMaskCntl ≤ 4 := Nat.le_succ_of_le low
    have all (channel : Nat) : channel / 16 = req.chMaskCntl ∧ channel % 16 < 16 ↔
        channel / 16 = req.chMaskCntl := by omega
    rw [if_pos most, if_pos low, foldlM_set le_rfl low]
    simp only [all]
    rfl
  · have high : ¬req.chMaskCntl ≤ 4 := by omega
    rw [if_neg high, if_neg low, if_neg known]
    split <;> rfl

theorem newMask_eq_none (past : req.chMaskCntl = 4) : req.newMask mask = none := by
  rw [LinkAdrReq.newMask, if_pos past.le, foldlM_set_none past _ (by decide)]
  rfl

/-- The verdict on a request alone. -/
def status (req : LinkAdrReq) (mask : ChannelMask) : Nat :=
  linkAdrStatus ((applied req mask).any ChannelMask.any125k) req.drOk req.powerOk

/-- The spreading factor after a request that is accepted. -/
def newSf (sf : SpreadingFactor) (req : LinkAdrReq) : SpreadingFactor :=
  if req.dr = 0x0F then sf else (SpreadingFactor.ofUplinkDr req.dr).getD sf

def answer (status : Nat) : Bytes := [cidLinkAdr, UInt8.ofNat status]

/-- One request on a mask and a spreading factor. -/
def advance (plan : ChannelMask × SpreadingFactor) (req : LinkAdrReq) : ChannelMask × SpreadingFactor :=
  if status req plan.1 = 0x07 then ((applied req plan.1).getD plan.1, newSf plan.2 req) else plan

def statuses : List LinkAdrReq → ChannelMask × SpreadingFactor → List Nat
  | [], _ => []
  | req :: rest, plan => status req plan.1 :: statuses rest (advance plan req)

def withPlan (plan : ChannelMask × SpreadingFactor) (mac : Mac) : Mac :=
  { mac with channelMask := plan.1, sf := plan.2 }

/-- When the requests in turn come to the same as the block. -/
def TreatedAsOne (earlier : List LinkAdrReq) (last : LinkAdrReq) (mac : Mac) : Prop :=
  let block := earlier ++ [last]
  (∀ req ∈ block, req.chMaskCntl ≠ 4) ∧
    mac.pendingFOpts.length + 2 * block.length ≤ maxFOptsLen ∧
    if blockStatus earlier last mac.channelMask = 0x07 then
      (∀ req ∈ block, req.drOk = true ∧ req.powerOk = true) ∧
      (∀ count < block.length,
        (workingMask (block.take (count + 1)) mac.channelMask).any ChannelMask.any125k = true) ∧
      (last.dr ≠ 0x0F ∨ earlier.foldl newSf mac.sf = mac.sf)
    else ∀ req ∈ block, status req mac.channelMask = blockStatus earlier last mac.channelMask

theorem linkAdrStatus_lt (maskOk drOk powerOk : Bool) : linkAdrStatus maskOk drOk powerOk < 8 := by
  cases maskOk <;> cases drOk <;> cases powerOk <;> decide

theorem answerLinkAdr_eq (known : req.chMaskCntl ≠ 4) : mac.answerLinkAdr req = some
    ((withPlan (advance (mac.channelMask, mac.sf) req) mac).queueAnswer
      (answer (status req mac.channelMask))) := by
  have judged : ((applied req mac.channelMask).isSome &&
      ((applied req mac.channelMask).getD mac.channelMask).any125k) =
        (applied req mac.channelMask).any ChannelMask.any125k := by
    cases applied req mac.channelMask <;> rfl
  simp only [Mac.answerLinkAdr, newMask_eq known, Option.map_some, judged, advance, withPlan, newSf,
    status, answer]
  split <;> rfl

private theorem queueAnswer_eq {answer : Bytes}
    (fits : mac.pendingFOpts.length + answer.length ≤ maxFOptsLen) :
    mac.queueAnswer answer = queueAnswers [answer] mac := by
  simp [Mac.queueAnswer, queueAnswers, fits]

/-- With room for every answer, the requests in turn queue one answer each. -/
theorem inTurn_eq {block : List LinkAdrReq} (known : ∀ req ∈ block, req.chMaskCntl ≠ 4)
    (fits : mac.pendingFOpts.length + 2 * block.length ≤ maxFOptsLen) :
    inTurn block mac = queueAnswers ((statuses block (mac.channelMask, mac.sf)).map answer)
      (withPlan (block.foldl advance (mac.channelMask, mac.sf)) mac) := by
  induction block generalizing mac with
  | nil => simp [inTurn, queueAnswers, statuses, withPlan]
  | cons req rest ih =>
      have room : mac.pendingFOpts.length + 2 ≤ maxFOptsLen := by
        rw [List.length_cons] at fits
        omega
      let after := queueAnswers [answer (status req mac.channelMask)]
        (withPlan (advance (mac.channelMask, mac.sf) req) mac)
      have first : (mac.answerLinkAdr req).getD mac = after := by
        rw [answerLinkAdr_eq (known req List.mem_cons_self), Option.getD_some]
        exact queueAnswer_eq room
      have later : after.pendingFOpts.length + 2 * rest.length ≤ maxFOptsLen := by
        have longer : after.pendingFOpts.length = mac.pendingFOpts.length + 2 := by
          simp [after, queueAnswers, withPlan, answer]
        rw [longer]
        rw [List.length_cons] at fits
        omega
      rw [inTurn, List.foldl_cons, first]
      refine (ih (fun req member => known req (List.mem_cons_of_mem _ member)) later).trans ?_
      simp [after, queueAnswers, withPlan, statuses]

private theorem queued_one (req : LinkAdrReq) (mac : Mac) :
    let after := (mac.answerLinkAdr req).getD mac
    after.pendingFOpts.length = mac.pendingFOpts.length ∨ req.chMaskCntl ≠ 4 ∧
      after.pendingFOpts.length = mac.pendingFOpts.length + 2 ∧
      after.pendingFOpts.length ≤ maxFOptsLen := by
  by_cases past : req.chMaskCntl = 4
  · left
    simp [Mac.answerLinkAdr, newMask_eq_none past]
  · dsimp only
    rw [answerLinkAdr_eq past, Option.getD_some, Mac.queueAnswer]
    split
    · next fits => exact .inr ⟨past, by simp [withPlan, answer], by simpa [withPlan, answer] using fits⟩
    · exact .inl rfl

private theorem queued_le (block : List LinkAdrReq) (mac : Mac) :
    (inTurn block mac).pendingFOpts.length ≤ mac.pendingFOpts.length + 2 * block.length := by
  induction block generalizing mac with
  | nil => exact le_rfl
  | cons req rest ih =>
      have later := ih ((mac.answerLinkAdr req).getD mac)
      have one := queued_one req mac
      rw [inTurn, List.foldl_cons, List.length_cons]
      rw [inTurn] at later
      omega

private theorem queued_all {block : List LinkAdrReq} (some_request : block ≠ [])
    (all : (inTurn block mac).pendingFOpts.length = mac.pendingFOpts.length + 2 * block.length) :
    (∀ req ∈ block, req.chMaskCntl ≠ 4) ∧
      mac.pendingFOpts.length + 2 * block.length ≤ maxFOptsLen := by
  induction block generalizing mac with
  | nil => exact absurd rfl some_request
  | cons req rest ih =>
      have later := queued_le rest ((mac.answerLinkAdr req).getD mac)
      have one := queued_one req mac
      rw [inTurn, List.foldl_cons, List.length_cons] at all
      rw [inTurn] at later
      dsimp only at one
      obtain ⟨known, longer, fits⟩ := one.resolve_left (by omega)
      by_cases done : rest = []
      · subst done
        exact ⟨by simpa using known, by simpa [longer] using fits⟩
      · have remaining : (inTurn rest ((mac.answerLinkAdr req).getD mac)).pendingFOpts.length =
            ((mac.answerLinkAdr req).getD mac).pendingFOpts.length + 2 * rest.length := by
          rw [inTurn]
          omega
        obtain ⟨others, room⟩ := ih done remaining
        refine ⟨fun other member => ?_, by rw [List.length_cons]; omega⟩
        rcases List.mem_cons.mp member with rfl | inRest
        · exact known
        · exact others other inRest

private theorem advance_accepted (sf : SpreadingFactor) {newMask : ChannelMask}
    (result : applied req mask = some newMask) (accepted : status req mask = 0x07) :
    advance (mask, sf) req = (newMask, newSf sf req) := by
  simp only [advance, if_pos accepted, result, Option.getD_some]

private theorem workingMask_cons (req : LinkAdrReq) (rest : List LinkAdrReq) (mask : ChannelMask) :
    workingMask (req :: rest) mask = (applied req mask).bind (workingMask rest) := rfl

theorem statuses_lt {block : List LinkAdrReq} {plan : ChannelMask × SpreadingFactor} :
    ∀ status ∈ statuses block plan, status < 8 := by
  induction block generalizing plan with
  | nil => exact nofun
  | cons req rest ih =>
      intro status member
      rcases List.mem_cons.mp member with rfl | later
      · exact linkAdrStatus_lt ..
      · exact ih status later

/-- All requests are accepted exactly when each has a supported data rate and power and
leaves a 125 kHz channel to the working mask. -/
theorem statuses_accepted (sf : SpreadingFactor) {block : List LinkAdrReq} {mask : ChannelMask} :
    statuses block (mask, sf) = List.replicate block.length 0x07 ↔
      (∀ req ∈ block, req.drOk = true ∧ req.powerOk = true) ∧
        ∀ count < block.length,
          (workingMask (block.take (count + 1)) mask).any ChannelMask.any125k = true := by
  induction block generalizing mask sf with
  | nil => simp [statuses]
  | cons req rest ih =>
      have verdict : status req mask = 0x07 ↔ (applied req mask).any ChannelMask.any125k = true ∧
          req.drOk = true ∧ req.powerOk = true := linkAdrStatus_eq_seven
      rw [statuses, List.length_cons, List.replicate_succ, List.cons.injEq, verdict]
      cases result : applied req mask with
      | none =>
          refine ⟨fun ⟨⟨usable, _⟩, _⟩ => (nomatch usable), fun ⟨_, masks⟩ => ?_⟩
          have first := masks 0 (Nat.succ_pos _)
          simp [workingMask_cons, result] at first
      | some newMask =>
          have whole (count : Nat) : workingMask ((req :: rest).take (count + 1)) mask =
              workingMask (rest.take count) newMask := by
            rw [List.take_succ_cons, workingMask_cons, result, Option.bind_some]
          simp only [whole, List.forall_mem_cons]
          rw [result] at verdict
          constructor
          · rintro ⟨⟨usable, rates, powers⟩, others⟩
            rw [advance_accepted sf result (verdict.mpr ⟨usable, rates, powers⟩)] at others
            obtain ⟨supported, masks⟩ := (ih _).mp others
            refine ⟨⟨⟨rates, powers⟩, supported⟩, fun count inside => ?_⟩
            cases count with
            | zero => exact usable
            | succ count => exact masks count (Nat.lt_of_succ_lt_succ inside)
          · rintro ⟨⟨⟨rates, powers⟩, supported⟩, masks⟩
            have usable : (some newMask).any ChannelMask.any125k = true := masks 0 (Nat.succ_pos _)
            rw [advance_accepted sf result (verdict.mpr ⟨usable, rates, powers⟩)]
            exact ⟨⟨usable, rates, powers⟩,
              (ih _).mpr ⟨supported, fun count inside => masks (count + 1) (Nat.succ_lt_succ inside)⟩⟩

/-- Where every request is accepted, the plan ends in the working mask. -/
theorem plan_accepted {block : List LinkAdrReq} {mask : ChannelMask} {sf : SpreadingFactor}
    (accepted : statuses block (mask, sf) = List.replicate block.length 0x07) :
    block.foldl advance (mask, sf) = ((workingMask block mask).getD mask, block.foldl newSf sf) := by
  induction block generalizing mask sf with
  | nil => rfl
  | cons req rest ih =>
      rw [statuses, List.length_cons, List.replicate_succ, List.cons.injEq] at accepted
      obtain ⟨first, others⟩ := accepted
      have usable := (linkAdrStatus_eq_seven.mp first).1
      cases result : applied req mask with
      | none => simp [result] at usable
      | some newMask =>
          have step : advance (mask, sf) req = (newMask, newSf sf req) := advance_accepted sf result first
          rw [step] at others
          have ended : (workingMask rest newMask).isSome := by
            have judged := ((statuses_accepted _).mp others).2
            cases rest with
            | nil => rfl
            | cons next later =>
                have final := judged later.length (Nat.lt_succ_self _)
                rw [List.take_of_length_le (by simp)] at final
                exact Option.isSome_of_any final
          obtain ⟨final, settled⟩ := Option.isSome_iff_exists.mp ended
          rw [List.foldl_cons, step, ih others, workingMask_cons, result, Option.bind_some, settled]
          rfl

/-- Where no request is accepted, each is judged alone on the old mask. -/
theorem statuses_rejected {block : List LinkAdrReq} {plan : ChannelMask × SpreadingFactor} {verdict : Nat}
    (rejected : verdict ≠ 0x07) :
    statuses block plan = List.replicate block.length verdict ↔
      ∀ req ∈ block, status req plan.1 = verdict := by
  induction block with
  | nil => simp [statuses]
  | cons req rest ih =>
      rw [statuses, List.length_cons, List.replicate_succ, List.cons.injEq, List.forall_mem_cons]
      refine and_congr_right fun same => ?_
      have still : advance plan req = plan := by rw [advance, if_neg (same ▸ rejected)]
      rw [still, ih]

theorem plan_rejected {block : List LinkAdrReq} {plan : ChannelMask × SpreadingFactor} {verdict : Nat}
    (rejected : verdict ≠ 0x07) (alone : ∀ req ∈ block, status req plan.1 = verdict) :
    block.foldl advance plan = plan := by
  induction block with
  | nil => rfl
  | cons req rest ih =>
      rw [List.forall_mem_cons] at alone
      have still : advance plan req = plan := by rw [advance, if_neg (alone.1 ▸ rejected)]
      rw [List.foldl_cons, still]
      exact ih alone.2

/-- What the block as one command makes of mask and spreading factor. -/
private def blockPlan (earlier : List LinkAdrReq) (last : LinkAdrReq) (mac : Mac) :
    ChannelMask × SpreadingFactor :=
  if blockStatus earlier last mac.channelMask = 0x07 then
    ((workingMask (earlier ++ [last]) mac.channelMask).getD mac.channelMask, newSf mac.sf last)
  else (mac.channelMask, mac.sf)

private theorem atomic_eq (earlier : List LinkAdrReq) (last : LinkAdrReq) (mac : Mac) :
    atomic earlier last mac = queueAnswers
      (List.replicate (earlier.length + 1) (answer (blockStatus earlier last mac.channelMask)))
      (withPlan (blockPlan earlier last mac) mac) := by
  unfold atomic blockPlan
  dsimp only
  split <;> rfl

/-- The queued answers can be read off the history. -/
private theorem queueAnswers_inj {first second : List Bytes} {left right : ChannelMask × SpreadingFactor}
    (same : queueAnswers first (withPlan left mac) = queueAnswers second (withPlan right mac)) :
    first = second ∧ left = right := by
  have history := List.append_cancel_right (congrArg Mac.history same)
  have injective : Function.Injective MacEvent.answerQueued := fun _ _ equal =>
    MacEvent.answerQueued.inj equal
  exact ⟨List.reverse_injective (List.map_injective_iff.mpr injective history),
    Prod.ext (congrArg Mac.channelMask same) (congrArg Mac.sf same)⟩

private theorem answer_inj {left right : Nat} (leftSmall : left < 8) (rightSmall : right < 8)
    (same : answer left = answer right) : left = right := by
  have byte : UInt8.ofNat left = UInt8.ofNat right := by simpa [answer] using same
  have value := congrArg UInt8.toNat byte
  simp only [UInt8.toNat_ofNat'] at value
  omega

private theorem answers_eq_iff {block : List LinkAdrReq} {plan : ChannelMask × SpreadingFactor}
    {verdict count : Nat} (small : verdict < 8) :
    (statuses block plan).map answer = List.replicate count (answer verdict) ↔
      statuses block plan = List.replicate count verdict := by
  simp only [List.eq_replicate_iff, List.length_map, List.forall_mem_map]
  refine and_congr_right fun _ => forall₂_congr fun status member => ?_
  exact ⟨answer_inj (statuses_lt status member) small, congrArg answer⟩

/-- An earlier data rate is forgotten unless the last request keeps the current one. -/
private theorem newSf_last {last : LinkAdrReq} (supported : last.drOk = true)
    (before sf : SpreadingFactor) :
    newSf before last = newSf sf last ↔ last.dr ≠ 0x0F ∨ before = sf := by
  unfold newSf
  by_cases keeps : last.dr = 0x0F
  · simp [keeps]
  · have rates : last.dr = 1 ∨ last.dr = 2 ∨ last.dr = 3 := by
      simpa [LinkAdrReq.drOk, keeps, or_assoc] using supported
    rcases rates with rate | rate | rate <;> simp [rate, SpreadingFactor.ofUplinkDr]

/-- The requests in turn come to the same as the block exactly when `TreatedAsOne`. -/
theorem inTurn_eq_atomic_iff (earlier : List LinkAdrReq) (last : LinkAdrReq) (mac : Mac) :
    inTurn (earlier ++ [last]) mac = atomic earlier last mac ↔ TreatedAsOne earlier last mac := by
  have count : (earlier ++ [last]).length = earlier.length + 1 := by simp
  have small : blockStatus earlier last mac.channelMask < 8 := linkAdrStatus_lt ..
  have answered : (atomic earlier last mac).pendingFOpts.length =
      mac.pendingFOpts.length + 2 * (earlier ++ [last]).length := by
    rw [atomic_eq]
    simp [queueAnswers, withPlan, answer, Nat.mul_comm]
  have step (known : ∀ req ∈ earlier ++ [last], req.chMaskCntl ≠ 4)
      (fits : mac.pendingFOpts.length + 2 * (earlier ++ [last]).length ≤ maxFOptsLen) :
      inTurn (earlier ++ [last]) mac = atomic earlier last mac ↔
        statuses (earlier ++ [last]) (mac.channelMask, mac.sf) =
          List.replicate (earlier ++ [last]).length (blockStatus earlier last mac.channelMask) ∧
        (earlier ++ [last]).foldl advance (mac.channelMask, mac.sf) = blockPlan earlier last mac := by
    rw [inTurn_eq known fits, atomic_eq, count, ← answers_eq_iff small]
    exact ⟨queueAnswers_inj, fun ⟨answers, plan⟩ => by rw [answers, plan]⟩
  have judged (known : ∀ req ∈ earlier ++ [last], req.chMaskCntl ≠ 4)
      (fits : mac.pendingFOpts.length + 2 * (earlier ++ [last]).length ≤ maxFOptsLen) :
      inTurn (earlier ++ [last]) mac = atomic earlier last mac ↔
        if blockStatus earlier last mac.channelMask = 0x07 then
          (∀ req ∈ earlier ++ [last], req.drOk = true ∧ req.powerOk = true) ∧
          (∀ count < (earlier ++ [last]).length,
            (workingMask ((earlier ++ [last]).take (count + 1)) mac.channelMask).any
              ChannelMask.any125k = true) ∧
          (last.dr ≠ 0x0F ∨ earlier.foldl newSf mac.sf = mac.sf)
        else ∀ req ∈ earlier ++ [last],
          status req mac.channelMask = blockStatus earlier last mac.channelMask := by
    rw [step known fits, blockPlan]
    split
    · next accepted =>
      have supported : last.drOk = true := (linkAdrStatus_eq_seven.mp accepted).2.1
      rw [accepted, ← and_assoc, ← statuses_accepted mac.sf]
      refine and_congr_right fun all => ?_
      rw [plan_accepted all, List.foldl_append, Prod.mk.injEq, ← newSf_last supported]
      exact and_iff_right rfl
    · next rejected =>
      rw [statuses_rejected rejected]
      exact ⟨And.left, fun alone => ⟨alone, plan_rejected rejected alone⟩⟩
  constructor
  · intro same
    obtain ⟨known, fits⟩ := queued_all (List.concat_ne_nil last earlier)
      ((congrArg (fun mac => mac.pendingFOpts.length) same).trans answered)
    exact ⟨known, fits, (judged known fits).mp same⟩
  · rintro ⟨known, fits, verdict⟩
    exact (judged known fits).mpr verdict

/-- In every downlink, whatever commands stand before and after, a block of LinkADRReq
commands is handled as one atomic command exactly when `TreatedAsOne` holds of the state
that reaches it. -/
theorem link_adr_block_atomic_iff (snr : Option Rat) (before : List MacRequest)
    (earlier : List (FixedBytes 4)) (last : FixedBytes 4) (after : Bytes) (mac : Mac) :
    let block := MacRequest.bytes (commands (earlier ++ [last]))
    let reached := mac.handleMacCommands snr (MacRequest.bytes before)
    mac.handleMacCommands snr (MacRequest.bytes before ++ (block ++ after)) =
        (reached.handleMacCommands snr block).handleMacCommands snr after ∧
      (reached.handleMacCommands snr block =
          atomic (requests earlier) (.ofArgs last.bytes) reached ↔
        TreatedAsOne (requests earlier) (.ofArgs last.bytes) reached) := by
  have split (first : List MacRequest) (rest : Bytes) (mac : Mac) :
      mac.handleMacCommands snr (MacRequest.bytes first ++ rest) =
        (mac.handleMacCommands snr (MacRequest.bytes first)).handleMacCommands snr rest := by
    have whole := Mac.handleMacCommands_append snr first [] mac
    rw [List.append_nil, Mac.handleMacCommands_nil] at whole
    rw [whole, Mac.handleMacCommands_append]
  have block : requests (earlier ++ [last]) = requests earlier ++ [.ofArgs last.bytes] :=
    List.map_append
  dsimp only
  refine ⟨?_, ?_⟩
  · rw [split, split]
  · rw [handleMacCommands_block, block]
    exact inTurn_eq_atomic_iff ..

/-- The unit of sub-band 3 is moved to sub-band 2: all 125 kHz channels off, then 8 to 15 on. -/
def moveSubBand : List (FixedBytes 4) :=
  [.ofBytes 4 [0x30, 0x02, 0x00, 0x71], .ofBytes 4 [0x30, 0x00, 0xff, 0x01]]

/-- The first request is rejected and the second applied to the old mask: the answers
differ and the old channels stay on. -/
theorem moved_sub_band_keeps_old_channels :
    let mac := Mac.initial ⟨.zero 8, .zero 8, .zero 16, 3⟩ []
    let handled := mac.handleMacCommands none (MacRequest.bytes (commands moveSubBand))
    let block := atomic [.ofArgs [0x30, 0x02, 0x00, 0x71]] (.ofArgs [0x30, 0x00, 0xff, 0x01]) mac
    handled.pendingFOpts = [cidLinkAdr, 0x06, cidLinkAdr, 0x07] ∧
      block.pendingFOpts = [cidLinkAdr, 0x07, cidLinkAdr, 0x07] ∧
      handled.channelMask.channels = [8, 9, 10, 11, 12, 13, 14, 15, 16, 17, 18, 19, 20, 21, 22, 23] ∧
      block.channelMask.channels = [8, 9, 10, 11, 12, 13, 14, 15] ∧ handled ≠ block := by
  decide +kernel

end LinkAdrBlock

end Wqm1.Radio
