import Wqm1.Radio.LinkAdrBlock

/-! One LinkADRReq: its answer, and what it may change. -/

set_option autoImplicit false

namespace Wqm1.Radio

open Wqm1.Library LinkAdrBlock

/-- One answer with the request's status bits, as far as the frame options have room, and
no other plan unless all three bits are set. -/
structure Mac.AnswersLinkAdr (before : Mac) (req : LinkAdrReq) (after : Mac) : Prop where
  queued : after.pendingFOpts = before.pendingFOpts ++
    if before.pendingFOpts.length + 2 ≤ maxFOptsLen then answer (status req before.channelMask) else []
  channels : after.channelMask.enabled.length = us915NumChannels
  rejected : status req before.channelMask ≠ 0x07 →
    after.channelMask = before.channelMask ∧ after.sf = before.sf

namespace LinkAdrAnswer

variable {mac : Mac} {req : LinkAdrReq}

theorem answerLinkAdr_answers (known : req.chMaskCntl ≠ 4) :
    ∃ after, mac.answerLinkAdr req = some after ∧ mac.AnswersLinkAdr req after := by
  refine ⟨_, answerLinkAdr_eq known, ?_⟩
  let plan := advance (mac.channelMask, mac.sf) req
  have kept (answer : Bytes) : ((withPlan plan mac).queueAnswer answer).channelMask = plan.1 ∧
      ((withPlan plan mac).queueAnswer answer).sf = plan.2 := by
    unfold Mac.queueAnswer
    split <;> exact ⟨rfl, rfl⟩
  refine ⟨?_, ChannelMask.length_eq _, fun rejected => ?_⟩
  · have complete : Frame.IsMacAnswer (answer (status req mac.channelMask)) := ⟨cidLinkAdr, _, rfl, rfl⟩
    rw [(Mac.answered_queueAnswer complete).pendingFOpts]
    show mac.pendingFOpts ++ List.flatten (if mac.pendingFOpts.length + 2 ≤ maxFOptsLen then _ else []) = _
    split
    next => rw [List.flatten_singleton]
    next => rfl
  · have same : plan = (mac.channelMask, mac.sf) := if_neg rejected
    rw [(kept _).1, (kept _).2, same]
    exact ⟨rfl, rfl⟩

/-- The control value 4 raises, and no answer is queued. -/
theorem answerLinkAdr_raises (past : req.chMaskCntl = 4) : mac.answerLinkAdr req = none := by
  unfold Mac.answerLinkAdr
  rw [newMask_eq_none past]
  rfl

/-- In every state, a LinkADRReq is answered as it should be if and only if its control
value is not 4. -/
theorem link_adr_answered_iff (mac : Mac) (args : FixedBytes 4) :
    (∃ after, mac.handleLinkAdr args.bytes = some after ∧
      mac.AnswersLinkAdr (.ofArgs args.bytes) after) ↔
      (LinkAdrReq.ofArgs args.bytes).chMaskCntl ≠ 4 := by
  constructor
  · rintro ⟨after, handled, _⟩ past
    cases (answerLinkAdr_raises past).symm.trans handled
  · exact answerLinkAdr_answers

/-- All 500 kHz channels are to be switched on. -/
theorem wide_channels_unanswered : ¬ ∀ (mac : Mac) (args : FixedBytes 4),
    ∃ after, mac.handleLinkAdr args.bytes = some after ∧ mac.AnswersLinkAdr (.ofArgs args.bytes) after := by
  intro claimed
  obtain ⟨after, handled, _⟩ := claimed (Mac.initial ⟨.zero 8, .zero 8, .zero 16, 2⟩ [])
    (.ofBytes 4 [0x30, 0xff, 0x00, 0x40])
  have past : (LinkAdrReq.ofArgs (FixedBytes.ofBytes 4 [0x30, 0xff, 0x00, 0x40]).bytes).chMaskCntl = 4 := by
    decide +kernel
  cases (answerLinkAdr_raises past).symm.trans handled

end LinkAdrAnswer

end Wqm1.Radio
