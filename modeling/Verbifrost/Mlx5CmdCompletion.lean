import Verbifrost.Mlx5CmdExec

/-!
# The moment and the length of a completion

Two contracts between `mlx5_cmd_exec` and the device that completes its
command. The first is about time: the delivery status is taken down in the
polling loop only, while the owner bit is looked at once more after it. The
second is about length: the entry advertises `out_len` bytes, and the response
is copied from byte 8 of the mailbox on.
-/

namespace Verbifrost.Mlx5CmdCompletion

open Verbifrost.ByteMemory Verbifrost.Mlx5Registers Verbifrost.Mlx5CmdExec

set_option autoImplicit false

/-- The device writes the status byte once, `poll` ticks after the doorbell;
what it does to the mailboxes, and when, is open. Tick `3 + poll` comes right
before the poll with that number, tick `3 + pollLimit` at the end of the loop
and the next one right before the timeout check. -/
def CompletesAt (act : DeviceAct) (poll : Nat) (status : Byte) : Prop :=
  ∀ tick mem, (act tick mem).ring =
    if tick = 3 + poll then store mem.ring protBlockStatusOff status else mem.ring

/-- Either the call times out or it acts on the delivery status the device wrote. -/
structure ActsOnDelivery (act : DeviceAct) (call : CmdCall) (queue : CmdQueue) (status : Byte) :
    Prop where
  delivery : (mlx5CmdExec act call queue).1.ret = .timeout ∨
    ∀ fuel sub deliveryStatus,
      (drive act fuel 0 (.entered call) queue).1 = .polled sub deliveryStatus →
        deliveryStatus = deliveryOf status
  refused : deliveryOf status ≠ mlx5CmdDeliveryStatOk →
    (mlx5CmdExec act call queue).1.ret ≠ .success

def entryStatus (queue : CmdQueue) : Byte := queue.mem.ring protBlockStatusOff

/-- Where the call is at a tick, and what the status byte holds before the
device acts at it. -/
def Follows (poll : Nat) (status : Byte) (tick : Nat) (phase : Phase) (queue : CmdQueue) : Prop :=
  match phase with
  | .entered _ => tick = 0
  | .picked sub => sub.slot = 0#32 ∧ tick = 1
  | .filled sub => sub.slot = 0#32 ∧ tick = 2
  | .polling sub remaining =>
      sub.slot = 0#32 ∧ tick + remaining = 3 + pollLimit ∧ tick ≤ 3 + poll ∧
        entryStatus queue = mlx5CmdOwnerHw
  | .sawOwner sub =>
      sub.slot = 0#32 ∧ 3 + poll < tick ∧ poll < pollLimit ∧ entryStatus queue = status
  | .polled sub deliveryStatus =>
      sub.slot = 0#32 ∧
        (3 + poll < tick ∧ poll < pollLimit ∧ entryStatus queue = status ∧
            deliveryStatus = deliveryOf status ∨
          tick = 4 + pollLimit ∧ pollLimit ≤ poll ∧ deliveryStatus = mlx5CmdDeliveryStatOk ∧
            entryStatus queue = if poll = pollLimit then status else mlx5CmdOwnerHw)
  | .delivered _ | .accepted _ _ =>
      poll ≤ pollLimit + 1 ∧ (poll < pollLimit → deliveryOf status = mlx5CmdDeliveryStatOk) ∧
        (pollLimit ≤ poll → 4 + pollLimit < tick)
  | .returned _ result =>
      (result.ret = .timeout ↔ pollLimit + 1 < poll) ∧
        (poll < pollLimit → result.ret = .success → deliveryOf status = mlx5CmdDeliveryStatOk) ∧
        (pollLimit ≤ poll → 4 + pollLimit < tick)

theorem read_status_entry (queue : CmdQueue) :
    readStatus queue.ctx 0#32 queue.mem = entryStatus queue := by
  rw [readStatus, entry_offset_zero, Nat.zero_add, entryStatus]

section Completion

variable {act : DeviceAct} {poll : Nat} {status : Byte}

theorem completed_status (completes : CompletesAt act poll status) (tick : Nat) (queue : CmdQueue) :
    readStatus queue.ctx 0#32 (act tick queue.mem) =
      if tick = 3 + poll then status else entryStatus queue := by
  have ring := completes tick queue.mem
  rw [readStatus, entry_offset_zero, Nat.zero_add, ring]
  split_ifs
  · exact store_byte _ _ _
  · rfl

theorem follows_filled {tick : Nat} {sub : Submission} {queue : CmdQueue}
    (follows : Follows poll status tick (.filled sub) queue) :
    Follows poll status (tick + 1)
      (callStep (.filled sub) { queue with mem := act tick queue.mem }).1
      (callStep (.filled sub) { queue with mem := act tick queue.mem }).2 := by
  rcases follows with ⟨slot, now⟩
  refine ⟨slot, by omega, by omega, ?_⟩
  rw [← read_status_entry]
  simp only [callStep, slot]
  exact read_status_write _ _ _ _

theorem follows_polling (completes : CompletesAt act poll status)
    (released : ownerOf status = mlx5CmdOwnerSw) {tick remaining : Nat} {sub : Submission}
    {queue : CmdQueue} (follows : Follows poll status tick (.polling sub remaining) queue) :
    Follows poll status (tick + 1)
      (callStep (.polling sub remaining) { queue with mem := act tick queue.mem }).1
      (callStep (.polling sub remaining) { queue with mem := act tick queue.mem }).2 := by
  rcases follows with ⟨slot, left, notYet, busy⟩
  have read := completed_status completes tick queue
  rw [busy] at read
  have entry : entryStatus { queue with mem := act tick queue.mem } =
      if tick = 3 + poll then status else mlx5CmdOwnerHw := by
    rw [← read_status_entry]
    exact read
  cases remaining with
  | zero =>
      -- the loop ends without having seen the owner bit
      have moment : (tick = 3 + poll) = (poll = pollLimit) := by
        rw [eq_iff_iff]
        omega
      simp only [moment] at entry
      exact ⟨slot, Or.inr ⟨by omega, by omega, rfl, entry⟩⟩
  | succ remaining =>
      simp only [callStep, slot, read]
      by_cases completed : tick = 3 + poll
      · rw [if_pos completed] at entry
        rw [if_pos completed, if_pos released]
        exact ⟨slot, by omega, by omega, entry⟩
      · rw [if_neg completed] at entry
        have owned : ownerOf mlx5CmdOwnerHw ≠ mlx5CmdOwnerSw := by decide
        rw [if_neg completed, if_neg owned]
        exact ⟨slot, by omega, by omega, entry⟩

theorem follows_saw_owner (completes : CompletesAt act poll status) {tick : Nat} {sub : Submission}
    {queue : CmdQueue} (follows : Follows poll status tick (.sawOwner sub) queue) :
    Follows poll status (tick + 1)
      (callStep (.sawOwner sub) { queue with mem := act tick queue.mem }).1
      (callStep (.sawOwner sub) { queue with mem := act tick queue.mem }).2 := by
  rcases follows with ⟨slot, after, inLoop, written⟩
  have read := completed_status completes tick queue
  rw [if_neg (by omega), written] at read
  simp only [callStep, slot, read]
  refine ⟨slot, Or.inl ⟨by omega, inLoop, ?_, rfl⟩⟩
  rw [← read_status_entry]
  exact read

theorem follows_refused {tick : Nat} {sub : Submission} {code : Byte} {queue : CmdQueue}
    (early : poll ≤ pollLimit + 1) (late : pollLimit ≤ poll → 4 + pollLimit < tick) :
    Follows poll status tick (.returned sub (failWith sub.call .error code)) queue := by
  refine ⟨⟨?_, by omega⟩, ?_, late⟩
  · intro timeout
    cases timeout
  · intro _ succeeded
    cases succeeded

theorem follows_polled (completes : CompletesAt act poll status)
    (released : ownerOf status = mlx5CmdOwnerSw) {tick : Nat} {sub : Submission}
    {deliveryStatus : Byte} {queue : CmdQueue}
    (follows : Follows poll status tick (.polled sub deliveryStatus) queue) :
    Follows poll status (tick + 1)
      (callStep (.polled sub deliveryStatus) { queue with mem := act tick queue.mem }).1
      (callStep (.polled sub deliveryStatus) { queue with mem := act tick queue.mem }).2 := by
  rcases follows with ⟨slot, seen | missed⟩
  · rcases seen with ⟨after, inLoop, written, captured⟩
    have read := completed_status completes tick queue
    rw [if_neg (by omega), written] at read
    simp only [callStep, slot, read]
    rw [if_neg (not_not.mpr released)]
    by_cases undelivered : deliveryStatus ≠ mlx5CmdDeliveryStatOk
    · rw [if_pos undelivered]
      exact follows_refused (by omega) (by omega)
    · rw [if_neg undelivered]
      refine ⟨by omega, ?_, by omega⟩
      intro _
      rw [← captured]
      exact not_not.mp undelivered
  · rcases missed with ⟨now, late, rfl, entry⟩
    have read := completed_status completes tick queue
    rw [entry] at read
    simp only [callStep, slot, read]
    by_cases slipped : poll ≤ pollLimit + 1
    · have finished : (if tick = 3 + poll then status
          else if poll = pollLimit then status else mlx5CmdOwnerHw) = status := by
        split_ifs with atCheck atEnd
        · rfl
        · rfl
        · omega
      rw [finished, if_neg (not_not.mpr released), if_neg (not_not.mpr rfl)]
      exact ⟨slipped, by omega, by omega⟩
    · have waiting : (if tick = 3 + poll then status
          else if poll = pollLimit then status else mlx5CmdOwnerHw) = mlx5CmdOwnerHw := by
        rw [if_neg (by omega), if_neg (by omega)]
      have owned : ownerOf mlx5CmdOwnerHw ≠ mlx5CmdOwnerSw := by decide
      rw [waiting, if_pos owned]
      exact ⟨⟨fun _ => by omega, fun _ => rfl⟩, by omega, by omega⟩

theorem follows_step (completes : CompletesAt act poll status)
    (released : ownerOf status = mlx5CmdOwnerSw) (tick : Nat) (phase : Phase) (queue : CmdQueue)
    (unfinished : 0 < piecesLeft phase) (follows : Follows poll status tick phase queue) :
    Follows poll status (tick + 1) (callStep phase { queue with mem := act tick queue.mem }).1
      (callStep phase { queue with mem := act tick queue.mem }).2 := by
  cases phase with
  | entered call => exact ⟨rfl, congrArg (· + 1) follows⟩
  | picked sub => exact ⟨follows.1, congrArg (· + 1) follows.2⟩
  | filled sub => exact follows_filled follows
  | polling sub remaining => exact follows_polling completes released follows
  | sawOwner sub => exact follows_saw_owner completes follows
  | polled sub deliveryStatus => exact follows_polled completes released follows
  | delivered sub =>
      rcases follows with ⟨early, delivered, late⟩
      simp only [callStep]
      split_ifs
      · exact follows_refused early (by omega)
      · exact ⟨early, delivered, by omega⟩
  | accepted sub fwStatus =>
      rcases follows with ⟨early, delivered, late⟩
      refine ⟨⟨?_, by omega⟩, fun inLoop _ => delivered inLoop, by omega⟩
      intro timeout
      cases timeout
  | returned sub result => simp [piecesLeft] at unfinished

theorem drive_follows (completes : CompletesAt act poll status)
    (released : ownerOf status = mlx5CmdOwnerSw) (call : CmdCall) (queue : CmdQueue) (fuel : Nat) :
    ∃ later ≤ fuel,
      (later = fuel ∨ piecesLeft (drive act fuel 0 (.entered call) queue).1 = 0) ∧
        Follows poll status later (drive act fuel 0 (.entered call) queue).1
          (drive act fuel 0 (.entered call) queue).2 := by
  have start : Follows poll status 0 (.entered call) queue := rfl
  have reached := drive_invariant (follows_step completes released) fuel start
  rwa [Nat.zero_add] at reached

theorem exec_follows (completes : CompletesAt act poll status)
    (released : ownerOf status = mlx5CmdOwnerSw) (call : CmdCall) (queue : CmdQueue) :
    ((mlx5CmdExec act call queue).1.ret = .timeout ↔ pollLimit + 1 < poll) ∧
      (poll < pollLimit → (mlx5CmdExec act call queue).1.ret = .success →
        deliveryOf status = mlx5CmdDeliveryStatOk) := by
  rcases exec_returns act call queue with ⟨sub, result, final, same⟩
  rcases drive_follows completes released call queue execFuel with ⟨later, _, _, follows⟩
  rw [final] at follows
  rw [same]
  exact ⟨follows.1, follows.2.1⟩

theorem polled_delivery (completes : CompletesAt act poll status)
    (released : ownerOf status = mlx5CmdOwnerSw) {call : CmdCall} {queue : CmdQueue} {fuel : Nat}
    {sub : Submission} {deliveryStatus : Byte}
    (standing : (drive act fuel 0 (.entered call) queue).1 = .polled sub deliveryStatus) :
    deliveryStatus = if poll < pollLimit then deliveryOf status else mlx5CmdDeliveryStatOk := by
  rcases drive_follows completes released call queue fuel with ⟨later, _, _, follows⟩
  rw [standing] at follows
  rcases follows with ⟨_, seen | missed⟩
  · rcases seen with ⟨_, inLoop, _, captured⟩
    rw [if_pos inLoop]
    exact captured
  · rcases missed with ⟨_, late, initial, _⟩
    rw [if_neg (Nat.not_lt.mpr late)]
    exact initial

theorem unseen_completion_polled (completes : CompletesAt act poll status)
    (released : ownerOf status = mlx5CmdOwnerSw) (call : CmdCall) (queue : CmdQueue)
    (late : pollLimit ≤ poll) :
    ∃ sub, (drive act (4 + pollLimit) 0 (.entered call) queue).1 =
      .polled sub mlx5CmdDeliveryStatOk := by
  obtain ⟨later, bound, ended, follows⟩ :=
    drive_follows completes released call queue (4 + pollLimit)
  cases phase : (drive act (4 + pollLimit) 0 (.entered call) queue).1 with
  | polled sub deliveryStatus =>
      have initial := polled_delivery completes released phase
      rw [if_neg (Nat.not_lt.mpr late)] at initial
      rw [initial]
      exact ⟨sub, rfl⟩
  | returned sub result =>
      rw [phase] at follows
      have afterwards := follows.2.2 late
      omega
  | _ =>
      -- the tick is the last one of the fuel, past the loop and not past the check
      rw [phase] at follows ended
      simp only [Follows, piecesLeft] at follows ended
      omega

/-- For every moment of the completion and every status byte with the owner bit cleared. -/
theorem acts_on_delivery_iff (completes : CompletesAt act poll status)
    (released : ownerOf status = mlx5CmdOwnerSw) (call : CmdCall) (queue : CmdQueue) :
    ActsOnDelivery act call queue status ↔
      poll < pollLimit ∨ pollLimit + 1 < poll ∨ deliveryOf status = mlx5CmdDeliveryStatOk := by
  have outcome := exec_follows completes released call queue
  constructor
  · intro acts
    by_contra window
    simp only [not_or] at window
    rcases window with ⟨notInLoop, notLate, undelivered⟩
    rcases acts.delivery with timeout | captured
    · exact notLate (outcome.1.mp timeout)
    · obtain ⟨sub, standing⟩ :=
        unseen_completion_polled completes released call queue (Nat.not_lt.mp notInLoop)
      exact undelivered (captured _ _ _ standing).symm
  · rintro (inLoop | late | delivered)
    · constructor
      · right
        intro fuel sub deliveryStatus standing
        rw [polled_delivery completes released standing, if_pos inLoop]
      · intro undelivered success
        exact undelivered (outcome.2 inLoop success)
    · have timeout := outcome.1.mpr late
      refine ⟨Or.inl timeout, ?_⟩
      intro _ success
      rw [timeout] at success
      cases success
    · constructor
      · right
        intro fuel sub deliveryStatus standing
        rw [polled_delivery completes released standing, delivered]
        exact ite_self _
      · intro undelivered
        exact absurd delivered undelivered

end Completion

def finishAt (poll : Nat) (status : Byte) : DeviceAct :=
  respondAt poll fun mem => { mem with ring := store mem.ring protBlockStatusOff status }

theorem finish_at_completes (poll : Nat) (status : Byte) :
    CompletesAt (finishAt poll status) poll status := by
  intro tick mem
  simp only [finishAt, respondAt]
  split_ifs <;> rfl

/-- A delivery error that the first poll sees. -/
theorem early_error_acts :
    deliveryOf 0x0C = 6 ∧
      ActsOnDelivery (finishAt 0 0x0C) (sampleCall mlx5CmdOpQueryPages) blankQueue 0x0C := by
  refine ⟨by decide, ?_⟩
  apply (acts_on_delivery_iff (finish_at_completes 0 0x0C) (by decide) _ _).mpr
  left
  decide

/-- Delivery error 6 right after the last poll: the call succeeds with the cleared mailbox. -/
theorem late_error_succeeds :
    (mlx5CmdExec (finishAt pollLimit 0x0C) (sampleCall mlx5CmdOpQueryPages) blankQueue).1.ret = .success ∧
      deliveryOf 0x0C = 6 ∧
      ¬ActsOnDelivery (finishAt pollLimit 0x0C) (sampleCall mlx5CmdOpQueryPages) blankQueue 0x0C := by
  have released : ∀ mem : DmaMemory,
      ownerOf (readStatus (submitted (sampleCall mlx5CmdOpQueryPages) blankQueue).ctx 0#32
        { mem with ring := store mem.ring protBlockStatusOff 0x0C#8 }) = mlx5CmdOwnerSw := by
    intro mem
    have written := congrArg ownerOf (store_byte mem.ring protBlockStatusOff 0x0C#8)
    rw [readStatus, entry_offset_zero, Nat.zero_add]
    exact written.trans (by decide)
  have success : (mlx5CmdExec (finishAt pollLimit 0x0C) (sampleCall mlx5CmdOpQueryPages)
      blankQueue).1.ret = .success := by
    rw [finishAt, exec_responded_late _ _ _ _ (Nat.le_refl _) (Nat.le_succ _) (released _)]
    rfl
  refine ⟨success, by decide, ?_⟩
  intro acts
  exact acts.refused (by decide) success

def responseBytes (header body : Bytes) : Bytes := fun index =>
  if index < 8 then header index else body (index - 8)

/-- The response up to the output length that the entry advertises, and delivery status zero. -/
def writeWithin (header body : Bytes) (bodyLen : Nat) (mem : DmaMemory) : DmaMemory where
  ring := store mem.ring protBlockStatusOff 0#8
  mboxPool := copyIn mem.mboxPool (outMboxOffset 0#32).toNat (responseBytes header body)
    (min (8 + bodyLen) (loadBE mem.ring protBlockOutLenOff 32).toNat)

def respondWithin (poll : Nat) (header body : Bytes) (bodyLen : Nat) : DeviceAct :=
  respondAt poll (writeWithin header body bodyLen)

structure ReturnsBody (result : CmdResult) (outLen : Nat) (body : Bytes) : Prop where
  success : result.ret = .success
  data : ∃ out, result.outData = some out ∧ ∀ index < outLen, out index = body index

theorem submitted_out_len (call : CmdCall) (queue : CmdQueue) :
    loadBE (submitted call queue).mem.ring protBlockOutLenOff 32 = advertisedOutLen call := by
  simp only [submitted, writeStatus, fillRequest, fillEntry, entry_offset_zero, Nat.zero_add]
  rw [load_be_store_disjoint (by decide) _ _ _ _ (by decide),
    load_be_store_disjoint (by decide) _ _ _ _ (by decide),
    load_be_store_disjoint (by decide) _ _ _ _ (by decide)]
  exact load_be_store_swap (by decide) _ _ _

section Length

variable {call : CmdCall} {data : Bytes} (header body : Bytes) {bodyLen poll : Nat}

theorem within_out_mbox (queue : CmdQueue) (low : 1 ≤ call.outLen.toNat)
    (enough : call.outLen.toNat ≤ bodyLen) (index : Nat) (inside : index < 4096) :
    outMbox 0#32 (writeWithin header body bodyLen (submitted call queue).mem) index =
      if index < call.outLen.toNat then responseBytes header body index else 0 := by
  have positive : 0 < call.outLen := BitVec.lt_def.mpr low
  have written : min (8 + bodyLen)
      (loadBE (submitted call queue).mem.ring protBlockOutLenOff 32).toNat = call.outLen.toNat := by
    rw [submitted_out_len, advertisedOutLen, if_pos positive]
    omega
  have before := submitted_out_mbox call queue index inside
  simp only [outMbox, window, writeWithin, written] at before ⊢
  split_ifs with reached
  · exact copy_in_inside _ _ _ _ _ reached
  · rw [copy_in_outside _ _ _ _ _ (by omega)]
    exact before

theorem exec_within (queue : CmdQueue) (buffer : call.outData = some data)
    (low : 1 ≤ call.outLen.toNat) (high : call.outLen.toNat ≤ 4088)
    (enough : call.outLen.toNat ≤ bodyLen) (accepted : header mlx5MboxStatusOff = mlx5CmdStatOk)
    (inTime : poll < pollLimit) :
    (mlx5CmdExec (respondWithin poll header body bodyLen) call queue).1.ret = .success ∧
      ∃ out, (mlx5CmdExec (respondWithin poll header body bodyLen) call queue).1.outData = some out ∧
        ∀ index < call.outLen.toNat,
          out index = if 8 + index < call.outLen.toNat then body index else 0 := by
  have mailbox := within_out_mbox header body queue low enough
  have delivered : readStatus (submitted call queue).ctx 0#32
      (writeWithin header body bodyLen (submitted call queue).mem) = 0#8 := by
    rw [readStatus, entry_offset_zero, Nat.zero_add]
    exact store_byte (submitted call queue).mem.ring protBlockStatusOff 0#8
  have responded := exec_responded call queue poll (writeWithin header body bodyLen) inTime
    (by rw [delivered]; decide)
  have status : outMbox 0#32 (writeWithin header body bodyLen (submitted call queue).mem)
      mlx5MboxStatusOff = mlx5CmdStatOk := by
    rw [mailbox mlx5MboxStatusOff (by decide), if_pos (show mlx5MboxStatusOff < _ from low)]
    exact accepted
  rw [delivered, answeredResult, if_neg (by decide), status, if_neg (by decide)] at responded
  rw [respondWithin, responded]
  obtain ⟨out, copied⟩ : ∃ out, copyResponse call
      (outMbox 0#32 (writeWithin header body bodyLen (submitted call queue).mem)) = some out := by
    simp only [copyResponse, buffer]
    split_ifs <;> exact ⟨_, rfl⟩
  refine ⟨rfl, out, copied, ?_⟩
  intro index inside
  have copyLen : (outCopyLen call).toNat = call.outLen.toNat := by
    unfold outCopyLen
    rw [if_neg (BitVec.not_lt.mpr (BitVec.le_def.mpr high))]
  have byte := response_byte call data
    (outMbox 0#32 (writeWithin header body bodyLen (submitted call queue).mem)) buffer index
    (by rw [copyLen]; exact inside)
  rw [copied, Option.getD_some, mailbox (8 + index) (by omega)] at byte
  have body : responseBytes header body (8 + index) = body index := by
    rw [responseBytes, if_neg (by omega), Nat.add_sub_cancel_left]
  rw [byte, body]

/-- For every output length that fits the mailbox and every body of at least that length. -/
theorem returns_body_iff (queue : CmdQueue) (buffer : call.outData = some data)
    (low : 1 ≤ call.outLen.toNat) (high : call.outLen.toNat ≤ 4088)
    (enough : call.outLen.toNat ≤ bodyLen) (accepted : header mlx5MboxStatusOff = mlx5CmdStatOk)
    (inTime : poll < pollLimit) :
    ReturnsBody (mlx5CmdExec (respondWithin poll header body bodyLen) call queue).1
        call.outLen.toNat body ↔
      ∀ index < call.outLen.toNat, call.outLen.toNat ≤ 8 + index → body index = 0 := by
  obtain ⟨success, out, returned, bytes⟩ :=
    exec_within header body queue buffer low high enough accepted inTime
  constructor
  · intro returns index inside beyond
    rcases returns.data with ⟨other, same, whole⟩
    rw [returned] at same
    rw [← whole index inside, ← Option.some.inj same, bytes index inside,
      if_neg (Nat.not_lt.mpr beyond)]
  · intro blank
    refine ⟨success, out, returned, ?_⟩
    intro index inside
    rw [bytes index inside]
    split_ifs with reached
    · rfl
    · exact (blank index inside (Nat.not_lt.mp reached)).symm

end Length

/-- Eight bytes of body and then zeros: nothing is lost of sixteen. -/
theorem short_body_returned :
    ReturnsBody (mlx5CmdExec (respondWithin 0 zeroBytes (fun index => if index < 8 then 1 else 0) 16)
      (sampleCall mlx5CmdOpQueryPages) blankQueue).1 16 (fun index => if index < 8 then 1 else 0) := by
  apply (returns_body_iff zeroBytes (fun index => if index < 8 then 1 else 0) blankQueue rfl (by decide)
    (by decide) (Nat.le_refl 16) rfl (by decide)).mpr
  decide

/-- Sixteen bytes of body: the caller gets zero for the last eight. -/
theorem last_bytes_lost :
    (mlx5CmdExec (respondWithin 0 zeroBytes (fun _ => 1) 16) (sampleCall mlx5CmdOpQueryPages)
        blankQueue).1.ret = .success ∧
      ¬ReturnsBody (mlx5CmdExec (respondWithin 0 zeroBytes (fun _ => 1) 16)
        (sampleCall mlx5CmdOpQueryPages) blankQueue).1 16 (fun _ => 1) := by
  obtain ⟨success, out, returned, bytes⟩ := exec_within zeroBytes (fun _ => 1) blankQueue
    (show (sampleCall mlx5CmdOpQueryPages).outData = some zeroBytes from rfl) (by decide)
    (by decide) (Nat.le_refl 16) rfl (show 0 < pollLimit by decide)
  refine ⟨success, ?_⟩
  intro returns
  rcases returns.data with ⟨other, same, whole⟩
  have last := whole 15 (by decide)
  rw [← Option.some.inj (returned.symm.trans same), bytes 15 (by decide)] at last
  exact absurd last (by decide)

end Verbifrost.Mlx5CmdCompletion
