import Verbifrost.Mlx5CmdExec

/-!
# Nothing of an earlier command reaches a later one

Two runs of the same call, from any two histories of the shared slot, against
a device that makes the same writes in both. The two calls stay in lockstep:
they differ in their tokens only, and from the moment the mailboxes are cleared
they read the same bytes.
-/

namespace Verbifrost.Mlx5CmdIsolation

open Verbifrost.ByteMemory Verbifrost.Mlx5Registers Verbifrost.Mlx5CmdExec

set_option autoImplicit false

/-- What a device writes after the doorbell: the status byte of entry 0 and
bytes of the output mailbox, at each tick, whatever the memory holds. -/
structure DeviceWrites where
  status : Nat → Option Byte
  mailbox : Nat → Nat → Option Byte

def writeMailbox (mailbox : Nat → Option Byte) (pool : Bytes) : Bytes := fun address =>
  if (outMboxOffset 0#32).toNat ≤ address ∧ address < (outMboxOffset 0#32).toNat + 4096 then
    (mailbox (address - (outMboxOffset 0#32).toNat)).getD (pool address)
  else pool address

def writeEntryStatus (status : Option Byte) (ring : Bytes) : Bytes :=
  match status with
  | none => ring
  | some status => store ring protBlockStatusOff status

def DeviceWrites.act (writes : DeviceWrites) : DeviceAct := fun tick mem =>
  if tick < 3 then mem
  else
    { ring := writeEntryStatus (writes.status (tick - 3)) mem.ring
      mboxPool := writeMailbox (writes.mailbox (tick - 3)) mem.mboxPool }

def OutAgrees (left right : DmaMemory) : Prop :=
  ∀ index < 4096, outMbox 0#32 left index = outMbox 0#32 right index

def StatusAgrees (left right : DmaMemory) : Prop :=
  left.ring protBlockStatusOff = right.ring protBlockStatusOff

def retoken (token : BitVec 8) : Phase → Phase
  | .entered call => .entered call
  | .picked sub => .picked { sub with token := token }
  | .filled sub => .filled { sub with token := token }
  | .polling sub remaining => .polling { sub with token := token } remaining
  | .sawOwner sub => .sawOwner { sub with token := token }
  | .polled sub deliveryStatus => .polled { sub with token := token } deliveryStatus
  | .delivered sub => .delivered { sub with token := token }
  | .accepted sub fwStatus => .accepted { sub with token := token } fwStatus
  | .returned sub result => .returned { sub with token := token } result

/-- Where the two memories agree while the calls are in this phase. -/
def Twins (left right : DmaMemory) : Phase → Prop
  | .entered _ => True
  | .picked sub => sub.slot = 0#32
  | .filled sub => sub.slot = 0#32 ∧ OutAgrees left right
  | .polling sub _ | .sawOwner sub | .polled sub _ | .delivered sub | .accepted sub _ =>
      sub.slot = 0#32 ∧ OutAgrees left right ∧ StatusAgrees left right
  | .returned _ _ => True

@[simp] theorem retoken_pieces_left (token : BitVec 8) (phase : Phase) :
    piecesLeft (retoken token phase) = piecesLeft phase := by
  cases phase <;> rfl

@[simp] theorem retoken_result (token : BitVec 8) (phase : Phase) :
    resultOf (retoken token phase) = resultOf phase := by
  cases phase <;> rfl

theorem write_mailbox_agrees (mailbox : Nat → Option Byte) {left right : DmaMemory}
    (agrees : OutAgrees left right) (leftRing rightRing : Bytes) :
    OutAgrees ⟨leftRing, writeMailbox mailbox left.mboxPool⟩
      ⟨rightRing, writeMailbox mailbox right.mboxPool⟩ := by
  intro index inside
  have same := agrees index inside
  simp only [outMbox, window] at same ⊢
  unfold writeMailbox
  rw [same]

theorem write_status_agrees (status : Option Byte) {left right : DmaMemory}
    (agrees : StatusAgrees left right) (leftPool rightPool : Bytes) :
    StatusAgrees ⟨writeEntryStatus status left.ring, leftPool⟩
      ⟨writeEntryStatus status right.ring, rightPool⟩ := by
  cases status with
  | none => exact agrees
  | some value => simp only [StatusAgrees, writeEntryStatus, store_byte]

theorem act_out_agrees (writes : DeviceWrites) (tick : Nat) {left right : DmaMemory}
    (agrees : OutAgrees left right) : OutAgrees (writes.act tick left) (writes.act tick right) := by
  unfold DeviceWrites.act
  split_ifs
  · exact agrees
  · exact write_mailbox_agrees _ agrees _ _

theorem act_status_agrees (writes : DeviceWrites) (tick : Nat) {left right : DmaMemory}
    (agrees : StatusAgrees left right) :
    StatusAgrees (writes.act tick left) (writes.act tick right) := by
  unfold DeviceWrites.act
  split_ifs
  · exact agrees
  · exact write_status_agrees _ agrees _ _

theorem act_twins (writes : DeviceWrites) (tick : Nat) {left right : DmaMemory} {phase : Phase}
    (twins : Twins left right phase) : Twins (writes.act tick left) (writes.act tick right) phase := by
  cases phase with
  | entered call => trivial
  | picked sub => exact twins
  | filled sub => exact ⟨twins.1, act_out_agrees writes tick twins.2⟩
  | returned sub result => trivial
  | _ => exact ⟨twins.1, act_out_agrees writes tick twins.2.1, act_status_agrees writes tick twins.2.2⟩

theorem read_status_agrees {left right : DmaMemory} (agrees : StatusAgrees left right)
    (leftCtx rightCtx : Mlx5CmdContext) :
    readStatus rightCtx 0#32 right = readStatus leftCtx 0#32 left := by
  simp only [readStatus, entry_offset_zero, Nat.zero_add]
  exact agrees.symm

theorem call_step_twins (token : BitVec 8) (phase : Phase) (left right : CmdQueue)
    (twins : Twins left.mem right.mem phase) (unfinished : 0 < piecesLeft phase) :
    ∃ next, (callStep (retoken token phase) right).1 = retoken next (callStep phase left).1 ∧
      Twins (callStep phase left).2.mem (callStep (retoken token phase) right).2.mem
        (callStep phase left).1 := by
  cases phase with
  | entered call => exact ⟨nextToken right.ctx.nextToken, rfl, rfl⟩
  | picked sub =>
      rcases sub with ⟨call, slot, own⟩
      obtain rfl : slot = 0#32 := twins
      refine ⟨token, rfl, rfl, ?_⟩
      intro index inside
      simp only [callStep, retoken, outMbox, window, out_mbox_offset_zero, fillRequest]
      rw [fill_mailboxes_out_zero _ _ _ inside, fill_mailboxes_out_zero _ _ _ inside]
  | filled sub =>
      rcases sub with ⟨call, slot, own⟩
      obtain ⟨rfl, out⟩ : slot = 0#32 ∧ OutAgrees left.mem right.mem := twins
      refine ⟨token, rfl, rfl, out, ?_⟩
      simp only [callStep, retoken, StatusAgrees, writeStatus, entry_offset_zero, Nat.zero_add,
        store_byte]
  | returned sub result => simp [piecesLeft] at unfinished
  | polling sub remaining =>
      rcases sub with ⟨call, slot, own⟩
      obtain ⟨rfl, out, status⟩ : slot = 0#32 ∧ OutAgrees left.mem right.mem ∧
        StatusAgrees left.mem right.mem := twins
      cases remaining with
      | zero => exact ⟨token, rfl, rfl, out, status⟩
      | succ remaining =>
          have read := read_status_agrees status left.ctx right.ctx
          simp only [callStep, retoken, read]
          split_ifs
          · exact ⟨token, rfl, rfl, out, status⟩
          · exact ⟨token, rfl, rfl, out, status⟩
  | sawOwner sub =>
      rcases sub with ⟨call, slot, own⟩
      obtain ⟨rfl, out, status⟩ : slot = 0#32 ∧ OutAgrees left.mem right.mem ∧
        StatusAgrees left.mem right.mem := twins
      have read := read_status_agrees status left.ctx right.ctx
      simp only [callStep, retoken, read]
      exact ⟨token, rfl, rfl, out, status⟩
  | polled sub deliveryStatus =>
      rcases sub with ⟨call, slot, own⟩
      obtain ⟨rfl, out, status⟩ : slot = 0#32 ∧ OutAgrees left.mem right.mem ∧
        StatusAgrees left.mem right.mem := twins
      have read := read_status_agrees status left.ctx right.ctx
      simp only [callStep, retoken, read]
      split_ifs
      · exact ⟨token, rfl, trivial⟩
      · exact ⟨token, rfl, trivial⟩
      · exact ⟨token, rfl, rfl, out, status⟩
  | delivered sub =>
      rcases sub with ⟨call, slot, own⟩
      obtain ⟨rfl, out, status⟩ : slot = 0#32 ∧ OutAgrees left.mem right.mem ∧
        StatusAgrees left.mem right.mem := twins
      have read := out mlx5MboxStatusOff (by decide)
      simp only [callStep, retoken, ← read]
      split_ifs
      · exact ⟨token, rfl, trivial⟩
      · exact ⟨token, rfl, rfl, out, status⟩
  | accepted sub fwStatus =>
      rcases sub with ⟨call, slot, own⟩
      obtain ⟨rfl, out, status⟩ : slot = 0#32 ∧ OutAgrees left.mem right.mem ∧
        StatusAgrees left.mem right.mem := twins
      have copied := copy_response_congr call out
      simp only [callStep, retoken, ← copied]
      exact ⟨token, rfl, trivial⟩

theorem drive_twins (writes : DeviceWrites) (fuel tick : Nat) (token : BitVec 8) (phase : Phase)
    (left right : CmdQueue) (twins : Twins left.mem right.mem phase) :
    ∃ next, (drive writes.act fuel tick (retoken token phase) right).1 =
      retoken next (drive writes.act fuel tick phase left).1 := by
  induction fuel generalizing tick token phase left right with
  | zero => exact ⟨token, rfl⟩
  | succ fuel induction =>
      by_cases unfinished : 0 < piecesLeft phase
      · obtain ⟨next, phases, stepped⟩ := call_step_twins token phase
          { left with mem := writes.act tick left.mem } { right with mem := writes.act tick right.mem }
          (act_twins writes tick twins) unfinished
        rw [drive_step _ fuel tick phase left unfinished,
          drive_step _ fuel tick _ right (by rw [retoken_pieces_left]; exact unfinished), phases]
        exact induction (tick + 1) next _ _ _ stepped
      · rcases pieces_left_zero (Nat.eq_zero_of_not_pos unfinished) with ⟨sub, result, rfl⟩
        exact ⟨token, rfl⟩

theorem exec_twins (writes : DeviceWrites) (call : CmdCall) (left right : CmdQueue) :
    (mlx5CmdExec writes.act call right).1 = (mlx5CmdExec writes.act call left).1 := by
  rcases drive_twins writes execFuel 0 0#8 (.entered call) left right trivial with ⟨next, phases⟩
  calc
    (mlx5CmdExec writes.act call right).1 =
        resultOf (retoken next (drive writes.act execFuel 0 (.entered call) left).1) :=
      congrArg resultOf phases
    _ = (mlx5CmdExec writes.act call left).1 := retoken_result next _

def Reserved (index : Nat) : Prop := 1 ≤ index ∧ index < 4 ∨ 33 ≤ index

/-- Two contexts with the same buffers and addresses. Token, counters, mailboxes
and all but the reserved bytes of entry 0 are open. -/
structure SameBuffers (left right : CmdQueue) : Prop where
  ctx : SameQueue left.ctx right.ctx
  reserved : ∀ index < 64, Reserved index → left.mem.ring index = right.mem.ring index

def doorbellMem (writes : DeviceWrites) (call : CmdCall) (queue : CmdQueue) : DmaMemory :=
  (drive writes.act 3 0 (.entered call) queue).2.mem

structure SameRequest (left right : DmaMemory) : Prop where
  input : ∀ index < 4096, inMbox 0#32 left index = inMbox 0#32 right index
  blankLeft : ∀ index < 4096, outMbox 0#32 left index = 0
  blankRight : ∀ index < 4096, outMbox 0#32 right index = 0
  entry : ∀ index < 64, ¬(protBlockTokenOff ≤ index ∧ index < protBlockTokenOff + 4) →
    left.ring index = right.ring index

theorem doorbell_mem (writes : DeviceWrites) (call : CmdCall) (queue : CmdQueue) :
    doorbellMem writes call queue = (submitted call queue).mem := rfl

theorem submitted_entry_same {left right : CmdQueue} (same : SameBuffers left right) (call : CmdCall)
    (index : Nat) (inside : index < 64)
    (noToken : ¬(protBlockTokenOff ≤ index ∧ index < protBlockTokenOff + 4)) :
    (submitted call left).mem.ring index = (submitted call right).mem.ring index := by
  rcases same.ctx with ⟨token, total, failed, ctx⟩
  have sameIn : inDma { right.ctx with nextToken := nextToken right.ctx.nextToken } 0#32 =
      inDma { left.ctx with nextToken := nextToken left.ctx.nextToken } 0#32 := by
    rw [ctx]
    rfl
  have sameOut : outDma { right.ctx with nextToken := nextToken right.ctx.nextToken } 0#32 =
      outDma { left.ctx with nextToken := nextToken left.ctx.nextToken } 0#32 := by
    rw [ctx]
    rfl
  simp only [submitted, writeStatus, fillRequest, fillEntry, entry_offset_zero, Nat.zero_add, sameIn,
    sameOut, store, copyIn]
  split_ifs with status signature outLen outPtr inLen inPtr
  · rfl
  · rfl
  · rfl
  · rfl
  · rfl
  · rfl
  · apply same.reserved index inside
    simp only [protBlockStatusOff, protBlockSignatureOff, protBlockTokenOff, protBlockOutLenOff,
      protBlockOutPtrOff, protBlockInLenOff, protBlockInPtrOff] at *
    unfold Reserved
    omega

/-- For every two histories of the slot and every device that makes the same writes. -/
theorem exec_forgets_history (left right : CmdQueue) (same : SameBuffers left right) (call : CmdCall)
    (writes : DeviceWrites) :
    (mlx5CmdExec writes.act call left).1 = (mlx5CmdExec writes.act call right).1 ∧
      SameRequest (doorbellMem writes call left) (doorbellMem writes call right) := by
  refine ⟨(exec_twins writes call left right).symm, ?_⟩
  rw [doorbell_mem, doorbell_mem]
  constructor
  · intro index inside
    rw [submitted_in_mbox call left index inside, submitted_in_mbox call right index inside]
  · exact submitted_out_mbox call left
  · exact submitted_out_mbox call right
  · exact submitted_entry_same same call

/-- Mailboxes and entry full of an earlier command, another token and other counters. -/
def usedQueue : CmdQueue where
  ctx := { zeroContext with nextToken := 200, totalCommands := 9, failedCommands := 4 }
  mem :=
    { ring := copyIn (copyIn zeroBytes 4 (fun _ => 0xAA) 29) 0 (fun _ => 0xAA) 1
      mboxPool := fun _ => 0xAA }

def bootPagesCall : CmdCall := { sampleCall mlx5CmdOpQueryPages with opMod := 1 }

def sampleWrites : DeviceWrites where
  status := fun poll => if poll = 2 then some 0 else none
  mailbox := fun poll index => if poll = 1 ∧ index = 8 then some 7 else none

theorem used_queue_forgotten :
    SameBuffers blankQueue usedQueue ∧
      (mlx5CmdExec sampleWrites.act bootPagesCall blankQueue).1 =
        (mlx5CmdExec sampleWrites.act bootPagesCall usedQueue).1 := by
  have same : SameBuffers blankQueue usedQueue := by
    refine ⟨⟨200, 9, 4, rfl⟩, ?_⟩
    unfold Reserved
    decide
  exact ⟨same, (exec_forgets_history blankQueue usedQueue same bootPagesCall sampleWrites).1⟩

end Verbifrost.Mlx5CmdIsolation
