import Verbifrost.Mlx5Registers

/-!
# Executing one firmware command

`mlx5_cmd_exec` of `mlx5_cmd.cpp`, cut at the points where the device can
change the DMA memory under it. `callStep` is one uninterrupted piece of the
function: between two pieces the driver has touched the shared memory at most
once, so the two separate reads of the status byte in the polling loop, the
third one in the timeout check, the read of the firmware status and the copy of
the response are all different pieces. `mlx5CmdExec` runs the pieces in order
and lets the device act before each of them.
-/

namespace Verbifrost.Mlx5CmdExec

open Verbifrost.ByteMemory Verbifrost.Mlx5Registers

set_option autoImplicit false

/-- `struct mlx5_cmd_context`. The ring and the mailbox pool that `cmd_ring`
and `mbox_pool` point to are the two regions of `DmaMemory`; a memory
descriptor is the handle of the reference it holds. -/
structure Mlx5CmdContext where
  bar0 : BitVec 64
  bar0Size : BitVec 32
  iseg : BitVec 64
  cmdRingMd : Option Nat
  cmdRingDma : BitVec 64
  numEntries : BitVec 32
  entryStride : BitVec 32
  mboxMd : Option Nat
  mboxDmaBase : BitVec 64
  numMailboxes : BitVec 32
  nextToken : BitVec 8
  totalCommands : BitVec 32
  failedCommands : BitVec 32

/-- `memset(ctx, 0, sizeof(*ctx))`. -/
def zeroContext : Mlx5CmdContext where
  bar0 := 0
  bar0Size := 0
  iseg := 0
  cmdRingMd := none
  cmdRingDma := 0
  numEntries := 0
  entryStride := 0
  mboxMd := none
  mboxDmaBase := 0
  numMailboxes := 0
  nextToken := 0
  totalCommands := 0
  failedCommands := 0

/-- The memory the driver shares with the device, by byte offset. -/
structure DmaMemory where
  ring : Bytes
  mboxPool : Bytes

structure CmdQueue where
  ctx : Mlx5CmdContext
  mem : DmaMemory

/-- The arguments of `mlx5_cmd_exec`. A pointer is the bytes behind it, `none`
for `NULL`; of `out_status` only whether it is `NULL` matters. -/
structure CmdCall where
  opcode : BitVec 16
  opMod : BitVec 16
  inData : Option Bytes
  inLen : BitVec 32
  outData : Option Bytes
  outLen : BitVec 32
  outStatus : Bool

def blankQueue : CmdQueue := ⟨zeroContext, ⟨zeroBytes, zeroBytes⟩⟩

/-- A request without input whose caller wants 16 bytes of the response. -/
def sampleCall (opcode : BitVec 16) : CmdCall where
  opcode := opcode
  opMod := 0
  inData := none
  inLen := 0
  outData := some zeroBytes
  outLen := 16
  outStatus := true

/-- What the caller sees: the return code, `*out_status` and the bytes behind
`out_data` after the call. -/
structure CmdResult where
  ret : IOReturn
  outStatus : Option Byte
  outData : Option Bytes

def protBlockStatusOff : Nat := 0
def protBlockInPtrOff : Nat := 4
def protBlockInLenOff : Nat := 12
def protBlockOutPtrOff : Nat := 16
def protBlockOutLenOff : Nat := 24
def protBlockTokenOff : Nat := 28
def protBlockSignatureOff : Nat := 32

def entryOffset (ctx : Mlx5CmdContext) (slot : BitVec 32) : Nat := (slot * ctx.entryStride).toNat

def inMboxOffset (slot : BitVec 32) : BitVec 32 := (slot * 2) * mlx5CmdMailboxSize

def outMboxOffset (slot : BitVec 32) : BitVec 32 := (slot * 2 + 1) * mlx5CmdMailboxSize

def inDma (ctx : Mlx5CmdContext) (slot : BitVec 32) : BitVec 64 :=
  ctx.mboxDmaBase + (inMboxOffset slot).setWidth 64

def outDma (ctx : Mlx5CmdContext) (slot : BitVec 32) : BitVec 64 :=
  ctx.mboxDmaBase + (outMboxOffset slot).setWidth 64

/-- `++ctx->next_token`, once more when that wrapped to zero. -/
def nextToken (token : BitVec 8) : BitVec 8 :=
  if token + 1 = 0 then token + 1 + 1 else token + 1

def inCopyLen (call : CmdCall) : BitVec 32 :=
  if mlx5CmdMailboxSize - 16 < call.inLen then mlx5CmdMailboxSize - 16 else call.inLen

def outCopyLen (call : CmdCall) : BitVec 32 :=
  if mlx5CmdMailboxSize - 8 < call.outLen then mlx5CmdMailboxSize - 8 else call.outLen

def writeHeader (call : CmdCall) (inMbox : Nat) (pool : Bytes) : Bytes :=
  let pool := store pool (inMbox + mlx5MboxOpcodeOff) (byteSwap call.opcode)
  let pool := store pool (inMbox + mlx5MboxUidOff) (byteSwap mlx5CmdUidDriver)
  store pool (inMbox + mlx5MboxOpModOff) (byteSwap call.opMod)

def copyInData (call : CmdCall) (inMbox : Nat) (pool : Bytes) : Bytes :=
  match call.inData with
  | none => pool
  | some data => if 0 < call.inLen then copyIn pool (inMbox + 16) data (inCopyLen call).toNat else pool

def fillMailboxes (call : CmdCall) (slot : BitVec 32) (pool : Bytes) : Bytes :=
  let inMbox := (inMboxOffset slot).toNat
  let outMbox := (outMboxOffset slot).toNat
  let pool := copyIn pool inMbox zeroBytes mlx5CmdMailboxSize.toNat
  let pool := copyIn pool outMbox zeroBytes mlx5CmdMailboxSize.toNat
  copyInData call inMbox (writeHeader call inMbox pool)

def advertisedOutLen (call : CmdCall) : BitVec 32 :=
  if 0 < call.outLen then call.outLen else mlx5CmdMailboxSize

def fillEntry (ctx : Mlx5CmdContext) (call : CmdCall) (slot : BitVec 32) (token : BitVec 8)
    (ring : Bytes) : Bytes :=
  let entry := entryOffset ctx slot
  let ring := store ring (entry + protBlockInPtrOff) (byteSwap (inDma ctx slot))
  let ring := store ring (entry + protBlockInLenOff) (byteSwap mlx5CmdMailboxSize)
  let ring := store ring (entry + protBlockOutPtrOff) (byteSwap (outDma ctx slot))
  let ring := store ring (entry + protBlockOutLenOff) (byteSwap (advertisedOutLen call))
  let ring := store ring (entry + protBlockTokenOff) (byteSwap (token.setWidth 32))
  store ring (entry + protBlockSignatureOff) (0 : BitVec 8)

def fillRequest (ctx : Mlx5CmdContext) (call : CmdCall) (slot : BitVec 32) (token : BitVec 8)
    (mem : DmaMemory) : DmaMemory where
  ring := fillEntry ctx call slot token mem.ring
  mboxPool := fillMailboxes call slot mem.mboxPool

def writeStatus (ctx : Mlx5CmdContext) (slot : BitVec 32) (status : Byte) (mem : DmaMemory) :
    DmaMemory :=
  { mem with ring := store mem.ring (entryOffset ctx slot + protBlockStatusOff) status }

def readStatus (ctx : Mlx5CmdContext) (slot : BitVec 32) (mem : DmaMemory) : Byte :=
  mem.ring (entryOffset ctx slot + protBlockStatusOff)

def ownerOf (status : Byte) : Byte := status &&& 0x1

def deliveryOf (status : Byte) : Byte := (status >>> 1) &&& 0x7F

def inMbox (slot : BitVec 32) (mem : DmaMemory) : Bytes :=
  window mem.mboxPool (inMboxOffset slot).toNat

def outMbox (slot : BitVec 32) (mem : DmaMemory) : Bytes :=
  window mem.mboxPool (outMboxOffset slot).toNat

def copyResponse (call : CmdCall) (mailbox : Bytes) : Option Bytes :=
  match call.outData with
  | none => none
  | some data =>
      if 0 < call.outLen then some (copyIn data 0 (window mailbox 8) (outCopyLen call).toNat)
      else some data

structure Submission where
  call : CmdCall
  slot : BitVec 32
  token : BitVec 8

inductive Phase where
  | entered (call : CmdCall)
  | picked (sub : Submission)
  | filled (sub : Submission)
  | polling (sub : Submission) (remaining : Nat)
  | sawOwner (sub : Submission)
  | polled (sub : Submission) (deliveryStatus : Byte)
  | delivered (sub : Submission)
  | accepted (sub : Submission) (fwStatus : Byte)
  | returned (sub : Submission) (result : CmdResult)

def reportStatus (call : CmdCall) (status : Byte) : Option Byte :=
  if call.outStatus then some status else none

/-- A failing exit: `out_data` keeps its bytes. -/
def failWith (call : CmdCall) (ret : IOReturn) (status : Byte) : CmdResult where
  ret := ret
  outStatus := reportStatus call status
  outData := call.outData

def countFailed (ctx : Mlx5CmdContext) : Mlx5CmdContext :=
  { ctx with failedCommands := ctx.failedCommands + 1 }

def countTotal (ctx : Mlx5CmdContext) : Mlx5CmdContext :=
  { ctx with totalCommands := ctx.totalCommands + 1 }

def pollLimit : Nat := mlx5CmdTimeoutMs / 10

/-- One piece of `mlx5_cmd_exec`, in the order of the source. -/
def callStep : Phase → CmdQueue → Phase × CmdQueue
  | .entered call, queue =>
      -- "Find a free slot": the index is the constant zero
      let token := nextToken queue.ctx.nextToken
      (.picked ⟨call, 0#32, token⟩, { queue with ctx := { queue.ctx with nextToken := token } })
  | .picked sub, queue =>
      (.filled sub, { queue with mem := fillRequest queue.ctx sub.call sub.slot sub.token queue.mem })
  | .filled sub, queue =>
      (.polling sub pollLimit,
        { queue with mem := writeStatus queue.ctx sub.slot mlx5CmdOwnerHw queue.mem })
  | .polling sub 0, queue => (.polled sub 0, queue)
  | .polling sub (remaining + 1), queue =>
      if ownerOf (readStatus queue.ctx sub.slot queue.mem) = mlx5CmdOwnerSw then
        (.sawOwner sub, queue)
      else (.polling sub remaining, queue)
  | .sawOwner sub, queue =>
      (.polled sub (deliveryOf (readStatus queue.ctx sub.slot queue.mem)), queue)
  | .polled sub deliveryStatus, queue =>
      if ownerOf (readStatus queue.ctx sub.slot queue.mem) ≠ mlx5CmdOwnerSw then
        (.returned sub (failWith sub.call .timeout 0xFF), { queue with ctx := countFailed queue.ctx })
      else if deliveryStatus ≠ mlx5CmdDeliveryStatOk then
        (.returned sub (failWith sub.call .error 0xFF),
          { queue with ctx := countFailed (countTotal queue.ctx) })
      else (.delivered sub, { queue with ctx := countTotal queue.ctx })
  | .delivered sub, queue =>
      let fwStatus := outMbox sub.slot queue.mem mlx5MboxStatusOff
      if fwStatus ≠ mlx5CmdStatOk then
        (.returned sub (failWith sub.call .error fwStatus),
          { queue with ctx := countFailed queue.ctx })
      else (.accepted sub fwStatus, queue)
  | .accepted sub fwStatus, queue =>
      (.returned sub
        { ret := .success
          outStatus := reportStatus sub.call fwStatus
          outData := copyResponse sub.call (outMbox sub.slot queue.mem) }, queue)
  | .returned sub result, queue => (.returned sub result, queue)

/-- What the device does to the shared memory before the driver's next access. -/
abbrev DeviceAct := Nat → DmaMemory → DmaMemory

def drive (act : DeviceAct) : Nat → Nat → Phase → CmdQueue → Phase × CmdQueue
  | 0, _, phase, queue => (phase, queue)
  | _ + 1, _, .returned sub result, queue => (.returned sub result, queue)
  | fuel + 1, tick, phase, queue =>
      let next := callStep phase { queue with mem := act tick queue.mem }
      drive act fuel (tick + 1) next.1 next.2

/-- Pieces before the first poll, the polls, the end of the loop and the pieces after it. -/
def execFuel : Nat := pollLimit + 8

def resultOf : Phase → CmdResult
  | .returned _ result => result
  | _ => { ret := .notReady, outStatus := none, outData := none }

def mlx5CmdExec (act : DeviceAct) (call : CmdCall) (queue : CmdQueue) : CmdResult × CmdQueue :=
  let final := drive act execFuel 0 (.entered call) queue
  (resultOf final.1, final.2)

def piecesLeft : Phase → Nat
  | .entered _ => pollLimit + 7
  | .picked _ => pollLimit + 6
  | .filled _ => pollLimit + 5
  | .polling _ remaining => remaining + 4
  | .sawOwner _ => 4
  | .polled _ _ => 3
  | .delivered _ => 2
  | .accepted _ _ => 1
  | .returned _ _ => 0

theorem call_step_pieces_left (phase : Phase) (queue : CmdQueue) (unfinished : 0 < piecesLeft phase) :
    piecesLeft (callStep phase queue).1 < piecesLeft phase := by
  cases phase with
  | polling sub remaining =>
      cases remaining with
      | zero => simp [callStep, piecesLeft]
      | succ remaining =>
          simp only [callStep]
          split_ifs <;> simp only [piecesLeft] <;> omega
  | polled sub deliveryStatus =>
      simp only [callStep]
      split_ifs <;> simp [piecesLeft]
  | delivered sub =>
      simp only [callStep]
      split_ifs <;> simp [piecesLeft]
  | returned sub result => simp [piecesLeft] at unfinished
  | _ => simp [callStep, piecesLeft]

theorem drive_step (act : DeviceAct) (fuel tick : Nat) (phase : Phase) (queue : CmdQueue)
    (unfinished : 0 < piecesLeft phase) :
    drive act (fuel + 1) tick phase queue =
      drive act fuel (tick + 1) (callStep phase { queue with mem := act tick queue.mem }).1
        (callStep phase { queue with mem := act tick queue.mem }).2 := by
  cases phase with
  | returned sub result => simp [piecesLeft] at unfinished
  | _ => rfl

theorem pieces_left_zero {phase : Phase} (finished : piecesLeft phase = 0) :
    ∃ sub result, phase = .returned sub result := by
  cases phase with
  | returned sub result => exact ⟨sub, result, rfl⟩
  | _ => simp [piecesLeft] at finished

theorem drive_returns (act : DeviceAct) (fuel tick : Nat) (phase : Phase) (queue : CmdQueue)
    (enough : piecesLeft phase ≤ fuel) :
    ∃ sub result, (drive act fuel tick phase queue).1 = .returned sub result := by
  induction fuel generalizing tick phase queue with
  | zero =>
      obtain ⟨sub, result, rfl⟩ := pieces_left_zero (Nat.le_zero.mp enough)
      exact ⟨sub, result, rfl⟩
  | succ fuel induction =>
      by_cases unfinished : 0 < piecesLeft phase
      · have fewer := call_step_pieces_left phase { queue with mem := act tick queue.mem } unfinished
        rw [drive_step act fuel tick phase queue unfinished]
        exact induction (tick + 1) _ _ (by omega)
      · obtain ⟨sub, result, rfl⟩ := pieces_left_zero (Nat.eq_zero_of_not_pos unfinished)
        exact ⟨sub, result, rfl⟩

/-- What every piece preserves holds wherever the call is stopped. A call that
has returned takes no further ticks. -/
theorem drive_invariant {act : DeviceAct} {invariant : Nat → Phase → CmdQueue → Prop}
    (preserved : ∀ tick phase queue, 0 < piecesLeft phase → invariant tick phase queue →
      invariant (tick + 1) (callStep phase { queue with mem := act tick queue.mem }).1
        (callStep phase { queue with mem := act tick queue.mem }).2)
    (fuel : Nat) {tick : Nat} {phase : Phase} {queue : CmdQueue}
    (initial : invariant tick phase queue) :
    ∃ later ≤ tick + fuel,
      (later = tick + fuel ∨ piecesLeft (drive act fuel tick phase queue).1 = 0) ∧
        invariant later (drive act fuel tick phase queue).1 (drive act fuel tick phase queue).2 := by
  induction fuel generalizing tick phase queue with
  | zero => exact ⟨tick, Nat.le_refl _, Or.inl rfl, initial⟩
  | succ fuel induction =>
      by_cases unfinished : 0 < piecesLeft phase
      · rw [drive_step act fuel tick phase queue unfinished]
        obtain ⟨later, bound, ended, holds⟩ :=
          induction (preserved tick phase queue unfinished initial)
        have shift : tick + 1 + fuel = tick + (fuel + 1) := by omega
        rw [shift] at bound ended
        exact ⟨later, bound, ended, holds⟩
      · have finished := Nat.eq_zero_of_not_pos unfinished
        obtain ⟨sub, result, rfl⟩ := pieces_left_zero finished
        exact ⟨tick, Nat.le_add_right _ _, Or.inr rfl, initial⟩

theorem exec_returns (act : DeviceAct) (call : CmdCall) (queue : CmdQueue) :
    ∃ sub result, (drive act execFuel 0 (.entered call) queue).1 = .returned sub result ∧
      (mlx5CmdExec act call queue).1 = result := by
  obtain ⟨sub, result, final⟩ := drive_returns act execFuel 0 (.entered call) queue
    (by simp [piecesLeft, execFuel])
  exact ⟨sub, result, final, by rw [mlx5CmdExec, final]; rfl⟩

/-- The token and the two counters are all a call changes in the context. -/
def SameQueue (before after : Mlx5CmdContext) : Prop :=
  ∃ token total failed, after =
    { before with nextToken := token, totalCommands := total, failedCommands := failed }

theorem same_queue_refl (ctx : Mlx5CmdContext) : SameQueue ctx ctx :=
  ⟨ctx.nextToken, ctx.totalCommands, ctx.failedCommands, rfl⟩

theorem same_queue_trans {first second third : Mlx5CmdContext} (left : SameQueue first second)
    (right : SameQueue second third) : SameQueue first third := by
  obtain ⟨_, _, _, rfl⟩ := left
  obtain ⟨token, total, failed, rfl⟩ := right
  exact ⟨token, total, failed, rfl⟩

theorem call_step_same_queue (phase : Phase) (queue : CmdQueue) :
    SameQueue queue.ctx (callStep phase queue).2.ctx := by
  cases phase with
  | entered call => exact ⟨_, _, _, rfl⟩
  | polling sub remaining =>
      cases remaining with
      | zero => exact same_queue_refl _
      | succ remaining =>
          simp only [callStep]
          split_ifs <;> exact same_queue_refl _
  | polled sub deliveryStatus =>
      simp only [callStep]
      split_ifs <;> exact ⟨_, _, _, rfl⟩
  | delivered sub =>
      simp only [callStep]
      split_ifs
      · exact ⟨_, _, _, rfl⟩
      · exact same_queue_refl _
  | _ => exact same_queue_refl _

theorem drive_same_queue (act : DeviceAct) (fuel tick : Nat) (phase : Phase) (queue : CmdQueue) :
    SameQueue queue.ctx (drive act fuel tick phase queue).2.ctx := by
  induction fuel generalizing tick phase queue with
  | zero => exact same_queue_refl _
  | succ fuel induction =>
      by_cases unfinished : 0 < piecesLeft phase
      · rw [drive_step act fuel tick phase queue unfinished]
        have first := call_step_same_queue phase { queue with mem := act tick queue.mem }
        exact same_queue_trans first (induction (tick + 1) _ _)
      · obtain ⟨sub, result, rfl⟩ := pieces_left_zero (Nat.eq_zero_of_not_pos unfinished)
        exact same_queue_refl _

theorem exec_same_queue (act : DeviceAct) (call : CmdCall) (queue : CmdQueue) :
    SameQueue queue.ctx (mlx5CmdExec act call queue).2.ctx :=
  drive_same_queue act execFuel 0 (.entered call) queue

@[simp] theorem entry_offset_zero (ctx : Mlx5CmdContext) : entryOffset ctx 0#32 = 0 := by
  simp [entryOffset]

@[simp] theorem in_mbox_offset_zero : (inMboxOffset 0#32).toNat = 0 := by decide

@[simp] theorem out_mbox_offset_zero : (outMboxOffset 0#32).toNat = 4096 := by decide

def requestMailbox (call : CmdCall) : Bytes := copyInData call 0 (writeHeader call 0 zeroBytes)

theorem in_copy_len_le (call : CmdCall) : (inCopyLen call).toNat ≤ 4080 := by
  unfold inCopyLen
  split_ifs with long
  · decide
  · have bound := BitVec.not_lt.mp long
    exact BitVec.le_def.mp bound

theorem write_header_congr (call : CmdCall) (inMbox : Nat) {left right : Bytes} {index : Nat}
    (same : left index = right index) :
    writeHeader call inMbox left index = writeHeader call inMbox right index := by
  unfold writeHeader
  exact copy_in_congr (copy_in_congr (copy_in_congr same))

theorem write_header_outside (call : CmdCall) (inMbox : Nat) (pool : Bytes) (index : Nat)
    (beyond : inMbox + 8 ≤ index) : writeHeader call inMbox pool index = pool index := by
  unfold writeHeader store
  rw [copy_in_outside _ _ _ _ _ (by right; exact beyond),
    copy_in_outside _ _ _ _ _ (by right; unfold mlx5MboxUidOff; omega),
    copy_in_outside _ _ _ _ _ (by right; unfold mlx5MboxOpcodeOff; omega)]

theorem copy_in_data_congr (call : CmdCall) (inMbox : Nat) {left right : Bytes} {index : Nat}
    (same : left index = right index) :
    copyInData call inMbox left index = copyInData call inMbox right index := by
  unfold copyInData
  cases call.inData with
  | none => exact same
  | some data =>
      dsimp only
      split_ifs
      · exact copy_in_congr same
      · exact same

theorem copy_in_data_outside (call : CmdCall) (inMbox : Nat) (pool : Bytes) (index : Nat)
    (outside : index < inMbox + 16 ∨ inMbox + 4096 ≤ index) :
    copyInData call inMbox pool index = pool index := by
  have short := in_copy_len_le call
  unfold copyInData
  cases call.inData with
  | none => rfl
  | some data =>
      dsimp only
      split_ifs
      · exact copy_in_outside _ _ _ _ _ (by omega)
      · rfl

theorem fill_mailboxes_request (call : CmdCall) (pool : Bytes) (index : Nat)
    (inside : index < 4096) : fillMailboxes call 0#32 pool index = requestMailbox call index := by
  have size : mlx5CmdMailboxSize.toNat = 4096 := rfl
  simp only [fillMailboxes, requestMailbox, in_mbox_offset_zero, out_mbox_offset_zero, size]
  apply copy_in_data_congr
  apply write_header_congr
  rw [copy_in_outside _ _ _ _ _ (by omega)]
  simpa using copy_in_inside pool zeroBytes 0 4096 index inside

theorem fill_mailboxes_out_zero (call : CmdCall) (pool : Bytes) (index : Nat)
    (inside : index < 4096) : fillMailboxes call 0#32 pool (4096 + index) = 0 := by
  have size : mlx5CmdMailboxSize.toNat = 4096 := rfl
  simp only [fillMailboxes, in_mbox_offset_zero, out_mbox_offset_zero, size]
  rw [copy_in_data_outside _ _ _ _ (by omega), write_header_outside _ _ _ _ (by omega)]
  exact copy_in_inside _ _ _ _ _ inside

theorem request_mailbox_opcode (call : CmdCall) : loadBE (requestMailbox call) 0 16 = call.opcode := by
  have header : loadBE (requestMailbox call) 0 16 = loadBE (writeHeader call 0 zeroBytes) 0 16 := by
    apply load_be_congr (by decide)
    intro index bound
    exact copy_in_data_outside _ _ _ _ (by omega)
  rw [header, writeHeader, load_be_store_disjoint (by decide) _ _ _ _ (by decide),
    load_be_store_disjoint (by decide) _ _ _ _ (by decide)]
  exact load_be_store_swap (by decide) _ _ _

theorem request_mailbox_op_mod (call : CmdCall) : loadBE (requestMailbox call) 6 16 = call.opMod := by
  have header : loadBE (requestMailbox call) 6 16 = loadBE (writeHeader call 0 zeroBytes) 6 16 := by
    apply load_be_congr (by decide)
    intro index bound
    exact copy_in_data_outside _ _ _ _ (by omega)
  rw [header, writeHeader]
  exact load_be_store_swap (by decide) _ _ _

theorem request_mailbox_gap (call : CmdCall) (index : Nat) (low : 8 ≤ index) (high : index < 16) :
    requestMailbox call index = 0 := by
  rw [requestMailbox, copy_in_data_outside _ _ _ _ (by omega), write_header_outside _ _ _ _ (by omega)]
  rfl

/-- The caller's bytes as the input mailbox carries them, zero beyond the copied length. -/
def payload (call : CmdCall) : Bytes := fun index =>
  match call.inData with
  | none => 0
  | some data => if index < (inCopyLen call).toNat then data index else 0

theorem request_mailbox_payload (call : CmdCall) (index : Nat) :
    requestMailbox call (16 + index) = payload call index := by
  have blank : writeHeader call 0 zeroBytes (16 + index) = 0 := write_header_outside _ _ _ _ (by omega)
  unfold requestMailbox copyInData payload
  cases call.inData with
  | none => exact blank
  | some data =>
      dsimp only
      by_cases copied : index < (inCopyLen call).toNat
      · have positive : 0 < call.inLen := by
          rw [BitVec.lt_def]
          unfold inCopyLen at copied
          split_ifs at copied with long
          · exact Nat.lt_of_le_of_lt (Nat.zero_le _) (BitVec.lt_def.mp long)
          · exact Nat.lt_of_le_of_lt (Nat.zero_le _) copied
        rw [if_pos positive, if_pos copied]
        exact copy_in_inside _ _ _ _ _ copied
      · rw [if_neg copied]
        split_ifs
        · rw [copy_in_outside _ _ _ _ _ (by omega)]
          exact blank
        · exact blank

/-- The device answers once, right before the poll with the given number: it
writes the output mailbox and then the status byte of entry 0. -/
def answerAt (poll : Nat) (status : Byte) (mailbox : Bytes) : DeviceAct := fun tick mem =>
  if tick = 3 + poll then
    { ring := store mem.ring protBlockStatusOff status
      mboxPool := copyIn mem.mboxPool (outMboxOffset 0#32).toNat mailbox mlx5CmdMailboxSize.toNat }
  else mem

def answeredResult (call : CmdCall) (status : Byte) (mailbox : Bytes) : CmdResult :=
  if deliveryOf status ≠ mlx5CmdDeliveryStatOk then failWith call .error 0xFF
  else if mailbox mlx5MboxStatusOff ≠ mlx5CmdStatOk then
    failWith call .error (mailbox mlx5MboxStatusOff)
  else
    { ret := .success
      outStatus := reportStatus call (mailbox mlx5MboxStatusOff)
      outData := copyResponse call mailbox }

theorem read_status_write (ctx : Mlx5CmdContext) (slot : BitVec 32) (status : Byte)
    (mem : DmaMemory) : readStatus ctx slot (writeStatus ctx slot status mem) = status :=
  store_byte _ _ _

theorem drive_waits (act : DeviceAct) (sub : Submission) (queue : CmdQueue)
    (waits fuel tick remaining : Nat)
    (quiet : ∀ later, tick ≤ later → later < tick + waits → ∀ mem, act later mem = mem)
    (busy : ownerOf (readStatus queue.ctx sub.slot queue.mem) ≠ mlx5CmdOwnerSw) :
    drive act (fuel + waits) tick (.polling sub (remaining + waits)) queue =
      drive act fuel (tick + waits) (.polling sub remaining) queue := by
  induction waits generalizing tick with
  | zero => rfl
  | succ waits induction =>
      have still : act tick queue.mem = queue.mem := quiet tick (by omega) (by omega) _
      have stepped : drive act (fuel + (waits + 1)) tick
          (.polling sub (remaining + (waits + 1))) queue =
          drive act (fuel + waits) (tick + 1) (.polling sub (remaining + waits)) queue := by
        rw [← Nat.add_assoc, ← Nat.add_assoc]
        simp only [drive, callStep, still, if_neg busy]
      rw [stepped, induction (tick + 1) (by intro later low high; exact quiet later (by omega) (by omega))]
      congr 1
      omega

theorem out_copy_len_le (call : CmdCall) : (outCopyLen call).toNat ≤ 4088 := by
  unfold outCopyLen
  split_ifs with long
  · decide
  · have bound := BitVec.not_lt.mp long
    exact BitVec.le_def.mp bound

/-- Only the 4096 bytes of the mailbox reach the caller. -/
theorem copy_response_congr (call : CmdCall) {left right : Bytes}
    (same : ∀ index < 4096, left index = right index) :
    copyResponse call left = copyResponse call right := by
  have short := out_copy_len_le call
  unfold copyResponse
  cases call.outData with
  | none => rfl
  | some data =>
      dsimp only
      split_ifs
      · congr 1
        funext index
        by_cases copied : index < (outCopyLen call).toNat
        · have leftByte := copy_in_inside data (window left 8) 0 _ index copied
          have rightByte := copy_in_inside data (window right 8) 0 _ index copied
          rw [Nat.zero_add] at leftByte rightByte
          rw [leftByte, rightByte]
          exact same (8 + index) (by omega)
        · rw [copy_in_outside _ _ _ _ _ (by omega), copy_in_outside _ _ _ _ _ (by omega)]
      · rfl

def submitted (call : CmdCall) (queue : CmdQueue) : CmdQueue :=
  let token := nextToken queue.ctx.nextToken
  let ctx := { queue.ctx with nextToken := token }
  { ctx := ctx
    mem := writeStatus ctx 0#32 mlx5CmdOwnerHw (fillRequest ctx call 0#32 token queue.mem) }

def submission (call : CmdCall) (queue : CmdQueue) : Submission :=
  ⟨call, 0#32, nextToken queue.ctx.nextToken⟩

theorem submitted_in_mbox (call : CmdCall) (queue : CmdQueue) (index : Nat) (inside : index < 4096) :
    inMbox 0#32 (submitted call queue).mem index = requestMailbox call index := by
  simp only [inMbox, window, in_mbox_offset_zero, Nat.zero_add, submitted, writeStatus, fillRequest]
  exact fill_mailboxes_request call _ index inside

theorem submitted_out_mbox (call : CmdCall) (queue : CmdQueue) (index : Nat) (inside : index < 4096) :
    outMbox 0#32 (submitted call queue).mem index = 0 := by
  simp only [outMbox, window, out_mbox_offset_zero, submitted, writeStatus, fillRequest]
  exact fill_mailboxes_out_zero call _ index inside

theorem submitted_data_byte (call : CmdCall) (queue : CmdQueue) (data : Bytes)
    (buffer : call.inData = some data) (index : Nat) (copied : index < (inCopyLen call).toNat) :
    inMbox 0#32 (submitted call queue).mem (16 + index) = data index := by
  have short := in_copy_len_le call
  rw [submitted_in_mbox call queue _ (by omega), request_mailbox_payload]
  simp only [payload, buffer, if_pos copied]

/-- A device that does not touch the memory before the doorbell first sees it as `submitted`. -/
theorem drive_submits (act : DeviceAct) (call : CmdCall) (queue : CmdQueue)
    (quiet : ∀ tick < 3, ∀ mem, act tick mem = mem) :
    drive act execFuel 0 (.entered call) queue =
      drive act (pollLimit + 5) 3 (.polling (submission call queue) pollLimit)
        (submitted call queue) := by
  have fuel : execFuel = pollLimit + 5 + 3 := rfl
  rw [fuel]
  simp only [drive, callStep, quiet 0 (by decide), quiet (0 + 1) (by decide),
    quiet (0 + 1 + 1) (by decide)]
  rfl

theorem submitted_owner (call : CmdCall) (queue : CmdQueue) :
    ownerOf (readStatus (submitted call queue).ctx 0#32 (submitted call queue).mem) ≠
      mlx5CmdOwnerSw := by
  simp only [submitted, read_status_write]
  decide

/-- At the timeout check, with the owner bit cleared by then and a device that
stays quiet afterwards, the call ends with the output mailbox and the delivery
status it carries. -/
theorem drive_polled_tail (act : DeviceAct) (sub : Submission) (status : Byte) (queue : CmdQueue)
    (mem : DmaMemory) (tick fuel : Nat) (now : act tick queue.mem = mem)
    (quiet : ∀ later, tick < later → ∀ mem, act later mem = mem)
    (released : ownerOf (readStatus queue.ctx sub.slot mem) = mlx5CmdOwnerSw) :
    (drive act (fuel + 4) tick (.polled sub (deliveryOf status)) queue).1 =
      .returned sub (answeredResult sub.call status (outMbox sub.slot mem)) := by
  have second := quiet (tick + 1) (by omega)
  have third := quiet (tick + 1 + 1) (by omega)
  have owned : ¬ownerOf (readStatus queue.ctx sub.slot mem) ≠ mlx5CmdOwnerSw := by
    simpa using released
  unfold answeredResult
  by_cases delivered : deliveryOf status ≠ mlx5CmdDeliveryStatOk
  · simp only [drive, callStep, now, if_neg owned, if_pos delivered]
  · by_cases accepted : outMbox sub.slot mem mlx5MboxStatusOff ≠ mlx5CmdStatOk
    · simp only [drive, callStep, now, second, if_neg owned, if_neg delivered, if_pos accepted]
    · simp only [drive, callStep, now, second, third, if_neg owned, if_neg delivered,
        if_neg accepted]

/-- Once the owner bit was seen and the device stays quiet, the call ends with
what the entry and the output mailbox hold. -/
theorem drive_quiet_tail (act : DeviceAct) (sub : Submission) (queue : CmdQueue) (tick fuel : Nat)
    (quiet : ∀ later, tick ≤ later → ∀ mem, act later mem = mem)
    (released : ownerOf (readStatus queue.ctx sub.slot queue.mem) = mlx5CmdOwnerSw) :
    (drive act (fuel + 5) tick (.sawOwner sub) queue).1 =
      .returned sub (answeredResult sub.call (readStatus queue.ctx sub.slot queue.mem)
        (outMbox sub.slot queue.mem)) := by
  have captured : drive act (fuel + 5) tick (.sawOwner sub) queue =
      drive act (fuel + 4) (tick + 1)
        (.polled sub (deliveryOf (readStatus queue.ctx sub.slot queue.mem))) queue := by
    simp only [drive, callStep, quiet tick (Nat.le_refl _)]
  rw [captured]
  apply drive_polled_tail act sub _ queue queue.mem (tick + 1) fuel
  · exact quiet (tick + 1) (Nat.le_succ _) _
  · intro later after mem
    exact quiet later (by omega) mem
  · exact released

theorem drive_loop_ends (act : DeviceAct) (call : CmdCall) (queue : CmdQueue) (mem : DmaMemory)
    (quiet : ∀ tick < 3 + pollLimit, ∀ mem, act tick mem = mem)
    (now : act (3 + pollLimit) (submitted call queue).mem = mem) :
    drive act execFuel 0 (.entered call) queue =
      drive act 4 (3 + pollLimit + 1) (.polled (submission call queue) (deliveryOf 0#8))
        { submitted call queue with mem := mem } := by
  have opened := drive_submits act call queue
    (by intro tick before mem; exact quiet tick (by omega) mem)
  have waited := drive_waits act (submission call queue) (submitted call queue) pollLimit 5 3 0
    (by intro later _ high mem; exact quiet later high mem) (submitted_owner call queue)
  rw [Nat.add_comm 5, Nat.zero_add] at waited
  rw [opened, waited]
  simp only [drive, callStep, now]
  rfl

theorem exec_unanswered (act : DeviceAct) (call : CmdCall) (queue : CmdQueue)
    (quiet : ∀ tick < 3 + pollLimit + 2, ∀ mem, act tick mem = mem) :
    (mlx5CmdExec act call queue).1 = failWith call .timeout 0xFF := by
  have ended := drive_loop_ends act call queue (submitted call queue).mem
    (by intro tick before mem; exact quiet tick (by omega) mem) (quiet _ (by omega) _)
  have busy := submitted_owner call queue
  rw [mlx5CmdExec, ended]
  simp only [drive, callStep, submission, quiet (3 + pollLimit + 1) (by omega), if_pos busy]
  rfl

/-- A device that acts once, right before the poll with the given number. -/
def respondAt (poll : Nat) (answer : DmaMemory → DmaMemory) : DeviceAct := fun tick mem =>
  if tick = 3 + poll then answer mem else mem

theorem respond_at_quiet (poll : Nat) (answer : DmaMemory → DmaMemory) {tick : Nat}
    (other : tick ≠ 3 + poll) (mem : DmaMemory) : respondAt poll answer tick mem = mem :=
  if_neg other

/-- The whole call, for a device that acts once within the polling loop and
clears the owner bit. -/
theorem exec_responded (call : CmdCall) (queue : CmdQueue) (poll : Nat)
    (answer : DmaMemory → DmaMemory) (inTime : poll < pollLimit)
    (released : ownerOf (readStatus (submitted call queue).ctx 0#32
      (answer (submitted call queue).mem)) = mlx5CmdOwnerSw) :
    (mlx5CmdExec (respondAt poll answer) call queue).1 =
      answeredResult call
        (readStatus (submitted call queue).ctx 0#32 (answer (submitted call queue).mem))
        (outMbox 0#32 (answer (submitted call queue).mem)) := by
  obtain ⟨spare, split⟩ : ∃ spare, pollLimit = spare + 1 + poll := ⟨pollLimit - 1 - poll, by omega⟩
  -- up to the doorbell, then the polls before the answer
  have opened := drive_submits (respondAt poll answer) call queue
    (by intro tick before mem; exact respond_at_quiet _ _ (by omega) mem)
  have fuel : pollLimit + 5 = spare + 6 + poll := by omega
  rw [fuel, split] at opened
  have waited := drive_waits (respondAt poll answer) (submission call queue)
    (submitted call queue) poll (spare + 6) 3 (spare + 1)
    (by intro later _ high mem; exact respond_at_quiet _ _ (by omega) mem) (submitted_owner call queue)
  -- the answer itself, and the pieces after it
  have answered : respondAt poll answer (3 + poll) (submitted call queue).mem =
      answer (submitted call queue).mem := if_pos rfl
  have noticed : drive (respondAt poll answer) (spare + 6) (3 + poll)
      (.polling (submission call queue) (spare + 1)) (submitted call queue) =
      drive (respondAt poll answer) (spare + 5) (3 + poll + 1) (.sawOwner (submission call queue))
        { submitted call queue with mem := answer (submitted call queue).mem } := by
    simp only [drive, callStep, submission, answered, released, if_pos]
  have tail := drive_quiet_tail (respondAt poll answer) (submission call queue)
    { submitted call queue with mem := answer (submitted call queue).mem } (3 + poll + 1) spare
    (by intro later after mem; exact respond_at_quiet _ _ (by omega) mem) released
  rw [mlx5CmdExec, opened, waited, noticed, tail]
  rfl

/-- A device that acts once between the last poll and the timeout check: the
delivery status in the entry is not read any more. -/
theorem exec_responded_late (call : CmdCall) (queue : CmdQueue) (poll : Nat)
    (answer : DmaMemory → DmaMemory) (afterLoop : pollLimit ≤ poll)
    (beforeCheck : poll ≤ pollLimit + 1)
    (released : ownerOf (readStatus (submitted call queue).ctx 0#32
      (answer (submitted call queue).mem)) = mlx5CmdOwnerSw) :
    (mlx5CmdExec (respondAt poll answer) call queue).1 =
      answeredResult call 0#8 (outMbox 0#32 (answer (submitted call queue).mem)) := by
  have quiet : ∀ tick, tick ≠ 3 + poll → ∀ mem, respondAt poll answer tick mem = mem :=
    fun tick other mem => respond_at_quiet _ _ other mem
  have answered : respondAt poll answer (3 + poll) (submitted call queue).mem =
      answer (submitted call queue).mem := if_pos rfl
  have tail : (drive (respondAt poll answer) execFuel 0 (.entered call) queue).1 =
      .returned (submission call queue)
        (answeredResult call 0#8 (outMbox 0#32 (answer (submitted call queue).mem))) := by
    rcases Nat.eq_or_lt_of_le afterLoop with atEnd | afterEnd
    · have ended := drive_loop_ends (respondAt poll answer) call queue
        (answer (submitted call queue).mem)
        (by intro tick before; exact quiet tick (by omega)) (by rw [atEnd]; exact answered)
      rw [ended]
      exact drive_polled_tail _ (submission call queue) 0#8 _ _ _ 0
        (quiet (3 + pollLimit + 1) (by omega) _)
        (by intro later after; exact quiet later (by omega)) released
    · have last : 3 + pollLimit + 1 = 3 + poll := by omega
      have ended := drive_loop_ends (respondAt poll answer) call queue
        (submitted call queue).mem (by intro tick before; exact quiet tick (by omega))
        (quiet (3 + pollLimit) (by omega) _)
      rw [ended, last]
      exact drive_polled_tail _ (submission call queue) 0#8 _ _ _ 0 answered
        (by intro later after; exact quiet later (by omega)) released
  rw [mlx5CmdExec, tail]
  rfl

def writeAnswer (status : Byte) (mailbox : Bytes) (mem : DmaMemory) : DmaMemory where
  ring := store mem.ring protBlockStatusOff status
  mboxPool := copyIn mem.mboxPool (outMboxOffset 0#32).toNat mailbox mlx5CmdMailboxSize.toNat

theorem answer_at_eq (poll : Nat) (status : Byte) (mailbox : Bytes) :
    answerAt poll status mailbox = respondAt poll (writeAnswer status mailbox) := rfl

theorem write_answer_status (ctx : Mlx5CmdContext) (status : Byte) (mailbox : Bytes)
    (mem : DmaMemory) : readStatus ctx 0#32 (writeAnswer status mailbox mem) = status := by
  have written := read_status_write ctx 0#32 status mem
  simpa [readStatus, writeStatus, writeAnswer] using written

theorem write_answer_out_mbox (status : Byte) (mailbox : Bytes) (mem : DmaMemory) (index : Nat)
    (inside : index < 4096) : outMbox 0#32 (writeAnswer status mailbox mem) index = mailbox index := by
  simp only [outMbox, window, writeAnswer]
  exact copy_in_inside _ _ _ _ _ inside

theorem answered_result_congr (call : CmdCall) (status : Byte) {left right : Bytes}
    (same : ∀ index < 4096, left index = right index) :
    answeredResult call status left = answeredResult call status right := by
  simp only [answeredResult, same mlx5MboxStatusOff (by decide), copy_response_congr call same]

theorem exec_answered (call : CmdCall) (queue : CmdQueue) (poll : Nat) (status : Byte)
    (mailbox : Bytes) (inTime : poll < pollLimit) (released : ownerOf status = mlx5CmdOwnerSw) :
    (mlx5CmdExec (answerAt poll status mailbox) call queue).1 =
      answeredResult call status mailbox := by
  have statusRead := write_answer_status (submitted call queue).ctx status mailbox
    (submitted call queue).mem
  rw [answer_at_eq, exec_responded call queue poll _ inTime (by rw [statusRead]; exact released),
    statusRead]
  exact answered_result_congr call status (write_answer_out_mbox status mailbox _)

/-- Between the last poll and the timeout check an answer loses its delivery status. -/
theorem exec_answered_late (call : CmdCall) (queue : CmdQueue) (poll : Nat) (status : Byte)
    (mailbox : Bytes) (afterLoop : pollLimit ≤ poll) (beforeCheck : poll ≤ pollLimit + 1)
    (released : ownerOf status = mlx5CmdOwnerSw) :
    (mlx5CmdExec (answerAt poll status mailbox) call queue).1 =
      answeredResult call 0#8 mailbox := by
  have statusRead := write_answer_status (submitted call queue).ctx status mailbox
    (submitted call queue).mem
  rw [answer_at_eq, exec_responded_late call queue poll _ afterLoop beforeCheck
    (by rw [statusRead]; exact released)]
  exact answered_result_congr call 0#8 (write_answer_out_mbox status mailbox _)

theorem answered_result_success (call : CmdCall) (status : Byte) (mailbox : Bytes) :
    (answeredResult call status mailbox).ret = .success ↔
      mailbox mlx5MboxStatusOff = mlx5CmdStatOk ∧ deliveryOf status = mlx5CmdDeliveryStatOk := by
  unfold answeredResult
  split_ifs with undelivered refused
  · simp [failWith, undelivered]
  · simp [failWith, refused]
  · simp [not_not.mp undelivered, not_not.mp refused]

theorem answered_result_data {call : CmdCall} {status : Byte} {mailbox : Bytes}
    (success : (answeredResult call status mailbox).ret = .success) :
    (answeredResult call status mailbox).outData = copyResponse call mailbox := by
  rcases (answered_result_success call status mailbox).mp success with ⟨accepted, delivered⟩
  rw [answeredResult, if_neg (not_not.mpr delivered), if_neg (not_not.mpr accepted)]

theorem exec_accepted (call : CmdCall) (queue : CmdQueue) (poll : Nat) (mailbox : Bytes)
    (inTime : poll < pollLimit) (accepted : mailbox mlx5MboxStatusOff = mlx5CmdStatOk) :
    (mlx5CmdExec (answerAt poll 0#8 mailbox) call queue).1 =
      { ret := .success
        outStatus := reportStatus call mlx5CmdStatOk
        outData := copyResponse call mailbox } := by
  have delivered : ¬deliveryOf 0#8 ≠ mlx5CmdDeliveryStatOk := by decide
  have noError : ¬mlx5CmdStatOk ≠ mlx5CmdStatOk := by decide
  rw [exec_answered call queue poll 0#8 mailbox inTime (by decide), answeredResult, if_neg delivered,
    accepted, if_neg noError]

theorem response_byte (call : CmdCall) (data mailbox : Bytes) (buffer : call.outData = some data)
    (index : Nat) (inside : index < (outCopyLen call).toNat) :
    (copyResponse call mailbox).getD zeroBytes index = mailbox (8 + index) := by
  have positive : 0 < call.outLen := by
    rw [BitVec.lt_def]
    unfold outCopyLen at inside
    split_ifs at inside with long
    · exact Nat.lt_of_le_of_lt (Nat.zero_le _) (BitVec.lt_def.mp long)
    · exact Nat.lt_of_le_of_lt (Nat.zero_le _) inside
  have copied := copy_in_inside data (window mailbox 8) 0 (outCopyLen call).toNat index inside
  rw [Nat.zero_add] at copied
  simp only [copyResponse, buffer, if_pos positive, Option.getD_some]
  exact copied

theorem response_word {w : Nat} (whole : w / 8 * 8 = w) (call : CmdCall) (data mailbox : Bytes)
    (buffer : call.outData = some data) (offset : Nat)
    (inside : offset + w / 8 ≤ (outCopyLen call).toNat) :
    loadBE ((copyResponse call mailbox).getD zeroBytes) offset w = loadBE mailbox (8 + offset) w := by
  apply congrArg byteSwap
  apply of_bytes_congr whole
  intro index bound
  rw [window, window, response_byte call data mailbox buffer _ (by omega), Nat.add_assoc]

end Verbifrost.Mlx5CmdExec
