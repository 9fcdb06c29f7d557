import Verbifrost.Mlx5CmdAddresses
import Verbifrost.Mlx5CmdCompletion
import Verbifrost.Mlx5CmdProtocol

/-!
# What the doorbell announces

The memory of a call at the moment its doorbell rings, decoded the way the
device decodes it: the ring entry through the big-endian fields of
`struct mlx5_cmd_prot_block`, the input mailbox through the pointer found in the
entry. Until then the device may still write an answer to an earlier command,
that is the status byte and the output mailbox.
-/

namespace Verbifrost.Mlx5CmdSubmission

open Verbifrost.ByteMemory Verbifrost.Mlx5Registers
open Verbifrost.Mlx5CmdExec Verbifrost.Mlx5CmdInit Verbifrost.Mlx5CmdAddresses

set_option autoImplicit false

/-- After the piece that hands the entry to the device, which acts before each of the three. -/
def atDoorbell (act : DeviceAct) (call : CmdCall) (queue : CmdQueue) : CmdQueue :=
  (drive act 3 0 (.entered call) queue).2

/-- Of entry 0 at most the status byte is written, and nothing of its input mailbox. -/
structure SparesRequest (write : DmaMemory → DmaMemory) : Prop where
  entry : ∀ mem index, 1 ≤ index → index < 64 → (write mem).ring index = mem.ring index
  mailbox : ∀ mem index, index < 4096 → (write mem).mboxPool index = mem.mboxPool index

def entryWord (queue : CmdQueue) (offset w : Nat) : BitVec w :=
  loadBE queue.mem.ring (entryOffset queue.ctx 0#32 + offset) w

/-- Where in the mailbox pool a DMA address of the entry points. -/
def poolOffset (queue : CmdQueue) (offset : Nat) : Nat :=
  (entryWord queue offset 64 - queue.ctx.mboxDmaBase).toNat

def sentMailbox (queue : CmdQueue) : Bytes :=
  window queue.mem.mboxPool (poolOffset queue protBlockInPtrOff)

/-- A context that a successful `mlx5_cmd_init` and any number of commands left. -/
def Initialised (ctx : Mlx5CmdContext) : Prop :=
  ∃ outcomes bar0 bar0Size iseg heap,
    (mlx5CmdInit outcomes bar0 bar0Size iseg heap).ret = .success ∧
      SameQueue (mlx5CmdInit outcomes bar0 bar0Size iseg heap).queue.ctx ctx

structure DecodesBack (call : CmdCall) (queue : CmdQueue) : Prop where
  pooled : Initialised queue.ctx →
    poolOffset queue protBlockInPtrOff + 4096 ≤ (mboxPoolSize queue.ctx).toNat ∧
      poolOffset queue protBlockOutPtrOff + 4096 ≤ (mboxPoolSize queue.ctx).toNat
  disjoint : poolOffset queue protBlockInPtrOff + 4096 ≤ poolOffset queue protBlockOutPtrOff ∨
    poolOffset queue protBlockOutPtrOff + 4096 ≤ poolOffset queue protBlockInPtrOff
  inLen : entryWord queue protBlockInLenOff 32 = 4096
  outLen : entryWord queue protBlockOutLenOff 32 = if call.outLen = 0 then 4096 else call.outLen
  token : entryWord queue protBlockTokenOff 32 = queue.ctx.nextToken.setWidth 32
  tokenSet : entryWord queue protBlockTokenOff 32 ≠ 0
  signature : entryWord queue protBlockSignatureOff 8 = 0
  owner : readStatus queue.ctx 0#32 queue.mem = mlx5CmdOwnerHw
  opcode : loadBE (sentMailbox queue) mlx5MboxOpcodeOff 16 = call.opcode
  uid : loadBE (sentMailbox queue) mlx5MboxUidOff 16 = 0
  opMod : loadBE (sentMailbox queue) mlx5MboxOpModOff 16 = call.opMod
  data : ∀ data, call.inData = some data → ∀ index < call.inLen.toNat,
    sentMailbox queue (16 + index) = data index
  blank : ∀ index < 4096, 2 ≤ index → (index < 6 ∨ 8 ≤ index) →
    (index < 16 ∨ 16 + call.inLen.toNat ≤ index ∨ call.inData = none) → sentMailbox queue index = 0

def beforeRequest (act : DeviceAct) (queue : CmdQueue) : CmdQueue :=
  { queue with mem := act 1 (act 0 queue.mem) }

theorem at_doorbell_ring {act : DeviceAct} (spared : SparesRequest (act 2)) (call : CmdCall)
    (queue : CmdQueue) (index : Nat) (inside : index < 64) :
    (atDoorbell act call queue).mem.ring index =
      (submitted call (beforeRequest act queue)).mem.ring index := by
  simp only [atDoorbell, drive, callStep, submitted, beforeRequest, writeStatus, entry_offset_zero]
  by_cases first : index = 0
  · subst first
    rw [Nat.zero_add]
    exact (store_byte _ _ _).trans (store_byte _ _ _).symm
  · apply copy_in_congr
    exact spared.entry _ _ (Nat.one_le_iff_ne_zero.mpr first) inside

theorem at_doorbell_mailbox {act : DeviceAct} (spared : SparesRequest (act 2)) (call : CmdCall)
    (queue : CmdQueue) (index : Nat) (inside : index < 4096) :
    (atDoorbell act call queue).mem.mboxPool index = requestMailbox call index := by
  have written := submitted_in_mbox call (beforeRequest act queue) index inside
  simp only [inMbox, window, in_mbox_offset_zero, Nat.zero_add] at written
  rw [← written]
  exact spared.mailbox _ _ inside

theorem at_doorbell_word {act : DeviceAct} (spared : SparesRequest (act 2)) (call : CmdCall)
    (queue : CmdQueue) {offset w : Nat} (whole : w / 8 * 8 = w) (inside : offset + w / 8 ≤ 64) :
    entryWord (atDoorbell act call queue) offset w =
      loadBE (submitted call (beforeRequest act queue)).mem.ring offset w := by
  rw [entryWord, entry_offset_zero, Nat.zero_add]
  apply load_be_congr whole
  intro index bound
  exact at_doorbell_ring spared call queue _ (by omega)

theorem at_doorbell_in_offset {act : DeviceAct} (spared : SparesRequest (act 2)) (call : CmdCall)
    (queue : CmdQueue) : poolOffset (atDoorbell act call queue) protBlockInPtrOff = 0 := by
  have pointer := entry_in_ptr call (beforeRequest act queue)
  rw [entryInPtr] at pointer
  rw [poolOffset, at_doorbell_word spared call queue (by decide) (by decide), pointer]
  exact congrArg BitVec.toNat (BitVec.sub_self _)

theorem at_doorbell_out_offset {act : DeviceAct} (spared : SparesRequest (act 2)) (call : CmdCall)
    (queue : CmdQueue) : poolOffset (atDoorbell act call queue) protBlockOutPtrOff = 4096 := by
  have pointer := entry_out_ptr call (beforeRequest act queue)
  have base : (atDoorbell act call queue).ctx.mboxDmaBase =
    (beforeRequest act queue).ctx.mboxDmaBase := rfl
  rw [entryOutPtr] at pointer
  rw [poolOffset, at_doorbell_word spared call queue (by decide) (by decide), pointer, base,
    BitVec.add_comm, BitVec.add_sub_cancel]
  rfl

theorem at_doorbell_sent {act : DeviceAct} (spared : SparesRequest (act 2)) (call : CmdCall)
    (queue : CmdQueue) (index : Nat) (inside : index < 4096) :
    sentMailbox (atDoorbell act call queue) index = requestMailbox call index := by
  rw [sentMailbox, window, at_doorbell_in_offset spared, Nat.zero_add]
  exact at_doorbell_mailbox spared call queue index inside

theorem at_doorbell_sent_word {act : DeviceAct} (spared : SparesRequest (act 2)) (call : CmdCall)
    (queue : CmdQueue) {offset w : Nat} (whole : w / 8 * 8 = w) (inside : offset + w / 8 ≤ 4096) :
    loadBE (sentMailbox (atDoorbell act call queue)) offset w =
      loadBE (requestMailbox call) offset w := by
  apply load_be_congr whole
  intro index bound
  exact at_doorbell_sent spared call queue _ (by omega)

theorem submitted_in_len (call : CmdCall) (queue : CmdQueue) :
    loadBE (submitted call queue).mem.ring protBlockInLenOff 32 = mlx5CmdMailboxSize := by
  simp only [submitted, writeStatus, fillRequest, fillEntry, entry_offset_zero, Nat.zero_add]
  iterate 5 rw [load_be_store_disjoint (by decide) _ _ _ _ (by decide)]
  exact load_be_store_swap (by decide) _ _ _

theorem submitted_token (call : CmdCall) (queue : CmdQueue) :
    loadBE (submitted call queue).mem.ring protBlockTokenOff 32 =
      (submitted call queue).ctx.nextToken.setWidth 32 := by
  simp only [submitted, writeStatus, fillRequest, entry_offset_zero, Nat.zero_add]
  rw [load_be_store_disjoint (by decide) _ _ _ _ (by decide)]
  exact Mlx5CmdProtocol.fill_entry_token _ call _ _

theorem submitted_signature (call : CmdCall) (queue : CmdQueue) :
    loadBE (submitted call queue).mem.ring protBlockSignatureOff 8 = 0 := by
  have zero : (0 : BitVec 8) = byteSwap 0 := by decide
  simp only [submitted, writeStatus, fillRequest, fillEntry, entry_offset_zero, Nat.zero_add]
  rw [load_be_store_disjoint (by decide) _ _ _ _ (by decide), zero]
  exact load_be_store_swap (by decide) _ _ _

theorem next_token_nonzero (token : BitVec 8) : nextToken token ≠ 0 := by
  unfold nextToken
  split_ifs with wrapped
  · rw [wrapped]
    decide
  · exact wrapped

theorem request_mailbox_uid (call : CmdCall) :
    loadBE (requestMailbox call) mlx5MboxUidOff 16 = mlx5CmdUidDriver := by
  have header : loadBE (requestMailbox call) mlx5MboxUidOff 16 =
      loadBE (writeHeader call 0 zeroBytes) mlx5MboxUidOff 16 := by
    apply load_be_congr (by decide)
    intro index bound
    apply copy_in_data_outside
    left
    exact Nat.lt_of_lt_of_le (Nat.add_lt_add_left bound _) (by decide)
  rw [header, writeHeader, load_be_store_disjoint (by decide) _ _ _ _ (by decide)]
  exact load_be_store_swap (by decide) _ _ _

theorem request_mailbox_header_blank (call : CmdCall) (index : Nat) (low : 2 ≤ index)
    (high : index < 6) : requestMailbox call index = 0 := by
  have zero : ∀ byte, byteOf (byteSwap mlx5CmdUidDriver) byte = 0 := by
    intro byte
    have word : byteSwap mlx5CmdUidDriver = 0 := by decide
    rw [word]
    simp [byteOf]
  rw [requestMailbox, copy_in_data_outside _ _ _ _ (by omega)]
  simp only [writeHeader, mlx5MboxOpModOff, mlx5MboxUidOff, mlx5MboxOpcodeOff, Nat.zero_add]
  rw [store_outside _ _ _ _ (by omega)]
  by_cases user : index < 4
  · rw [store, copyIn, if_pos (by omega)]
    exact zero _
  · rw [store_outside _ _ _ _ (by omega), store_outside _ _ _ _ (by omega)]
    rfl

theorem in_copy_len_short {call : CmdCall} (short : call.inLen.toNat ≤ 4080) :
    inCopyLen call = call.inLen := by
  have fits : ¬mlx5CmdMailboxSize - 16 < call.inLen := by
    rw [BitVec.not_lt, BitVec.le_def]
    exact short
  rw [inCopyLen, if_neg fits]

theorem request_mailbox_data {call : CmdCall} (short : call.inLen.toNat ≤ 4080) {data : Bytes}
    (buffer : call.inData = some data) (index : Nat) (inside : index < call.inLen.toNat) :
    requestMailbox call (16 + index) = data index := by
  rw [request_mailbox_payload, payload, buffer]
  dsimp only
  rw [in_copy_len_short short, if_pos inside]

theorem request_mailbox_rest {call : CmdCall} (short : call.inLen.toNat ≤ 4080) (index : Nat)
    (beyond : call.inLen.toNat ≤ index ∨ call.inData = none) :
    requestMailbox call (16 + index) = 0 := by
  rw [request_mailbox_payload, payload]
  cases buffer : call.inData with
  | none => rfl
  | some data =>
      rcases beyond with behind | missing
      · dsimp only
        rw [in_copy_len_short short, if_neg (Nat.not_lt.mpr behind)]
      · rw [buffer] at missing
        cases missing

theorem cmd_init_pool_size (outcomes : CmdInitOutcomes) (bar0 : BitVec 64) (bar0Size : BitVec 32)
    (iseg : Bytes) (heap : ReferenceHeap.Heap)
    (succeeded : (mlx5CmdInit outcomes bar0 bar0Size iseg heap).ret = .success) :
    2 * 4096 ≤ (mboxPoolSize (mlx5CmdInit outcomes bar0 bar0Size iseg heap).queue.ctx).toNat := by
  have ringMapped : RingMapped outcomes := by
    by_contra unmapped
    exact cmd_init_unmapped unmapped bar0 bar0Size iseg heap succeeded
  rcases ringMapped with ⟨someRing, dma, created, mapped⟩
  rcases Option.isSome_iff_exists.mp someRing with ⟨buffer, allocated⟩
  obtain ⟨ctx, ring, continued, _, entries⟩ :=
    cmd_init_mapped allocated created mapped bar0 bar0Size iseg heap
  apply pool_holds_mailboxes bar0 bar0Size iseg
  rw [continued, ← entries]
  unfold initMailboxes
  cases outcomes.mboxBuffer <;> rfl

theorem initialised_pool_size {ctx : Mlx5CmdContext} (initialised : Initialised ctx) :
    2 * 4096 ≤ (mboxPoolSize ctx).toNat := by
  rcases initialised with ⟨outcomes, bar0, bar0Size, iseg, heap, succeeded, _, _, _, rfl⟩
  exact cmd_init_pool_size outcomes bar0 bar0Size iseg heap succeeded

/-- For every call whose bytes fit the mailbox, whatever the queue held before. -/
theorem doorbell_decodes_back (act : DeviceAct) (call : CmdCall) (queue : CmdQueue)
    (short : call.inLen.toNat ≤ 4080) (spared : SparesRequest (act 2)) :
    DecodesBack call (atDoorbell act call queue) where
  pooled := by
    intro initialised
    have size := initialised_pool_size initialised
    rw [at_doorbell_in_offset spared, at_doorbell_out_offset spared]
    constructor <;> omega
  disjoint := by
    left
    rw [at_doorbell_in_offset spared, at_doorbell_out_offset spared]
  inLen := by
    rw [at_doorbell_word spared call queue (by decide) (by decide), submitted_in_len]
    rfl
  outLen := by
    rw [at_doorbell_word spared call queue (by decide) (by decide),
      Mlx5CmdCompletion.submitted_out_len, advertisedOutLen]
    by_cases none : call.outLen = 0
    · rw [if_pos none, none]
      rfl
    · have positive : 0 < call.outLen := (BitVec.pos_iff_ne_zero _).mpr none
      rw [if_neg none, if_pos positive]
  token := by
    rw [at_doorbell_word spared call queue (by decide) (by decide), submitted_token]
    rfl
  tokenSet := by
    rw [at_doorbell_word spared call queue (by decide) (by decide), submitted_token]
    intro zero
    apply next_token_nonzero (beforeRequest act queue).ctx.nextToken
    have number := congrArg BitVec.toNat zero
    apply BitVec.eq_of_toNat_eq
    rwa [BitVec.toNat_setWidth_of_le (by decide)] at number
  signature := by
    rw [at_doorbell_word spared call queue (by decide) (by decide), submitted_signature]
  owner := read_status_write _ _ _ _
  opcode := by
    rw [at_doorbell_sent_word spared call queue (by decide) (by decide)]
    exact request_mailbox_opcode call
  uid := by
    rw [at_doorbell_sent_word spared call queue (by decide) (by decide), request_mailbox_uid]
    rfl
  opMod := by
    rw [at_doorbell_sent_word spared call queue (by decide) (by decide)]
    exact request_mailbox_op_mod call
  data := by
    intro data buffer index inside
    rw [at_doorbell_sent spared call queue _ (by omega)]
    exact request_mailbox_data short buffer index inside
  blank := by
    intro index inside low field caller
    rw [at_doorbell_sent spared call queue index inside]
    by_cases header : index < 6
    · exact request_mailbox_header_blank call index low header
    · by_cases gap : index < 16
      · exact request_mailbox_gap call index (by omega) gap
      · have split : index = 16 + (index - 16) := by omega
        rw [split]
        apply request_mailbox_rest short
        rcases caller with before | behind | missing
        · exact absurd before gap
        · left
          omega
        · exact Or.inr missing

/-- A device that answers an earlier command before every piece of the call. -/
def lateAnswers (status : Byte) (mailbox : Bytes) : DeviceAct := fun _ mem =>
  writeAnswer status mailbox mem

theorem late_answers_spare (status : Byte) (mailbox : Bytes) (tick : Nat) :
    SparesRequest (lateAnswers status mailbox tick) where
  entry := by
    intro mem index low _
    exact store_outside _ _ _ _ (Or.inr low)
  mailbox := by
    intro mem index inside
    apply copy_in_outside
    left
    rw [out_mbox_offset_zero]
    exact inside

def sampleRequest : CmdCall where
  opcode := mlx5CmdOpCreateMkey
  opMod := 0x01
  inData := some fun _ => 0xAB
  inLen := 4080
  outData := none
  outLen := 0
  outStatus := false

theorem full_request_decodes_back :
    DecodesBack sampleRequest (atDoorbell (lateAnswers 0x0C fun _ => 0xFF) sampleRequest
      blankQueue) := by
  apply doorbell_decodes_back
  · decide
  · exact late_answers_spare _ _ _

end Verbifrost.Mlx5CmdSubmission
