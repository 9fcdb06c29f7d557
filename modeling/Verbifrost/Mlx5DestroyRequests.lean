import Mathlib.Algebra.Group.Nat.Defs
import Verbifrost.Mlx5MemoryRegion

/-!
# Object numbers in the destroy requests

`mlx5_ib_dealloc_pd`, `mlx5_ib_destroy_cq` and `mlx5_ib_dereg_mr` name the
object to the device. Each says in a comment that the number is at offset 8 of
the mailbox and stores it at offset 0 of `in_data`, which `mlx5_cmd_exec` places
16 bytes further on. The number of a memory region takes one more detour: it is
recovered from the key, which is the number shifted by 8 bits.
-/

namespace Verbifrost.Mlx5DestroyRequests

open Verbifrost.ByteMemory Verbifrost.Mlx5Registers Verbifrost.ReferenceHeap
open Verbifrost.IbVerbs Verbifrost.Mlx5CmdExec Verbifrost.Mlx5Verbs Verbifrost.Mlx5MemoryRegion

set_option autoImplicit false

theorem dealloc_pd_sends (act : DeviceAct) (pd : IbPd) (queue : CmdQueue) :
    (mlx5IbDeallocPd act pd queue).queue = (mlx5CmdExec act (deallocPdCall pd) queue).2 := by
  simp only [mlx5IbDeallocPd]
  split_ifs <;> rfl

theorem destroy_cq_sends (act : DeviceAct) (cq : IbCq) (queue : CmdQueue) :
    (mlx5IbDestroyCq act cq queue).2 = (mlx5CmdExec act (destroyCqCall cq) queue).2 := rfl

theorem dereg_mr_sends (act : DeviceAct) (mr : IbMr) (queue : CmdQueue) :
    (mlx5IbDeregMr act mr queue).2 = (mlx5CmdExec act (deregMrCall mr) queue).2 := rfl

def requestSeen (call : CmdCall) (queue : CmdQueue) : Bytes := inMbox 0#32 (submitted call queue).mem

structure CarriesNumber (mailbox : Bytes) (opcode opMod : BitVec 16) (number : BitVec 32) : Prop where
  opcode : loadBE mailbox mlx5MboxOpcodeOff 16 = opcode
  opMod : loadBE mailbox mlx5MboxOpModOff 16 = opMod
  number : loadBE mailbox 8 32 = number

theorem request_seen_word (call : CmdCall) (queue : CmdQueue) {w : Nat} (whole : w / 8 * 8 = w)
    (offset : Nat) (inside : offset + w / 8 ≤ 4096) :
    loadBE (requestSeen call queue) offset w = loadBE (requestMailbox call) offset w := by
  apply load_be_congr whole
  intro index bound
  exact submitted_in_mbox call queue _ (by omega)

theorem request_seen_gap (call : CmdCall) (queue : CmdQueue) :
    loadBE (requestSeen call queue) 8 32 = 0 := by
  have blank : loadBE zeroBytes 8 32 = 0 := by decide
  rw [request_seen_word call queue (by decide) 8 (by decide), ← blank]
  apply load_be_congr (by decide)
  intro index bound
  exact request_mailbox_gap call _ (by omega) (by omega)

theorem carries_number_iff (call : CmdCall) (queue : CmdQueue) (number : BitVec 32) :
    CarriesNumber (requestSeen call queue) call.opcode call.opMod number ↔ number = 0 := by
  constructor
  · intro carries
    rw [← carries.number]
    exact request_seen_gap call queue
  · intro zero
    constructor
    · rw [request_seen_word call queue (by decide) _ (by decide)]
      exact request_mailbox_opcode call
    · rw [request_seen_word call queue (by decide) _ (by decide)]
      exact request_mailbox_op_mod call
    · rw [request_seen_gap, zero]

/-- For every PD, CQ and memory region and every state of the command queue. -/
theorem destroy_requests_carry_iff (pd : IbPd) (cq : IbCq) (mr : Mlx5IbMr) (queue : CmdQueue) :
    (CarriesNumber (requestSeen (deallocPdCall pd) queue) mlx5CmdOpDestroyMkey 1 pd.localDmaLkey ↔
        pd.localDmaLkey = 0) ∧
      (CarriesNumber (requestSeen (destroyCqCall cq) queue) mlx5CmdOpDestroyCq 0 cq.cqe ↔
        cq.cqe = 0) ∧
      (CarriesNumber (requestSeen (deregMrCall mr.ibmr) queue) mlx5CmdOpDestroyMkey 0 mr.mkey ↔
        mr.mkey = 0) :=
  ⟨carries_number_iff (deallocPdCall pd) queue _, carries_number_iff (destroyCqCall cq) queue _,
    carries_number_iff (deregMrCall mr.ibmr) queue _⟩

/-- PD 7: the device finds 0 at offset 8 and 7 at offset 16. -/
theorem pd_seven_destroyed_as_zero :
    loadBE (requestSeen (deallocPdCall { samplePd with localDmaLkey := 7 }) blankQueue) 8 32 = 0 ∧
      loadBE (requestSeen (deallocPdCall { samplePd with localDmaLkey := 7 }) blankQueue) 16 32 = 7 ∧
      ¬CarriesNumber (requestSeen (deallocPdCall { samplePd with localDmaLkey := 7 }) blankQueue)
        mlx5CmdOpDestroyMkey 1 7 := by
  have gap := request_seen_gap (deallocPdCall { samplePd with localDmaLkey := 7 }) blankQueue
  refine ⟨gap, by decide, ?_⟩
  intro carries
  exact absurd (gap.symm.trans carries.number) (by decide)

/-- What one call of `mlx5_ib_reg_user_mr_full` meets, with its page list allocated. -/
structure Registration where
  act : DeviceAct
  buffer : DmaBuffer
  allocated : Bool
  args : RegArgs
  queue : CmdQueue
  heap : Heap

def Registration.result (registration : Registration) : RegResult :=
  (mlx5IbRegUserMrFull registration.act (some registration.buffer) registration.allocated
    registration.args registration.queue registration.heap).result

def Registration.mkeyIndex (registration : Registration) : BitVec 32 :=
  mkeyResponse registration.act registration.buffer registration.args registration.queue

def destroyedIndex (mr : Mlx5IbMr) : BitVec 32 :=
  loadBE ((deregMrCall mr.ibmr).inData.getD zeroBytes) 0 32

/-- The keys of two regions determine their indices, and deregistration recovers them. -/
structure KeysDetermine (first second : Mlx5IbMr) : Prop where
  lkeys : first.mkey ≠ second.mkey → first.ibmr.lkey ≠ second.ibmr.lkey
  rkeys : first.mkey ≠ second.mkey → first.ibmr.rkey ≠ second.ibmr.rkey
  firstIndex : destroyedIndex first = first.mkey
  secondIndex : destroyedIndex second = second.mkey

theorem destroyed_index_shift (mr : Mlx5IbMr) : destroyedIndex mr = mr.ibmr.lkey >>> 8 :=
  load_be_store_swap (by decide) _ _ _

/-- The 32-bit shift loses the upper eight bits of the index. -/
theorem shifted_index_iff (index : BitVec 32) :
    (index <<< 8) >>> 8 = index ↔ index.toNat < 2 ^ 24 := by
  rw [← BitVec.toNat_inj, BitVec.toNat_ushiftRight, BitVec.toNat_shiftLeft, Nat.shiftLeft_eq,
    Nat.shiftRight_eq_div_pow]
  have bound := index.isLt
  omega

theorem region_index_iff {registration : Registration} {address : Nat} {mr : Mlx5IbMr}
    (returned : registration.result = .region address mr) :
    destroyedIndex mr = mr.mkey ↔ registration.mkeyIndex.toNat < 2 ^ 24 := by
  rcases reg_user_mr_returned returned with ⟨pd, _, rfl⟩
  rw [destroyed_index_shift]
  exact shifted_index_iff registration.mkeyIndex

/-- For every two regions that were returned, whatever the device and the allocators did. -/
theorem keys_determine_iff (first second : Registration) (firstAddress secondAddress : Nat)
    (firstMr secondMr : Mlx5IbMr) (firstReturned : first.result = .region firstAddress firstMr)
    (secondReturned : second.result = .region secondAddress secondMr) :
    KeysDetermine firstMr secondMr ↔
      first.mkeyIndex.toNat < 2 ^ 24 ∧ second.mkeyIndex.toNat < 2 ^ 24 := by
  have firstIndex := region_index_iff firstReturned
  have secondIndex := region_index_iff secondReturned
  constructor
  · intro determine
    exact ⟨firstIndex.mp determine.firstIndex, secondIndex.mp determine.secondIndex⟩
  · rintro ⟨firstSmall, secondSmall⟩
    have firstBack := firstIndex.mpr firstSmall
    have secondBack := secondIndex.mpr secondSmall
    have lkeys : firstMr.mkey ≠ secondMr.mkey → firstMr.ibmr.lkey ≠ secondMr.ibmr.lkey := by
      intro different same
      apply different
      rw [← firstBack, ← secondBack, destroyed_index_shift, destroyed_index_shift, same]
    refine ⟨lkeys, ?_, firstBack, secondBack⟩
    rcases reg_user_mr_returned firstReturned with ⟨_, _, rfl⟩
    rcases reg_user_mr_returned secondReturned with ⟨_, _, rfl⟩
    exact lkeys

/-- A registration that the firmware answers with `index`. -/
def sampleRegistration (index : BitVec 32) : Registration where
  act := answerAt 0 0#8 (store zeroBytes 16 (byteSwap index))
  buffer := sampleBuffer
  allocated := true
  args := sampleArgs 4096
  queue := blankQueue
  heap := emptyHeap

def sampleRegion (index : BitVec 32) : Mlx5IbMr :=
  newRegion (sampleArgs 4096) samplePd index (newPasList sampleBuffer 0x4000 4096 0)

theorem sample_registration_returned (index : BitVec 32) :
    (sampleRegistration index).result = .region 1 (sampleRegion index) := by
  have status : store zeroBytes 16 (byteSwap index) mlx5MboxStatusOff = mlx5CmdStatOk :=
    store_outside _ _ _ _ (Or.inl (by decide))
  have returned := reg_user_mr_answered 0 _ sampleBuffer (sampleArgs 4096) samplePd blankQueue
    emptyHeap (by decide) status rfl
  rw [load_be_store_swap (by decide)] at returned
  exact returned

theorem sample_registration_index (index : BitVec 32) :
    (sampleRegistration index).mkeyIndex = index := by
  rcases reg_user_mr_returned (sample_registration_returned index) with ⟨pd, _, same⟩
  exact (congrArg Mlx5IbMr.mkey same).symm

theorem small_indices_determined : KeysDetermine (sampleRegion 1) (sampleRegion 2) := by
  apply (keys_determine_iff _ _ _ _ _ _ (sample_registration_returned 1)
    (sample_registration_returned 2)).mpr
  rw [sample_registration_index, sample_registration_index]
  decide

/-- Indices 1 and 0x01000001: both regions get key 0x100, and deregistering the
second one destroys the first. -/
theorem large_index_shares_key :
    (sampleRegistration 1).result = .region 1 (sampleRegion 1) ∧
      (sampleRegistration 0x01000001).result = .region 1 (sampleRegion 0x01000001) ∧
      (sampleRegion 1).ibmr.lkey = 0x100 ∧ (sampleRegion 0x01000001).ibmr.lkey = 0x100 ∧
      destroyedIndex (sampleRegion 0x01000001) = 1 ∧
      ¬KeysDetermine (sampleRegion 1) (sampleRegion 0x01000001) := by
  refine ⟨sample_registration_returned 1, sample_registration_returned 0x01000001, rfl, rfl, ?_, ?_⟩
  · rw [destroyed_index_shift]
    rfl
  · intro determine
    exact determine.lkeys (by decide) rfl

end Verbifrost.Mlx5DestroyRequests
