import Verbifrost.Mlx5CmdOutcome
import Verbifrost.Mlx5MemoryRegion

/-!
# What a registration leaves behind

`mlx5_ib_reg_user_mr_full` acquires a page list, a key in the device and a
structure, in this order, and follows a pointer that may be null at the end. The
later exits release the page list and never the key.
-/

namespace Verbifrost.Mlx5Registration

open Verbifrost.ByteMemory Verbifrost.Mlx5Registers Verbifrost.ReferenceHeap
open Verbifrost.IbVerbs Verbifrost.Mlx5CmdExec Verbifrost.Mlx5CmdOutcome Verbifrost.Mlx5Verbs
open Verbifrost.Mlx5MemoryRegion

set_option autoImplicit false

/-- The word of the response that the driver takes for the number of the key. -/
def answeredKey : CmdOutcome → BitVec 32
  | .silent _ => 0
  | .answers _ _ mailbox => loadBE mailbox 16 32

/-- The device executes what it is sent, and nothing is sent without a page list. -/
def KeyCreated (outcome : CmdOutcome) (buffer : Option DmaBuffer) : Prop :=
  buffer.isSome = true ∧ Executes outcome

structure RegionSound (outcome : CmdOutcome) (key : BitVec 32) (buffer : Option DmaBuffer)
    (args : RegArgs) (heap : Heap) (address : Nat) (mr : Mlx5IbMr) : Prop where
  live : KeyCreated outcome buffer
  number : mr.mkey = key
  pageList : Allocated heap mr.pasMd
  record : Allocated heap address
  pd : args.pd = some mr.ibmr.pd
  device : mr.ibmr.device = mr.ibmr.pd.device
  lkey : mr.ibmr.lkey = mr.mkey <<< 8
  rkey : mr.ibmr.rkey = mr.ibmr.lkey
  iova : mr.ibmr.iova = args.virtAddr
  length : mr.ibmr.length = args.length

/-- A region with everything behind it, or nothing at all; `key` is the number
of the key if the device created one, `before` the heap the call started on. -/
def LeavesClean (outcome : CmdOutcome) (key : BitVec 32) (buffer : Option DmaBuffer)
    (args : RegArgs) (before : Heap) (after : MrResult) : Prop :=
  match after.result with
  | .region address mr => RegionSound outcome key buffer args after.heap address mr
  | .null => ¬KeyCreated outcome buffer ∧
      ∀ handle, before.next ≤ handle → ¬Allocated after.heap handle
  | .nullDereference => False

theorem mkey_command_taken {outcome : CmdOutcome} (passes : Passes outcome) (buffer : DmaBuffer)
    (args : RegArgs) (queue : CmdQueue) :
    (mlx5CmdExec (outcomeAct outcome) (createMkeyCall args buffer.physicalAddress) queue).1.ret =
      .success :=
  (exec_success_iff outcome _ queue).mpr passes

theorem exec_passes_key {outcome : CmdOutcome} (passes : Passes outcome) (buffer : DmaBuffer)
    (args : RegArgs) (queue : CmdQueue) :
    mkeyResponse (outcomeAct outcome) buffer args queue = answeredKey outcome := by
  have success := mkey_command_taken passes buffer args queue
  cases outcome with
  | silent executed => exact absurd passes id
  | answers poll delivery mailbox =>
      have word := response_word (show 32 / 8 * 8 = 32 by decide)
        (createMkeyCall args buffer.physicalAddress) zeroBytes mailbox rfl 8
        (Nat.le_of_ble_eq_true rfl)
      rw [mkeyResponse, answeredKey, ← word]
      rw [exec_answers] at success ⊢
      split_ifs at success ⊢
      · rw [answered_result_data success]
      · rw [answered_result_data success]
      · cases success

theorem reg_user_mr_no_list (act : DeviceAct) (allocated : Bool) (args : RegArgs)
    (queue : CmdQueue) (heap : Heap) :
    mlx5IbRegUserMrFull act none allocated args queue heap = ⟨.null, queue, heap⟩ := rfl

section Sent

variable {act : DeviceAct} {buffer : DmaBuffer} {allocated : Bool} {args : RegArgs}
  {queue : CmdQueue} (heap : Heap)

/-- A failed command and a failed `IOMalloc` leave the same way. -/
theorem reg_user_mr_refused
    (refused : ¬((mlx5CmdExec act (createMkeyCall args buffer.physicalAddress) queue).1.ret =
      .success ∧ allocated = true)) :
    (mlx5IbRegUserMrFull act (some buffer) allocated args queue heap).result = .null ∧
      (mlx5IbRegUserMrFull act (some buffer) allocated args queue heap).heap =
        release heap.next (acquire heap).2 := by
  simp only [mlx5IbRegUserMrFull, buildPasList, newPasList, acquire_handle]
  split_ifs with failed unallocated
  · exact ⟨rfl, rfl⟩
  · exact ⟨rfl, rfl⟩
  · exact absurd ⟨not_not.mp failed, Bool.eq_true_of_not_eq_false unallocated⟩ refused

variable (taken : (mlx5CmdExec act (createMkeyCall args buffer.physicalAddress) queue).1.ret =
  .success)

include taken

theorem reg_user_mr_null_pd (missing : args.pd = none) :
    (mlx5IbRegUserMrFull act (some buffer) true args queue heap).result = .nullDereference := by
  simp [mlx5IbRegUserMrFull, buildPasList, newPasList, taken, missing]

theorem reg_user_mr_region {pd : IbPd} (present : args.pd = some pd) :
    (mlx5IbRegUserMrFull act (some buffer) true args queue heap).result =
        .region (heap.next + 1) (newRegion args pd (mkeyResponse act buffer args queue)
          (newPasList buffer args.start (args.length.setWidth 32) heap.next)) ∧
      (mlx5IbRegUserMrFull act (some buffer) true args queue heap).heap =
        (acquire (acquire heap).2).2 := by
  simp [mlx5IbRegUserMrFull, buildPasList, newPasList, mkeyResponse, loadBE, taken, present]

end Sent

section Clean

variable {outcome : CmdOutcome} (key : BitVec 32) (buffer : DmaBuffer) {allocated : Bool}
  {args : RegArgs} (queue : CmdQueue) (heap : Heap)

theorem nothing_left (handle : Nat) (fresh : heap.next ≤ handle) :
    ¬Allocated (release heap.next (acquire heap).2) handle := by
  rw [allocated_release, allocated_acquire]
  intro left
  rcases left with ⟨same | older, other⟩
  · exact other same
  · exact not_allocated_fresh fresh older

theorem leaves_clean_refused_iff (refused : ¬(Passes outcome ∧ allocated = true)) :
    LeavesClean outcome key (some buffer) args heap
        (mlx5IbRegUserMrFull (outcomeAct outcome) (some buffer) allocated args queue heap) ↔
      ¬Executes outcome := by
  rw [← exec_success_iff outcome (createMkeyCall args buffer.physicalAddress) queue] at refused
  rcases reg_user_mr_refused heap refused with ⟨null, released⟩
  simp only [LeavesClean, null, released]
  constructor
  · intro clean executes
    exact clean.1 ⟨rfl, executes⟩
  · intro notExecuted
    constructor
    · intro keyCreated
      exact notExecuted keyCreated.2
    · exact nothing_left heap

theorem leaves_clean_null_pd (passes : Passes outcome) (missing : args.pd = none) :
    ¬LeavesClean outcome key (some buffer) args heap
      (mlx5IbRegUserMrFull (outcomeAct outcome) (some buffer) true args queue heap) := by
  have taken := mkey_command_taken passes buffer args queue
  rw [LeavesClean, reg_user_mr_null_pd heap taken missing]
  exact id

theorem leaves_clean_region_iff (passes : Passes outcome) {pd : IbPd}
    (present : args.pd = some pd) :
    LeavesClean outcome key (some buffer) args heap
        (mlx5IbRegUserMrFull (outcomeAct outcome) (some buffer) true args queue heap) ↔
      Executes outcome ∧ answeredKey outcome = key := by
  have taken := mkey_command_taken passes buffer args queue
  rcases reg_user_mr_region heap taken present with ⟨region, grown⟩
  simp only [LeavesClean, region, grown, exec_passes_key passes]
  constructor
  · intro sound
    exact ⟨sound.live.2, sound.number⟩
  · intro keyKnown
    rcases keyKnown with ⟨executes, number⟩
    exact
      { live := ⟨rfl, executes⟩
        number := number
        pageList := by
          rw [allocated_acquire, allocated_acquire]
          exact Or.inr (Or.inl rfl)
        record := by
          rw [allocated_acquire]
          exact Or.inl rfl
        pd := present
        device := rfl
        lkey := rfl
        rkey := rfl
        iova := rfl
        length := rfl }

end Clean

/-- For every argument, every outcome of the two allocations and every outcome of the command. -/
theorem leaves_clean_iff (outcome : CmdOutcome) (key : BitVec 32) (buffer : Option DmaBuffer)
    (allocated : Bool) (args : RegArgs) (queue : CmdQueue) (heap : Heap) :
    LeavesClean outcome key buffer args heap
        (mlx5IbRegUserMrFull (outcomeAct outcome) buffer allocated args queue heap) ↔
      buffer = none ∨
        (Executes outcome ∧ Passes outcome ∧ allocated = true ∧ args.pd.isSome = true ∧
          answeredKey outcome = key) ∨
        (¬Executes outcome ∧ ¬(Passes outcome ∧ allocated = true)) := by
  cases buffer with
  | none =>
      rw [reg_user_mr_no_list]
      constructor
      · intro _
        exact Or.inl rfl
      · intro _
        constructor
        · intro keyCreated
          cases keyCreated.1
        · intro handle fresh
          exact not_allocated_fresh fresh
  | some buffer =>
      have listed : ¬some buffer = none := by
        intro missing
        cases missing
      by_cases taken : Passes outcome ∧ allocated = true
      · rcases taken with ⟨passes, rfl⟩
        cases present : args.pd with
        | none =>
            have unclean := leaves_clean_null_pd key buffer queue heap passes present
            simp [unclean, passes]
        | some pd =>
            rw [leaves_clean_region_iff key buffer queue heap passes present]
            simp [passes]
      · rw [leaves_clean_refused_iff key buffer queue heap taken]
        constructor
        · intro notExecuted
          exact Or.inr (Or.inr ⟨notExecuted, taken⟩)
        · intro condition
          rcases condition with missing | ⟨_, passes, granted, _⟩ | ⟨notExecuted, _⟩
          · exact absurd missing listed
          · exact absurd ⟨passes, granted⟩ taken
          · exact notExecuted

def created : CmdOutcome := .answers 0 0 zeroBytes

def noPdArgs : RegArgs := { sampleArgs 8192 with pd := none }

/-- With the key created: `IOMalloc` fails and the key stays, or `pd` is null and is followed. -/
theorem created_key_left_or_null_followed :
    ((mlx5IbRegUserMrFull (outcomeAct created) (some sampleBuffer) false (sampleArgs 8192)
          blankQueue emptyHeap).result = .null ∧
        KeyCreated created (some sampleBuffer) ∧
        ¬LeavesClean created 0 (some sampleBuffer) (sampleArgs 8192) emptyHeap
          (mlx5IbRegUserMrFull (outcomeAct created) (some sampleBuffer) false (sampleArgs 8192)
            blankQueue emptyHeap)) ∧
      (mlx5IbRegUserMrFull (outcomeAct created) (some sampleBuffer) true noPdArgs blankQueue
          emptyHeap).result = .nullDereference ∧
        ¬LeavesClean created 0 (some sampleBuffer) noPdArgs emptyHeap
          (mlx5IbRegUserMrFull (outcomeAct created) (some sampleBuffer) true noPdArgs blankQueue
            emptyHeap) := by
  have executes : Executes created := ⟨rfl, rfl⟩
  have passes : Passes created := ⟨rfl, Or.inl ⟨by decide, rfl⟩⟩
  have refused : ¬(Passes created ∧ false = true) := by
    intro both
    cases both.2
  have taken := mkey_command_taken passes sampleBuffer noPdArgs blankQueue
  refine ⟨⟨rfl, ⟨rfl, executes⟩, ?_⟩, reg_user_mr_null_pd emptyHeap taken rfl, ?_⟩
  · intro clean
    exact (leaves_clean_refused_iff 0 sampleBuffer blankQueue emptyHeap refused).mp clean executes
  · exact leaves_clean_null_pd 0 sampleBuffer blankQueue emptyHeap passes rfl

end Verbifrost.Mlx5Registration
