import Mathlib.Algebra.Group.Nat.Defs
import Verbifrost.Mlx5CmdExec
import Verbifrost.ReferenceHeap

/-!
# Setting up and tearing down the command queue

`mlx5_cmd_init` and `mlx5_cmd_cleanup` of `mlx5_cmd.cpp`. Each IOKit call that
can fail is an outcome chosen by the environment. A descriptor or an
`IODMACommand` is a handle of the reference heap, so the releases that the
error exits make and the releases that the later cleanup makes are counted
on the same handles.
-/

namespace Verbifrost.Mlx5CmdInit

open Verbifrost.ByteMemory Verbifrost.Mlx5Registers Verbifrost.ReferenceHeap
open Verbifrost.Mlx5CmdExec

set_option autoImplicit false

def isegRead32 (iseg : Bytes) (offset : Nat) : BitVec 32 := byteSwap (load iseg offset 32)

def isegWrite32 (iseg : Bytes) (offset : Nat) (val : BitVec 32) : Bytes :=
  store iseg offset (byteSwap val)

/-- What an `IODMACommand` that was created answers. -/
structure DmaOutcome where
  setMemoryDescriptor : IOReturn
  gen64IOVMSegments : IOReturn
  segCount : BitVec 64
  fIOVMAddr : BitVec 64

/-- An allocation is `none` or the bytes the new buffer holds. -/
structure CmdInitOutcomes where
  ringBuffer : Option Bytes
  dmaCmd : Option DmaOutcome
  mboxBuffer : Option Bytes
  mboxDma : Option DmaOutcome

def logSize (cmdqParams : BitVec 32) : BitVec 32 :=
  (cmdqParams >>> mlx5CmdqLogSizeShift) &&& mlx5CmdqLogSizeMask

def logStride (cmdqParams : BitVec 32) : BitVec 32 :=
  (cmdqParams >>> mlx5CmdqLogStrideShift) &&& mlx5CmdqLogStrideMask

def clampEntries (numEntries : BitVec 32) : BitVec 32 :=
  if mlx5MaxCmdEntries < numEntries then mlx5MaxCmdEntries else numEntries

def geometry (bar0 : BitVec 64) (bar0Size : BitVec 32) (iseg : Bytes) : Mlx5CmdContext :=
  let cmdqParams := isegRead32 iseg mlx5IsegCmdqParams
  { zeroContext with
    bar0 := bar0
    bar0Size := bar0Size
    iseg := bar0 + mlx5InitSegOffset
    numEntries := clampEntries (1#32 <<< logSize cmdqParams)
    entryStride := 1#32 <<< logStride cmdqParams }

def ringSize (ctx : Mlx5CmdContext) : BitVec 32 := ctx.numEntries * ctx.entryStride

def mboxPoolSize (ctx : Mlx5CmdContext) : BitVec 32 := ctx.numMailboxes * mlx5CmdMailboxSize

/-- The initialisation loop over the first `count` ring entries. The token is
stored as it is, not swapped. -/
def initEntries (ctx : Mlx5CmdContext) : Nat → Bytes → Bytes
  | 0, ring => ring
  | count + 1, ring =>
      let ring := initEntries ctx count ring
      let entry := entryOffset ctx (BitVec.ofNat 32 count)
      let ring := store ring (entry + protBlockStatusOff) mlx5CmdOwnerSw
      store ring (entry + protBlockTokenOff) 0xFFFFFFFF#32

/-- The address the mailbox mapping leaves in `mbox_dma_base`, zero when a call failed. -/
def mboxDmaAddress : Option DmaOutcome → BitVec 64
  | none => 0
  | some dma =>
      if dma.setMemoryDescriptor = .success ∧ dma.gen64IOVMSegments = .success ∧ 0 < dma.segCount
      then dma.fIOVMAddr else 0

structure CmdInitState where
  ret : IOReturn
  queue : CmdQueue
  iseg : Bytes
  heap : Heap

/-- From the mailbox pool on, with the ring mapped and registered. -/
def initMailboxes (outcomes : CmdInitOutcomes) (ctx : Mlx5CmdContext) (ringMd : Nat) (ring : Bytes)
    (iseg : Bytes) (heap : Heap) : CmdInitState :=
  let ctx := { ctx with numMailboxes := ctx.numEntries * 2 }
  match outcomes.mboxBuffer with
  | none => ⟨.noMemory, ⟨ctx, ⟨ring, zeroBytes⟩⟩, iseg, release ringMd heap⟩
  | some buffer =>
      let (mboxMd, heap) := acquire heap
      let pool := copyIn buffer 0 zeroBytes (mboxPoolSize ctx).toNat
      let heap :=
        match outcomes.mboxDma with
        | none => heap
        | some _ =>
            let (mboxDma, heap) := acquire heap
            release mboxDma heap
      let ctx :=
        { ctx with
          mboxMd := some mboxMd
          mboxDmaBase := mboxDmaAddress outcomes.mboxDma }
      ⟨.success, ⟨ctx, ⟨ring, pool⟩⟩, isegWrite32 iseg mlx5IsegCmdDoorbell 0xFFFFFFFF, heap⟩

/-- From the creation of the `IODMACommand` for the ring on. -/
def initRingDma (outcomes : CmdInitOutcomes) (ctx : Mlx5CmdContext) (ringMd : Nat) (ring : Bytes)
    (iseg : Bytes) (heap : Heap) : CmdInitState :=
  match outcomes.dmaCmd with
  | none => ⟨.noResources, ⟨ctx, ⟨ring, zeroBytes⟩⟩, iseg, release ringMd heap⟩
  | some dma =>
      let (dmaCmd, heap) := acquire heap
      if dma.setMemoryDescriptor ≠ .success then
        ⟨dma.setMemoryDescriptor, ⟨ctx, ⟨ring, zeroBytes⟩⟩, iseg, release ringMd (release dmaCmd heap)⟩
      else
        let heap := release dmaCmd heap
        if dma.gen64IOVMSegments ≠ .success ∨ dma.segCount = 0 then
          let ret := if dma.gen64IOVMSegments ≠ .success then dma.gen64IOVMSegments else .error
          ⟨ret, ⟨ctx, ⟨ring, zeroBytes⟩⟩, iseg, release ringMd heap⟩
        else
          let ctx := { ctx with cmdRingDma := dma.fIOVMAddr }
          let ring := initEntries ctx ctx.numEntries.toNat ring
          let iseg := isegWrite32 iseg mlx5IsegCmdqAddrL (ctx.cmdRingDma.setWidth 32)
          let iseg := isegWrite32 iseg mlx5IsegCmdqAddrH ((ctx.cmdRingDma >>> 32).setWidth 32)
          initMailboxes outcomes ctx ringMd ring iseg heap

def mlx5CmdInit (outcomes : CmdInitOutcomes) (bar0 : BitVec 64) (bar0Size : BitVec 32)
    (iseg : Bytes) (heap : Heap) : CmdInitState :=
  let ctx := geometry bar0 bar0Size iseg
  match outcomes.ringBuffer with
  | none => ⟨.noMemory, ⟨ctx, ⟨zeroBytes, zeroBytes⟩⟩, iseg, heap⟩
  | some buffer =>
      let (ringMd, heap) := acquire heap
      let ring := copyIn buffer 0 zeroBytes (ringSize ctx).toNat
      initRingDma outcomes { ctx with cmdRingMd := some ringMd } ringMd ring iseg heap

def mlx5CmdCleanup (ctx : Mlx5CmdContext) (heap : Heap) : Mlx5CmdContext × Heap :=
  let heap := releaseIfSet ctx.mboxMd heap
  let heap := releaseIfSet ctx.cmdRingMd heap
  ({ ctx with mboxMd := none, cmdRingMd := none }, heap)

/-- The ring is allocated and a later call of `mlx5_cmd_init` fails. -/
def RingLost (outcomes : CmdInitOutcomes) : Prop :=
  outcomes.ringBuffer.isSome = true ∧
    match outcomes.dmaCmd with
    | none => True
    | some dma => dma.setMemoryDescriptor ≠ .success ∨ dma.gen64IOVMSegments ≠ .success ∨
        dma.segCount = 0 ∨ outcomes.mboxBuffer = none

theorem cmd_init_no_ring (outcomes : CmdInitOutcomes) (bar0 : BitVec 64) (bar0Size : BitVec 32)
    (iseg : Bytes) (heap : Heap) (noRing : outcomes.ringBuffer = none) :
    (mlx5CmdInit outcomes bar0 bar0Size iseg heap).ret ≠ .success ∧
      (mlx5CmdInit outcomes bar0 bar0Size iseg heap).queue.ctx.cmdRingMd = none ∧
      (mlx5CmdInit outcomes bar0 bar0Size iseg heap).queue.ctx.mboxMd = none ∧
      (mlx5CmdInit outcomes bar0 bar0Size iseg heap).heap = heap := by
  simp [mlx5CmdInit, noRing, geometry, zeroContext]

/-- `mlx5_cmd_init` failed and the context still points to a released ring descriptor. -/
structure RingDangling (state : CmdInitState) (ring : Nat) : Prop where
  failed : state.ret ≠ .success
  pointer : state.queue.ctx.cmdRingMd = some ring
  noMailboxes : state.queue.ctx.mboxMd = none
  allocated : ring < state.heap.next
  released : 1 ≤ state.heap.released ring

theorem init_mailboxes_dangling (outcomes : CmdInitOutcomes) (ctx : Mlx5CmdContext) (ringMd : Nat)
    (ring iseg : Bytes) (heap : Heap) (pointer : ctx.cmdRingMd = some ringMd)
    (noMailboxes : ctx.mboxMd = none) (allocated : ringMd < heap.next)
    (noPool : outcomes.mboxBuffer = none) :
    RingDangling (initMailboxes outcomes ctx ringMd ring iseg heap) ringMd := by
  simp only [initMailboxes, noPool]
  exact ⟨nofun, pointer, noMailboxes, allocated, released_of_release allocated⟩

/-- Every exit after the ring allocation releases the descriptor and keeps the pointer to it. -/
theorem init_ring_dma_dangling (outcomes : CmdInitOutcomes) (ctx : Mlx5CmdContext) (ringMd : Nat)
    (ring iseg : Bytes) (heap : Heap) (pointer : ctx.cmdRingMd = some ringMd)
    (noMailboxes : ctx.mboxMd = none) (allocated : ringMd < heap.next)
    (lost : RingLost outcomes) :
    RingDangling (initRingDma outcomes ctx ringMd ring iseg heap) ringMd := by
  have later : ringMd < (acquire heap).2.next := Nat.lt_succ_of_lt allocated
  rcases lost with ⟨_, failure⟩
  unfold initRingDma
  cases created : outcomes.dmaCmd with
  | none => exact ⟨nofun, pointer, noMailboxes, allocated, released_of_release allocated⟩
  | some dma =>
      simp only [created] at failure
      dsimp only
      by_cases unset : dma.setMemoryDescriptor ≠ .success
      · rw [if_pos unset]
        exact ⟨unset, pointer, noMailboxes, later, released_of_release later⟩
      · rw [if_neg unset]
        by_cases unmapped : dma.gen64IOVMSegments ≠ .success ∨ dma.segCount = 0
        · rw [if_pos unmapped]
          refine ⟨?_, pointer, noMailboxes, later, released_of_release later⟩
          dsimp only
          split_ifs with failed
          · exact failed
          · exact nofun
        · rw [if_neg unmapped]
          have noPool : outcomes.mboxBuffer = none := by
            rcases failure with unset' | unmapped' | empty | noPool
            · exact absurd unset' unset
            · exact absurd (Or.inl unmapped') unmapped
            · exact absurd (Or.inr empty) unmapped
            · exact noPool
          exact init_mailboxes_dangling outcomes _ ringMd _ _ _ pointer noMailboxes later noPool

theorem cmd_init_ring_lost (outcomes : CmdInitOutcomes) (bar0 : BitVec 64) (bar0Size : BitVec 32)
    (iseg : Bytes) (heap : Heap) (lost : RingLost outcomes) :
    RingDangling (mlx5CmdInit outcomes bar0 bar0Size iseg heap) heap.next := by
  rcases Option.isSome_iff_exists.mp lost.1 with ⟨buffer, ring⟩
  simp only [mlx5CmdInit, ring]
  exact init_ring_dma_dangling outcomes _ _ _ _ _ rfl rfl (Nat.lt_succ_self _) lost

/-- `mlx5_cmd_init` succeeded and holds one reference to the ring and one to the pool. -/
structure QueueReady (state : CmdInitState) (ring mbox : Nat) (live : Finset Nat) : Prop where
  succeeded : state.ret = .success
  ringPointer : state.queue.ctx.cmdRingMd = some ring
  mboxPointer : state.queue.ctx.mboxMd = some mbox
  later : ring < mbox
  settled : Settled state.heap (insert mbox (insert ring live))

theorem init_mailboxes_ready (outcomes : CmdInitOutcomes) (ctx : Mlx5CmdContext) (ringMd : Nat)
    (ring iseg : Bytes) (heap : Heap) (live : Finset Nat) (pointer : ctx.cmdRingMd = some ringMd)
    (settled : Settled heap (insert ringMd live)) (pool : outcomes.mboxBuffer.isSome = true) :
    QueueReady (initMailboxes outcomes ctx ringMd ring iseg heap) ringMd heap.next live := by
  rcases Option.isSome_iff_exists.mp pool with ⟨buffer, allocated⟩
  have older : ringMd < heap.next := settled.allocated ringMd (Finset.mem_insert_self _ _)
  have both := settled_acquire settled
  simp only [initMailboxes, allocated]
  refine ⟨rfl, pointer, rfl, older, ?_⟩
  cases outcomes.mboxDma with
  | none => exact both
  | some dma => exact settled_transient both

theorem ring_kept {outcomes : CmdInitOutcomes} (allocated : outcomes.ringBuffer.isSome = true)
    (kept : ¬RingLost outcomes) :
    ∃ dma, outcomes.dmaCmd = some dma ∧ ¬(dma.setMemoryDescriptor ≠ .success) ∧
      ¬(dma.gen64IOVMSegments ≠ .success ∨ dma.segCount = 0) ∧
      outcomes.mboxBuffer.isSome = true := by
  simp only [RingLost, allocated, true_and] at kept
  cases created : outcomes.dmaCmd with
  | none => simp [created] at kept
  | some dma =>
      simp only [created, not_or] at kept
      rcases kept with ⟨set, mapped, counted, pool⟩
      refine ⟨dma, rfl, set, ?_, Option.isSome_iff_ne_none.mpr pool⟩
      rintro (unmapped | empty)
      · exact mapped unmapped
      · exact counted empty

theorem init_ring_dma_ready (outcomes : CmdInitOutcomes) (ctx : Mlx5CmdContext) (ringMd : Nat)
    (ring iseg : Bytes) (heap : Heap) (live : Finset Nat) (pointer : ctx.cmdRingMd = some ringMd)
    (settled : Settled heap (insert ringMd live)) (allocated : outcomes.ringBuffer.isSome = true)
    (kept : ¬RingLost outcomes) :
    ∃ mbox, QueueReady (initRingDma outcomes ctx ringMd ring iseg heap) ringMd mbox live := by
  rcases ring_kept allocated kept with ⟨dma, created, set, mapped, pool⟩
  simp only [initRingDma, created, if_neg set, if_neg mapped]
  exact ⟨_, init_mailboxes_ready outcomes _ ringMd _ _ _ live pointer (settled_transient settled) pool⟩

theorem cmd_init_ready (outcomes : CmdInitOutcomes) (bar0 : BitVec 64) (bar0Size : BitVec 32)
    (iseg : Bytes) (heap : Heap) (live : Finset Nat) (settled : Settled heap live)
    (allocated : outcomes.ringBuffer.isSome = true) (kept : ¬RingLost outcomes) :
    ∃ mbox, QueueReady (mlx5CmdInit outcomes bar0 bar0Size iseg heap) heap.next mbox live := by
  rcases Option.isSome_iff_exists.mp allocated with ⟨buffer, ring⟩
  simp only [mlx5CmdInit, ring]
  exact init_ring_dma_ready outcomes _ _ _ _ _ live rfl (settled_acquire settled) allocated kept

theorem init_entry_first_byte (ring : Bytes) (entry : Nat) :
    store (store ring (entry + protBlockStatusOff) mlx5CmdOwnerSw) (entry + protBlockTokenOff)
      0xFFFFFFFF#32 0 = if entry = 0 then mlx5CmdOwnerSw else ring 0 := by
  have early : 0 < entry + protBlockTokenOff := Nat.succ_pos _
  rw [store_outside _ _ _ _ (Or.inl early)]
  split_ifs with first
  · rw [first]
    exact store_byte ring 0 mlx5CmdOwnerSw
  · exact store_outside _ _ _ _ (Or.inl (Nat.pos_of_ne_zero first))

theorem init_entries_first_owner (ctx : Mlx5CmdContext) (count : Nat) (ring : Bytes) :
    initEntries ctx (count + 1) ring 0 = mlx5CmdOwnerSw := by
  induction count with
  | zero =>
      rw [initEntries, init_entry_first_byte]
      exact if_pos (entry_offset_zero ctx)
  | succ count induction =>
      rw [initEntries, init_entry_first_byte, induction]
      exact ite_self _

theorem log_size_lt (cmdqParams : BitVec 32) : (logSize cmdqParams).toNat < 32 := by
  rw [logSize, BitVec.toNat_and]
  exact Nat.and_lt_two_pow _ (show mlx5CmdqLogSizeMask.toNat < 2 ^ 5 by decide)

theorem log_stride_lt (cmdqParams : BitVec 32) : (logStride cmdqParams).toNat < 32 := by
  rw [logStride, BitVec.toNat_and]
  exact Nat.and_lt_two_pow _ (show mlx5CmdqLogStrideMask.toNat < 2 ^ 5 by decide)

theorem one_shifted_nat {amount : BitVec 32} (small : amount.toNat < 32) :
    (1#32 <<< amount).toNat = 2 ^ amount.toNat := by
  have one : (1#32).toNat = 1 := rfl
  rw [BitVec.shiftLeft_eq', BitVec.toNat_shiftLeft, Nat.shiftLeft_eq, one, Nat.one_mul]
  exact Nat.mod_eq_of_lt (Nat.pow_lt_pow_right Nat.one_lt_two small)

theorem clamp_entries_positive (cmdqParams : BitVec 32) :
    0 < (clampEntries (1#32 <<< logSize cmdqParams)).toNat := by
  unfold clampEntries
  split_ifs
  · decide
  · rw [one_shifted_nat (log_size_lt cmdqParams)]
    exact Nat.two_pow_pos _

theorem init_mailboxes_ring (outcomes : CmdInitOutcomes) (ctx : Mlx5CmdContext) (ringMd : Nat)
    (ring iseg : Bytes) (heap : Heap) :
    (initMailboxes outcomes ctx ringMd ring iseg heap).queue.mem.ring = ring := by
  unfold initMailboxes
  cases outcomes.mboxBuffer <;> rfl

/-- After a success no command is outstanding on entry 0. -/
theorem cmd_init_entry_released (outcomes : CmdInitOutcomes) (bar0 : BitVec 64)
    (bar0Size : BitVec 32) (iseg : Bytes) (heap : Heap)
    (succeeded : (mlx5CmdInit outcomes bar0 bar0Size iseg heap).ret = .success) :
    ownerOf (readStatus (mlx5CmdInit outcomes bar0 bar0Size iseg heap).queue.ctx 0#32
      (mlx5CmdInit outcomes bar0 bar0Size iseg heap).queue.mem) = mlx5CmdOwnerSw := by
  have kept : ¬RingLost outcomes := by
    intro lost
    exact (cmd_init_ring_lost outcomes bar0 bar0Size iseg heap lost).failed succeeded
  have allocated : outcomes.ringBuffer.isSome = true := by
    rw [Option.isSome_iff_ne_none]
    intro noRing
    exact (cmd_init_no_ring outcomes bar0 bar0Size iseg heap noRing).1 succeeded
  rcases Option.isSome_iff_exists.mp allocated with ⟨buffer, ring⟩
  rcases ring_kept allocated kept with ⟨dma, created, set, mapped, _⟩
  obtain ⟨count, entries⟩ : ∃ count, (geometry bar0 bar0Size iseg).numEntries.toNat = count + 1 :=
    Nat.exists_eq_add_one_of_ne_zero (Nat.ne_of_gt (clamp_entries_positive _))
  have first : (mlx5CmdInit outcomes bar0 bar0Size iseg heap).queue.mem.ring 0 = mlx5CmdOwnerSw := by
    simp only [mlx5CmdInit, ring, initRingDma, created, if_neg set, if_neg mapped,
      init_mailboxes_ring, entries]
    exact init_entries_first_owner _ count _
  rw [readStatus, entry_offset_zero, Nat.zero_add]
  exact congrArg ownerOf first

/-- The descriptors `mlx5_cmd_cleanup` releases, in its order. -/
def queueReferences (ctx : Mlx5CmdContext) : List Nat := ctx.mboxMd.toList ++ ctx.cmdRingMd.toList

theorem cleanup_heap (ctx : Mlx5CmdContext) (heap : Heap) :
    (mlx5CmdCleanup ctx heap).2 = releaseAll (queueReferences ctx) heap := by
  simp only [mlx5CmdCleanup, queueReferences, release_all_append, release_if_set]

end Verbifrost.Mlx5CmdInit
