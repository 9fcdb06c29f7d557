import Verbifrost.Mlx5CmdInit

/-!
# DMA addresses the device is given

The device learns three addresses: that of the command ring, through the init
segment registers, and those of the two mailboxes, through every ring entry.
`mlx5_cmd_init` treats its two mappings differently. A failure of the first one
is an error; a failure of the second one leaves the mailbox base at zero and is
a success. The ring is registered before the mailbox pool is allocated and the
registers are not taken back when that fails.
-/

namespace Verbifrost.Mlx5CmdAddresses

open Verbifrost.ByteMemory Verbifrost.Mlx5Registers Verbifrost.ReferenceHeap
open Verbifrost.Mlx5CmdExec Verbifrost.Mlx5CmdInit

set_option autoImplicit false

def Mapped (dma : DmaOutcome) : Prop :=
  dma.setMemoryDescriptor = .success ∧ dma.gen64IOVMSegments = .success ∧ dma.segCount ≠ 0

def BufferMapped (buffer : Option Bytes) (mapping : Option DmaOutcome) : Prop :=
  buffer.isSome = true ∧ ∃ dma, mapping = some dma ∧ Mapped dma

def RingMapped (outcomes : CmdInitOutcomes) : Prop :=
  BufferMapped outcomes.ringBuffer outcomes.dmaCmd

def MboxMapped (outcomes : CmdInitOutcomes) : Prop :=
  BufferMapped outcomes.mboxBuffer outcomes.mboxDma

def registeredRing (iseg : Bytes) : BitVec 64 :=
  isegRead32 iseg mlx5IsegCmdqAddrH ++ isegRead32 iseg mlx5IsegCmdqAddrL

/-- The mailbox addresses in entry 0 when the doorbell of the call rings. -/
def entryInPtr (call : CmdCall) (queue : CmdQueue) : BitVec 64 :=
  loadBE (submitted call queue).mem.ring protBlockInPtrOff 64

def entryOutPtr (call : CmdCall) (queue : CmdQueue) : BitVec 64 :=
  loadBE (submitted call queue).mem.ring protBlockOutPtrOff 64

/-- After a success: the ring in the registers, and mailboxes inside the pool. -/
structure AddressesReady (outcomes : CmdInitOutcomes) (state : CmdInitState) (ring pool : Nat)
    (ringDma mboxDma : DmaOutcome) : Prop where
  ringMapping : outcomes.dmaCmd = some ringDma
  ringMapped : Mapped ringDma
  ringPointer : state.queue.ctx.cmdRingMd = some ring
  ringAllocated : Allocated state.heap ring
  registered : registeredRing state.iseg = ringDma.fIOVMAddr
  mboxMapping : outcomes.mboxDma = some mboxDma
  mboxMapped : Mapped mboxDma
  mboxPointer : state.queue.ctx.mboxMd = some pool
  mboxAllocated : Allocated state.heap pool
  inPtr : ∀ call, entryInPtr call state.queue = mboxDma.fIOVMAddr
  outPtr : ∀ call, entryOutPtr call state.queue = mboxDma.fIOVMAddr + 4096
  poolSize : 2 * 4096 ≤ (mboxPoolSize state.queue.ctx).toNat

/-- Every address the device was given, or is given by the next command, is
that of an allocated and mapped buffer. -/
structure AddressesValid (outcomes : CmdInitOutcomes) (state : CmdInitState) : Prop where
  onSuccess : state.ret = .success →
    ∃ ring pool ringDma mboxDma, AddressesReady outcomes state ring pool ringDma mboxDma
  onError : state.ret ≠ .success → ∀ ring dma, state.queue.ctx.cmdRingMd = some ring →
    ¬Allocated state.heap ring → outcomes.dmaCmd = some dma → Mapped dma →
    registeredRing state.iseg ≠ dma.fIOVMAddr

theorem iseg_read_write (iseg : Bytes) (offset : Nat) (val : BitVec 32) :
    isegRead32 (isegWrite32 iseg offset val) offset = val :=
  load_be_store_swap (by decide) _ _ _

theorem iseg_read_other (iseg : Bytes) (offset other : Nat) (val : BitVec 32)
    (disjoint : offset + 4 ≤ other ∨ other + 4 ≤ offset) :
    isegRead32 (isegWrite32 iseg other val) offset = isegRead32 iseg offset :=
  load_be_store_disjoint (by decide) _ _ _ _ disjoint

theorem address_halves (address : BitVec 64) :
    (address >>> 32).setWidth 32 ++ address.setWidth 32 = address := by
  apply BitVec.eq_of_getLsbD_eq
  intro bit bound
  rw [BitVec.getLsbD_append]
  split_ifs with low
  · simp [low]
  · have high : bit - 32 < 32 := by omega
    have position : 32 + (bit - 32) = bit := by omega
    simp [high, position]

/-- The register writes of `mlx5_cmd_init`. -/
def registerRing (iseg : Bytes) (address : BitVec 64) : Bytes :=
  isegWrite32 (isegWrite32 iseg mlx5IsegCmdqAddrL (address.setWidth 32)) mlx5IsegCmdqAddrH
    ((address >>> 32).setWidth 32)

theorem registered_ring_write (iseg : Bytes) (address : BitVec 64) :
    registeredRing (registerRing iseg address) = address := by
  unfold registeredRing registerRing
  rw [iseg_read_write, iseg_read_other _ _ _ _ (by decide), iseg_read_write]
  exact address_halves address

theorem registered_ring_doorbell (iseg : Bytes) (val : BitVec 32) :
    registeredRing (isegWrite32 iseg mlx5IsegCmdDoorbell val) = registeredRing iseg := by
  unfold registeredRing
  rw [iseg_read_other _ _ _ _ (by decide), iseg_read_other _ _ _ _ (by decide)]

theorem entry_in_ptr (call : CmdCall) (queue : CmdQueue) :
    entryInPtr call queue = queue.ctx.mboxDmaBase := by
  have base : inDma queue.ctx 0#32 = queue.ctx.mboxDmaBase := by simp [inDma, inMboxOffset]
  simp only [entryInPtr, submitted, writeStatus, fillRequest, fillEntry, entry_offset_zero,
    Nat.zero_add]
  rw [load_be_store_disjoint (by decide) _ _ _ _ (by decide),
    load_be_store_disjoint (by decide) _ _ _ _ (by decide),
    load_be_store_disjoint (by decide) _ _ _ _ (by decide),
    load_be_store_disjoint (by decide) _ _ _ _ (by decide),
    load_be_store_disjoint (by decide) _ _ _ _ (by decide),
    load_be_store_disjoint (by decide) _ _ _ _ (by decide),
    load_be_store_swap (by decide)]
  exact base

theorem entry_out_ptr (call : CmdCall) (queue : CmdQueue) :
    entryOutPtr call queue = queue.ctx.mboxDmaBase + 4096 := by
  simp only [entryOutPtr, submitted, writeStatus, fillRequest, fillEntry, entry_offset_zero,
    Nat.zero_add]
  rw [load_be_store_disjoint (by decide) _ _ _ _ (by decide),
    load_be_store_disjoint (by decide) _ _ _ _ (by decide),
    load_be_store_disjoint (by decide) _ _ _ _ (by decide),
    load_be_store_disjoint (by decide) _ _ _ _ (by decide),
    load_be_store_swap (by decide)]
  rfl

theorem mbox_dma_address_mapped {dma : DmaOutcome} (mapped : Mapped dma) :
    mboxDmaAddress (some dma) = dma.fIOVMAddr :=
  if_pos ⟨mapped.1, mapped.2.1, (BitVec.pos_iff_ne_zero _).mpr mapped.2.2⟩

theorem cmd_init_mapped {outcomes : CmdInitOutcomes} {buffer : Bytes} {dma : DmaOutcome}
    (allocated : outcomes.ringBuffer = some buffer) (created : outcomes.dmaCmd = some dma)
    (mapped : Mapped dma) (bar0 : BitVec 64) (bar0Size : BitVec 32) (iseg : Bytes) (heap : Heap) :
    ∃ ctx ring, mlx5CmdInit outcomes bar0 bar0Size iseg heap =
        initMailboxes outcomes ctx heap.next ring (registerRing iseg dma.fIOVMAddr)
          (release (acquire (acquire heap).2).1 (acquire (acquire heap).2).2) ∧
      ctx.cmdRingMd = some heap.next ∧
      ctx.numEntries = (geometry bar0 bar0Size iseg).numEntries := by
  have set : ¬dma.setMemoryDescriptor ≠ .success := not_not.mpr mapped.1
  have counted : ¬(dma.gen64IOVMSegments ≠ .success ∨ dma.segCount = 0) := by
    rintro (unmapped | empty)
    · exact unmapped mapped.2.1
    · exact mapped.2.2 empty
  simp only [mlx5CmdInit, allocated, initRingDma, created, if_neg set, if_neg counted]
  exact ⟨_, _, rfl, rfl, rfl⟩

theorem cmd_init_unmapped {outcomes : CmdInitOutcomes} (unmapped : ¬RingMapped outcomes)
    (bar0 : BitVec 64) (bar0Size : BitVec 32) (iseg : Bytes) (heap : Heap) :
    (mlx5CmdInit outcomes bar0 bar0Size iseg heap).ret ≠ .success := by
  cases allocated : outcomes.ringBuffer with
  | none => exact (cmd_init_no_ring outcomes bar0 bar0Size iseg heap allocated).1
  | some buffer =>
      have some : outcomes.ringBuffer.isSome = true := by rw [allocated]; rfl
      apply (cmd_init_ring_lost outcomes bar0 bar0Size iseg heap _).failed
      by_contra kept
      rcases ring_kept some kept with ⟨dma, created, set, counted, _⟩
      rcases not_or.mp counted with ⟨mapped, count⟩
      exact unmapped ⟨some, dma, created, not_not.mp set, not_not.mp mapped, count⟩

theorem clamp_entries_le (numEntries : BitVec 32) : (clampEntries numEntries).toNat ≤ 32 := by
  unfold clampEntries
  split_ifs with large
  · decide
  · exact BitVec.le_def.mp (BitVec.not_lt.mp large)

theorem pool_holds_mailboxes (bar0 : BitVec 64) (bar0Size : BitVec 32) (iseg : Bytes)
    {ctx : Mlx5CmdContext}
    (mailboxes : ctx.numMailboxes = (geometry bar0 bar0Size iseg).numEntries * 2) :
    2 * 4096 ≤ (mboxPoolSize ctx).toNat := by
  have positive := clamp_entries_positive (isegRead32 iseg mlx5IsegCmdqParams)
  have bound := clamp_entries_le (1#32 <<< Mlx5CmdInit.logSize (isegRead32 iseg mlx5IsegCmdqParams))
  have two : (2 : BitVec 32).toNat = 2 := rfl
  have size : mlx5CmdMailboxSize.toNat = 4096 := rfl
  rw [mboxPoolSize, mailboxes, BitVec.toNat_mul, BitVec.toNat_mul, two, size]
  simp only [geometry]
  omega

theorem mapped_addresses_ready {outcomes : CmdInitOutcomes} {ringBuffer mboxBuffer : Bytes}
    {dma mboxDma : DmaOutcome} (ringAllocated : outcomes.ringBuffer = some ringBuffer)
    (ringMapping : outcomes.dmaCmd = some dma) (ringMapped : Mapped dma)
    (mboxAllocated : outcomes.mboxBuffer = some mboxBuffer)
    (mboxMapping : outcomes.mboxDma = some mboxDma) (mboxMapped : Mapped mboxDma)
    (bar0 : BitVec 64) (bar0Size : BitVec 32) (iseg : Bytes) (heap : Heap) :
    ∃ ring pool, AddressesReady outcomes (mlx5CmdInit outcomes bar0 bar0Size iseg heap) ring pool
      dma mboxDma := by
  obtain ⟨ctx, ring, continued, pointer, entries⟩ :=
    cmd_init_mapped ringAllocated ringMapping ringMapped bar0 bar0Size iseg heap
  have base := mbox_dma_address_mapped mboxMapped
  rw [continued]
  simp only [initMailboxes, mboxAllocated, mboxMapping, base]
  refine ⟨heap.next, heap.next + 2, ?_⟩
  exact
    { ringMapping := ringMapping
      ringMapped := ringMapped
      ringPointer := pointer
      ringAllocated := by
        rw [allocated_transient, allocated_acquire, allocated_transient, allocated_acquire]
        exact Or.inr (Or.inl rfl)
      registered := by rw [registered_ring_doorbell, registered_ring_write]
      mboxMapping := mboxMapping
      mboxMapped := mboxMapped
      mboxPointer := rfl
      mboxAllocated := by
        rw [allocated_transient, allocated_acquire]
        exact Or.inl rfl
      inPtr := fun call => entry_in_ptr call _
      outPtr := fun call => entry_out_ptr call _
      poolSize := pool_holds_mailboxes bar0 bar0Size iseg (by rw [entries]) }

/-- The mailbox pool cannot be allocated: the registers hold the released ring. -/
theorem released_ring_registered {outcomes : CmdInitOutcomes} {ringBuffer : Bytes}
    {dma : DmaOutcome} (ringAllocated : outcomes.ringBuffer = some ringBuffer)
    (ringMapping : outcomes.dmaCmd = some dma) (ringMapped : Mapped dma)
    (noPool : outcomes.mboxBuffer = none)
    (bar0 : BitVec 64) (bar0Size : BitVec 32) (iseg : Bytes) (heap : Heap) :
    (mlx5CmdInit outcomes bar0 bar0Size iseg heap).ret ≠ .success ∧
      (mlx5CmdInit outcomes bar0 bar0Size iseg heap).queue.ctx.cmdRingMd = some heap.next ∧
      ¬Allocated (mlx5CmdInit outcomes bar0 bar0Size iseg heap).heap heap.next ∧
      registeredRing (mlx5CmdInit outcomes bar0 bar0Size iseg heap).iseg = dma.fIOVMAddr := by
  obtain ⟨ctx, ring, continued, pointer, _⟩ :=
    cmd_init_mapped ringAllocated ringMapping ringMapped bar0 bar0Size iseg heap
  rw [continued]
  simp only [initMailboxes, noPool]
  refine ⟨?_, pointer, ?_, registered_ring_write iseg dma.fIOVMAddr⟩
  · intro succeeded
    cases succeeded
  · intro allocated
    exact ((allocated_release _ _ _).mp allocated).2 rfl

/-- With the ring mapped and the pool allocated, the function succeeds whatever
became of the mailbox mapping. -/
theorem mapped_ring_succeeds {outcomes : CmdInitOutcomes} {ringBuffer mboxBuffer : Bytes}
    {dma : DmaOutcome} (ringAllocated : outcomes.ringBuffer = some ringBuffer)
    (ringMapping : outcomes.dmaCmd = some dma) (ringMapped : Mapped dma)
    (mboxAllocated : outcomes.mboxBuffer = some mboxBuffer)
    (bar0 : BitVec 64) (bar0Size : BitVec 32) (iseg : Bytes) (heap : Heap) :
    (mlx5CmdInit outcomes bar0 bar0Size iseg heap).ret = .success := by
  obtain ⟨ctx, ring, continued, _, _⟩ :=
    cmd_init_mapped ringAllocated ringMapping ringMapped bar0 bar0Size iseg heap
  rw [continued]
  simp only [initMailboxes, mboxAllocated]

/-- For every combination of outcomes. -/
theorem addresses_valid_iff (outcomes : CmdInitOutcomes) (bar0 : BitVec 64) (bar0Size : BitVec 32)
    (iseg : Bytes) (heap : Heap) :
    AddressesValid outcomes (mlx5CmdInit outcomes bar0 bar0Size iseg heap) ↔
      (RingMapped outcomes → MboxMapped outcomes) := by
  constructor
  · rintro valid ⟨someRing, dma, created, mapped⟩
    rcases Option.isSome_iff_exists.mp someRing with ⟨ringBuffer, ringAllocated⟩
    cases pool : outcomes.mboxBuffer with
    | none =>
        obtain ⟨failed, pointer, released, registered⟩ :=
          released_ring_registered ringAllocated created mapped pool bar0 bar0Size iseg heap
        exact absurd registered (valid.onError failed _ dma pointer released created mapped)
    | some mboxBuffer =>
        obtain ⟨_, _, _, mboxDma, ready⟩ := valid.onSuccess
          (mapped_ring_succeeds ringAllocated created mapped pool bar0 bar0Size iseg heap)
        exact ⟨by rw [pool]; rfl, mboxDma, ready.mboxMapping, ready.mboxMapped⟩
  · intro mappedTogether
    by_cases ringMapped : RingMapped outcomes
    · rcases mappedTogether ringMapped with ⟨somePool, mboxDma, mboxMapping, mboxMapped⟩
      rcases ringMapped with ⟨someRing, dma, created, mapped⟩
      rcases Option.isSome_iff_exists.mp someRing with ⟨ringBuffer, ringAllocated⟩
      rcases Option.isSome_iff_exists.mp somePool with ⟨mboxBuffer, pool⟩
      have succeeded := mapped_ring_succeeds ringAllocated created mapped pool bar0 bar0Size iseg heap
      obtain ⟨ring, handle, ready⟩ := mapped_addresses_ready ringAllocated created mapped pool
        mboxMapping mboxMapped bar0 bar0Size iseg heap
      exact ⟨fun _ => ⟨ring, handle, dma, mboxDma, ready⟩, fun failed => absurd succeeded failed⟩
    · have failed := cmd_init_unmapped ringMapped bar0 bar0Size iseg heap
      refine ⟨fun succeeded => absurd succeeded failed, ?_⟩
      intro _ ring dma pointer _ created mapped
      have someRing : outcomes.ringBuffer.isSome = true := by
        rw [Option.isSome_iff_ne_none]
        intro noRing
        rw [(cmd_init_no_ring outcomes bar0 bar0Size iseg heap noRing).2.1] at pointer
        cases pointer
      exact absurd ⟨someRing, dma, created, mapped⟩ ringMapped

def sampleMapping (address : BitVec 64) : DmaOutcome := ⟨.success, .success, 1, address⟩

/-- The mailbox pool is allocated but no `IODMACommand` is created for it. -/
def poolUnmapped : CmdInitOutcomes :=
  ⟨some zeroBytes, some (sampleMapping 0x10000), some zeroBytes, none⟩

def poolMissing : CmdInitOutcomes := ⟨some zeroBytes, some (sampleMapping 0x10000), none, none⟩

/-- `mlx5_cmd_init` succeeds and every request names mailboxes at 0 and 4096;
or it fails and the registers hold the address of the released ring. -/
theorem unmapped_mailboxes_and_released_ring :
    ((mlx5CmdInit poolUnmapped 0 0 zeroBytes emptyHeap).ret = .success ∧
        (∀ call, entryInPtr call (mlx5CmdInit poolUnmapped 0 0 zeroBytes emptyHeap).queue = 0) ∧
        ¬AddressesValid poolUnmapped (mlx5CmdInit poolUnmapped 0 0 zeroBytes emptyHeap)) ∧
      (mlx5CmdInit poolMissing 0 0 zeroBytes emptyHeap).ret = .noMemory ∧
        ¬Allocated (mlx5CmdInit poolMissing 0 0 zeroBytes emptyHeap).heap 0 ∧
        registeredRing (mlx5CmdInit poolMissing 0 0 zeroBytes emptyHeap).iseg = 0x10000 ∧
        ¬AddressesValid poolMissing (mlx5CmdInit poolMissing 0 0 zeroBytes emptyHeap) := by
  have mapped : Mapped (sampleMapping 0x10000) := ⟨rfl, rfl, by decide⟩
  obtain ⟨failed, pointer, released, registered⟩ := released_ring_registered
    (show poolMissing.ringBuffer = some zeroBytes from rfl) rfl mapped rfl 0 0 zeroBytes emptyHeap
  refine ⟨⟨rfl, fun call => entry_in_ptr call _, ?_⟩, rfl, released, registered, ?_⟩
  · intro valid
    rcases valid.onSuccess rfl with ⟨_, _, _, mboxDma, ready⟩
    cases ready.mboxMapping
  · intro valid
    exact valid.onError failed _ _ pointer released rfl mapped registered

end Verbifrost.Mlx5CmdAddresses
