import Mathlib.Algebra.Group.Nat.Defs
import Verbifrost.Mlx5Verbs

/-!
# Memory registration

`build_pas_list` and `mlx5_ib_reg_user_mr_full` of `mlx5_mr.cpp`. The length of
the region is used at two widths: the page list is built for its low 32 bits,
the memory key context and the `ib_mr` carry all 64.
-/

namespace Verbifrost.Mlx5MemoryRegion

open Verbifrost.ByteMemory Verbifrost.Mlx5Registers Verbifrost.ReferenceHeap
open Verbifrost.IbVerbs Verbifrost.Mlx5CmdExec Verbifrost.Mlx5Verbs

set_option autoImplicit false

def mlx5MkcOffAccessMode : Nat := 0x00
def mlx5MkcAccessModeMtt : Byte := 1
def mlx5MkcOffAFlags : Nat := 0x04
def mlx5MkcOffLen : Nat := 0x08
def mlx5MkcOffIova : Nat := 0x10
def mlx5MkcOffPd : Nat := 0x40
def mlx5MkcOffLogPageSize : Nat := 0x58

def pageSize : BitVec 32 := 4096#32

def pasNpages (length : BitVec 32) : BitVec 32 :=
  let npages := (length + pageSize - 1#32) / pageSize
  if npages = 0#32 then 1#32 else npages

def pasAlloc (npages : BitVec 32) : BitVec 32 :=
  let pasSize := npages * 8
  (pasSize + 4095) &&& ~~~4095#32

def pasEntry (baseAddr : BitVec 64) (index : Nat) : BitVec 64 :=
  baseAddr + BitVec.ofNat 64 index * pageSize.setWidth 64

def fillPas (baseAddr : BitVec 64) : Nat → Bytes → Bytes
  | 0, pas => pas
  | count + 1, pas =>
      store (fillPas baseAddr count pas) (8 * count) (byteSwap (pasEntry baseAddr count))

structure PasList where
  pas : Bytes
  npages : BitVec 32
  md : Nat
  dma : BitVec 64

def newPasList (buffer : DmaBuffer) (baseAddr : BitVec 64) (length : BitVec 32) (md : Nat) :
    PasList :=
  let npages := pasNpages length
  let pas := copyIn buffer.bytes 0 zeroBytes (pasAlloc npages).toNat
  { pas := fillPas baseAddr npages.toNat pas
    npages := npages
    md := md
    dma := buffer.physicalAddress }

def buildPasList (buffer : Option DmaBuffer) (baseAddr : BitVec 64) (length : BitVec 32)
    (heap : Heap) : Option PasList × Heap :=
  match buffer with
  | none => (none, heap)
  | some buffer =>
      let (pasMd, heap) := acquire heap
      (some (newPasList buffer baseAddr length pasMd), heap)

def mlx5Access (accessFlags : BitVec 32) : BitVec 32 :=
  let access := 0#32
  let access := if accessFlags &&& ibAccessLocalWrite ≠ 0 then access ||| 1 else access
  let access := if accessFlags &&& ibAccessRemoteWrite ≠ 0 then access ||| 2 else access
  if accessFlags &&& ibAccessRemoteRead ≠ 0 then access ||| 4 else access

structure RegArgs where
  pd : Option IbPd
  start : BitVec 64
  length : BitVec 64
  virtAddr : BitVec 64
  accessFlags : BitVec 32

/-- `in_buf`. The key context starts 16 bytes into it, and the one address
stored after it is that of the page list, not of a page. -/
def createMkeyInput (args : RegArgs) (pasDma : BitVec 64) : Bytes :=
  let mkc := 16
  let inBuf := store zeroBytes (mkc + mlx5MkcOffAccessMode) mlx5MkcAccessModeMtt
  let inBuf := store inBuf (mkc + mlx5MkcOffAFlags) (byteSwap (mlx5Access args.accessFlags))
  let inBuf := store inBuf (mkc + mlx5MkcOffLen) (byteSwap args.length)
  let inBuf := store inBuf (mkc + mlx5MkcOffIova) (byteSwap args.virtAddr)
  let inBuf :=
    match args.pd with
    | none => inBuf
    | some pd => store inBuf (mkc + mlx5MkcOffPd) (byteSwap pd.localDmaLkey)
  let inBuf := store inBuf (mkc + mlx5MkcOffLogPageSize) 12#8
  store inBuf 0x100 (byteSwap pasDma)

def createMkeyCall (args : RegArgs) (pasDma : BitVec 64) : CmdCall where
  opcode := mlx5CmdOpCreateMkey
  opMod := 0
  inData := some (createMkeyInput args pasDma)
  inLen := 0x110
  outData := some zeroBytes
  outLen := 64
  outStatus := true

structure Mlx5IbMr where
  ibmr : IbMr
  mkey : BitVec 32
  mttLevel : BitVec 32
  pas : Bytes
  npages : BitVec 32
  pasMd : Nat

/-- The returned pointer. The last case is the read of `pd->device` through a
null pointer, which the function reaches when `pd` is `NULL` and all else went well. -/
inductive RegResult where
  | null
  | region (address : Nat) (mr : Mlx5IbMr)
  | nullDereference

structure MrResult where
  result : RegResult
  queue : CmdQueue
  heap : Heap

def newRegion (args : RegArgs) (pd : IbPd) (mkeyIdx : BitVec 32) (list : PasList) : Mlx5IbMr where
  ibmr :=
    { device := pd.device
      pd := pd
      uobject := 0
      lkey := mkeyIdx <<< 8
      rkey := mkeyIdx <<< 8
      iova := args.virtAddr
      length := args.length }
  mkey := mkeyIdx
  mttLevel := 0
  pas := list.pas
  npages := list.npages
  pasMd := list.md

/-- `allocated` is whether `IOMalloc` returned memory for the `mlx5_ib_mr`. -/
def mlx5IbRegUserMrFull (act : DeviceAct) (buffer : Option DmaBuffer) (allocated : Bool)
    (args : RegArgs) (queue : CmdQueue) (heap : Heap) : MrResult :=
  match buildPasList buffer args.start (args.length.setWidth 32) heap with
  | (none, heap) => ⟨.null, queue, heap⟩
  | (some list, heap) =>
      let (result, queue) := mlx5CmdExec act (createMkeyCall args list.dma) queue
      if result.ret ≠ .success then ⟨.null, queue, release list.md heap⟩
      else
        let outBuf := result.outData.getD zeroBytes
        let mkeyIdx := byteSwap (load outBuf 8 32)
        if allocated = false then ⟨.null, queue, release list.md heap⟩
        else
          let (address, heap) := acquire heap
          match args.pd with
          | none => ⟨.nullDereference, queue, heap⟩
          | some pd => ⟨.region address (newRegion args pd mkeyIdx list), queue, heap⟩

/-- The number the response to CREATE_MKEY carries for the caller. -/
def mkeyResponse (act : DeviceAct) (buffer : DmaBuffer) (args : RegArgs) (queue : CmdQueue) :
    BitVec 32 :=
  loadBE ((mlx5CmdExec act (createMkeyCall args buffer.physicalAddress) queue).1.outData.getD
    zeroBytes) 8 32

theorem reg_user_mr_full_sends (act : DeviceAct) (buffer : Option DmaBuffer) (allocated : Bool)
    (args : RegArgs) (queue : CmdQueue) (heap : Heap) :
    (mlx5IbRegUserMrFull act buffer allocated args queue heap).queue =
      ((buffer.map fun pages => createMkeyCall args pages.physicalAddress).map fun call =>
        (mlx5CmdExec act call queue).2).getD queue := by
  cases buffer with
  | none => rfl
  | some pages =>
      simp only [mlx5IbRegUserMrFull, buildPasList]
      split_ifs
      · rfl
      · rfl
      · cases args.pd <;> rfl

/-- A returned region was built from an allocated page list, a non-null PD and
the number the firmware gave. -/
theorem reg_user_mr_returned {act : DeviceAct} {buffer : DmaBuffer} {allocated : Bool}
    {args : RegArgs} {queue : CmdQueue} {heap : Heap} {address : Nat} {mr : Mlx5IbMr}
    (returned : (mlx5IbRegUserMrFull act (some buffer) allocated args queue heap).result =
      .region address mr) :
    ∃ pd, args.pd = some pd ∧
      mr = newRegion args pd (mkeyResponse act buffer args queue)
        (newPasList buffer args.start (args.length.setWidth 32) heap.next) := by
  simp only [mlx5IbRegUserMrFull, buildPasList] at returned
  split_ifs at returned
  cases present : args.pd with
  | none =>
      rw [present] at returned
      cases returned
  | some pd =>
      rw [present] at returned
      cases returned
      exact ⟨pd, rfl, rfl⟩

theorem reg_user_mr_answered (poll : Nat) (mailbox : Bytes) (buffer : DmaBuffer) (args : RegArgs)
    (pd : IbPd) (queue : CmdQueue) (heap : Heap) (inTime : poll < pollLimit)
    (accepted : mailbox mlx5MboxStatusOff = mlx5CmdStatOk) (present : args.pd = some pd) :
    (mlx5IbRegUserMrFull (answerAt poll 0#8 mailbox) (some buffer) true args queue heap).result =
      .region (heap.next + 1) (newRegion args pd (loadBE mailbox 16 32)
        (newPasList buffer args.start (args.length.setWidth 32) heap.next)) := by
  have replied := exec_accepted (createMkeyCall args buffer.physicalAddress) queue poll mailbox
    inTime accepted
  have word := response_word (show 32 / 8 * 8 = 32 by decide)
    (createMkeyCall args buffer.physicalAddress) zeroBytes mailbox rfl 8 (Nat.le_of_ble_eq_true rfl)
  unfold loadBE at word
  simp only [mlx5IbRegUserMrFull, buildPasList, present, acquire_handle, newPasList]
  rw [replied]
  simp [word, loadBE]

theorem pas_npages_nat (length : BitVec 32) :
    (pasNpages length).toNat = max 1 ((length.toNat + 4095) % 2 ^ 32 / 4096) := by
  have sum : (length + pageSize - 1#32).toNat = (length.toNat + 4095) % 2 ^ 32 := by
    simp only [pageSize, BitVec.toNat_sub, BitVec.toNat_add, BitVec.toNat_ofNat]
    omega
  have quotient : ((length + pageSize - 1#32) / pageSize).toNat =
      (length.toNat + 4095) % 2 ^ 32 / 4096 := by
    rw [BitVec.toNat_udiv, sum]
    rfl
  unfold pasNpages
  dsimp only
  split_ifs with none
  · rw [none] at quotient
    have zero : (length.toNat + 4095) % 2 ^ 32 / 4096 = 0 := quotient.symm
    rw [zero]
    rfl
  · have positive : (length.toNat + 4095) % 2 ^ 32 / 4096 ≠ 0 := by
      rw [← quotient]
      intro zero
      exact none (BitVec.eq_of_toNat_eq zero)
    rw [quotient]
    omega

theorem pas_npages_cover_iff (length : BitVec 64) :
    length.toNat ≤ (pasNpages (length.setWidth 32)).toNat * 4096 ↔
      length.toNat ≤ 2 ^ 32 - 4096 := by
  rw [pas_npages_nat, BitVec.toNat_setWidth]
  omega

theorem create_mkey_input_length (args : RegArgs) (pasDma : BitVec 64) :
    loadBE (createMkeyInput args pasDma) (16 + mlx5MkcOffLen) 64 = args.length := by
  unfold createMkeyInput
  dsimp only
  rw [load_be_store_disjoint (by decide) _ _ _ _ (by decide),
    load_be_store_disjoint (by decide) _ _ _ _ (by decide)]
  cases args.pd with
  | none =>
      dsimp only
      rw [load_be_store_disjoint (by decide) _ _ _ _ (by decide)]
      exact load_be_store_swap (by decide) _ _ _
  | some pd =>
      dsimp only
      rw [load_be_store_disjoint (by decide) _ _ _ _ (by decide),
        load_be_store_disjoint (by decide) _ _ _ _ (by decide)]
      exact load_be_store_swap (by decide) _ _ _

/-- The page list reaches to the end of what the key context and the `ib_mr` advertise. -/
def BacksRegion (args : RegArgs) (pasDma : BitVec 64) (mr : Mlx5IbMr) : Prop :=
  (loadBE (createMkeyInput args pasDma) (16 + mlx5MkcOffLen) 64).toNat ≤ mr.npages.toNat * 4096 ∧
    mr.ibmr.length.toNat ≤ mr.npages.toNat * 4096

/-- For every region the function returns, whatever the device and the allocators did. -/
theorem page_list_backs_region_iff (act : DeviceAct) (buffer : DmaBuffer) (allocated : Bool)
    (args : RegArgs) (queue : CmdQueue) (heap : Heap) (address : Nat) (mr : Mlx5IbMr)
    (returned : (mlx5IbRegUserMrFull act (some buffer) allocated args queue heap).result =
      .region address mr) :
    BacksRegion args buffer.physicalAddress mr ↔ args.length.toNat ≤ 2 ^ 32 - 4096 := by
  rcases reg_user_mr_returned returned with ⟨pd, _, rfl⟩
  have cover := pas_npages_cover_iff args.length
  simp only [BacksRegion, create_mkey_input_length, newRegion, newPasList, and_self]
  exact cover

def samplePd : IbPd where
  device := 0x8000
  uobject := 0
  localDmaLkey := 3
  flags := 0
  res := 0

def sampleArgs (length : BitVec 64) : RegArgs where
  pd := some samplePd
  start := 0x4000
  length := length
  virtAddr := 0x4000
  accessFlags := ibAccessLocalWrite

def sampleBuffer : DmaBuffer := ⟨zeroBytes, 0x20000⟩

theorem two_pages_back_region :
    ∃ address mr, (mlx5IbRegUserMrFull (answerAt 0 0#8 zeroBytes) (some sampleBuffer) true
        (sampleArgs 8192) blankQueue emptyHeap).result = .region address mr ∧
      BacksRegion (sampleArgs 8192) sampleBuffer.physicalAddress mr := by
  have returned := reg_user_mr_answered 0 zeroBytes sampleBuffer (sampleArgs 8192) samplePd
    blankQueue emptyHeap (by decide) rfl rfl
  exact ⟨_, _, returned, (page_list_backs_region_iff _ _ _ _ _ _ _ _ returned).mpr (by decide)⟩

/-- A length of exactly 4 GB is truncated to zero and gets a single page. -/
theorem four_gigabytes_on_one_page :
    ∃ address mr, (mlx5IbRegUserMrFull (answerAt 0 0#8 zeroBytes) (some sampleBuffer) true
        (sampleArgs 0x100000000) blankQueue emptyHeap).result = .region address mr ∧
      mr.npages = 1 ∧ mr.ibmr.length = 0x100000000 ∧
      ¬BacksRegion (sampleArgs 0x100000000) sampleBuffer.physicalAddress mr := by
  have returned := reg_user_mr_answered 0 zeroBytes sampleBuffer (sampleArgs 0x100000000) samplePd
    blankQueue emptyHeap (by decide) rfl rfl
  refine ⟨_, _, returned, by decide, rfl, ?_⟩
  intro backs
  exact absurd backs.2 (by decide)

/-- The documented layout of the CREATE_MKEY mailbox: a 16-byte header, the
key context at its offsets, and the page addresses where the driver places the
array. -/
structure MkeyRequestDecodes (args : RegArgs) (mailbox : Bytes) : Prop where
  accessMode : mailbox (16 + mlx5MkcOffAccessMode) = mlx5MkcAccessModeMtt
  localWrite : (loadBE mailbox (16 + mlx5MkcOffAFlags) 32).getLsbD 0 =
    (args.accessFlags &&& ibAccessLocalWrite != 0)
  remoteWrite : (loadBE mailbox (16 + mlx5MkcOffAFlags) 32).getLsbD 1 =
    (args.accessFlags &&& ibAccessRemoteWrite != 0)
  remoteRead : (loadBE mailbox (16 + mlx5MkcOffAFlags) 32).getLsbD 2 =
    (args.accessFlags &&& ibAccessRemoteRead != 0)
  length : loadBE mailbox (16 + mlx5MkcOffLen) 64 = args.length
  iova : loadBE mailbox (16 + mlx5MkcOffIova) 64 = args.virtAddr
  pdNumber : ∀ pd, args.pd = some pd → loadBE mailbox (16 + mlx5MkcOffPd) 32 = pd.localDmaLkey
  logPageSize : mailbox (16 + mlx5MkcOffLogPageSize) = 12
  pas : ∀ index < (pasNpages (args.length.setWidth 32)).toNat,
    loadBE mailbox (16 + 0x100 + 8 * index) 64 = pasEntry args.start index

/-- The driver skips 16 bytes that the command layer has already put in front. -/
theorem create_mkey_input_skipped (args : RegArgs) (pasDma : BitVec 64) (index : Nat)
    (skipped : index < 16) : createMkeyInput args pasDma index = 0 := by
  have context : ∀ offset, index < 16 + offset := by
    intro offset
    omega
  simp only [createMkeyInput]
  rw [store_outside _ _ _ _ (Or.inl (by omega)), store_outside _ _ _ _ (Or.inl (context _))]
  cases args.pd with
  | none =>
      dsimp only
      rw [store_outside _ _ _ _ (Or.inl (context _)), store_outside _ _ _ _ (Or.inl (context _)),
        store_outside _ _ _ _ (Or.inl (context _)), store_outside _ _ _ _ (Or.inl (context _))]
      rfl
  | some pd =>
      dsimp only
      rw [store_outside _ _ _ _ (Or.inl (context _)), store_outside _ _ _ _ (Or.inl (context _)),
        store_outside _ _ _ _ (Or.inl (context _)), store_outside _ _ _ _ (Or.inl (context _)),
        store_outside _ _ _ _ (Or.inl (context _))]
      rfl

theorem create_mkey_mailbox_access_mode (args : RegArgs) (pasDma : BitVec 64) (queue : CmdQueue) :
    inMbox 0#32 (submitted (createMkeyCall args pasDma) queue).mem (16 + mlx5MkcOffAccessMode) = 0 := by
  have copied : mlx5MkcOffAccessMode < (inCopyLen (createMkeyCall args pasDma)).toNat :=
    Nat.le_of_ble_eq_true rfl
  rw [submitted_data_byte _ queue _ rfl _ copied]
  exact create_mkey_input_skipped args pasDma _ (by decide)

theorem create_mkey_never_decodes (args : RegArgs) (buffer : DmaBuffer) (queue : CmdQueue) :
    ¬MkeyRequestDecodes args
      (inMbox 0#32 (submitted (createMkeyCall args buffer.physicalAddress) queue).mem) := by
  intro decodes
  have mode := decodes.accessMode
  rw [create_mkey_mailbox_access_mode] at mode
  exact absurd mode (by decide)

/-- One page at 0x4000: no access mode where it belongs, and the address in the
array is that of the page list. -/
theorem one_page_request_undecodable :
    inMbox 0#32 (submitted (createMkeyCall (sampleArgs 4096) 0x20000) blankQueue).mem 16 = 0 ∧
      loadBE (inMbox 0#32 (submitted (createMkeyCall (sampleArgs 4096) 0x20000) blankQueue).mem)
        (16 + 0x100) 64 = 0x20000 ∧
      ¬MkeyRequestDecodes (sampleArgs 4096)
        (inMbox 0#32 (submitted (createMkeyCall (sampleArgs 4096) 0x20000) blankQueue).mem) := by
  have mode := create_mkey_mailbox_access_mode (sampleArgs 4096) 0x20000 blankQueue
  refine ⟨mode, by decide, ?_⟩
  intro decodes
  exact absurd (mode.symm.trans decodes.accessMode) (by decide)

end Verbifrost.Mlx5MemoryRegion
