import Verbifrost.Mlx5Verbs

/-!
# Queue pairs

`mlx5_qp.cpp`: allocation of the rings, creation, the state machine, destruction
and the two posting functions. `memset` at the start of creation covers the
embedded `ib_qp` too, so nothing the caller put there survives it.
-/

namespace Verbifrost.Mlx5QueuePair

open Verbifrost.ByteMemory Verbifrost.Mlx5Registers Verbifrost.ReferenceHeap
open Verbifrost.IbVerbs Verbifrost.Mlx5CmdExec Verbifrost.Mlx5Verbs

set_option autoImplicit false

def mlx5SendWqeShift : BitVec 32 := 6
def mlx5RecvWqeShift : BitVec 32 := 4

def mlx5QpcQstInit : BitVec 32 := 1
def mlx5QpcQstRtr : BitVec 32 := 2
def mlx5QpcQstRts : BitVec 32 := 3

def mlx5OpcodeRdmaWrite : BitVec 32 := 0x08

/-- The fields `sq_*` or `rq_*` of a QP; `buf` is the ring behind the pointer. -/
structure WorkRing where
  buf : Bytes
  md : Option Nat
  dma : BitVec 64
  wqeCnt : BitVec 32
  wqeShift : BitVec 32
  head : BitVec 32

def zeroRing : WorkRing where
  buf := zeroBytes
  md := none
  dma := 0
  wqeCnt := 0
  wqeShift := 0
  head := 0

/-- `struct mlx5_ib_qp`. `uar` is the register behind the pointer. -/
structure Mlx5IbQp where
  ibqp : IbQp
  qpn : BitVec 32
  sq : WorkRing
  rq : WorkRing
  dbRecord : Bytes
  dbMd : Option Nat
  dbDma : BitVec 64
  uar : Option (BitVec 64)
  sendCqn : BitVec 32
  recvCqn : BitVec 32
  pdn : BitVec 32
  state : IbQpState

/-- `memset(mqp, 0, sizeof(*mqp))`. -/
def zeroQp : Mlx5IbQp where
  ibqp := zeroIbQp
  qpn := 0
  sq := zeroRing
  rq := zeroRing
  dbRecord := zeroBytes
  dbMd := none
  dbDma := 0
  uar := none
  sendCqn := 0
  recvCqn := 0
  pdn := 0
  state := .reset

structure QpBuffers where
  sq : Option DmaBuffer
  rq : Option DmaBuffer
  db : Option DmaBuffer

def sampleBuffers : QpBuffers :=
  ⟨some ⟨zeroBytes, 0x1000⟩, some ⟨zeroBytes, 0x5000⟩, some ⟨zeroBytes, 0x6000⟩⟩

def newRing (buffer : DmaBuffer) (md : Nat) (wqeCnt wqeShift : BitVec 32) : WorkRing where
  buf := copyIn buffer.bytes 0 zeroBytes (wqeCnt <<< wqeShift).toNat
  md := some md
  dma := buffer.physicalAddress
  wqeCnt := wqeCnt
  wqeShift := wqeShift
  head := 0

/-- The failing exits release what was allocated before them and keep the pointers. -/
def allocQpResources (buffers : QpBuffers) (qp : Mlx5IbQp)
    (sqWqeCnt sqWqeShift rqWqeCnt rqWqeShift : BitVec 32) (heap : Heap) :
    IOReturn × Mlx5IbQp × Heap :=
  match buffers.sq with
  | none => (.noMemory, { qp with sq := { qp.sq with md := none } }, heap)
  | some sqBuffer =>
      let (sqMd, heap) := acquire heap
      let qp := { qp with sq := newRing sqBuffer sqMd sqWqeCnt sqWqeShift }
      match buffers.rq with
      | none => (.noMemory, { qp with rq := { qp.rq with md := none } }, release sqMd heap)
      | some rqBuffer =>
          let (rqMd, heap) := acquire heap
          let qp := { qp with rq := newRing rqBuffer rqMd rqWqeCnt rqWqeShift }
          match buffers.db with
          | none => (.noMemory, { qp with dbMd := none }, release rqMd (release sqMd heap))
          | some dbBuffer =>
              let (dbMd, heap) := acquire heap
              (.success,
                { qp with
                  dbMd := some dbMd
                  dbRecord := copyIn dbBuffer.bytes 0 zeroBytes 4096
                  dbDma := dbBuffer.physicalAddress }, heap)

/-- `buf[offset] |= value`. -/
def orByte (buf : Bytes) (offset : Nat) (value : BitVec 32) : Bytes :=
  store buf offset (buf offset ||| value.setWidth 8)

def createQpInput (qp : Mlx5IbQp) (sqWqeCnt rqWqeCnt rqWqeShift : BitVec 32) : Bytes :=
  let logRqSize := logCount rqWqeCnt
  let inBuf := orByte zeroBytes 0x04 ((logRqSize &&& 0x0F) <<< 4)
  let logRqStride := rqWqeShift - 4
  let inBuf := orByte inBuf 0x04 ((logRqStride &&& 0x0F) <<< 0)
  let logSqSize := logCount sqWqeCnt
  let inBuf := orByte inBuf 0x0C ((logSqSize &&& 0x0F) <<< 4)
  let inBuf := store inBuf 0x100 (byteSwap qp.dbDma)
  let inBuf := store inBuf 0x200 (byteSwap qp.sq.dma)
  store inBuf 0x208 (byteSwap qp.rq.dma)

def createQpCall (inBuf : Bytes) : CmdCall where
  opcode := mlx5CmdOpCreateQp
  opMod := 0
  inData := some inBuf
  inLen := 0x210
  outData := some zeroBytes
  outLen := 64
  outStatus := true

structure QpResult where
  ret : Int
  qp : Mlx5IbQp
  queue : CmdQueue
  heap : Heap

def defaultWqeCnt : BitVec 32 := 256

/-- Where the numbers of the CQs and of the PD are taken down. -/
def recordNumbers (init : IbQpInitAttr) (mqp : Mlx5IbQp) : Mlx5IbQp :=
  { mqp with
    sendCqn :=
      match init.sendCq with
      | none => mqp.sendCqn
      | some cq => cq.cqe
    recvCqn :=
      match init.recvCq with
      | none => mqp.recvCqn
      | some cq => cq.cqe
    pdn :=
      match mqp.ibqp.pd with
      | none => mqp.pdn
      | some pd => pd.localDmaLkey }

/-- The command and what follows it, with the rings allocated and the numbers taken down. -/
def sendCreateQp (act : DeviceAct) (mqp : Mlx5IbQp) (queue : CmdQueue) (heap : Heap) : QpResult :=
  let inBuf := createQpInput mqp defaultWqeCnt defaultWqeCnt mlx5RecvWqeShift
  let (result, queue) := mlx5CmdExec act (createQpCall inBuf) queue
  if result.ret ≠ .success then
    -- not tested for NULL here, and never NULL when this is reached
    let heap := releaseIfSet mqp.sq.md heap
    let heap := releaseIfSet mqp.rq.md heap
    ⟨-1, mqp, queue, releaseIfSet mqp.dbMd heap⟩
  else
    let outBuf := result.outData.getD zeroBytes
    let qpn := byteSwap (load outBuf 8 32)
    ⟨0,
      { mqp with
        qpn := qpn
        ibqp := { mqp.ibqp with qpNum := qpn, state := .reset }
        state := .reset }, queue, heap⟩

/-- `memset` comes first, so the object passed in does not matter. -/
def mlx5IbCreateQpFull (act : DeviceAct) (buffers : QpBuffers) (init : IbQpInitAttr)
    (_qp : Mlx5IbQp) (queue : CmdQueue) (heap : Heap) : QpResult :=
  let (ret, mqp, heap) := allocQpResources buffers zeroQp defaultWqeCnt mlx5SendWqeShift
    defaultWqeCnt mlx5RecvWqeShift heap
  if ret ≠ .success then ⟨-1, mqp, queue, heap⟩
  else sendCreateQp act (recordNumbers init mqp) queue heap

def targetState : IbQpState → Option (BitVec 32)
  | .reset => some mlx5QpcQstInit
  | .init => some mlx5QpcQstRtr
  | .rtr => some mlx5QpcQstRts
  | _ => none

def modifyQpInput (target : BitVec 32) : Bytes :=
  let inBuf := store zeroBytes 0x00 ((target <<< 4).setWidth 8)
  orByte inBuf 0x00 target

def modifyQpCall (target : BitVec 32) : CmdCall where
  opcode := mlx5CmdOpModifyQp
  opMod := 0
  inData := some (modifyQpInput target)
  inLen := 0x100
  outData := some zeroBytes
  outLen := 16
  outStatus := true

def setState (mqp : Mlx5IbQp) (state : IbQpState) : Mlx5IbQp :=
  { mqp with state := state, ibqp := { mqp.ibqp with state := state } }

/-- The second `switch`: the driver's state for a firmware state code. -/
def trackState (target : BitVec 32) (mqp : Mlx5IbQp) : Mlx5IbQp :=
  if target = mlx5QpcQstInit then setState mqp .init
  else if target = mlx5QpcQstRtr then setState mqp .rtr
  else if target = mlx5QpcQstRts then setState mqp .rts
  else mqp

structure ModifyResult where
  ret : Int
  qp : Mlx5IbQp
  queue : CmdQueue

/-- Neither the attribute mask nor the attributes are looked at. -/
def mlx5IbModifyQpFull (act : DeviceAct) (mqp : Mlx5IbQp) (queue : CmdQueue) : ModifyResult :=
  match targetState mqp.state with
  | none => ⟨-1, mqp, queue⟩
  | some target =>
      let (result, queue) := mlx5CmdExec act (modifyQpCall target) queue
      if result.ret ≠ .success then ⟨-1, mqp, queue⟩ else ⟨0, trackState target mqp, queue⟩

def destroyQpCall (mqp : Mlx5IbQp) : CmdCall := destroyCall mlx5CmdOpDestroyQp 0 mqp.qpn

/-- The rings are released whatever the device answered, and the pointers stay. -/
def mlx5IbDestroyQpFull (act : DeviceAct) (mqp : Mlx5IbQp) (queue : CmdQueue) (heap : Heap) :
    QpResult :=
  let (result, queue) := mlx5CmdExec act (destroyQpCall mqp) queue
  let heap := releaseIfSet mqp.sq.md heap
  let heap := releaseIfSet mqp.rq.md heap
  let heap := releaseIfSet mqp.dbMd heap
  ⟨if result.ret = .success then 0 else -1, mqp, queue, heap⟩

def wqeOffset (ring : WorkRing) : Nat := (ring.head <<< ring.wqeShift).toNat

def writeCtrlSeg (qpn : BitVec 32) (ring : WorkRing) : Bytes :=
  let ctrl := wqeOffset ring
  let buf := store ring.buf ctrl
    (byteSwap ((mlx5OpcodeRdmaWrite <<< 24) ||| (0#32 <<< 16) ||| (ring.head &&& 0xFFFF)))
  let buf := store buf (ctrl + 4) (byteSwap (((qpn &&& 0xFFFFFF) <<< 8) ||| 2))
  let buf := store buf (ctrl + 8) (byteSwap (1#32 <<< 31))
  store buf (ctrl + 12) 0#32

def nextHead (ring : WorkRing) : BitVec 32 := (ring.head + 1) &&& (ring.wqeCnt - 1)

def mlx5IbPostSendFull (mqp : Mlx5IbQp) : Int × Mlx5IbQp :=
  let buf := writeCtrlSeg mqp.qpn mqp.sq
  let head := nextHead mqp.sq
  let dbRecord := store mqp.dbRecord 0 (byteSwap (head <<< mqp.sq.wqeShift))
  let uar := mqp.uar.map fun _ => byteSwap (load buf (wqeOffset mqp.sq) 64)
  (0, { mqp with sq := { mqp.sq with buf := buf, head := head }, dbRecord := dbRecord, uar := uar })

def writeDataSeg (ring : WorkRing) : Bytes :=
  let dseg := wqeOffset ring
  let buf := store ring.buf dseg (byteSwap 4096#32)
  let buf := store buf (dseg + 4) 0#32
  store buf (dseg + 8) 0#64

def mlx5IbPostRecvFull (mqp : Mlx5IbQp) : Int × Mlx5IbQp :=
  let buf := writeDataSeg mqp.rq
  let head := nextHead mqp.rq
  let dbRecord := store mqp.dbRecord 4 (byteSwap (head &&& 0xFFFF))
  (0, { mqp with rq := { mqp.rq with buf := buf, head := head }, dbRecord := dbRecord })

def allocatedQp (init : IbQpInitAttr) (sq rq db : DmaBuffer) (heap : Heap) : Mlx5IbQp :=
  recordNumbers init
    { zeroQp with
      sq := newRing sq heap.next defaultWqeCnt mlx5SendWqeShift
      rq := newRing rq (heap.next + 1) defaultWqeCnt mlx5RecvWqeShift
      dbRecord := copyIn db.bytes 0 zeroBytes 4096
      dbMd := some (heap.next + 2)
      dbDma := db.physicalAddress }

theorem create_qp_full_allocated (act : DeviceAct) (init : IbQpInitAttr) (sq rq db : DmaBuffer)
    (qp : Mlx5IbQp) (queue : CmdQueue) (heap : Heap) :
    mlx5IbCreateQpFull act ⟨some sq, some rq, some db⟩ init qp queue heap =
      sendCreateQp act (allocatedQp init sq rq db heap) queue
        (acquire (acquire (acquire heap).2).2).2 := rfl

/-- The QP a successful CREATE_QP leaves, with the number of the response. -/
def numberedQp (mqp : Mlx5IbQp) (qpn : BitVec 32) : Mlx5IbQp :=
  { mqp with
    qpn := qpn
    ibqp := { mqp.ibqp with qpNum := qpn, state := .reset }
    state := .reset }

theorem create_qp_full_succeeded {act : DeviceAct} {buffers : QpBuffers} {init : IbQpInitAttr}
    {qp : Mlx5IbQp} {queue : CmdQueue} {heap : Heap}
    (succeeded : (mlx5IbCreateQpFull act buffers init qp queue heap).ret = 0) :
    ∃ sq rq db, buffers = ⟨some sq, some rq, some db⟩ ∧
      (mlx5IbCreateQpFull act buffers init qp queue heap).qp =
        numberedQp (allocatedQp init sq rq db heap)
          (loadBE ((mlx5CmdExec act (createQpCall (createQpInput (allocatedQp init sq rq db heap)
            defaultWqeCnt defaultWqeCnt mlx5RecvWqeShift)) queue).1.outData.getD zeroBytes) 8 32) := by
  rcases buffers with ⟨_ | sq, _ | rq, _ | db⟩
  all_goals first
    | cases succeeded
    | rw [create_qp_full_allocated] at succeeded ⊢
  refine ⟨sq, rq, db, rfl, ?_⟩
  simp only [sendCreateQp] at succeeded ⊢
  split_ifs at succeeded ⊢
  · cases succeeded
  · rfl

end Verbifrost.Mlx5QueuePair
