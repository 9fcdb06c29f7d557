import Verbifrost.IbVerbs
import Verbifrost.Mlx5CmdExec
import Verbifrost.ReferenceHeap

/-!
# Protection domains and completion queues

The verbs of `mlx5_verbs.cpp` that send a firmware command. Each takes the
device's behaviour during its command and, where it allocates, the outcome of
the allocation. The command context that `to_mdev` reaches through the object's
device is the `CmdQueue` argument.
-/

namespace Verbifrost.Mlx5Verbs

open Verbifrost.ByteMemory Verbifrost.Mlx5Registers Verbifrost.ReferenceHeap
open Verbifrost.IbVerbs Verbifrost.Mlx5CmdExec

set_option autoImplicit false

/-- A physically contiguous buffer as the allocator returns it. -/
structure DmaBuffer where
  bytes : Bytes
  physicalAddress : BitVec 64

/-- `while (tmp > 1) { log++; tmp >>= 1; }` with a bound on the iterations. -/
def logLoop : Nat → BitVec 32 → BitVec 32 → BitVec 32
  | 0, _, log => log
  | fuel + 1, tmp, log => if 1 < tmp then logLoop fuel (tmp >>> 1) (log + 1) else log

/-- A 32-bit value is shifted down to at most one within 32 iterations. -/
def logCount (count : BitVec 32) : BitVec 32 := logLoop 32 count 0

structure PdResult where
  ret : Int
  pd : IbPd
  queue : CmdQueue

def allocPdCall : CmdCall where
  opcode := mlx5CmdOpCreateMkey
  opMod := 0x01
  inData := none
  inLen := 0
  outData := some zeroBytes
  outLen := 16
  outStatus := true

def mlx5IbAllocPd (act : DeviceAct) (pd : IbPd) (queue : CmdQueue) : PdResult :=
  let (result, queue) := mlx5CmdExec act allocPdCall queue
  if result.ret ≠ .success then ⟨-1, pd, queue⟩
  else
    let outBuf := result.outData.getD zeroBytes
    let pdn := byteSwap (load outBuf 8 32)
    ⟨0, { pd with localDmaLkey := pdn }, queue⟩

theorem alloc_pd_sends (act : DeviceAct) (pd : IbPd) (queue : CmdQueue) :
    (mlx5IbAllocPd act pd queue).queue = (mlx5CmdExec act allocPdCall queue).2 := by
  simp only [mlx5IbAllocPd]
  split_ifs <;> rfl

/-- `in_buf` with an object number in its first four bytes, and four bytes of it sent. -/
def destroyCall (opcode opMod : BitVec 16) (number : BitVec 32) : CmdCall where
  opcode := opcode
  opMod := opMod
  inData := some (store zeroBytes 0 (byteSwap number))
  inLen := 4
  outData := some zeroBytes
  outLen := 16
  outStatus := true

def deallocPdCall (pd : IbPd) : CmdCall := destroyCall mlx5CmdOpDestroyMkey 0x01 pd.localDmaLkey

def mlx5IbDeallocPd (act : DeviceAct) (pd : IbPd) (queue : CmdQueue) : PdResult :=
  let (result, queue) := mlx5CmdExec act (deallocPdCall pd) queue
  if result.ret ≠ .success then ⟨-1, pd, queue⟩ else ⟨0, pd, queue⟩

structure CqResult where
  ret : Int
  cq : IbCq
  queue : CmdQueue
  heap : Heap

/-- `cq->cqe > 0 ? cq->cqe : 64`, a signed comparison. -/
def cqeCount (cq : IbCq) : BitVec 32 := if (0#32).slt cq.cqe then cq.cqe else 64

def cqRingSize (cq : IbCq) : BitVec 32 := cqeCount cq * 64

def createCqInput (cq : IbCq) (cqDma : BitVec 64) : Bytes :=
  let logCqSize := (logCount (cqeCount cq)).setWidth 8
  let inBuf := store zeroBytes 0x0C logCqSize
  let inBuf := store inBuf 0x0E 1#8
  store inBuf 0x40 (byteSwap cqDma)

def createCqCall (cq : IbCq) (cqDma : BitVec 64) : CmdCall where
  opcode := mlx5CmdOpCreateCq
  opMod := 0
  inData := some (createCqInput cq cqDma)
  inLen := 0x48
  outData := some zeroBytes
  outLen := 16
  outStatus := true

/-- The ring's descriptor is kept nowhere: after a success only the device knows the ring. -/
def mlx5IbCreateCq (act : DeviceAct) (buffer : Option DmaBuffer) (cq : IbCq) (queue : CmdQueue)
    (heap : Heap) : CqResult :=
  match buffer with
  | none => ⟨-1, cq, queue, heap⟩
  | some ring =>
      let (cqMD, heap) := acquire heap
      let (result, queue) := mlx5CmdExec act (createCqCall cq ring.physicalAddress) queue
      if result.ret ≠ .success then ⟨-1, cq, queue, release cqMD heap⟩
      else
        let outBuf := result.outData.getD zeroBytes
        let cqn := byteSwap (load outBuf 8 32)
        ⟨0, { cq with cqe := cqn }, queue, heap⟩

theorem create_cq_sends (act : DeviceAct) (ring : DmaBuffer) (cq : IbCq) (queue : CmdQueue)
    (heap : Heap) :
    (mlx5IbCreateCq act (some ring) cq queue heap).queue =
      (mlx5CmdExec act (createCqCall cq ring.physicalAddress) queue).2 := by
  simp only [mlx5IbCreateCq]
  split_ifs <;> rfl

def destroyCqCall (cq : IbCq) : CmdCall := destroyCall mlx5CmdOpDestroyCq 0 cq.cqe

def mlx5IbDestroyCq (act : DeviceAct) (cq : IbCq) (queue : CmdQueue) : Int × CmdQueue :=
  let (result, queue) := mlx5CmdExec act (destroyCqCall cq) queue
  (if result.ret = .success then 0 else -1, queue)

def deregMrCall (mr : IbMr) : CmdCall := destroyCall mlx5CmdOpDestroyMkey 0 (mr.lkey >>> 8)

def mlx5IbDeregMr (act : DeviceAct) (mr : IbMr) (queue : CmdQueue) : Int × CmdQueue :=
  let (result, queue) := mlx5CmdExec act (deregMrCall mr) queue
  (if result.ret = .success then 0 else -1, queue)

end Verbifrost.Mlx5Verbs
