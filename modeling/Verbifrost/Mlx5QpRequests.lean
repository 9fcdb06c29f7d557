import Mathlib.Logic.Function.Basic
import Verbifrost.Mlx5QueuePair

/-!
# What the QP commands tell the device

The requests that creation and modification of a queue pair hand to
`mlx5_cmd_exec`, read at the positions that `mlx5_qp.h` documents for the QP
context. A QP's number reaches the device in DESTROY_QP only.
-/

namespace Verbifrost.Mlx5QpRequests

open Verbifrost.ByteMemory Verbifrost.Mlx5Registers Verbifrost.ReferenceHeap
open Verbifrost.IbVerbs Verbifrost.Mlx5CmdExec Verbifrost.Mlx5Verbs Verbifrost.Mlx5QueuePair

set_option autoImplicit false

def mlx5QpcOffPd : Nat := 0x0C
def mlx5QpcOffCqnSnd : Nat := 0x30
def mlx5QpcOffCqnRcv : Nat := 0x34
def mlx5QpcOffLogRqSize : Nat := 0x04
def mlx5QpcOffLogRqStride : Nat := 0x04
def mlx5QpcOffLogSqSize : Nat := 0x0C

/-- The input of CREATE_QP, sent once all three buffers are allocated. -/
def createRequest (init : IbQpInitAttr) (sq rq db : DmaBuffer) (heap : Heap) : Bytes :=
  createQpInput (allocatedQp init sq rq db heap) defaultWqeCnt defaultWqeCnt mlx5RecvWqeShift

theorem create_qp_full_sends (act : DeviceAct) (init : IbQpInitAttr) (sq rq db : DmaBuffer)
    (qp : Mlx5IbQp) (queue : CmdQueue) (heap : Heap) :
    (mlx5IbCreateQpFull act ⟨some sq, some rq, some db⟩ init qp queue heap).queue =
      (mlx5CmdExec act (createQpCall (createRequest init sq rq db heap)) queue).2 := by
  rw [create_qp_full_allocated]
  simp only [sendCreateQp]
  split_ifs <;> rfl

structure QpContextDecodes (input : Bytes) (pd : IbPd) (sendCq recvCq : IbCq)
    (sq rq db : DmaBuffer) : Prop where
  logRqSize : ((loadBE input mlx5QpcOffLogRqSize 32).extractLsb' 24 4).setWidth 32 =
    logCount defaultWqeCnt
  logRqStride : ((loadBE input mlx5QpcOffLogRqStride 32).extractLsb' 20 4).setWidth 32 =
    mlx5RecvWqeShift - 4
  logSqSize : ((loadBE input mlx5QpcOffLogSqSize 32).extractLsb' 24 4).setWidth 32 =
    logCount defaultWqeCnt
  pdNumber : (loadBE input mlx5QpcOffPd 32).extractLsb' 0 24 = pd.localDmaLkey.extractLsb' 0 24
  sendCqn : (loadBE input mlx5QpcOffCqnSnd 32).extractLsb' 0 24 = sendCq.cqe.extractLsb' 0 24
  recvCqn : (loadBE input mlx5QpcOffCqnRcv 32).extractLsb' 0 24 = recvCq.cqe.extractLsb' 0 24
  dbAddress : loadBE input 0x100 64 = db.physicalAddress
  sqAddress : loadBE input 0x200 64 = sq.physicalAddress
  rqAddress : loadBE input 0x208 64 = rq.physicalAddress

theorem create_qp_input_rq_word (qp : Mlx5IbQp) :
    loadBE (createQpInput qp defaultWqeCnt defaultWqeCnt mlx5RecvWqeShift) mlx5QpcOffLogRqSize 32 =
      0x80000000 := by
  simp only [createQpInput]
  rw [load_be_store_disjoint (by decide) _ _ _ _ (by decide),
    load_be_store_disjoint (by decide) _ _ _ _ (by decide),
    load_be_store_disjoint (by decide) _ _ _ _ (by decide)]
  decide

theorem create_request_init (left right : IbQpInitAttr) (sq rq db : DmaBuffer) (heap : Heap) :
    createRequest left sq rq db heap = createRequest right sq rq db heap := rfl

/-- No created QP's context decodes, and requests for different PDs and CQs are equal. -/
theorem create_qp_never_decodes (init : IbQpInitAttr) (pd : IbPd) (sendCq recvCq : IbCq)
    (sq rq db : DmaBuffer) (heap : Heap) :
    ¬QpContextDecodes (createRequest init sq rq db heap) pd sendCq recvCq sq rq db ∧
      ∀ other : IbQpInitAttr, createRequest other sq rq db heap = createRequest init sq rq db heap := by
  constructor
  · intro decodes
    have size := decodes.logRqSize
    rw [createRequest, create_qp_input_rq_word] at size
    exact absurd size (by decide)
  · intro other
    exact create_request_init other init sq rq db heap

def sampleInit (sendCqe recvCqe : BitVec 32) : IbQpInitAttr where
  sendCq := some ⟨0, 0, 0, 0, 0, sendCqe⟩
  recvCq := some ⟨0, 0, 0, 0, 0, recvCqe⟩
  qpType := .rc

def sampleRing (address : BitVec 64) : DmaBuffer := ⟨zeroBytes, address⟩

/-- CQs 5 and 6 or CQs 8 and 9: one request, with ring size zero at the documented bits. -/
theorem sample_create_request_undecodable :
    (loadBE (createRequest (sampleInit 5 6) (sampleRing 0x1000) (sampleRing 0x5000)
        (sampleRing 0x6000) emptyHeap) mlx5QpcOffLogRqSize 32).extractLsb' 24 4 = 0 ∧
      createRequest (sampleInit 5 6) (sampleRing 0x1000) (sampleRing 0x5000) (sampleRing 0x6000)
          emptyHeap =
        createRequest (sampleInit 8 9) (sampleRing 0x1000) (sampleRing 0x5000) (sampleRing 0x6000)
          emptyHeap ∧
      ¬QpContextDecodes (createRequest (sampleInit 5 6) (sampleRing 0x1000) (sampleRing 0x5000)
          (sampleRing 0x6000) emptyHeap) ⟨0, 0, 3, 0, 0⟩ ⟨0, 0, 0, 0, 0, 5⟩ ⟨0, 0, 0, 0, 0, 6⟩
        (sampleRing 0x1000) (sampleRing 0x5000) (sampleRing 0x6000) := by
  refine ⟨by decide, rfl, ?_⟩
  intro decodes
  exact absurd decodes.logRqSize (by decide)

/-- The call `mlx5_ib_modify_qp_full` sends, none when it refuses the state. -/
def modifyRequest (mqp : Mlx5IbQp) : Option CmdCall := (targetState mqp.state).map modifyQpCall

theorem modify_qp_full_sends (act : DeviceAct) (mqp : Mlx5IbQp) (queue : CmdQueue) :
    (mlx5IbModifyQpFull act mqp queue).queue =
      ((modifyRequest mqp).map fun call => (mlx5CmdExec act call queue).2).getD queue := by
  rw [mlx5IbModifyQpFull, modifyRequest]
  cases targetState mqp.state with
  | none => rfl
  | some target =>
      dsimp only [Option.map_some, Option.getD_some]
      split_ifs <;> rfl

/-- The only request that carries the number of the QP. -/
theorem destroy_qp_full_sends (act : DeviceAct) (mqp : Mlx5IbQp) (queue : CmdQueue) (heap : Heap) :
    (mlx5IbDestroyQpFull act mqp queue heap).queue =
      (mlx5CmdExec act (destroyQpCall mqp) queue).2 := rfl

def modifiedQp (mqp : Mlx5IbQp) : Mlx5IbQp :=
  match targetState mqp.state with
  | none => mqp
  | some target => trackState target mqp

theorem modify_qp_full_success {act : DeviceAct} {mqp : Mlx5IbQp} {queue : CmdQueue}
    (succeeded : (mlx5IbModifyQpFull act mqp queue).ret = 0) :
    (mlx5IbModifyQpFull act mqp queue).qp = modifiedQp mqp := by
  unfold mlx5IbModifyQpFull modifiedQp at *
  cases target : targetState mqp.state with
  | none => simp [target] at succeeded
  | some code =>
      simp only [target] at succeeded ⊢
      split_ifs at succeeded ⊢
      · simp at succeeded
      · rfl

/-- `MLX5_QPC_QST_*` of a driver state. -/
def stateCode : IbQpState → Option (BitVec 4)
  | .reset => some 0
  | .init => some 1
  | .rtr => some 2
  | .rts => some 3
  | .sqe => some 4
  | .sqd => some 5
  | .err => some 6
  | .unknown => none

def firstByte (call : CmdCall) : Byte := call.inData.getD zeroBytes 0

/-- The request determines the transition: its QP, the state before and the state after. -/
structure NamesTransition (mqp : Mlx5IbQp) : Prop where
  number : ∀ other : Mlx5IbQp, other.qpn ≠ mqp.qpn → modifyRequest other ≠ modifyRequest mqp
  current : (modifyRequest mqp).map (fun call => (firstByte call).extractLsb' 4 4) =
    stateCode mqp.state
  next : (modifyRequest mqp).map (fun call => (firstByte call).extractLsb' 0 4) =
    stateCode (modifiedQp mqp).state

/-- A device, as any function of the request, moves one QP and leaves the other alone. -/
def Follows (applyRequest : Option CmdCall → (BitVec 32 → IbQpState) → BitVec 32 → IbQpState)
    (device : BitVec 32 → IbQpState) (moved kept : Mlx5IbQp) : Prop :=
  applyRequest (modifyRequest moved) device moved.qpn = (modifiedQp moved).state ∧
    applyRequest (modifyRequest moved) device kept.qpn = kept.state

theorem modify_request_state {left right : Mlx5IbQp} (same : left.state = right.state) :
    modifyRequest left = modifyRequest right := by
  rw [modifyRequest, modifyRequest, same]

theorem modified_qp_moves {mqp : Mlx5IbQp} (movable : (targetState mqp.state).isSome = true) :
    (modifiedQp mqp).state ≠ mqp.state := by
  cases state : mqp.state <;> simp [targetState, state] at movable <;>
    simp [modifiedQp, state, targetState, trackState, setState, mlx5QpcQstInit, mlx5QpcQstRtr,
      mlx5QpcQstRts]

/-- The high nibble repeats the target state. -/
theorem modify_request_current {mqp : Mlx5IbQp} (movable : (targetState mqp.state).isSome = true) :
    (modifyRequest mqp).map (fun call => (firstByte call).extractLsb' 4 4) ≠ stateCode mqp.state := by
  rw [modifyRequest]
  cases state : mqp.state <;> simp only [targetState, state] at movable ⊢ <;>
    first | decide | cases movable

/-- For every QP the driver can modify. -/
theorem modify_request_never_names_transition (mqp : Mlx5IbQp)
    (movable : (targetState mqp.state).isSome = true) :
    ¬NamesTransition mqp ∧
      (modifyRequest mqp).map (fun call => (firstByte call).extractLsb' 4 4) ≠ stateCode mqp.state ∧
      ∀ other : Mlx5IbQp, other.qpn ≠ mqp.qpn → other.state = mqp.state →
        modifyRequest other = modifyRequest mqp ∧
          ∀ applyRequest device, ¬(Follows applyRequest device mqp other ∧
            Follows applyRequest device other mqp) := by
  have wrongCurrent := modify_request_current movable
  refine ⟨fun names => wrongCurrent names.current, wrongCurrent, ?_⟩
  intro other _ sameState
  have sameRequest := modify_request_state sameState
  refine ⟨sameRequest, ?_⟩
  intro applyRequest device follows
  rcases follows with ⟨⟨moved, _⟩, ⟨_, kept⟩⟩
  rw [sameRequest, moved] at kept
  exact modified_qp_moves movable kept

def initQp : Mlx5IbQp := { zeroQp with qpn := 5, state := .init }

theorem init_qp_unnamed : (targetState initQp.state).isSome = true ∧ ¬NamesTransition initQp :=
  ⟨rfl, (modify_request_never_names_transition initQp rfl).1⟩

/-- QPs 5 and 6 in RESET: one request, whose high nibble says INIT. -/
theorem sample_modify_request_ambiguous :
    modifyRequest { zeroQp with qpn := 5 } = modifyRequest { zeroQp with qpn := 6 } ∧
      (modifyRequest { zeroQp with qpn := 5 }).map (fun call => (firstByte call).extractLsb' 4 4) =
        some 1 ∧
      stateCode zeroQp.state = some 0 ∧ ¬NamesTransition { zeroQp with qpn := 5 } := by
  refine ⟨rfl, by decide, rfl, ?_⟩
  intro names
  exact names.number { zeroQp with qpn := 6 } (by decide) rfl

end Verbifrost.Mlx5QpRequests
