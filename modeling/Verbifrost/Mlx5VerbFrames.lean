import Verbifrost.Mlx5QpStates

/-!
# What a verb leaves alone

The objects of the RDMA core are in the caller's hands. A command that fails
keeps the bytes behind `out_data`, and a verb whose command or allocation fails
keeps the object it was given. Creation of a QP is the exception: the object of
the core is the first member of the provider's structure, and the `memset` that
clears the one clears the other.
-/

namespace Verbifrost.Mlx5VerbFrames

open Verbifrost.ByteMemory Verbifrost.Mlx5Registers Verbifrost.ReferenceHeap
open Verbifrost.IbVerbs Verbifrost.Mlx5CmdExec Verbifrost.Mlx5Verbs Verbifrost.Mlx5QueuePair
open Verbifrost.Mlx5QpRequests Verbifrost.Mlx5QpStates

set_option autoImplicit false

/-- The pieces carry the call they were entered with, and a failing one returns its buffer. -/
def KeepsOutData (call : CmdCall) (_ : Nat) (phase : Phase) (_ : CmdQueue) : Prop :=
  match phase with
  | .entered entered => entered = call
  | .picked sub => sub.call = call
  | .filled sub => sub.call = call
  | .polling sub _ => sub.call = call
  | .sawOwner sub => sub.call = call
  | .polled sub _ => sub.call = call
  | .delivered sub => sub.call = call
  | .accepted sub _ => sub.call = call
  | .returned _ result => result.ret ≠ .success → result.outData = call.outData

theorem call_step_keeps_out_data (act : DeviceAct) (call : CmdCall) (tick : Nat) (phase : Phase)
    (queue : CmdQueue) (_ : 0 < piecesLeft phase) (keeps : KeepsOutData call tick phase queue) :
    KeepsOutData call (tick + 1) (callStep phase { queue with mem := act tick queue.mem }).1
      (callStep phase { queue with mem := act tick queue.mem }).2 := by
  cases phase with
  | polling sub remaining =>
      cases remaining with
      | zero => exact keeps
      | succ remaining =>
          simp only [callStep]
          split_ifs
          · exact keeps
          · exact keeps
  | polled sub deliveryStatus =>
      simp only [callStep]
      split_ifs
      · intro _
        exact congrArg CmdCall.outData keeps
      · intro _
        exact congrArg CmdCall.outData keeps
      · exact keeps
  | delivered sub =>
      simp only [callStep]
      split_ifs
      · intro _
        exact congrArg CmdCall.outData keeps
      · exact keeps
  | accepted sub fwStatus =>
      intro failed
      exact absurd rfl failed
  | _ => exact keeps

theorem exec_failed_out_data (act : DeviceAct) (call : CmdCall) (queue : CmdQueue)
    (failed : (mlx5CmdExec act call queue).1.ret ≠ .success) :
    (mlx5CmdExec act call queue).1.outData = call.outData := by
  have start : KeepsOutData call 0 (.entered call) queue := rfl
  rcases drive_invariant (call_step_keeps_out_data act call) execFuel start with ⟨_, _, _, keeps⟩
  rcases exec_returns act call queue with ⟨sub, result, final, returned⟩
  rw [final] at keeps
  rw [returned] at failed ⊢
  exact keeps failed

theorem alloc_pd_refused (act : DeviceAct) (pd : IbPd) (queue : CmdQueue)
    (failed : (mlx5IbAllocPd act pd queue).ret ≠ 0) : (mlx5IbAllocPd act pd queue).pd = pd := by
  simp only [mlx5IbAllocPd] at failed ⊢
  split_ifs at failed ⊢
  · rfl
  · exact absurd rfl failed

theorem create_cq_refused (act : DeviceAct) (buffer : Option DmaBuffer) (cq : IbCq)
    (queue : CmdQueue) (heap : Heap)
    (failed : (mlx5IbCreateCq act buffer cq queue heap).ret ≠ 0) :
    (mlx5IbCreateCq act buffer cq queue heap).cq = cq ∧
      ReleasedFresh heap (mlx5IbCreateCq act buffer cq queue heap).heap := by
  cases buffer with
  | none => exact ⟨rfl, released_fresh_refl heap⟩
  | some ring =>
      have once : ReleasedFresh heap (release heap.next (acquire heap).2) :=
        released_fresh_range 1 rfl rfl
      simp only [mlx5IbCreateCq] at failed ⊢
      split_ifs at failed ⊢
      · exact ⟨rfl, once⟩
      · exact absurd rfl failed

/-- For one device and one state of the queue and the heap. -/
structure FailuresLeaveIntact (act : DeviceAct) (queue : CmdQueue) (heap : Heap) : Prop where
  cmdExec : ∀ call, (mlx5CmdExec act call queue).1.ret ≠ .success →
    (mlx5CmdExec act call queue).1.outData = call.outData
  allocPd : ∀ pd, (mlx5IbAllocPd act pd queue).ret ≠ 0 → (mlx5IbAllocPd act pd queue).pd = pd
  createCq : ∀ buffer cq, (mlx5IbCreateCq act buffer cq queue heap).ret ≠ 0 →
    (mlx5IbCreateCq act buffer cq queue heap).cq = cq ∧
      ReleasedFresh heap (mlx5IbCreateCq act buffer cq queue heap).heap
  modifyQp : ∀ mqp, (mlx5IbModifyQpFull act mqp queue).ret ≠ 0 →
    (mlx5IbModifyQpFull act mqp queue).qp = mqp

/-- Whatever the device does at every piece of the command. -/
theorem failures_leave_intact (act : DeviceAct) (queue : CmdQueue) (heap : Heap) :
    FailuresLeaveIntact act queue heap where
  cmdExec := fun call failed => exec_failed_out_data act call queue failed
  allocPd := fun pd failed => alloc_pd_refused act pd queue failed
  createCq := fun buffer cq failed => create_cq_refused act buffer cq queue heap failed
  modifyQp := fun mqp failed => modify_qp_refused act mqp queue failed

/-- The caller's fields of the `ib_qp` and the PD number, after one creation. -/
structure KeepsCallerFields (qp : Mlx5IbQp) (result : QpResult) : Prop where
  device : result.qp.ibqp.device = qp.ibqp.device
  pd : result.qp.ibqp.pd = qp.ibqp.pd
  sendCq : result.qp.ibqp.sendCq = qp.ibqp.sendCq
  recvCq : result.qp.ibqp.recvCq = qp.ibqp.recvCq
  uobject : result.qp.ibqp.uobject = qp.ibqp.uobject
  qpContext : result.qp.ibqp.qpContext = qp.ibqp.qpContext
  maxInlineData : result.qp.ibqp.maxInlineData = qp.ibqp.maxInlineData
  qpType : result.qp.ibqp.qpType = qp.ibqp.qpType
  number : result.ret = 0 → ∀ pd, qp.ibqp.pd = some pd → result.qp.pdn = pd.localDmaLkey

/-- Every field the caller may have set is zero; of the types of QP that is SMI. -/
structure CallerFieldsZero (ibqp : IbQp) : Prop where
  device : ibqp.device = 0
  pd : ibqp.pd = none
  sendCq : ibqp.sendCq = none
  recvCq : ibqp.recvCq = none
  uobject : ibqp.uobject = 0
  qpContext : ibqp.qpContext = 0
  maxInlineData : ibqp.maxInlineData = 0
  qpType : ibqp.qpType = .smi

/-- On every path, as only the number and the state are written after the `memset`. -/
theorem create_qp_wipes (act : DeviceAct) (buffers : QpBuffers) (init : IbQpInitAttr)
    (qp : Mlx5IbQp) (queue : CmdQueue) (heap : Heap) :
    ∃ qpNum, (mlx5IbCreateQpFull act buffers init qp queue heap).qp.ibqp =
      { zeroIbQp with qpNum := qpNum } := by
  rcases buffers with ⟨_ | sq, _ | rq, _ | db⟩
  all_goals first
    | exact ⟨0, rfl⟩
    | rw [create_qp_full_allocated]
  simp only [sendCreateQp]
  split_ifs
  · exact ⟨0, rfl⟩
  · exact ⟨_, rfl⟩

/-- For every object passed in and every outcome of the allocations and the command. -/
theorem keeps_caller_fields_iff (act : DeviceAct) (buffers : QpBuffers) (init : IbQpInitAttr)
    (qp : Mlx5IbQp) (queue : CmdQueue) (heap : Heap) :
    KeepsCallerFields qp (mlx5IbCreateQpFull act buffers init qp queue heap) ↔
      CallerFieldsZero qp.ibqp := by
  obtain ⟨qpNum, wiped⟩ := create_qp_wipes act buffers init qp queue heap
  constructor
  · intro keeps
    rcases keeps with ⟨device, pd, sendCq, recvCq, uobject, qpContext, maxInlineData, qpType, _⟩
    rw [wiped] at device pd sendCq recvCq uobject qpContext maxInlineData qpType
    exact ⟨device.symm, pd.symm, sendCq.symm, recvCq.symm, uobject.symm, qpContext.symm,
      maxInlineData.symm, qpType.symm⟩
  · intro zero
    constructor
    case number =>
      intro _ pd present
      rw [zero.pd] at present
      cases present
    all_goals rw [wiped]
    · exact zero.device.symm
    · exact zero.pd.symm
    · exact zero.sendCq.symm
    · exact zero.recvCq.symm
    · exact zero.uobject.symm
    · exact zero.qpContext.symm
    · exact zero.maxInlineData.symm
    · exact zero.qpType.symm

/-- A QP as the core hands it in, on the protection domain with number 7. -/
def coreQp : Mlx5IbQp :=
  { zeroQp with
    ibqp :=
      { zeroIbQp with
        device := 0x8000
        pd := some ⟨0x8000, 0, 7, 0, 0⟩
        qpType := .rc } }

def coreCreation : QpResult :=
  mlx5IbCreateQpFull (answerAt 0 0#8 zeroBytes)
    ⟨some (sampleRing 0x1000), some (sampleRing 0x5000), some (sampleRing 0x6000)⟩
    ⟨none, none, .rc⟩ coreQp blankQueue emptyHeap

/-- A successful creation loses the device, the protection domain and its number. -/
theorem creation_loses_pd :
    coreCreation.ret = 0 ∧ coreCreation.qp.ibqp.device = 0 ∧ coreCreation.qp.ibqp.pd = none ∧
      coreCreation.qp.pdn = 0 ∧ ¬KeepsCallerFields coreQp coreCreation := by
  refine ⟨rfl, rfl, rfl, rfl, ?_⟩
  intro keeps
  have number := keeps.number rfl _ rfl
  exact absurd number (by decide)

end Verbifrost.Mlx5VerbFrames
