import Verbifrost.GuardedRun
import Verbifrost.Mlx5DestroyRequests
import Verbifrost.Mlx5QpRequests
import Verbifrost.ObjectTable

/-!
# Runs of all eleven verbs

One store with any number of protection domains, completion queues, memory
regions and queue pairs, and the verbs as its steps, in any order and with any
behaviour of the device and the allocators. An object is live from the call
that created it to the call that destroyed it, both returning success; the
caller passes only live objects, creates under keys that are not live, and may
repeat a destroy that returned -1. Beside each object the store records the
number the driver extracted from the response that created it. The driver has
no field for a PD or CQ number: it borrows `local_dma_lkey` and `cqe`.
-/

namespace Verbifrost.Mlx5VerbRuns

open Verbifrost.ByteMemory Verbifrost.Mlx5Registers Verbifrost.ReferenceHeap Verbifrost.GuardedRun
open Verbifrost.ObjectTable
open Verbifrost.IbVerbs Verbifrost.Mlx5CmdExec Verbifrost.Mlx5Verbs Verbifrost.Mlx5MemoryRegion
open Verbifrost.Mlx5QueuePair Verbifrost.Mlx5DestroyRequests Verbifrost.Mlx5QpRequests

set_option autoImplicit false

structure LivePd where
  pd : IbPd
  number : BitVec 32

/-- `ring` is the descriptor of the CQ's buffer, which the driver does not keep. -/
structure LiveCq where
  cq : IbCq
  number : BitVec 32
  ring : Nat

/-- With the numbers of the CQs it was created on, `none` for `NULL`. -/
structure LiveQp where
  mqp : Mlx5IbQp
  number : BitVec 32
  sendNumber : Option (BitVec 32)
  recvNumber : Option (BitVec 32)

/-- Memory regions are found by the address that was returned for them. -/
structure Store where
  pds : Nat → Option LivePd
  cqs : Nat → Option LiveCq
  mrs : Nat → Option Mlx5IbMr
  qps : Nat → Option LiveQp
  queue : CmdQueue
  heap : Heap

def emptyStore (queue : CmdQueue) : Store where
  pds := fun _ => none
  cqs := fun _ => none
  mrs := fun _ => none
  qps := fun _ => none
  queue := queue
  heap := emptyHeap

def extracted (act : DeviceAct) (call : CmdCall) (queue : CmdQueue) : BitVec 32 :=
  loadBE ((mlx5CmdExec act call queue).1.outData.getD zeroBytes) 8 32

def cqNumber (act : DeviceAct) (buffer : Option DmaBuffer) (cq : IbCq) (queue : CmdQueue) :
    BitVec 32 :=
  match buffer with
  | none => 0
  | some ring => extracted act (createCqCall cq ring.physicalAddress) queue

def qpNumber (act : DeviceAct) (buffers : QpBuffers) (init : IbQpInitAttr) (queue : CmdQueue)
    (heap : Heap) : BitVec 32 :=
  match buffers with
  | ⟨some sq, some rq, some db⟩ =>
      extracted act (createQpCall (createQpInput (allocatedQp init sq rq db heap) defaultWqeCnt
        defaultWqeCnt mlx5RecvWqeShift)) queue
  | _ => 0

inductive VerbAction where
  | allocPd (act : DeviceAct) (key : Nat) (pd : IbPd)
  | deallocPd (act : DeviceAct) (key : Nat)
  | createCq (act : DeviceAct) (buffer : Option DmaBuffer) (key : Nat) (cq : IbCq)
  | destroyCq (act : DeviceAct) (key : Nat)
  | regUserMr (act : DeviceAct) (buffer : Option DmaBuffer) (allocated : Bool) (pd : Option Nat)
      (args : RegArgs)
  | deregMr (act : DeviceAct) (address : Nat)
  | createQp (act : DeviceAct) (buffers : QpBuffers) (key : Nat) (qp : Mlx5IbQp)
      (sendCq recvCq : Option Nat) (qpType : IbQpType)
  | modifyQp (act : DeviceAct) (key : Nat)
  | postSend (key : Nat)
  | postRecv (key : Nat)
  | destroyQp (act : DeviceAct) (key : Nat)

def stepAllocPd (act : DeviceAct) (key : Nat) (pd : IbPd) (store : Store) : Option Store :=
  match store.pds key with
  | some _ => none
  | none =>
      let result := mlx5IbAllocPd act pd store.queue
      some
        { store with
          pds := enterOn result.ret store.pds key
            ⟨result.pd, extracted act allocPdCall store.queue⟩
          queue := result.queue }

def stepDeallocPd (act : DeviceAct) (key : Nat) (store : Store) : Option Store :=
  match store.pds key with
  | none => none
  | some live =>
      let result := mlx5IbDeallocPd act live.pd store.queue
      some
        { store with
          pds := leaveOn result.ret (Function.update store.pds key (some ⟨result.pd, live.number⟩)) key
          queue := result.queue }

def stepCreateCq (act : DeviceAct) (buffer : Option DmaBuffer) (key : Nat) (cq : IbCq)
    (store : Store) : Option Store :=
  match store.cqs key with
  | some _ => none
  | none =>
      let result := mlx5IbCreateCq act buffer cq store.queue store.heap
      some
        { store with
          cqs := enterOn result.ret store.cqs key
            ⟨result.cq, cqNumber act buffer cq store.queue, store.heap.next⟩
          queue := result.queue
          heap := result.heap }

def stepDestroyCq (act : DeviceAct) (key : Nat) (store : Store) : Option Store :=
  match store.cqs key with
  | none => none
  | some live =>
      let (ret, queue) := mlx5IbDestroyCq act live.cq store.queue
      some { store with cqs := leaveOn ret store.cqs key, queue := queue }

/-- A null PD that everything else lets through is dereferenced, which ends the run. -/
def stepRegUserMr (act : DeviceAct) (buffer : Option DmaBuffer) (allocated : Bool)
    (pd : Option Nat) (args : RegArgs) (store : Store) : Option Store :=
  match resolve store.pds pd with
  | none => none
  | some pd =>
      let result := mlx5IbRegUserMrFull act buffer allocated { args with pd := pd.map LivePd.pd }
        store.queue store.heap
      match result.result with
      | .nullDereference => none
      | .null => some { store with queue := result.queue, heap := result.heap }
      | .region address mr =>
          some
            { store with
              mrs := Function.update store.mrs address (some mr)
              queue := result.queue
              heap := result.heap }

def stepDeregMr (act : DeviceAct) (address : Nat) (store : Store) : Option Store :=
  match store.mrs address with
  | none => none
  | some mr =>
      let (ret, queue) := mlx5IbDeregMr act mr.ibmr store.queue
      some { store with mrs := leaveOn ret store.mrs address, queue := queue }

def stepCreateQp (act : DeviceAct) (buffers : QpBuffers) (key : Nat) (qp : Mlx5IbQp)
    (sendCq recvCq : Option Nat) (qpType : IbQpType) (store : Store) : Option Store :=
  match store.qps key, resolve store.cqs sendCq, resolve store.cqs recvCq with
  | none, some sendCq, some recvCq =>
      let init := ⟨sendCq.map LiveCq.cq, recvCq.map LiveCq.cq, qpType⟩
      let result := mlx5IbCreateQpFull act buffers init qp store.queue store.heap
      some
        { store with
          qps := enterOn result.ret store.qps key
            { mqp := result.qp
              number := qpNumber act buffers init store.queue store.heap
              sendNumber := sendCq.map LiveCq.number
              recvNumber := recvCq.map LiveCq.number }
          queue := result.queue
          heap := result.heap }
  | _, _, _ => none

def stepModifyQp (act : DeviceAct) (key : Nat) (store : Store) : Option Store :=
  match store.qps key with
  | none => none
  | some live =>
      let result := mlx5IbModifyQpFull act live.mqp store.queue
      some
        { store with
          qps := Function.update store.qps key (some { live with mqp := result.qp })
          queue := result.queue }

def stepPost (post : Mlx5IbQp → Int × Mlx5IbQp) (key : Nat) (store : Store) : Option Store :=
  match store.qps key with
  | none => none
  | some live =>
      let (_, mqp) := post live.mqp
      some { store with qps := Function.update store.qps key (some { live with mqp := mqp }) }

def stepDestroyQp (act : DeviceAct) (key : Nat) (store : Store) : Option Store :=
  match store.qps key with
  | none => none
  | some live =>
      let result := mlx5IbDestroyQpFull act live.mqp store.queue store.heap
      some
        { store with
          qps := leaveOn result.ret
            (Function.update store.qps key (some { live with mqp := result.qp })) key
          queue := result.queue
          heap := result.heap }

def step (store : Store) : VerbAction → Option Store
  | .allocPd act key pd => stepAllocPd act key pd store
  | .deallocPd act key => stepDeallocPd act key store
  | .createCq act buffer key cq => stepCreateCq act buffer key cq store
  | .destroyCq act key => stepDestroyCq act key store
  | .regUserMr act buffer allocated pd args => stepRegUserMr act buffer allocated pd args store
  | .deregMr act address => stepDeregMr act address store
  | .createQp act buffers key qp sendCq recvCq qpType =>
      stepCreateQp act buffers key qp sendCq recvCq qpType store
  | .modifyQp act key => stepModifyQp act key store
  | .postSend key => stepPost mlx5IbPostSendFull key store
  | .postRecv key => stepPost mlx5IbPostRecvFull key store
  | .destroyQp act key => stepDestroyQp act key store

/-- The actions on a store, before a device is chosen for them. -/
inductive Verb where
  | allocPd (key : Nat) (pd : IbPd)
  | deallocPd (key : Nat)
  | createCq (buffer : Option DmaBuffer) (key : Nat) (cq : IbCq)
  | destroyCq (key : Nat)
  | regUserMr (buffer : Option DmaBuffer) (allocated : Bool) (pd : Option Nat) (args : RegArgs)
  | deregMr (address : Nat)
  | createQp (buffers : QpBuffers) (key : Nat) (qp : Mlx5IbQp) (sendCq recvCq : Option Nat)
      (qpType : IbQpType)
  | modifyQp (key : Nat)
  | postSend (key : Nat)
  | postRecv (key : Nat)
  | destroyQp (key : Nat)

def Verb.on (act : DeviceAct) : Verb → VerbAction
  | .allocPd key pd => .allocPd act key pd
  | .deallocPd key => .deallocPd act key
  | .createCq buffer key cq => .createCq act buffer key cq
  | .destroyCq key => .destroyCq act key
  | .regUserMr buffer allocated pd args => .regUserMr act buffer allocated pd args
  | .deregMr address => .deregMr act address
  | .createQp buffers key qp sendCq recvCq qpType =>
      .createQp act buffers key qp sendCq recvCq qpType
  | .modifyQp key => .modifyQp act key
  | .postSend key => .postSend key
  | .postRecv key => .postRecv key
  | .destroyQp key => .destroyQp act key

def Verb.command (store : Store) : Verb → Option CmdCall
  | .allocPd _ _ => some allocPdCall
  | .deallocPd key => (store.pds key).map fun live => deallocPdCall live.pd
  | .createCq buffer _ cq => buffer.map fun ring => createCqCall cq ring.physicalAddress
  | .destroyCq key => (store.cqs key).map fun live => destroyCqCall live.cq
  | .regUserMr buffer _ pd args =>
      (resolve store.pds pd).bind fun pd =>
        buffer.map fun list => createMkeyCall { args with pd := pd.map LivePd.pd } list.physicalAddress
  | .deregMr address => (store.mrs address).map fun mr => deregMrCall mr.ibmr
  | .createQp ⟨some sq, some rq, some db⟩ _ _ sendCq recvCq qpType =>
      (resolve store.cqs sendCq).bind fun sendCq =>
        (resolve store.cqs recvCq).map fun recvCq =>
          createQpCall (createQpInput
            (allocatedQp ⟨sendCq.map LiveCq.cq, recvCq.map LiveCq.cq, qpType⟩ sq rq db store.heap)
            defaultWqeCnt defaultWqeCnt mlx5RecvWqeShift)
  | .createQp _ _ _ _ _ _ => none
  | .modifyQp key =>
      (store.qps key).bind fun live => (targetState live.mqp.state).map modifyQpCall
  | .postSend _ => none
  | .postRecv _ => none
  | .destroyQp key => (store.qps key).map fun live => destroyQpCall live.mqp

theorem verb_queue {act : DeviceAct} {store next : Store} {verb : Verb}
    (stepped : step store (verb.on act) = some next) :
    next.queue =
      ((verb.command store).map fun call => (mlx5CmdExec act call store.queue).2).getD
        store.queue := by
  cases verb with
  | allocPd key pd =>
      simp only [Verb.on, step, stepAllocPd] at stepped
      split at stepped <;> cases stepped
      exact alloc_pd_sends act pd store.queue
  | deallocPd key =>
      simp only [Verb.on, step, stepDeallocPd] at stepped
      split at stepped
      · cases stepped
      · rename_i live found
        cases stepped
        rw [Verb.command, found]
        exact dealloc_pd_sends act live.pd store.queue
  | createCq buffer key cq =>
      simp only [Verb.on, step, stepCreateCq] at stepped
      split at stepped <;> cases stepped
      cases buffer with
      | none => rfl
      | some ring => exact create_cq_sends act ring cq store.queue store.heap
  | destroyCq key =>
      simp only [Verb.on, step, stepDestroyCq] at stepped
      split at stepped
      · cases stepped
      · rename_i live found
        cases stepped
        rw [Verb.command, found]
        exact destroy_cq_sends act live.cq store.queue
  | regUserMr buffer allocated pd args =>
      simp only [Verb.on, step, stepRegUserMr] at stepped
      split at stepped
      · cases stepped
      · rename_i live resolved
        have queue := reg_user_mr_full_sends act buffer allocated
          { args with pd := live.map LivePd.pd } store.queue store.heap
        simp only [Verb.command, resolved, Option.bind_some]
        rw [← queue]
        split at stepped <;> cases stepped <;> rfl
  | deregMr address =>
      simp only [Verb.on, step, stepDeregMr] at stepped
      split at stepped
      · cases stepped
      · rename_i mr found
        cases stepped
        rw [Verb.command, found]
        exact dereg_mr_sends act mr.ibmr store.queue
  | createQp buffers key qp sendCq recvCq qpType =>
      simp only [Verb.on, step, stepCreateQp] at stepped
      split at stepped
      · rename_i send recv _ sendResolved recvResolved
        cases stepped
        rcases buffers with ⟨_ | sq, _ | rq, _ | db⟩
        case some.some.some =>
          simp only [Verb.command, sendResolved, recvResolved, Option.bind_some, Option.map_some,
            Option.getD_some, create_qp_full_sends, createRequest]
        all_goals rfl
      · cases stepped
  | modifyQp key =>
      simp only [Verb.on, step, stepModifyQp] at stepped
      split at stepped
      · cases stepped
      · rename_i live found
        cases stepped
        rw [Verb.command, found]
        exact modify_qp_full_sends act live.mqp store.queue
  | postSend key =>
      simp only [Verb.on, step, stepPost] at stepped
      split at stepped <;> cases stepped
      rfl
  | postRecv key =>
      simp only [Verb.on, step, stepPost] at stepped
      split at stepped <;> cases stepped
      rfl
  | destroyQp key =>
      simp only [Verb.on, step, stepDestroyQp] at stepped
      split at stepped
      · cases stepped
      · rename_i live found
        cases stepped
        rw [Verb.command, found]
        exact destroy_qp_full_sends act live.mqp store.queue store.heap

def PdTracked (live : LivePd) : Prop := live.pd.localDmaLkey = live.number

def CqTracked (live : LiveCq) : Prop := live.cq.cqe = live.number

structure QpTracked (live : LiveQp) : Prop where
  qpn : live.mqp.qpn = live.number
  sendCqn : ∀ number, live.sendNumber = some number → live.mqp.sendCqn = number
  recvCqn : ∀ number, live.recvNumber = some number → live.mqp.recvCqn = number

structure Tracked (store : Store) : Prop where
  pds : Holds PdTracked store.pds
  cqs : Holds CqTracked store.cqs
  qps : Holds QpTracked store.qps

theorem alloc_pd_number (act : DeviceAct) (pd : IbPd) (queue : CmdQueue)
    (returned : (mlx5IbAllocPd act pd queue).ret = 0) :
    (mlx5IbAllocPd act pd queue).pd.localDmaLkey = extracted act allocPdCall queue := by
  simp only [mlx5IbAllocPd] at returned ⊢
  split_ifs at returned ⊢
  · cases returned
  · rfl

theorem dealloc_pd_same (act : DeviceAct) (pd : IbPd) (queue : CmdQueue) :
    (mlx5IbDeallocPd act pd queue).pd = pd := by
  simp only [mlx5IbDeallocPd]
  split_ifs <;> rfl

theorem create_cq_number (act : DeviceAct) (buffer : Option DmaBuffer) (cq : IbCq)
    (queue : CmdQueue) (heap : Heap) (returned : (mlx5IbCreateCq act buffer cq queue heap).ret = 0) :
    (mlx5IbCreateCq act buffer cq queue heap).cq.cqe = cqNumber act buffer cq queue := by
  cases buffer with
  | none => cases returned
  | some ring =>
      simp only [mlx5IbCreateCq] at returned ⊢
      split_ifs at returned ⊢
      · cases returned
      · rfl

/-- The numbers of a created QP: its own from the response, those of the CQs
from the objects that were passed. -/
theorem create_qp_numbers (act : DeviceAct) (buffers : QpBuffers) (init : IbQpInitAttr)
    (qp : Mlx5IbQp) (queue : CmdQueue) (heap : Heap)
    (returned : (mlx5IbCreateQpFull act buffers init qp queue heap).ret = 0) :
    (mlx5IbCreateQpFull act buffers init qp queue heap).qp.qpn =
        qpNumber act buffers init queue heap ∧
      (∀ cq, init.sendCq = some cq →
        (mlx5IbCreateQpFull act buffers init qp queue heap).qp.sendCqn = cq.cqe) ∧
      (∀ cq, init.recvCq = some cq →
        (mlx5IbCreateQpFull act buffers init qp queue heap).qp.recvCqn = cq.cqe) := by
  rcases create_qp_full_succeeded returned with ⟨sq, rq, db, rfl, same⟩
  rw [same]
  refine ⟨rfl, ?_, ?_⟩
  · intro cq passed
    simp only [numberedQp, allocatedQp, recordNumbers, passed]
  · intro cq passed
    simp only [numberedQp, allocatedQp, recordNumbers, passed]

def SameNumbers (before after : Mlx5IbQp) : Prop :=
  after.qpn = before.qpn ∧ after.sendCqn = before.sendCqn ∧ after.recvCqn = before.recvCqn

theorem track_state_numbers (target : BitVec 32) (mqp : Mlx5IbQp) :
    SameNumbers mqp (trackState target mqp) := by
  unfold trackState
  split_ifs <;> exact ⟨rfl, rfl, rfl⟩

theorem modify_qp_numbers (act : DeviceAct) (mqp : Mlx5IbQp) (queue : CmdQueue) :
    SameNumbers mqp (mlx5IbModifyQpFull act mqp queue).qp := by
  unfold mlx5IbModifyQpFull
  cases targetState mqp.state with
  | none => exact ⟨rfl, rfl, rfl⟩
  | some target =>
      dsimp only
      split_ifs
      · exact ⟨rfl, rfl, rfl⟩
      · exact track_state_numbers target mqp

theorem post_send_numbers (mqp : Mlx5IbQp) : SameNumbers mqp (mlx5IbPostSendFull mqp).2 :=
  ⟨rfl, rfl, rfl⟩

theorem post_recv_numbers (mqp : Mlx5IbQp) : SameNumbers mqp (mlx5IbPostRecvFull mqp).2 :=
  ⟨rfl, rfl, rfl⟩

theorem qp_tracked_of_same {live : LiveQp} {mqp : Mlx5IbQp} (tracked : QpTracked live)
    (same : SameNumbers live.mqp mqp) : QpTracked { live with mqp := mqp } where
  qpn := same.1.trans tracked.qpn
  sendCqn := by
    intro number known
    exact same.2.1.trans (tracked.sendCqn number known)
  recvCqn := by
    intro number known
    exact same.2.2.trans (tracked.recvCqn number known)

section Steps

variable {store next : Store} (tracked : Tracked store)

include tracked

theorem step_alloc_pd_tracked {act : DeviceAct} {key : Nat} {pd : IbPd}
    (stepped : stepAllocPd act key pd store = some next) : Tracked next := by
  cases found : store.pds key with
  | some live => simp [stepAllocPd, found] at stepped
  | none =>
      simp only [stepAllocPd, found] at stepped
      cases stepped
      exact { tracked with pds := holds_enter_on tracked.pds key (alloc_pd_number act pd store.queue) }

theorem step_dealloc_pd_tracked {act : DeviceAct} {key : Nat}
    (stepped : stepDeallocPd act key store = some next) : Tracked next := by
  cases found : store.pds key with
  | none => simp [stepDeallocPd, found] at stepped
  | some live =>
      simp only [stepDeallocPd, found, dealloc_pd_same] at stepped
      cases stepped
      have kept := holds_insert tracked.pds key (tracked.pds key live found)
      exact { tracked with pds := holds_leave_on kept _ key }

theorem step_create_cq_tracked {act : DeviceAct} {buffer : Option DmaBuffer} {key : Nat} {cq : IbCq}
    (stepped : stepCreateCq act buffer key cq store = some next) : Tracked next := by
  cases found : store.cqs key with
  | some live => simp [stepCreateCq, found] at stepped
  | none =>
      simp only [stepCreateCq, found] at stepped
      cases stepped
      exact { tracked with
        cqs := holds_enter_on tracked.cqs key (create_cq_number act buffer cq store.queue store.heap) }

theorem step_destroy_cq_tracked {act : DeviceAct} {key : Nat}
    (stepped : stepDestroyCq act key store = some next) : Tracked next := by
  cases found : store.cqs key with
  | none => simp [stepDestroyCq, found] at stepped
  | some live =>
      simp only [stepDestroyCq, found] at stepped
      cases stepped
      exact { tracked with cqs := holds_leave_on tracked.cqs _ key }

theorem step_reg_user_mr_tracked {act : DeviceAct} {buffer : Option DmaBuffer} {allocated : Bool}
    {pd : Option Nat} {args : RegArgs}
    (stepped : stepRegUserMr act buffer allocated pd args store = some next) : Tracked next := by
  unfold stepRegUserMr at stepped
  split at stepped
  · cases stepped
  · dsimp only at stepped
    split at stepped
    · cases stepped
    · cases stepped
      exact { tracked with }
    · cases stepped
      exact { tracked with }

theorem step_dereg_mr_tracked {act : DeviceAct} {address : Nat}
    (stepped : stepDeregMr act address store = some next) : Tracked next := by
  cases found : store.mrs address with
  | none => simp [stepDeregMr, found] at stepped
  | some mr =>
      simp only [stepDeregMr, found] at stepped
      cases stepped
      exact { tracked with }

/-- The number recorded for a CQ argument is the one in the object that was passed. -/
theorem resolved_cq_number {argument : Option Nat} {cq : Option LiveCq} {number : BitVec 32}
    (resolved : resolve store.cqs argument = some cq) (known : cq.map LiveCq.number = some number) :
    ∃ live, cq = some live ∧ live.cq.cqe = number := by
  rcases Option.map_eq_some_iff.mp known with ⟨live, rfl, same⟩
  have borrowed := holds_resolve tracked.cqs resolved
  exact ⟨live, rfl, borrowed.trans same⟩

theorem step_create_qp_tracked {act : DeviceAct} {buffers : QpBuffers} {key : Nat} {qp : Mlx5IbQp}
    {sendCq recvCq : Option Nat} {qpType : IbQpType}
    (stepped : stepCreateQp act buffers key qp sendCq recvCq qpType store = some next) :
    Tracked next := by
  unfold stepCreateQp at stepped
  split at stepped
  · rename_i send recv _ sendResolved recvResolved
    cases stepped
    refine { tracked with qps := holds_enter_on tracked.qps key ?_ }
    intro returned
    obtain ⟨own, fromSend, fromRecv⟩ := create_qp_numbers act buffers _ qp store.queue store.heap
      returned
    refine ⟨own, ?_, ?_⟩
    · intro number known
      rcases resolved_cq_number tracked sendResolved known with ⟨live, rfl, borrowed⟩
      exact (fromSend live.cq rfl).trans borrowed
    · intro number known
      rcases resolved_cq_number tracked recvResolved known with ⟨live, rfl, borrowed⟩
      exact (fromRecv live.cq rfl).trans borrowed
  · cases stepped

theorem step_modify_qp_tracked {act : DeviceAct} {key : Nat}
    (stepped : stepModifyQp act key store = some next) : Tracked next := by
  cases found : store.qps key with
  | none => simp [stepModifyQp, found] at stepped
  | some live =>
      simp only [stepModifyQp, found] at stepped
      cases stepped
      have kept := qp_tracked_of_same (tracked.qps key live found)
        (modify_qp_numbers act live.mqp store.queue)
      exact { tracked with qps := holds_insert tracked.qps key kept }

theorem step_post_tracked {post : Mlx5IbQp → Int × Mlx5IbQp} {key : Nat}
    (same : ∀ mqp, SameNumbers mqp (post mqp).2)
    (stepped : stepPost post key store = some next) : Tracked next := by
  cases found : store.qps key with
  | none => simp [stepPost, found] at stepped
  | some live =>
      simp only [stepPost, found] at stepped
      cases stepped
      have kept := qp_tracked_of_same (tracked.qps key live found) (same live.mqp)
      exact { tracked with qps := holds_insert tracked.qps key kept }

theorem step_destroy_qp_tracked {act : DeviceAct} {key : Nat}
    (stepped : stepDestroyQp act key store = some next) : Tracked next := by
  cases found : store.qps key with
  | none => simp [stepDestroyQp, found] at stepped
  | some live =>
      simp only [stepDestroyQp, found] at stepped
      cases stepped
      have kept : QpTracked { live with mqp := live.mqp } := tracked.qps key live found
      exact { tracked with qps := holds_leave_on (holds_insert tracked.qps key kept) _ key }

end Steps

theorem step_tracked (store : Store) (action : VerbAction) (next : Store) (tracked : Tracked store)
    (stepped : step store action = some next) : Tracked next := by
  cases action with
  | allocPd => exact step_alloc_pd_tracked tracked stepped
  | deallocPd => exact step_dealloc_pd_tracked tracked stepped
  | createCq => exact step_create_cq_tracked tracked stepped
  | destroyCq => exact step_destroy_cq_tracked tracked stepped
  | regUserMr => exact step_reg_user_mr_tracked tracked stepped
  | deregMr => exact step_dereg_mr_tracked tracked stepped
  | createQp => exact step_create_qp_tracked tracked stepped
  | modifyQp => exact step_modify_qp_tracked tracked stepped
  | postSend => exact step_post_tracked tracked post_send_numbers stepped
  | postRecv => exact step_post_tracked tracked post_recv_numbers stepped
  | destroyQp => exact step_destroy_qp_tracked tracked stepped

/-- PD 7 and CQ 9, and a QP that sends on CQ 9. -/
example :
    (run step (emptyStore blankQueue)
      [.allocPd (answerAt 0 0#8 (store zeroBytes 16 (byteSwap 7#32))) 0 samplePd,
        .createCq (answerAt 0 0#8 (store zeroBytes 16 (byteSwap 9#32))) (some sampleBuffer) 0
          ⟨0, 0, 0, 0, 0, 64⟩,
        .createQp (answerAt 0 0#8 zeroBytes) ⟨some sampleBuffer, some sampleBuffer, some sampleBuffer⟩
          0 zeroQp (some 0) none .rc]).map
      (fun final => ((final.pds 0).map LivePd.number, (final.qps 0).map fun live =>
        (live.sendNumber, live.mqp.sendCqn))) =
    some (some 7, some (some 9, 9)) := by
  rfl

end Verbifrost.Mlx5VerbRuns
