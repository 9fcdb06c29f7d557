import Verbifrost.Mlx5ObjectFirmware
import Verbifrost.NameDirectory

/-!
# The verbs in front of firmware that numbers objects

The driver has no directory; each of its objects has a field for a number. The
firmware has one and knows nothing of the objects. Through all runs of the
verbs, each command executed at any poll or not at all, the two mirror each
other, but for keys that `mlx5_ib_reg_user_mr_full` created and then had no
memory to describe.
-/

namespace Verbifrost.Mlx5ObjectRuns

open Verbifrost.ByteMemory Verbifrost.ReferenceHeap Verbifrost.GuardedRun Verbifrost.ObjectTable
open Verbifrost.NameDirectory Verbifrost.Mlx5Registers
open Verbifrost.IbVerbs Verbifrost.Mlx5CmdExec Verbifrost.Mlx5Firmware Verbifrost.Mlx5Verbs
open Verbifrost.Mlx5MemoryRegion Verbifrost.Mlx5QueuePair Verbifrost.Mlx5VerbRuns
open Verbifrost.Mlx5ObjectFirmware

set_option autoImplicit false

/-- `lost` are the keys that were created for an `mlx5_ib_mr` that could not be allocated. -/
structure System (State : Type) where
  store : Store
  state : State
  lost : List (BitVec 32)

def lostKeys (act : DeviceAct) (queue : CmdQueue) : Verb → Option CmdCall → List (BitVec 32)
  | .regUserMr _ false _ _, some call =>
      if (mlx5CmdExec act call queue).1.ret = .success then [extracted act call queue] else []
  | _, _ => []

/-- One verb, its command executed by the firmware at the given moment or not at all. -/
def step {State : Type} (firmware : Firmware State) (system : System State)
    (action : Moment × Verb) : Option (System State) :=
  let queue := system.store.queue
  let device := executeAt firmware queue.ctx.mboxDmaBase action.1
  let act := frozen device system.state
  let command := action.2.command system.store
  (Mlx5VerbRuns.step system.store (action.2.on act)).map fun store =>
    { store := store
      state := (command.map fun call => (execWith device call queue system.state).2).getD system.state
      lost := lostKeys act queue action.2 command ++ system.lost }

def newSystem {State : Type} (queue : CmdQueue) (state : State) : System State where
  store := emptyStore queue
  state := state
  lost := []

def numbers (store : Store) : Kind → Nat → Option (BitVec 32)
  | .pd => fun key => (store.pds key).map fun live => live.pd.localDmaLkey
  | .cq => fun key => (store.cqs key).map fun live => live.cq.cqe
  | .key => fun address => (store.mrs address).map fun mr => keyNumber mr.ibmr
  | .qp => fun key => (store.qps key).map fun live => live.mqp.qpn

abbrev Holder := Kind × Nat

def held (store : Store) (holder : Holder) : Option Name :=
  (numbers store holder.1 holder.2).map fun number => (holder.1, number)

def unheld (start : Set Name) (lost : List (BitVec 32)) : Set Name :=
  start ∪ {name | name.1 = .key ∧ name.2 ∈ lost}

section Tables

variable {store next : Store}

theorem held_updated {Object : Type} {kind : Kind} {key : Nat} (number : Object → BitVec 32)
    {table : Nat → Option Object} {entry : Option Object}
    (listed : numbers store kind = fun other => (table other).map number)
    (changed : numbers next kind = fun other => (Function.update table key entry other).map number)
    (others : ∀ other, other ≠ kind → numbers next other = numbers store other) :
    held next =
      Function.update (held store) (kind, key) (entry.map fun object => (kind, number object)) := by
  funext holder
  rcases holder with ⟨otherKind, other⟩
  by_cases sameKind : otherKind = kind
  · subst sameKind
    by_cases sameKey : other = key
    · subst sameKey
      simp only [held, changed, Function.update_self, Option.map_map, Function.comp_def]
    · have different : (otherKind, other) ≠ (otherKind, key) :=
        fun equal => sameKey (Prod.mk.inj equal).2
      rw [Function.update_of_ne different]
      simp only [held, changed, listed, Function.update_of_ne sameKey]
  · have different : (otherKind, other) ≠ (kind, key) :=
      fun equal => sameKind (Prod.mk.inj equal).1
    rw [Function.update_of_ne different]
    simp only [held, others otherKind sameKind]

variable (store) (queue : CmdQueue) (heap : Heap) (key : Nat)

theorem held_pds (entry : Option LivePd) :
    held { store with pds := Function.update store.pds key entry, queue := queue } =
      Function.update (held store) (.pd, key)
        (entry.map fun live => (.pd, live.pd.localDmaLkey)) := by
  apply held_updated (fun live : LivePd => live.pd.localDmaLkey) rfl rfl
  intro other different
  cases other <;> first | exact absurd rfl different | rfl

theorem held_cqs (entry : Option LiveCq) :
    held { store with cqs := Function.update store.cqs key entry, queue := queue, heap := heap } =
      Function.update (held store) (.cq, key) (entry.map fun live => (.cq, live.cq.cqe)) := by
  apply held_updated (fun live : LiveCq => live.cq.cqe) rfl rfl
  intro other different
  cases other <;> first | exact absurd rfl different | rfl

theorem held_mrs (entry : Option Mlx5IbMr) :
    held { store with mrs := Function.update store.mrs key entry, queue := queue, heap := heap } =
      Function.update (held store) (.key, key)
        (entry.map fun mr => (.key, keyNumber mr.ibmr)) := by
  apply held_updated (fun mr : Mlx5IbMr => keyNumber mr.ibmr) rfl rfl
  intro other different
  cases other <;> first | exact absurd rfl different | rfl

theorem held_qps (entry : Option LiveQp) :
    held { store with qps := Function.update store.qps key entry, queue := queue, heap := heap } =
      Function.update (held store) (.qp, key) (entry.map fun live => (.qp, live.mqp.qpn)) := by
  apply held_updated (fun live : LiveQp => live.mqp.qpn) rfl rfl
  intro other different
  cases other <;> first | exact absurd rfl different | rfl

theorem held_reentered {holder : Holder} {name : Name} (kept : held store holder = some name) :
    Function.update (held store) holder (some name) = held store := by
  rw [← kept, Function.update_eq_self]

end Tables

section Rules

variable {foreign before after : Set Name} {store : Store}
  (mirrors : Mirrors foreign before (held store))

include mirrors

theorem mirrors_created {request : Request} {succeeded : Prop} {number : BitVec 32} {kind : Kind}
    {key : Nat} {table : Holder → Option Name}
    (served : Served request succeeded number before after)
    (creating : creates request = some kind) (free : held store (kind, key) = none)
    (entered : succeeded → table = Function.update (held store) (kind, key) (some (kind, number)))
    (unchanged : ¬succeeded → table = held store) : Mirrors foreign after table := by
  by_cases success : succeeded
  · rcases served.created kind creating success with ⟨fresh, same⟩
    rw [entered success, same]
    exact mirrors_taken mirrors free fresh
  · rw [unchanged success, served.refused success]
    exact mirrors

theorem mirrors_destroyed {request : Request} {succeeded : Prop} {number : BitVec 32} {name : Name}
    {holder : Holder} {table : Holder → Option Name}
    (served : Served request succeeded number before after)
    (destroying : destroys request = some name) (kept : held store holder = some name)
    (left : succeeded → table = Function.update (held store) holder none)
    (unchanged : ¬succeeded → table = held store) : Mirrors foreign after table := by
  by_cases success : succeeded
  · rw [left success, served.destroyed name destroying success]
    exact mirrors_dropped mirrors kept
  · rw [unchanged success, served.refused success]
    exact mirrors

end Rules

/-- What the directory becomes by any command that has room for a number in its response. -/
def Serves (act : DeviceAct) (queue : CmdQueue) (before : Set Name) (after : CmdCall → Set Name) :
    Prop :=
  ∀ call data, call.outData = some data → 12 ≤ call.outLen.toNat →
    ServedCall act call queue before (after call)

def afterCommand (before : Set Name) (after : CmdCall → Set Name) (command : Option CmdCall) :
    Set Name :=
  (command.map after).getD before

theorem room_in_short : 12 ≤ (16#32).toNat := by decide

theorem room_in_long : 12 ≤ (64#32).toNat := by decide

section Verbs

variable {foreign before : Set Name} {after : CmdCall → Set Name} {act : DeviceAct}
  {store next : Store} (serves : Serves act store.queue before after)
  (mirrors : Mirrors foreign before (held store))

include serves mirrors

theorem alloc_pd_mirrors {key : Nat} {pd : IbPd}
    (stepped : stepAllocPd act key pd store = some next) :
    Mirrors foreign (after allocPdCall) (held next) := by
  cases found : store.pds key with
  | some live => simp [stepAllocPd, found] at stepped
  | none =>
      have free : held store (.pd, key) = none := by
        simp only [held, numbers, found, Option.map_none]
      simp only [stepAllocPd, found] at stepped
      cases stepped
      apply mirrors_created mirrors (serves allocPdCall _ rfl room_in_short) rfl free
      · intro success
        have returned : (mlx5IbAllocPd act pd store.queue).ret = 0 := by
          simp only [mlx5IbAllocPd, if_neg (not_not.mpr success)]
        rw [enter_on_zero returned, held_pds, Option.map_some, alloc_pd_number act pd _ returned]
      · intro failed
        have refused : (mlx5IbAllocPd act pd store.queue).ret ≠ 0 := by
          simp only [mlx5IbAllocPd, if_pos failed]
          decide
        rw [enter_on_nonzero refused]
        rfl

theorem dealloc_pd_mirrors {key : Nat} (stepped : stepDeallocPd act key store = some next) :
    Mirrors foreign (afterCommand before after ((Verb.deallocPd key).command store))
      (held next) := by
  cases found : store.pds key with
  | none => simp [stepDeallocPd, found] at stepped
  | some live =>
      have kept : held store (.pd, key) = some (.pd, live.pd.localDmaLkey) := by
        simp only [held, numbers, found, Option.map_some]
      simp only [stepDeallocPd, found, dealloc_pd_same] at stepped
      cases stepped
      rw [Verb.command, found]
      apply mirrors_destroyed mirrors (serves (deallocPdCall live.pd) _ rfl room_in_short)
        (dealloc_pd_destroys live.pd) kept
      · intro success
        have returned : (mlx5IbDeallocPd act live.pd store.queue).ret = 0 := by
          simp only [mlx5IbDeallocPd, if_neg (not_not.mpr success)]
        rw [leaveOn, if_pos returned, Function.update_idem, held_pds]
        rfl
      · intro failed
        have refused : (mlx5IbDeallocPd act live.pd store.queue).ret ≠ 0 := by
          simp only [mlx5IbDeallocPd, if_pos failed]
          decide
        rw [leaveOn, if_neg refused, held_pds, Option.map_some, held_reentered store kept]

theorem create_cq_mirrors {buffer : Option DmaBuffer} {key : Nat} {cq : IbCq}
    (stepped : stepCreateCq act buffer key cq store = some next) :
    Mirrors foreign (afterCommand before after ((Verb.createCq buffer key cq).command store))
      (held next) := by
  cases found : store.cqs key with
  | some live => simp [stepCreateCq, found] at stepped
  | none =>
      have free : held store (.cq, key) = none := by
        simp only [held, numbers, found, Option.map_none]
      simp only [stepCreateCq, found] at stepped
      cases stepped
      cases buffer with
      | none => exact mirrors
      | some ring =>
          apply mirrors_created mirrors
            (serves (createCqCall cq ring.physicalAddress) _ rfl room_in_short) rfl free
          · intro success
            have returned : (mlx5IbCreateCq act (some ring) cq store.queue store.heap).ret = 0 := by
              simp only [mlx5IbCreateCq, if_neg (not_not.mpr success)]
            rw [enter_on_zero returned, held_cqs, Option.map_some,
              create_cq_number act (some ring) cq _ _ returned]
            rfl
          · intro failed
            have refused : (mlx5IbCreateCq act (some ring) cq store.queue store.heap).ret ≠ 0 := by
              simp only [mlx5IbCreateCq, if_pos failed]
              decide
            rw [enter_on_nonzero refused]
            rfl

theorem destroy_cq_mirrors {key : Nat} (stepped : stepDestroyCq act key store = some next) :
    Mirrors foreign (afterCommand before after ((Verb.destroyCq key).command store))
      (held next) := by
  cases found : store.cqs key with
  | none => simp [stepDestroyCq, found] at stepped
  | some live =>
      have kept : held store (.cq, key) = some (.cq, live.cq.cqe) := by
        simp only [held, numbers, found, Option.map_some]
      simp only [stepDestroyCq, found, mlx5IbDestroyCq] at stepped
      cases stepped
      rw [Verb.command, found]
      apply mirrors_destroyed mirrors (serves (destroyCqCall live.cq) _ rfl room_in_short)
        (destroy_cq_destroys live.cq) kept
      · intro success
        rw [if_pos success, leaveOn, if_pos rfl]
        exact held_cqs store _ store.heap key none
      · intro failed
        rw [if_neg failed]
        rfl

theorem dereg_mr_mirrors {address : Nat} (stepped : stepDeregMr act address store = some next) :
    Mirrors foreign (afterCommand before after ((Verb.deregMr address).command store))
      (held next) := by
  cases found : store.mrs address with
  | none => simp [stepDeregMr, found] at stepped
  | some mr =>
      have kept : held store (.key, address) = some (.key, keyNumber mr.ibmr) := by
        simp only [held, numbers, found, Option.map_some]
      simp only [stepDeregMr, found, mlx5IbDeregMr] at stepped
      cases stepped
      rw [Verb.command, found]
      apply mirrors_destroyed mirrors (serves (deregMrCall mr.ibmr) _ rfl room_in_short)
        (dereg_mr_destroys mr.ibmr) kept
      · intro success
        rw [if_pos success, leaveOn, if_pos rfl]
        exact held_mrs store _ store.heap address none
      · intro failed
        rw [if_neg failed]
        rfl

theorem create_qp_mirrors {buffers : QpBuffers} {key : Nat} {qp : Mlx5IbQp}
    {sendCq recvCq : Option Nat} {qpType : IbQpType}
    (stepped : stepCreateQp act buffers key qp sendCq recvCq qpType store = some next) :
    Mirrors foreign
      (afterCommand before after ((Verb.createQp buffers key qp sendCq recvCq qpType).command store))
      (held next) := by
  unfold stepCreateQp at stepped
  split at stepped
  · rename_i send recv found sendResolved recvResolved
    have free : held store (.qp, key) = none := by
      simp only [held, numbers, found, Option.map_none]
    cases stepped
    rcases buffers with ⟨_ | sq, _ | rq, _ | db⟩
    case some.some.some =>
      simp only [Verb.command, sendResolved, recvResolved, Option.bind_some, Option.map_some]
      apply mirrors_created mirrors (serves (createQpCall _) _ rfl room_in_long) rfl free
      · intro success
        have done : ¬_ ≠ IOReturn.success := not_not.mpr success
        simp only [create_qp_full_allocated, sendCreateQp, if_neg done]
        rw [enter_on_zero rfl, held_qps]
        rfl
      · intro failed
        simp only [create_qp_full_allocated, sendCreateQp, if_pos failed]
        rfl
    all_goals exact mirrors
  · cases stepped

theorem destroy_qp_mirrors {key : Nat} (stepped : stepDestroyQp act key store = some next) :
    Mirrors foreign (afterCommand before after ((Verb.destroyQp key).command store))
      (held next) := by
  cases found : store.qps key with
  | none => simp [stepDestroyQp, found] at stepped
  | some live =>
      have kept : held store (.qp, key) = some (.qp, live.mqp.qpn) := by
        simp only [held, numbers, found, Option.map_some]
      simp only [stepDestroyQp, found, mlx5IbDestroyQpFull] at stepped
      cases stepped
      rw [Verb.command, found]
      apply mirrors_destroyed mirrors (serves (destroyQpCall live.mqp) _ rfl room_in_short)
        (destroy_qp_destroys live.mqp) kept
      · intro success
        rw [if_pos success, leaveOn, if_pos rfl, Function.update_idem, held_qps]
        rfl
      · intro failed
        have refused : (-1 : Int) ≠ 0 := by decide
        rw [if_neg failed, leaveOn, if_neg refused, held_qps, Option.map_some,
          held_reentered store kept]

omit serves mirrors in
theorem qp_reentered {key : Nat} {live : LiveQp} {mqp : Mlx5IbQp} {queue : CmdQueue}
    (found : store.qps key = some live) (same : mqp.qpn = live.mqp.qpn) :
    held { store with
        qps := Function.update store.qps key (some { live with mqp := mqp })
        queue := queue } = held store := by
  have kept : held store (.qp, key) = some (.qp, live.mqp.qpn) := by
    simp only [held, numbers, found, Option.map_some]
  have entered := held_qps store queue store.heap key (some { live with mqp := mqp })
  rw [Option.map_some, same, held_reentered store kept] at entered
  exact entered

theorem modify_qp_mirrors {key : Nat} (stepped : stepModifyQp act key store = some next) :
    Mirrors foreign (afterCommand before after ((Verb.modifyQp key).command store))
      (held next) := by
  cases found : store.qps key with
  | none => simp [stepModifyQp, found] at stepped
  | some live =>
      simp only [stepModifyQp, found] at stepped
      cases stepped
      rw [qp_reentered found (modify_qp_numbers act live.mqp store.queue).1]
      simp only [Verb.command, found, Option.bind_some]
      cases targetState live.mqp.state with
      | none => exact mirrors
      | some target =>
          have same := (serves (modifyQpCall target) _ rfl room_in_short).others rfl rfl
          simp only [afterCommand, Option.map_some, Option.getD_some, same]
          exact mirrors

omit serves in
theorem post_mirrors {post : Mlx5IbQp → Int × Mlx5IbQp} {key : Nat}
    (same : ∀ mqp, SameNumbers mqp (post mqp).2) (stepped : stepPost post key store = some next) :
    Mirrors foreign before (held next) := by
  cases found : store.qps key with
  | none => simp [stepPost, found] at stepped
  | some live =>
      simp only [stepPost, found] at stepped
      cases stepped
      rw [qp_reentered found (same live.mqp).1]
      exact mirrors

end Verbs

theorem release_if_set_next (pointer : Option Nat) (heap : Heap) :
    (releaseIfSet pointer heap).next = heap.next := by
  cases pointer <;> rfl

theorem create_cq_next (act : DeviceAct) (buffer : Option DmaBuffer) (cq : IbCq) (queue : CmdQueue)
    (heap : Heap) : heap.next ≤ (mlx5IbCreateCq act buffer cq queue heap).heap.next := by
  cases buffer with
  | none => exact Nat.le_refl _
  | some ring =>
      simp only [mlx5IbCreateCq]
      split_ifs <;> exact Nat.le_succ _

theorem create_qp_next (act : DeviceAct) (buffers : QpBuffers) (init : IbQpInitAttr) (qp : Mlx5IbQp)
    (queue : CmdQueue) (heap : Heap) :
    heap.next ≤ (mlx5IbCreateQpFull act buffers init qp queue heap).heap.next := by
  rcases buffers with ⟨sq, rq, db⟩
  cases sq with
  | none => exact Nat.le_refl _
  | some sq =>
      cases rq with
      | none => exact Nat.le_add_right _ 1
      | some rq =>
          cases db with
          | none => exact Nat.le_add_right _ 2
          | some db =>
              rw [create_qp_full_allocated]
              simp only [sendCreateQp]
              split_ifs <;> simp only [release_if_set_next, acquire_next] <;> omega

theorem destroy_qp_next (act : DeviceAct) (mqp : Mlx5IbQp) (queue : CmdQueue) (heap : Heap) :
    (mlx5IbDestroyQpFull act mqp queue heap).heap.next = heap.next := by
  simp only [mlx5IbDestroyQpFull, release_if_set_next]

/-- Memory regions lie at addresses that the heap has handed out. -/
def Placed (store : Store) : Prop :=
  ∀ address, store.heap.next ≤ address → store.mrs address = none

theorem placed_same {store next : Store} (placed : Placed store)
    (grown : store.heap.next ≤ next.heap.next) (same : next.mrs = store.mrs) : Placed next := by
  intro address beyond
  rw [same]
  exact placed address (Nat.le_trans grown beyond)

theorem reg_user_mr_next (act : DeviceAct) (buffer : Option DmaBuffer) (allocated : Bool)
    (args : RegArgs) (queue : CmdQueue) (heap : Heap) :
    heap.next ≤ (mlx5IbRegUserMrFull act buffer allocated args queue heap).heap.next ∧
      ∀ address mr, (mlx5IbRegUserMrFull act buffer allocated args queue heap).result =
        .region address mr →
        address < (mlx5IbRegUserMrFull act buffer allocated args queue heap).heap.next := by
  cases buffer with
  | none => exact ⟨Nat.le_refl _, fun _ _ returned => by cases returned⟩
  | some pages =>
      simp only [mlx5IbRegUserMrFull, buildPasList]
      split_ifs
      · exact ⟨Nat.le_succ _, fun _ _ returned => by cases returned⟩
      · exact ⟨Nat.le_succ _, fun _ _ returned => by cases returned⟩
      · cases args.pd with
        | none => exact ⟨Nat.le_add_right _ 2, fun _ _ returned => by cases returned⟩
        | some pd =>
            refine ⟨Nat.le_add_right _ 2, ?_⟩
            intro address mr returned
            cases returned
            exact Nat.lt_succ_self _

theorem reg_user_mr_placed {act : DeviceAct} {buffer : Option DmaBuffer} {allocated : Bool}
    {pd : Option Nat} {args : RegArgs} {store next : Store} (placed : Placed store)
    (stepped : stepRegUserMr act buffer allocated pd args store = some next) : Placed next := by
  unfold stepRegUserMr at stepped
  split at stepped
  · cases stepped
  · rename_i live _
    rcases reg_user_mr_next act buffer allocated { args with pd := live.map LivePd.pd } store.queue
      store.heap with ⟨grown, below⟩
    dsimp only at stepped
    split at stepped
    · cases stepped
    · cases stepped
      exact placed_same placed grown rfl
    · rename_i address mr returned
      cases stepped
      intro other beyond
      have different : other ≠ address := by
        have inside := below address mr returned
        dsimp only at beyond
        omega
      dsimp only
      rw [Function.update_of_ne different]
      exact placed other (Nat.le_trans grown beyond)

theorem step_placed {store next : Store} {action : VerbAction} (placed : Placed store)
    (stepped : Mlx5VerbRuns.step store action = some next) : Placed next := by
  cases action with
  | allocPd act key pd =>
      simp only [Mlx5VerbRuns.step, stepAllocPd] at stepped
      split at stepped <;> cases stepped
      exact placed
  | deallocPd act key =>
      simp only [Mlx5VerbRuns.step, stepDeallocPd] at stepped
      split at stepped <;> cases stepped
      exact placed
  | createCq act buffer key cq =>
      simp only [Mlx5VerbRuns.step, stepCreateCq] at stepped
      split at stepped <;> cases stepped
      exact placed_same placed (create_cq_next act buffer cq store.queue store.heap) rfl
  | destroyCq act key =>
      simp only [Mlx5VerbRuns.step, stepDestroyCq] at stepped
      split at stepped <;> cases stepped
      exact placed
  | regUserMr act buffer allocated pd args => exact reg_user_mr_placed placed stepped
  | deregMr act address =>
      simp only [Mlx5VerbRuns.step, stepDeregMr] at stepped
      split at stepped <;> cases stepped
      intro other beyond
      have free := placed other beyond
      dsimp only [leaveOn]
      split_ifs
      · by_cases same : other = address
        · rw [same, Function.update_self]
        · rw [Function.update_of_ne same, free]
      · exact free
  | createQp act buffers key qp sendCq recvCq qpType =>
      simp only [Mlx5VerbRuns.step, stepCreateQp] at stepped
      split at stepped <;> cases stepped
      exact placed_same placed (create_qp_next act buffers _ qp store.queue store.heap) rfl
  | modifyQp act key =>
      simp only [Mlx5VerbRuns.step, stepModifyQp] at stepped
      split at stepped <;> cases stepped
      exact placed
  | postSend key =>
      simp only [Mlx5VerbRuns.step, stepPost] at stepped
      split at stepped <;> cases stepped
      exact placed
  | postRecv key =>
      simp only [Mlx5VerbRuns.step, stepPost] at stepped
      split at stepped <;> cases stepped
      exact placed
  | destroyQp act key =>
      simp only [Mlx5VerbRuns.step, stepDestroyQp] at stepped
      split at stepped <;> cases stepped
      exact placed_same placed (destroy_qp_next act _ store.queue store.heap).ge rfl

theorem unheld_lost (start : Set Name) (number : BitVec 32) (lost : List (BitVec 32)) :
    unheld start (number :: lost) = insert (.key, number) (unheld start lost) := by
  ext name
  rcases name with ⟨kind, other⟩
  simp only [unheld, Set.mem_union, Set.mem_ofPred_eq, Set.mem_insert_iff, List.mem_cons,
    Prod.mk.injEq]
  tauto

theorem key_number_kept {number : BitVec 32} (short : number.toNat < 2 ^ 24) :
    number <<< 8 >>> 8 = number := by
  apply BitVec.eq_of_toNat_eq
  rw [BitVec.toNat_ushiftRight, BitVec.toNat_shiftLeft, Nat.shiftLeft_eq, Nat.shiftRight_eq_div_pow]
  omega

theorem lost_keys_unsent (act : DeviceAct) (queue : CmdQueue) (verb : Verb) :
    lostKeys act queue verb none = [] := by
  cases verb with
  | regUserMr buffer allocated pd args => cases allocated <;> rfl
  | _ => rfl

theorem region_entered (args : RegArgs) (pd : IbPd) (list : PasList) (store : Store)
    (queue : CmdQueue) (heap : Heap) (address : Nat) {number : BitVec 32}
    (short : number.toNat < 2 ^ 24) :
    held { store with
        mrs := Function.update store.mrs address (some (newRegion args pd number list))
        queue := queue
        heap := heap } =
      Function.update (held store) (.key, address) (some (.key, number)) := by
  have kept : keyNumber (newRegion args pd number list).ibmr = number := key_number_kept short
  rw [held_mrs, Option.map_some, kept]

theorem registration_mirrors {before after : Set Name} {act : DeviceAct} {store next : Store}
    {start : Set Name} {lost : List (BitVec 32)} {pages : DmaBuffer} {allocated : Bool}
    {pd : Option Nat} {args : RegArgs} {live : Option LivePd} {call : CmdCall}
    (mirrors : Mirrors (unheld start lost) before (held store))
    (placed : Placed store)
    (resolved : resolve store.pds pd = some live)
    (sent : createMkeyCall { args with pd := live.map LivePd.pd } pages.physicalAddress = call)
    (served : ServedCall act call store.queue before after)
    (stepped : stepRegUserMr act (some pages) allocated pd args store = some next) :
    Mirrors
      (unheld start
        (lostKeys act store.queue (.regUserMr (some pages) allocated pd args) (some call) ++ lost))
      after (held next) := by
  have creating : creates (requestOf call) = some .key := by
    rw [← sent]
    rfl
  have dma : (newPasList pages args.start (args.length.setWidth 32) store.heap.next).dma =
      pages.physicalAddress := rfl
  simp only [stepRegUserMr, resolved, mlx5IbRegUserMrFull, buildPasList, acquire_handle, dma, sent]
    at stepped
  by_cases success : (mlx5CmdExec act call store.queue).1.ret = .success
  · rcases served.created .key creating success with ⟨fresh, same⟩
    rw [same]
    simp only [if_neg (not_not.mpr success)] at stepped
    cases allocated with
    | false =>
        cases stepped
        rw [lostKeys, if_pos success, List.singleton_append, unheld_lost]
        exact mirrors_lost mirrors fresh
    | true =>
        cases live with
        | none => cases stepped
        | some live =>
            cases stepped
            have free : held store (.key, store.heap.next + 1) = none := by
              simp only [held, numbers, placed _ (Nat.le_succ _), Option.map_none]
            have taken := mirrors_taken mirrors free fresh
            rw [← region_entered { args with pd := some live.pd } live.pd
              (newPasList pages args.start (args.length.setWidth 32) store.heap.next) store
              (mlx5CmdExec act call store.queue).2 (acquire (acquire store.heap).2).2 _
              (served.keyWidth creating success)] at taken
            exact taken
  · rw [served.refused success]
    simp only [if_pos success] at stepped
    cases stepped
    have none : lostKeys act store.queue (.regUserMr (some pages) allocated pd args) (some call) =
        [] := by
      cases allocated with
      | false => exact if_neg success
      | true => rfl
    rw [none]
    exact mirrors

/-- A key that comes without an `mlx5_ib_mr` is lost. -/
theorem reg_user_mr_mirrors {start before : Set Name} {after : CmdCall → Set Name}
    {act : DeviceAct} {store next : Store} {lost : List (BitVec 32)} {buffer : Option DmaBuffer}
    {allocated : Bool} {pd : Option Nat} {args : RegArgs}
    (serves : Serves act store.queue before after)
    (mirrors : Mirrors (unheld start lost) before (held store)) (placed : Placed store)
    (stepped : stepRegUserMr act buffer allocated pd args store = some next) :
    Mirrors
      (unheld start (lostKeys act store.queue (.regUserMr buffer allocated pd args)
        ((Verb.regUserMr buffer allocated pd args).command store) ++ lost))
      (afterCommand before after ((Verb.regUserMr buffer allocated pd args).command store))
      (held next) := by
  cases resolved : resolve store.pds pd with
  | none => simp [stepRegUserMr, resolved] at stepped
  | some live =>
      cases buffer with
      | none =>
          simp only [stepRegUserMr, resolved, mlx5IbRegUserMrFull, buildPasList] at stepped
          cases stepped
          simp only [Verb.command, resolved, Option.bind_some, Option.map_none, lost_keys_unsent]
          exact mirrors
      | some pages =>
          simp only [Verb.command, resolved, Option.bind_some, Option.map_some]
          exact registration_mirrors mirrors placed resolved rfl
            (serves (createMkeyCall _ _) _ rfl room_in_long) stepped

structure Mirrored {State : Type} (live : State → Set Name) (start : Set Name)
    (system : System State) : Prop where
  directory : Mirrors (unheld start system.lost) (live system.state) (held system.store)
  placed : Placed system.store

section Runs

variable {State : Type} {firmware : Firmware State} {live : State → Set Name}

theorem step_drives {system next : System State} {moment : Moment} {verb : Verb}
    (stepped : step firmware system (moment, verb) = some next) :
    (next.store.queue, next.state) =
      ((verb.command system.store).map fun call =>
        let driven := execWith (executeAt firmware system.store.queue.ctx.mboxDmaBase moment) call
          system.store.queue system.state
        (driven.1.2, driven.2)).getD (system.store.queue, system.state) := by
  rcases Option.map_eq_some_iff.mp stepped with ⟨store, stored, rfl⟩
  have queue := verb_queue stored
  dsimp only at queue ⊢
  rw [queue]
  cases verb.command system.store with
  | none => rfl
  | some call => simp only [Option.map_some, Option.getD_some, exec_with_frozen]

theorem live_after (live : State → Set Name) (command : Option CmdCall) (executed : CmdCall → State)
    (state : State) :
    live ((command.map executed).getD state) =
      afterCommand (live state) (fun call => live (executed call)) command := by
  cases command <;> rfl

theorem new_system_mirrored (queue : CmdQueue) (state : State) :
    Mirrored live (live state) (newSystem queue state) where
  directory := by
    have nothing : held (emptyStore queue) = fun _ => none := by
      funext holder
      rcases holder with ⟨kind, key⟩
      cases kind <;> rfl
    have foreign : unheld (live state) [] = live state := by
      ext name
      simp only [unheld, Set.mem_union, Set.mem_ofPred_eq, List.not_mem_nil, and_false, or_false]
    simp only [newSystem, nothing, foreign]
    exact mirrors_start (live state)
  placed := fun _ _ => rfl

variable (keeps : KeepsDirectory firmware live)

include keeps

theorem step_mirrored {start : Set Name} (system : System State) (action : Moment × Verb)
    (next : System State) (mirrored : Mirrored live start system)
    (stepped : step firmware system action = some next) : Mirrored live start next := by
  rcases action with ⟨moment, verb⟩
  rcases Option.map_eq_some_iff.mp stepped with ⟨store, stored, rfl⟩
  refine ⟨?_, step_placed mirrored.placed stored⟩
  have mirrors := mirrored.directory
  have serves : Serves (frozen (executeAt firmware system.store.queue.ctx.mboxDmaBase moment)
      system.state) system.store.queue (live system.state) (fun call =>
        live (execWith (executeAt firmware system.store.queue.ctx.mboxDmaBase moment) call
          system.store.queue system.state).2) := by
    intro call data buffer asked
    exact exec_served keeps moment system.store.queue system.state buffer asked
  dsimp only
  rw [live_after live]
  cases verb with
  | allocPd key pd => exact alloc_pd_mirrors serves mirrors stored
  | deallocPd key => exact dealloc_pd_mirrors serves mirrors stored
  | createCq buffer key cq => exact create_cq_mirrors serves mirrors stored
  | destroyCq key => exact destroy_cq_mirrors serves mirrors stored
  | regUserMr buffer allocated pd args =>
      exact reg_user_mr_mirrors serves mirrors mirrored.placed stored
  | deregMr address => exact dereg_mr_mirrors serves mirrors stored
  | createQp buffers key qp sendCq recvCq qpType => exact create_qp_mirrors serves mirrors stored
  | modifyQp key => exact modify_qp_mirrors serves mirrors stored
  | postSend key => exact post_mirrors mirrors post_send_numbers stored
  | postRecv key => exact post_mirrors mirrors post_recv_numbers stored
  | destroyQp key => exact destroy_qp_mirrors serves mirrors stored

/-- For every firmware that keeps a directory, from any state of it, and every run
of verbs with each command executed at any poll or not at all. -/
theorem directory_mirrored (queue : CmdQueue) (state : State) (actions : List (Moment × Verb)) :
    Always (step firmware) (Mirrored live (live state)) (newSystem queue state) actions :=
  always_of_invariant (fun _ mirrored => mirrored) (step_mirrored keeps)
    (new_system_mirrored queue state) actions

end Runs

/-- One PD is allocated, another times out, a CQ and a key come, and the PD goes. -/
theorem counted_objects_mirrored :
    Always (step countingFirmware) (Mirrored Counter.names newCounter.names)
      (newSystem blankQueue newCounter)
      [(some ⟨0, by decide⟩, .allocPd 0 samplePd), (none, .allocPd 1 samplePd),
        (some ⟨5, by decide⟩, .createCq (some sampleBuffer) 0 ⟨0, 0, 0, 0, 0, 64⟩),
        (some ⟨1, by decide⟩, .regUserMr (some sampleBuffer) true (some 0) (sampleArgs 8192)),
        (some ⟨2, by decide⟩, .deallocPd 0)] :=
  directory_mirrored counting_keeps_directory blankQueue newCounter _

end Verbifrost.Mlx5ObjectRuns
