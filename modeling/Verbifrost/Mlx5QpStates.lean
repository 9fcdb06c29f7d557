import Verbifrost.GuardedRun
import Verbifrost.Mlx5QpRequests

/-!
# The two state fields of a QP

Runs of creation, `mlx5_ib_modify_qp_full` and the two posting functions on one
QP object, with any outcome of every allocation and command. The transition is
chosen in a `switch` over `ib_qp_state`, the fields are written in a `switch`
over the firmware's codes, and a command that may fail stands between them.
Beside the QP the state counts the successful modifications since the last
creation.
-/

namespace Verbifrost.Mlx5QpStates

open Verbifrost.ByteMemory Verbifrost.Mlx5Registers Verbifrost.ReferenceHeap Verbifrost.GuardedRun
open Verbifrost.IbVerbs Verbifrost.Mlx5CmdExec Verbifrost.Mlx5Verbs Verbifrost.Mlx5QueuePair
open Verbifrost.Mlx5QpRequests

set_option autoImplicit false

structure QpHistory where
  mqp : Mlx5IbQp
  queue : CmdQueue
  heap : Heap
  created : Bool
  moves : Nat

inductive QpAction where
  | create (act : DeviceAct) (buffers : QpBuffers) (init : IbQpInitAttr)
  | modify (act : DeviceAct)
  | postSend
  | postRecv

def step (history : QpHistory) : QpAction → Option QpHistory
  | .create act buffers init =>
      let result := mlx5IbCreateQpFull act buffers init history.mqp history.queue history.heap
      some { mqp := result.qp, queue := result.queue, heap := result.heap, created := true, moves := 0 }
  | .modify act =>
      let result := mlx5IbModifyQpFull act history.mqp history.queue
      some
        { history with
          mqp := result.qp
          queue := result.queue
          moves := if result.ret = 0 then history.moves + 1 else history.moves }
  | .postSend => some { history with mqp := (mlx5IbPostSendFull history.mqp).2 }
  | .postRecv => some { history with mqp := (mlx5IbPostRecvFull history.mqp).2 }

def uncreated (mqp : Mlx5IbQp) (queue : CmdQueue) (heap : Heap) : QpHistory where
  mqp := mqp
  queue := queue
  heap := heap
  created := false
  moves := 0

def stateOrder : List IbQpState := [.reset, .init, .rtr, .rts]

structure StatesAgree (history : QpHistory) : Prop where
  equal : history.created = true → history.mqp.ibqp.state = history.mqp.state
  ordered : history.created = true →
    stateOrder[min history.moves 3]? = some history.mqp.state
  /-- A modification that fails changes nothing of the QP. -/
  refused : ∀ act, (mlx5IbModifyQpFull act history.mqp history.queue).ret = -1 →
    (mlx5IbModifyQpFull act history.mqp history.queue).qp = history.mqp
  /-- In RTS the device gets no turn and the command queue is left alone. -/
  unsent : history.mqp.state = .rts → ∀ act,
    mlx5IbModifyQpFull act history.mqp history.queue = ⟨-1, history.mqp, history.queue⟩

theorem create_qp_states (act : DeviceAct) (buffers : QpBuffers) (init : IbQpInitAttr)
    (qp : Mlx5IbQp) (queue : CmdQueue) (heap : Heap) :
    (mlx5IbCreateQpFull act buffers init qp queue heap).qp.state = .reset ∧
      (mlx5IbCreateQpFull act buffers init qp queue heap).qp.ibqp.state = .reset := by
  rcases buffers with ⟨_ | sq, _ | rq, _ | db⟩
  all_goals first
    | exact ⟨rfl, rfl⟩
    | rw [create_qp_full_allocated]
  simp only [sendCreateQp]
  split_ifs <;> exact ⟨rfl, rfl⟩

theorem modify_qp_refused (act : DeviceAct) (mqp : Mlx5IbQp) (queue : CmdQueue)
    (failed : (mlx5IbModifyQpFull act mqp queue).ret ≠ 0) :
    (mlx5IbModifyQpFull act mqp queue).qp = mqp := by
  unfold mlx5IbModifyQpFull at failed ⊢
  cases target : targetState mqp.state with
  | none => rfl
  | some code =>
      simp only [target] at failed ⊢
      split_ifs at failed ⊢
      · rfl
      · exact absurd rfl failed

theorem modify_qp_movable {act : DeviceAct} {mqp : Mlx5IbQp} {queue : CmdQueue}
    (succeeded : (mlx5IbModifyQpFull act mqp queue).ret = 0) :
    (targetState mqp.state).isSome = true := by
  cases target : targetState mqp.state with
  | none => simp [mlx5IbModifyQpFull, target] at succeeded
  | some code => rfl

theorem modify_qp_from_rts {mqp : Mlx5IbQp} (ready : mqp.state = .rts) (act : DeviceAct)
    (queue : CmdQueue) : mlx5IbModifyQpFull act mqp queue = ⟨-1, mqp, queue⟩ := by
  simp only [mlx5IbModifyQpFull, ready, targetState]

theorem modified_qp_next {mqp : Mlx5IbQp} {moves : Nat}
    (movable : (targetState mqp.state).isSome = true)
    (ordered : stateOrder[min moves 3]? = some mqp.state) :
    (modifiedQp mqp).ibqp.state = (modifiedQp mqp).state ∧
      stateOrder[min (moves + 1) 3]? = some (modifiedQp mqp).state := by
  match moves with
  | 0 =>
      have state : mqp.state = .reset := (Option.some.inj ordered).symm
      simp only [modifiedQp, state, targetState]
      exact ⟨rfl, rfl⟩
  | 1 =>
      have state : mqp.state = .init := (Option.some.inj ordered).symm
      simp only [modifiedQp, state, targetState]
      exact ⟨rfl, rfl⟩
  | 2 =>
      have state : mqp.state = .rtr := (Option.some.inj ordered).symm
      simp only [modifiedQp, state, targetState]
      exact ⟨rfl, rfl⟩
  | moves + 3 =>
      have last : min (moves + 3) 3 = 3 := by omega
      rw [last] at ordered
      have state : mqp.state = .rts := (Option.some.inj ordered).symm
      rw [state] at movable
      cases movable

/-- The part of the property that depends on the history. -/
def Ordered (history : QpHistory) : Prop :=
  history.created = true → history.mqp.ibqp.state = history.mqp.state ∧
    stateOrder[min history.moves 3]? = some history.mqp.state

theorem ordered_agree (history : QpHistory) (ordered : Ordered history) : StatesAgree history where
  equal := fun created => (ordered created).1
  ordered := fun created => (ordered created).2
  refused := by
    intro act failed
    apply modify_qp_refused
    rw [failed]
    decide
  unsent := by
    intro ready act
    exact modify_qp_from_rts ready act history.queue

theorem step_ordered (history : QpHistory) (action : QpAction) (next : QpHistory)
    (ordered : Ordered history) (stepped : step history action = some next) : Ordered next := by
  cases action with
  | create act buffers init =>
      cases stepped
      obtain ⟨state, ibState⟩ := create_qp_states act buffers init history.mqp history.queue
        history.heap
      intro _
      dsimp only
      rw [state, ibState]
      exact ⟨rfl, rfl⟩
  | modify act =>
      cases stepped
      intro created
      rcases ordered created with ⟨equal, position⟩
      dsimp only
      by_cases succeeded : (mlx5IbModifyQpFull act history.mqp history.queue).ret = 0
      · rw [if_pos succeeded, modify_qp_full_success succeeded]
        exact modified_qp_next (modify_qp_movable succeeded) position
      · rw [if_neg succeeded, modify_qp_refused _ _ _ succeeded]
        exact ⟨equal, position⟩
  | postSend =>
      cases stepped
      exact ordered
  | postRecv =>
      cases stepped
      exact ordered

/-- In every state of every run, from any memory. -/
theorem states_always_agree (mqp : Mlx5IbQp) (queue : CmdQueue) (heap : Heap)
    (actions : List QpAction) : Always step StatesAgree (uncreated mqp queue heap) actions := by
  have start : Ordered (uncreated mqp queue heap) := by
    intro created
    cases created
  exact always_of_invariant ordered_agree step_ordered start actions

/-- The fourth modification is refused. -/
example :
    (run step (uncreated zeroQp blankQueue emptyHeap)
      (.create (answerAt 0 0#8 zeroBytes)
          ⟨some (sampleRing 0x1000), some (sampleRing 0x5000), some (sampleRing 0x6000)⟩
          ⟨none, none, .rc⟩ ::
        List.replicate 4 (.modify (answerAt 0 0#8 zeroBytes)))).map
      (fun history => (history.moves, history.mqp.state, history.mqp.ibqp.state)) =
    some (3, .rts, .rts) := by
  rfl

end Verbifrost.Mlx5QpStates
