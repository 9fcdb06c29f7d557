import Verbifrost.Mlx5CmdExec

/-!
# What the device does with a command and what the driver takes it for

`mlx5_cmd_exec` reads the owner bit at each poll and once more for its timeout
check, but captures the delivery status at a poll only. So whether the device
executed a command and whether the driver takes it for a success are two
different facts about one outcome: a delivery error written after the last poll
goes unseen, and a command executed without an answer counts as failed.
-/

namespace Verbifrost.Mlx5CmdOutcome

open Verbifrost.ByteMemory Verbifrost.Mlx5Registers Verbifrost.Mlx5CmdExec

set_option autoImplicit false

/-- A silent device may have executed the command all the same. An answer is
written before the poll with its number, which may come after the call gave up. -/
inductive CmdOutcome where
  | silent (executed : Bool)
  | answers (poll : Nat) (delivery : BitVec 7) (mailbox : Bytes)

def answeredStatus (delivery : BitVec 7) : Byte := delivery.setWidth 8 <<< 1

def outcomeAct : CmdOutcome → DeviceAct
  | .silent _ => fun _ mem => mem
  | .answers poll delivery mailbox => answerAt poll (answeredStatus delivery) mailbox

/-- The device executed the command, at whatever time. -/
def Executes : CmdOutcome → Prop
  | .silent executed => executed = true
  | .answers _ delivery mailbox => delivery = 0 ∧ mailbox mlx5MboxStatusOff = mlx5CmdStatOk

def ExecutesInCall : CmdOutcome → Prop
  | .silent executed => executed = true
  | .answers poll delivery mailbox =>
      poll ≤ pollLimit + 1 ∧ delivery = 0 ∧ mailbox mlx5MboxStatusOff = mlx5CmdStatOk

/-- When the call returns, the command was executed or is still with the device. -/
def MayExecute : CmdOutcome → Prop
  | .silent _ => True
  | .answers poll delivery mailbox =>
      pollLimit + 1 < poll ∨ delivery = 0 ∧ mailbox mlx5MboxStatusOff = mlx5CmdStatOk

/-- The answer passes the driver's checks; the delivery status is only captured by a poll. -/
def Passes : CmdOutcome → Prop
  | .silent _ => False
  | .answers poll delivery mailbox =>
      mailbox mlx5MboxStatusOff = mlx5CmdStatOk ∧
        (poll < pollLimit ∧ delivery = 0 ∨ pollLimit ≤ poll ∧ poll ≤ pollLimit + 1)

instance : DecidablePred ExecutesInCall
  | .silent executed => inferInstanceAs (Decidable (executed = true))
  | .answers _ _ _ => inferInstanceAs (Decidable (_ ∧ _ ∧ _))

instance : DecidablePred MayExecute
  | .silent _ => inferInstanceAs (Decidable True)
  | .answers _ _ _ => inferInstanceAs (Decidable (_ ∨ _ ∧ _))

theorem answered_status_owner (delivery : BitVec 7) :
    ownerOf (answeredStatus delivery) = mlx5CmdOwnerSw := by
  revert delivery
  decide

theorem answered_status_delivered (delivery : BitVec 7) :
    deliveryOf (answeredStatus delivery) = mlx5CmdDeliveryStatOk ↔ delivery = 0 := by
  revert delivery
  decide

theorem exec_answers (poll : Nat) (delivery : BitVec 7) (mailbox : Bytes) (call : CmdCall)
    (queue : CmdQueue) :
    (mlx5CmdExec (outcomeAct (.answers poll delivery mailbox)) call queue).1 =
      if poll < pollLimit then answeredResult call (answeredStatus delivery) mailbox
      else if poll ≤ pollLimit + 1 then answeredResult call 0#8 mailbox
      else failWith call .timeout 0xFF := by
  have owner := answered_status_owner delivery
  rw [outcomeAct]
  split_ifs with inLoop beforeCheck
  · exact exec_answered call queue poll _ mailbox inLoop owner
  · exact exec_answered_late call queue poll _ mailbox (Nat.not_lt.mp inLoop) beforeCheck owner
  · apply exec_unanswered
    intro tick before mem
    exact if_neg (by omega)

theorem exec_success_iff (outcome : CmdOutcome) (call : CmdCall) (queue : CmdQueue) :
    (mlx5CmdExec (outcomeAct outcome) call queue).1.ret = .success ↔ Passes outcome := by
  cases outcome with
  | silent executed =>
      rw [exec_unanswered _ call queue (by intro tick _ mem; rfl)]
      simp [failWith, Passes]
  | answers poll delivery mailbox =>
      have zero : deliveryOf 0#8 = mlx5CmdDeliveryStatOk := by decide
      rw [exec_answers, Passes]
      split_ifs with inLoop beforeCheck
      · have early : ¬pollLimit ≤ poll := Nat.not_le.mpr inLoop
        rw [answered_result_success, answered_status_delivered]
        simp [inLoop, early]
      · rw [answered_result_success]
        simp [zero, inLoop, beforeCheck, Nat.not_lt.mp inLoop]
      · simp [failWith, inLoop, beforeCheck]

end Verbifrost.Mlx5CmdOutcome
