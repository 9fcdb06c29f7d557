import Verbifrost.Mlx5CmdSubmission
import Verbifrost.RequestServer

/-!
# Firmware with a state of its own

So far the device was any change of the shared memory. Here it is a server: it
finds the request through the pointer in the ring entry, executes it on a state
that lasts from one command to the next, writes its reply through the other
pointer and gives the entry back. A command it leaves alone for as long as the
driver polls is not executed at all. Whatever the server does, a run of calls
has the results and leaves the state of the server fed directly with the
requests of the calls that were answered, one after another.
-/

namespace Verbifrost.Mlx5Firmware

open Verbifrost.ByteMemory Verbifrost.Mlx5Registers Verbifrost.RequestServer
open Verbifrost.Mlx5CmdExec Verbifrost.Mlx5CmdAddresses Verbifrost.Mlx5CmdSubmission

set_option autoImplicit false

/-- A command as it stands in the input mailbox; `data` is zero past its end. -/
structure Request where
  opcode : BitVec 16
  uid : BitVec 16
  opMod : BitVec 16
  data : Bytes

/-- The delivery status of the ring entry, and what is written of the output mailbox. -/
structure Reply where
  deliveryStatus : BitVec 7
  mailbox : Bytes
  length : Nat
  bounded : length ≤ 4096

abbrev Firmware (State : Type) := Server State Request Reply

/-- The owner bit is cleared. -/
def statusByte (deliveryStatus : BitVec 7) : Byte := deliveryStatus ++ 0#1

/-- Where the address in the ring entry points, for a pool mapped at `base`. -/
def pointedAt (base : BitVec 64) (mem : DmaMemory) (offset : Nat) : Nat :=
  (loadBE mem.ring offset 64 - base).toNat

def fetch (base : BitVec 64) (mem : DmaMemory) : Request :=
  let mailbox := window mem.mboxPool (pointedAt base mem protBlockInPtrOff)
  let inLen := (loadBE mem.ring protBlockInLenOff 32).toNat
  { opcode := loadBE mailbox mlx5MboxOpcodeOff 16
    uid := loadBE mailbox mlx5MboxUidOff 16
    opMod := loadBE mailbox mlx5MboxOpModOff 16
    data := fun index => if 16 + index < inLen then mailbox (16 + index) else 0 }

def complete (base : BitVec 64) (reply : Reply) (mem : DmaMemory) : DmaMemory where
  ring := store mem.ring protBlockStatusOff (statusByte reply.deliveryStatus)
  mboxPool := copyIn mem.mboxPool (pointedAt base mem protBlockOutPtrOff) reply.mailbox reply.length

abbrev StatefulDevice (State : Type) := Nat → State → DmaMemory → State × DmaMemory

def driveWith {State : Type} (device : StatefulDevice State) :
    Nat → Nat → Phase → CmdQueue → State → (Phase × CmdQueue) × State
  | 0, _, phase, queue, state => ((phase, queue), state)
  | _ + 1, _, .returned sub result, queue, state => ((.returned sub result, queue), state)
  | fuel + 1, tick, phase, queue, state =>
      let acted := device tick state queue.mem
      let next := callStep phase { queue with mem := acted.2 }
      driveWith device fuel (tick + 1) next.1 next.2 acted.1

def execWith {State : Type} (device : StatefulDevice State) (call : CmdCall) (queue : CmdQueue)
    (state : State) : (CmdResult × CmdQueue) × State :=
  let final := driveWith device execFuel 0 (.entered call) queue state
  ((resultOf final.1.1, final.1.2), final.2)

abbrev Moment := Option (Fin pollLimit)

def executeAt {State : Type} (firmware : Firmware State) (base : BitVec 64) (moment : Moment) :
    StatefulDevice State := fun tick state mem =>
  if moment.map (fun poll => 3 + poll.val) = some tick then
    let next := firmware state (fetch base mem)
    (next.1, complete base next.2 mem)
  else (state, mem)

/-- The driver's calls on one queue, each with the moment its command is executed. -/
def driver {State : Type} (firmware : Firmware State) :
    Server (CmdQueue × State) (Moment × CmdCall) CmdResult := fun now command =>
  let device := executeAt firmware now.1.ctx.mboxDmaBase command.1
  let final := execWith device command.2 now.1 now.2
  ((final.1.2, final.2), final.1.1)

def requestOf (call : CmdCall) : Request where
  opcode := call.opcode
  uid := 0
  opMod := call.opMod
  data := payload call

/-- The output mailbox was cleared, so what the reply leaves out is zero. -/
def replyMailbox (reply : Reply) : Bytes := fun index =>
  if index < reply.length then reply.mailbox index else 0

/-- The response body, behind eight bytes, as far as the caller asked for it. -/
def responseData (call : CmdCall) (mailbox : Bytes) : Option Bytes :=
  call.outData.map fun data => copyIn data 0 (window mailbox 8) (min 4088 call.outLen.toNat)

def outcome (call : CmdCall) (reply : Reply) : CmdResult :=
  if reply.deliveryStatus ≠ 0 then
    { ret := .error
      outStatus := reportStatus call 0xFF
      outData := call.outData }
  else if replyMailbox reply 0 ≠ 0 then
    { ret := .error
      outStatus := reportStatus call (replyMailbox reply 0)
      outData := call.outData }
  else
    { ret := .success
      outStatus := reportStatus call 0
      outData := responseData call (replyMailbox reply) }

def timedOut (call : CmdCall) : CmdResult where
  ret := .timeout
  outStatus := reportStatus call 0xFF
  outData := call.outData

def executed (command : Moment × CmdCall) : Bool := command.1.isSome

def sequential {State : Type} (firmware : Firmware State) :
    Server State (Moment × CmdCall) CmdResult :=
  refusing executed (fun command => timedOut command.2)
    (adapted (fun command => requestOf command.2) (fun command => outcome command.2) firmware)

def executedRequests (commands : List (Moment × CmdCall)) : List Request :=
  (commands.filter executed).map fun command => requestOf command.2

/-- The device before the doorbell and between two replies. -/
def silent : DeviceAct := fun _ mem => mem

section Driving

variable {State : Type} {device : StatefulDevice State}

theorem drive_with_returned (fuel tick : Nat) (sub : Submission) (result : CmdResult)
    (queue : CmdQueue) (state : State) :
    driveWith device fuel tick (.returned sub result) queue state =
      ((.returned sub result, queue), state) := by
  cases fuel <;> rfl

theorem drive_with_step (fuel tick : Nat) (phase : Phase) (queue : CmdQueue) (state : State)
    (unfinished : 0 < piecesLeft phase) :
    driveWith device (fuel + 1) tick phase queue state =
      driveWith device fuel (tick + 1)
        (callStep phase { queue with mem := (device tick state queue.mem).2 }).1
        (callStep phase { queue with mem := (device tick state queue.mem).2 }).2
        (device tick state queue.mem).1 := by
  cases phase with
  | returned sub result => simp [piecesLeft] at unfinished
  | _ => rfl

theorem drive_with_add (first second tick : Nat) (phase : Phase) (queue : CmdQueue)
    (state : State) :
    driveWith device (first + second) tick phase queue state =
      driveWith device second (tick + first) (driveWith device first tick phase queue state).1.1
        (driveWith device first tick phase queue state).1.2
        (driveWith device first tick phase queue state).2 := by
  induction first generalizing tick phase queue state with
  | zero => rw [Nat.zero_add, Nat.add_zero, driveWith]
  | succ first induction =>
      by_cases unfinished : 0 < piecesLeft phase
      · have shift : first + 1 + second = first + second + 1 := by omega
        have later : tick + (first + 1) = tick + 1 + first := by omega
        rw [shift, drive_with_step _ _ _ _ _ unfinished, drive_with_step _ _ _ _ _ unfinished,
          induction, later]
      · obtain ⟨sub, result, rfl⟩ := pieces_left_zero (Nat.eq_zero_of_not_pos unfinished)
        simp only [drive_with_returned]

/-- As long as the device is silent its state does not matter. -/
theorem drive_with_silent (fuel tick : Nat) (phase : Phase) (queue : CmdQueue) (state : State)
    (quiet : ∀ later, tick ≤ later → later < tick + fuel → ∀ mem,
      device later state mem = (state, mem)) :
    driveWith device fuel tick phase queue state = (drive silent fuel tick phase queue, state) := by
  induction fuel generalizing tick phase queue with
  | zero => rfl
  | succ fuel induction =>
      by_cases unfinished : 0 < piecesLeft phase
      · have now := quiet tick (Nat.le_refl _) (by omega) queue.mem
        rw [drive_with_step _ _ _ _ _ unfinished, drive_step _ _ _ _ _ unfinished, now]
        exact induction (tick + 1) _ _
          (by intro later low high mem; exact quiet later (by omega) (by omega) mem)
      · obtain ⟨sub, result, rfl⟩ := pieces_left_zero (Nat.eq_zero_of_not_pos unfinished)
        rfl

end Driving

theorem drive_silent_until (call : CmdCall) (queue : CmdQueue) {poll : Nat}
    (inTime : poll < pollLimit) :
    drive silent (3 + poll) 0 (.entered call) queue =
      (.polling (submission call queue) (pollLimit - poll), submitted call queue) := by
  have opened : drive silent (poll + 3) 0 (.entered call) queue =
      drive silent poll 3 (.polling (submission call queue) pollLimit) (submitted call queue) := rfl
  have waited := drive_waits silent (submission call queue) (submitted call queue) poll 0 3
    (pollLimit - poll) (fun _ _ _ _ => rfl) (submitted_owner call queue)
  rw [Nat.sub_add_cancel (Nat.le_of_lt inTime), Nat.zero_add] at waited
  rw [Nat.add_comm, opened, waited]
  rfl

theorem submitted_pointed_in (call : CmdCall) (queue : CmdQueue) :
    pointedAt queue.ctx.mboxDmaBase (submitted call queue).mem protBlockInPtrOff = 0 := by
  have pointer := entry_in_ptr call queue
  rw [entryInPtr] at pointer
  rw [pointedAt, pointer, BitVec.sub_self]
  rfl

theorem submitted_pointed_out (call : CmdCall) (queue : CmdQueue) :
    pointedAt queue.ctx.mboxDmaBase (submitted call queue).mem protBlockOutPtrOff = 4096 := by
  have pointer := entry_out_ptr call queue
  rw [entryOutPtr] at pointer
  rw [pointedAt, pointer, BitVec.add_comm, BitVec.add_sub_cancel]
  rfl

theorem submitted_word (call : CmdCall) (queue : CmdQueue) {offset w : Nat} (whole : w / 8 * 8 = w)
    (inside : offset + w / 8 ≤ 4096) :
    loadBE (window (submitted call queue).mem.mboxPool 0) offset w =
      loadBE (requestMailbox call) offset w := by
  apply load_be_congr whole
  intro index bound
  have written := submitted_in_mbox call queue (offset + index) (by omega)
  rwa [inMbox, in_mbox_offset_zero] at written

theorem payload_beyond (call : CmdCall) (index : Nat) (beyond : 4080 ≤ index) :
    payload call index = 0 := by
  have short := in_copy_len_le call
  unfold payload
  cases call.inData with
  | none => rfl
  | some data =>
      dsimp only
      rw [if_neg (by omega)]

theorem fetch_submitted (call : CmdCall) (queue : CmdQueue) :
    fetch queue.ctx.mboxDmaBase (submitted call queue).mem = requestOf call := by
  have length : (mlx5CmdMailboxSize : BitVec 32).toNat = 4096 := rfl
  simp only [fetch, requestOf, Request.mk.injEq, submitted_pointed_in, submitted_in_len, length]
  refine ⟨?_, ?_, ?_, ?_⟩
  · rw [submitted_word call queue (by decide) (by decide)]
    exact request_mailbox_opcode call
  · rw [submitted_word call queue (by decide) (by decide)]
    exact request_mailbox_uid call
  · rw [submitted_word call queue (by decide) (by decide)]
    exact request_mailbox_op_mod call
  · funext index
    by_cases inside : 16 + index < 4096
    · have written := submitted_in_mbox call queue (16 + index) inside
      rw [inMbox, in_mbox_offset_zero, request_mailbox_payload] at written
      rw [if_pos inside]
      exact written
    · rw [if_neg inside, payload_beyond call index (by omega)]

theorem status_byte_owner (deliveryStatus : BitVec 7) :
    ownerOf (statusByte deliveryStatus) = mlx5CmdOwnerSw := by
  revert deliveryStatus
  decide

theorem status_byte_delivery (deliveryStatus : BitVec 7) :
    deliveryOf (statusByte deliveryStatus) = deliveryStatus.setWidth 8 := by
  revert deliveryStatus
  decide

theorem complete_status (base : BitVec 64) (reply : Reply) (ctx : Mlx5CmdContext)
    (mem : DmaMemory) :
    readStatus ctx 0#32 (complete base reply mem) = statusByte reply.deliveryStatus := by
  rw [readStatus, entry_offset_zero, Nat.zero_add]
  exact store_byte mem.ring protBlockStatusOff (statusByte reply.deliveryStatus)

theorem complete_out_mbox (call : CmdCall) (queue : CmdQueue) (reply : Reply) (index : Nat)
    (inside : index < 4096) :
    outMbox 0#32 (complete queue.ctx.mboxDmaBase reply (submitted call queue).mem) index =
      replyMailbox reply index := by
  have cleared := submitted_out_mbox call queue index inside
  rw [outMbox, window, out_mbox_offset_zero] at cleared ⊢
  simp only [complete, submitted_pointed_out, replyMailbox]
  by_cases written : index < reply.length
  · rw [if_pos written]
    exact copy_in_inside _ _ _ _ _ written
  · rw [if_neg written, copy_in_outside _ _ _ _ _ (by omega)]
    exact cleared

theorem copy_response_data (call : CmdCall) (mailbox : Bytes) :
    copyResponse call mailbox = responseData call mailbox := by
  have length : (outCopyLen call).toNat = min 4088 call.outLen.toNat := by
    have size : (mlx5CmdMailboxSize - 8).toNat = 4088 := rfl
    unfold outCopyLen
    split_ifs with long
    · rw [BitVec.lt_def, size] at long
      omega
    · rw [BitVec.lt_def, size] at long
      omega
  unfold copyResponse responseData
  cases call.outData with
  | none => rfl
  | some data =>
      dsimp only [Option.map_some]
      split_ifs with asked
      · rw [length]
      · have none : call.outLen.toNat = 0 := Nat.eq_zero_of_not_pos asked
        rw [none, Nat.min_zero]
        apply congrArg some
        funext index
        exact (copy_in_outside _ _ _ _ _ (by omega)).symm

theorem answered_result_outcome (call : CmdCall) (reply : Reply) :
    answeredResult call (statusByte reply.deliveryStatus) (replyMailbox reply) =
      outcome call reply := by
  have zero : deliveryOf (statusByte reply.deliveryStatus) = mlx5CmdDeliveryStatOk ↔
      reply.deliveryStatus = 0 := by
    rw [status_byte_delivery]
    generalize reply.deliveryStatus = deliveryStatus
    revert deliveryStatus
    decide
  unfold answeredResult outcome
  by_cases delivered : reply.deliveryStatus = 0
  · rw [if_neg (not_not.mpr (zero.mpr delivered)), if_neg (not_not.mpr delivered),
      copy_response_data]
    by_cases accepted : replyMailbox reply 0 = 0
    · have ok : replyMailbox reply mlx5MboxStatusOff = mlx5CmdStatOk := accepted
      rw [if_neg (not_not.mpr ok), if_neg (not_not.mpr accepted), ok]
      rfl
    · have refused : replyMailbox reply mlx5MboxStatusOff ≠ mlx5CmdStatOk := accepted
      rw [if_pos refused, if_pos accepted]
      rfl
  · rw [if_pos (fun same => delivered (zero.mp same)), if_pos delivered]
    rfl

theorem exec_with_unexecuted {State : Type} (firmware : Firmware State) (base : BitVec 64)
    (call : CmdCall) (queue : CmdQueue) (state : State) :
    (execWith (executeAt firmware base none) call queue state).1.1 = timedOut call ∧
      (execWith (executeAt firmware base none) call queue state).2 = state := by
  have quiet : ∀ later, 0 ≤ later → later < 0 + execFuel → ∀ mem,
      executeAt firmware base none later state mem = (state, mem) := by
    intro later _ _ mem
    rfl
  have unanswered := exec_unanswered silent call queue (fun _ _ _ => rfl)
  rw [mlx5CmdExec] at unanswered
  rw [execWith, drive_with_silent execFuel 0 _ _ _ quiet]
  exact ⟨unanswered, rfl⟩

def replied (call : CmdCall) (queue : CmdQueue) (reply : Reply) : CmdQueue :=
  { submitted call queue with
    mem := complete queue.ctx.mboxDmaBase reply (submitted call queue).mem }

theorem replied_status (call : CmdCall) (queue : CmdQueue) (reply : Reply) :
    readStatus (replied call queue reply).ctx 0#32 (replied call queue reply).mem =
      statusByte reply.deliveryStatus :=
  complete_status _ _ _ _

theorem replied_owner (call : CmdCall) (queue : CmdQueue) (reply : Reply) :
    ownerOf (readStatus (replied call queue reply).ctx 0#32 (replied call queue reply).mem) =
      mlx5CmdOwnerSw := by
  rw [replied_status]
  exact status_byte_owner _

theorem replied_noticed (call : CmdCall) (queue : CmdQueue) (reply : Reply) (left : Nat) :
    callStep (.polling (submission call queue) (left + 1)) (replied call queue reply) =
      (.sawOwner (submission call queue), replied call queue reply) := by
  have released := replied_owner call queue reply
  simp only [callStep, submission, released, if_pos]

theorem replied_result (call : CmdCall) (queue : CmdQueue) (reply : Reply) (tick spare : Nat) :
    resultOf (drive silent (spare + 5) tick (.sawOwner (submission call queue))
      (replied call queue reply)).1 = outcome call reply := by
  have tail := drive_quiet_tail silent (submission call queue) (replied call queue reply) tick spare
    (fun _ _ _ => rfl) (replied_owner call queue reply)
  have response := answered_result_congr call (statusByte reply.deliveryStatus)
    (complete_out_mbox call queue reply)
  calc
    resultOf (drive silent (spare + 5) tick (.sawOwner (submission call queue))
        (replied call queue reply)).1 =
        answeredResult call
          (readStatus (replied call queue reply).ctx 0#32 (replied call queue reply).mem)
          (outMbox 0#32 (replied call queue reply).mem) := congrArg resultOf tail
    _ = answeredResult call (statusByte reply.deliveryStatus) (replyMailbox reply) := by
      rw [replied_status]
      exact response
    _ = outcome call reply := answered_result_outcome call reply

theorem exec_with_executed {State : Type} (firmware : Firmware State) (poll : Fin pollLimit)
    (call : CmdCall) (queue : CmdQueue) (state : State) :
    (execWith (executeAt firmware queue.ctx.mboxDmaBase (some poll)) call queue state).1.1 =
        outcome call (firmware state (requestOf call)).2 ∧
      (execWith (executeAt firmware queue.ctx.mboxDmaBase (some poll)) call queue state).2 =
        (firmware state (requestOf call)).1 := by
  rcases poll with ⟨poll, inTime⟩
  have quiet : ∀ tick, tick ≠ 3 + poll → ∀ state mem,
      executeAt firmware queue.ctx.mboxDmaBase (some ⟨poll, inTime⟩) tick state mem =
        (state, mem) := by
    intro tick other state mem
    apply if_neg
    intro same
    exact other (Option.some.inj same).symm
  obtain ⟨spare, split⟩ : ∃ spare, execFuel = 3 + poll + (spare + 5 + 1) :=
    ⟨execFuel - (3 + poll) - 6, by rw [execFuel]; omega⟩
  obtain ⟨left, remaining⟩ : ∃ left, pollLimit - poll = left + 1 :=
    ⟨pollLimit - poll - 1, by omega⟩
  -- the polls before the command is executed
  have waited : driveWith (executeAt firmware queue.ctx.mboxDmaBase (some ⟨poll, inTime⟩))
      (3 + poll) 0 (.entered call) queue state =
      ((.polling (submission call queue) (left + 1), submitted call queue), state) := by
    rw [drive_with_silent _ _ _ _ _ (by intro later _ high mem; exact quiet later (by omega) state mem),
      drive_silent_until call queue inTime, remaining]
  have acted : executeAt firmware queue.ctx.mboxDmaBase (some ⟨poll, inTime⟩) (0 + (3 + poll)) state
      (submitted call queue).mem =
      ((firmware state (requestOf call)).1,
        (replied call queue (firmware state (requestOf call)).2).mem) := by
    rw [Nat.zero_add, executeAt, Option.map_some, if_pos rfl, fetch_submitted]
    rfl
  have noticed := replied_noticed call queue (firmware state (requestOf call)).2 left
  have polling : 0 < piecesLeft (.polling (submission call queue) (left + 1)) := Nat.succ_pos _
  rw [execWith, split, drive_with_add, waited]
  dsimp only
  rw [drive_with_step _ _ _ _ _ polling, acted]
  rw [replied] at noticed
  dsimp only [replied]
  rw [noticed]
  dsimp only
  rw [drive_with_silent _ _ _ _ _
    (by intro later low _ mem; exact quiet later (by omega) _ mem)]
  exact ⟨replied_result call queue _ _ _, rfl⟩

theorem driver_simulates {State : Type} (firmware : Firmware State) (now : CmdQueue × State)
    (state : State) (command : Moment × CmdCall) (same : now.2 = state) :
    (driver firmware now command).1.2 = (sequential firmware state command).1 ∧
      (driver firmware now command).2 = (sequential firmware state command).2 := by
  subst same
  rcases now with ⟨queue, state⟩
  rcases command with ⟨moment, call⟩
  cases moment with
  | none =>
      rcases exec_with_unexecuted firmware queue.ctx.mboxDmaBase call queue state with
        ⟨result, kept⟩
      exact ⟨kept, result⟩
  | some poll =>
      rcases exec_with_executed firmware poll call queue state with ⟨result, next⟩
      exact ⟨next, result⟩

/-- For every firmware, every queue and every run of calls. The firmware has
executed the requests of the answered calls, each once and in order. -/
theorem driver_sequential {State : Type} (firmware : Firmware State) (queue : CmdQueue)
    (state : State) (commands : List (Moment × CmdCall)) :
    (serveAll (driver firmware) (queue, state) commands).2 =
        (serveAll (sequential firmware) state commands).2 ∧
      (serveAll (driver (logging firmware)) (queue, state, []) commands).1.2 =
        ((serveAll firmware state (executedRequests commands)).1, executedRequests commands) := by
  constructor
  · exact (serve_all_refines (driver_simulates firmware) commands rfl).2
  · have start : (queue, state, ([] : List Request)).2 = (state, []) := rfl
    have final := (serve_all_refines (driver_simulates (logging firmware)) commands start).1
    rw [final, sequential, serve_all_refusing, serve_all_adapted]
    exact serve_all_logging firmware state [] (executedRequests commands)

end Verbifrost.Mlx5Firmware
