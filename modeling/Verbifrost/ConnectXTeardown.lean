import Verbifrost.ConnectXBringUp
import Verbifrost.Mlx5CmdOwnership

/-!
# Taking the card down

A whole life of the service: `start`, the commands of the verbs if it came up,
whatever the card does after the last of them, and `stop`, which `start` calls
itself if it did not come up. `stop` sends no command and waits for nothing: the
command memory goes back to the system with its address still in the registers
of the card, and with a request still in the hands of the card where the last
one was neither answered in time nor since.
-/

namespace Verbifrost.ConnectXTeardown

open Verbifrost.ByteMemory Verbifrost.Mlx5Registers Verbifrost.ReferenceHeap
open Verbifrost.Mlx5CmdExec Verbifrost.Mlx5CmdInit Verbifrost.Mlx5CmdAddresses
open Verbifrost.Mlx5CmdProtocol Verbifrost.Mlx5CmdSubmission Verbifrost.Mlx5CmdRing
open Verbifrost.Mlx5CmdRuns Verbifrost.Mlx5CmdOwnership
open Verbifrost.ConnectXService Verbifrost.ConnectXBringUp

set_option autoImplicit false

/-- The verbs send their commands through the queue of the service. -/
def served (commands : List (DeviceAct × CmdCall)) (service : ConnectXRDMA) : ConnectXRDMA :=
  { service with cmdQueue := afterCommands service.cmdQueue commands }

/-- What the card does to the shared memory between two events of the driver. -/
abbrev CardMove := DmaMemory → DmaMemory

def cardMoves (moves : List CardMove) (mem : DmaMemory) : DmaMemory :=
  moves.foldl (fun mem move => move mem) mem

def moved (moves : List CardMove) (service : ConnectXRDMA) : ConnectXRDMA :=
  { service with cmdQueue := withMem service.cmdQueue (cardMoves moves service.cmdQueue.mem) }

/-- Where `start` has failed it has called `stop`, which leaves the shared memory
alone: the moves of the card before it have the same effect behind it. -/
def life (outcomes : StartOutcomes) (iseg : Bytes) (commands : List (DeviceAct × CmdCall))
    (moves : List CardMove) : ConnectXRDMA :=
  let (started, service) := start outcomes (newService iseg)
  if started then stop (moved moves (served commands service)) else moved moves service

/-- All commands of a life, those of the verbs only if `start` returned true. -/
def lifeCommands (outcomes : StartOutcomes) (iseg : Bytes)
    (commands : List (DeviceAct × CmdCall)) : List (DeviceAct × CmdCall) :=
  sent outcomes iseg ++ if (accepted outcomes iseg).length = 4 then commands else []

def lifeCodes (outcomes : StartOutcomes) (iseg : Bytes) (commands : List (DeviceAct × CmdCall)) :
    List IOReturn :=
  returnCodes (queuedService outcomes iseg).cmdQueue (lifeCommands outcomes iseg commands)

def lastQueue (outcomes : StartOutcomes) (iseg : Bytes) (commands : List (DeviceAct × CmdCall)) :
    CmdQueue :=
  afterCommands (queuedService outcomes iseg).cmdQueue (lifeCommands outcomes iseg commands)

/-- The card has not given entry 0 back at any time after the last command. -/
def NeverGivenBack (moves : List CardMove) (mem : DmaMemory) : Prop :=
  ∀ count, ¬Held (cardMoves (moves.take count) mem)

/-- What a life leaves behind: every reference is released once, the registers
hold the address of the ring, and entry 0 is the card's if the last command timed
out and the card has kept it since. -/
structure TornDown (outcomes : StartOutcomes) (iseg : Bytes)
    (commands : List (DeviceAct × CmdCall)) (moves : List CardMove) (after : ConnectXRDMA) :
    Prop where
  queue : after.cmdQueue = cleaned (withMem (lastQueue outcomes iseg commands)
    (cardMoves moves (lastQueue outcomes iseg commands).mem))
  once : ReleasedOnce after.heap
  released : ∃ ring mbox, (queuedService outcomes iseg).cmdQueue.ctx.cmdRingMd = some ring ∧
    (queuedService outcomes iseg).cmdQueue.ctx.mboxMd = some mbox ∧
      after.heap.released ring = 1 ∧ after.heap.released mbox = 1
  registered : ∃ dma, outcomes.cmdInit.dmaCmd = some dma ∧ registeredRing after.iseg = dma.fIOVMAddr
  lastCommand : ¬Held (lastQueue outcomes iseg commands).mem ↔
    (lifeCodes outcomes iseg commands).getLast? = some .timeout
  inFlight : ¬Held after.cmdQueue.mem ↔
    (lifeCodes outcomes iseg commands).getLast? = some .timeout ∧
      NeverGivenBack moves (lastQueue outcomes iseg commands).mem

theorem after_commands_append (queue : CmdQueue) (first later : List (DeviceAct × CmdCall)) :
    afterCommands queue (first ++ later) = afterCommands (afterCommands queue first) later :=
  List.foldl_append

theorem return_codes_append (queue : CmdQueue) (first later : List (DeviceAct × CmdCall)) :
    returnCodes queue (first ++ later) =
      returnCodes queue first ++ returnCodes (afterCommands queue first) later := by
  induction first generalizing queue with
  | nil => rfl
  | cons command rest induction =>
      rcases command with ⟨act, call⟩
      rw [after_commands_cons, List.cons_append, returnCodes, eachCall]
      exact congrArg _ (induction _)

theorem run_references (queue : CmdQueue) (commands : List (DeviceAct × CmdCall)) :
    queueReferences (afterCommands queue commands).ctx = queueReferences queue.ctx := by
  induction commands generalizing queue with
  | nil => rfl
  | cons command rest induction =>
      rcases command with ⟨act, call⟩
      rw [after_commands_cons, induction, exec_queue_references]

/-- After a run the entry is the driver's, unless its last command has timed out. -/
theorem run_returns_entry {queue : CmdQueue} {commands : List (DeviceAct × CmdCall)}
    (held : Held queue.mem) (owner : ∀ command ∈ commands, ActsAsOwner command.1) :
    ¬Held (afterCommands queue commands).mem ↔
      (returnCodes queue commands).getLast? = some .timeout := by
  rcases List.eq_nil_or_concat commands with none | ⟨before, ⟨act, call⟩, split⟩
  · rw [none]
    apply iff_of_false
    · exact not_not.mpr held
    · intro timeout
      cases timeout
  · have last := owner (act, call) (by simp [split])
    have codes : (returnCodes queue (before ++ [(act, call)])).getLast? =
        some (returnCode act call (afterCommands queue before)) := by
      rw [return_codes_append]
      exact List.getLast?_concat
    rw [split, List.concat_eq_append, codes, Option.some_inj, call_returns_entry last,
      after_commands_append]
    rfl

theorem held_stays {moves : List CardMove} {mem : DmaMemory} (held : Held mem)
    (owner : ∀ move ∈ moves, ActsAsOwner fun _ => move) : cardMoves moves mem = mem := by
  induction moves with
  | nil => rfl
  | cons move rest induction =>
      rcases List.forall_mem_cons.mp owner with ⟨first, later⟩
      have still : move mem = mem := first 0 mem held
      rw [cardMoves, List.foldl_cons, still]
      exact induction later

theorem card_moves_keep_iff {moves : List CardMove} {mem : DmaMemory}
    (owner : ∀ move ∈ moves, ActsAsOwner fun _ => move) :
    ¬Held (cardMoves moves mem) ↔ NeverGivenBack moves mem := by
  constructor
  · intro kept count given
    have later : cardMoves moves mem =
        cardMoves (moves.drop count) (cardMoves (moves.take count) mem) := by
      rw [cardMoves, cardMoves, cardMoves, ← List.foldl_append, List.take_append_drop]
    rw [later, held_stays given (fun move member => owner move (List.mem_of_mem_drop member))] at kept
    exact kept given
  · intro never
    have whole := never moves.length
    rwa [List.take_length] at whole

section Ready

variable {outcomes : StartOutcomes} (iseg : Bytes) (ready : ReadyForCommands outcomes)

/-- The service that `mlx5_cmd_init` is called for. -/
def mappedService (outcomes : StartOutcomes) (iseg : Bytes) : ConnectXRDMA :=
  (mapBAR0 outcomes (retained iseg)).2

theorem mapped_service_owns (outcomes : StartOutcomes) :
    OwnsNoQueue (mappedService outcomes iseg) :=
  map_bar0_owns outcomes _ (retained_owns iseg) rfl

theorem queued_service_succeeded (ready : ReadyForCommands outcomes) :
    (initCmdQueue outcomes (mappedService outcomes iseg)).1 = .success :=
  (init_cmd_queue_success outcomes _ (mapped_service_owns iseg outcomes)).mpr
    ⟨ready.ring, ready.kept⟩

theorem served_published (outcomes : StartOutcomes) (service : ConnectXRDMA)
    (commands : List (DeviceAct × CmdCall)) :
    served commands (publish outcomes service) =
      { service with
        cmdQueue := afterCommands service.cmdQueue commands
        properties := (publish outcomes service).properties } := rfl

/-- Whether `start` succeeds or not, `stop` finds the service with all commands
and all moves of the card behind it. -/
theorem life_ready (ready : ReadyForCommands outcomes) (commands : List (DeviceAct × CmdCall))
    (moves : List CardMove) :
    ∃ properties, life outcomes iseg commands moves = stop (moved moves
      { queuedService outcomes iseg with
        cmdQueue := lastQueue outcomes iseg commands
        properties := properties }) := by
  by_cases all : (accepted outcomes iseg).length = 4
  · apply Exists.intro (publish outcomes (scriptedService outcomes iseg)).properties
    rw [life, start_ready iseg ready, if_pos all, lastQueue, lifeCommands, if_pos all,
      after_commands_append]
    simp only [if_true, served_published]
    simp only [scriptedService]
  · apply Exists.intro (scriptedService outcomes iseg).properties
    rw [life, start_ready iseg ready, if_neg all, lastQueue, lifeCommands, if_neg all,
      List.append_nil]
    simp only [Bool.false_eq_true, if_false]
    simp only [scriptedService]
    rfl

theorem queued_ring_registered (ready : ReadyForCommands outcomes) :
    ∃ dma, outcomes.cmdInit.dmaCmd = some dma ∧
      registeredRing (queuedService outcomes iseg).iseg = dma.fIOVMAddr := by
  rcases ring_kept ready.ring ready.kept with ⟨dma, created, set, counted, pool⟩
  rcases not_or.mp counted with ⟨mapping, count⟩
  have mapped : Mapped dma := ⟨not_not.mp set, not_not.mp mapping, count⟩
  rcases Option.isSome_iff_exists.mp ready.ring with ⟨ringBuffer, ring⟩
  rcases Option.isSome_iff_exists.mp pool with ⟨mboxBuffer, mailboxes⟩
  obtain ⟨ctx, initialised, continued, _, _⟩ := cmd_init_mapped ring created mapped
    (mappedService outcomes iseg).bar0 (mappedService outcomes iseg).bar0Size
    (mappedService outcomes iseg).iseg (mappedService outcomes iseg).heap
  have left : (queuedService outcomes iseg).iseg = isegWrite32
      (registerRing (mappedService outcomes iseg).iseg dma.fIOVMAddr) mlx5IsegCmdDoorbell
        0xFFFFFFFF := by
    have state := congrArg CmdInitState.iseg continued
    simp only [initMailboxes, mailboxes] at state
    exact state
  exact ⟨dma, created, by rw [left, registered_ring_doorbell, registered_ring_write]⟩

theorem queued_entry_held (ready : ReadyForCommands outcomes) :
    Held (queuedService outcomes iseg).cmdQueue.mem := by
  have initialised := cmd_init_entry_released outcomes.cmdInit _ _ _ _
    (queued_service_succeeded iseg ready)
  rwa [read_status_zero] at initialised

theorem queued_descriptors (ready : ReadyForCommands outcomes) :
    ∃ ring mbox, (queuedService outcomes iseg).cmdQueue.ctx.cmdRingMd = some ring ∧
      (queuedService outcomes iseg).cmdQueue.ctx.mboxMd = some mbox ∧
        ring ∈ references (queuedService outcomes iseg) ∧
          mbox ∈ references (queuedService outcomes iseg) := by
  have settled := (mapped_service_owns iseg outcomes).owns.settled
  rcases cmd_init_ready outcomes.cmdInit _ _ _ _ _ settled ready.ring ready.kept with ⟨mbox, queue⟩
  have ringPointer : (queuedService outcomes iseg).cmdQueue.ctx.cmdRingMd =
      some (mappedService outcomes iseg).heap.next := queue.ringPointer
  have mboxPointer : (queuedService outcomes iseg).cmdQueue.ctx.mboxMd = some mbox :=
    queue.mboxPointer
  refine ⟨_, mbox, ringPointer, mboxPointer, ?_, ?_⟩
  · simp [references, queueReferences, ringPointer]
  · simp [references, queueReferences, mboxPointer]

/-- For every outcome of the IOKit calls that lets the queue be set up, every
behaviour of the firmware that keeps to the owner bit, during the commands and
after them, and all commands that the verbs send while the service is up. -/
theorem life_torn_down (ready : ReadyForCommands outcomes) (commands : List (DeviceAct × CmdCall))
    (moves : List CardMove)
    (owner : ∀ command ∈ lifeCommands outcomes iseg commands, ActsAsOwner command.1)
    (later : ∀ move ∈ moves, ActsAsOwner fun _ => move) :
    TornDown outcomes iseg commands moves (life outcomes iseg commands moves) := by
  rcases life_ready iseg ready commands moves with ⟨properties, ended⟩
  have owns : Owns (queuedService outcomes iseg) :=
    init_cmd_queue_owns outcomes _ (mapped_service_owns iseg outcomes) ready.kept
  have keeps : KeepsReferences (queuedService outcomes iseg)
      (moved moves { queuedService outcomes iseg with
        cmdQueue := lastQueue outcomes iseg commands
        properties := properties }) := by
    constructor
    · simp only [references, moved, withMem, lastQueue, run_references]
    · rfl
  have once := owns_stop (owns_of_keeps keeps owns)
  have released : ∀ handle ∈ references (queuedService outcomes iseg),
      (life outcomes iseg commands moves).heap.released handle = 1 := by
    intro handle member
    rw [ended]
    apply once
    rw [stop, free_hardware_heap, release_all_next]
    exact owns.settled.allocated handle (List.mem_toFinset.mpr member)
  have lastCommand := run_returns_entry (queued_entry_held iseg ready) owner
  rcases queued_descriptors iseg ready with ⟨ring, mbox, ringPointer, mboxPointer, ofRing, ofMbox⟩
  constructor
  · rw [ended]
    rfl
  · rw [ended]
    exact once
  · exact ⟨ring, mbox, ringPointer, mboxPointer, released ring ofRing, released mbox ofMbox⟩
  · rw [ended]
    exact queued_ring_registered iseg ready
  · exact lastCommand
  · have kept : ¬Held (life outcomes iseg commands moves).cmdQueue.mem ↔
        NeverGivenBack moves (lastQueue outcomes iseg commands).mem := by
      rw [ended]
      exact card_moves_keep_iff later
    rw [kept]
    constructor
    · intro never
      exact ⟨lastCommand.mp (never 0), never⟩
    · intro both
      exact both.2

end Ready

/-- The card boots and answers no command. -/
def silentCard : StartOutcomes where
  superStart := true
  providerIsPci := true
  vendorID := 0x15B3
  deviceID := 0x1015
  bar0Length := some 0x2000000
  bar0Address := some 0x10000000
  initializing := fun _ => 0
  cmdInit := ringAllocated
  enableHca := silentDevice
  queryPages := silentDevice
  queryHcaCap := silentDevice
  initHca := silentDevice

theorem silent_card_ready : ReadyForCommands silentCard where
  superStart := rfl
  pciProvider := rfl
  reached := ⟨rfl, ⟨0x10000000, rfl, by decide⟩, 0, by decide, by decide⟩
  ring := rfl
  kept := by
    rintro ⟨_, set | mapped | counted | pool⟩
    · exact set rfl
    · exact mapped rfl
    · exact absurd counted (by decide)
    · cases pool

theorem silent_card_commands :
    lifeCommands silentCard zeroBytes [] = [(silentDevice, enableHcaCall)] := by
  have refused : ¬(mlx5CmdExec silentDevice enableHcaCall
      (queuedService silentCard zeroBytes).cmdQueue).1.ret = .success := by
    intro success
    have timeout := silent_times_out enableHcaCall (queuedService silentCard zeroBytes).cmdQueue
    rw [returnCode, success] at timeout
    cases timeout
  have first : sent silentCard zeroBytes = [(silentDevice, enableHcaCall)] := by
    rw [sent, bringUpScript, sentUntilFailure]
    exact congrArg _ (if_neg refused)
  rw [lifeCommands, ite_self, List.append_nil, first]

/-- The card completes a command that it still has. -/
def completes : CardMove := fun mem => if Held mem then mem else writeStatus zeroContext 0#32 0 mem

theorem completes_given_back (mem : DmaMemory) : Held (completes mem) := by
  unfold completes
  split_ifs with held
  · exact held
  · exact write_status_zero zeroContext 0 mem

theorem completes_gives_back (mem : DmaMemory) : ¬NeverGivenBack [completes] mem :=
  fun never => never 1 (completes_given_back mem)

theorem idle_card_keeps {mem : DmaMemory} (busy : ¬Held mem) : NeverGivenBack [] mem := by
  intro count
  rw [List.take_nil]
  exact busy

theorem silent_card_owner :
    ∀ command ∈ lifeCommands silentCard zeroBytes [], ActsAsOwner command.1 := by
  intro command member
  rw [silent_card_commands, List.mem_singleton] at member
  rw [member]
  exact fun _ _ _ => rfl

theorem silent_card_timed_out : (lifeCodes silentCard zeroBytes []).getLast? = some .timeout := by
  rw [lifeCodes, silent_card_commands, returnCodes, eachCall, silent_times_out]
  rfl

/-- `start` gives up after the first command and releases the memory under it,
or under what the card has completed in the meantime. -/
theorem silent_card_torn_down :
    TornDown silentCard zeroBytes [] [] (life silentCard zeroBytes [] []) ∧
      ¬Held (life silentCard zeroBytes [] []).cmdQueue.mem ∧
        TornDown silentCard zeroBytes [] [completes] (life silentCard zeroBytes [] [completes]) ∧
          Held (life silentCard zeroBytes [] [completes]).cmdQueue.mem := by
  have late : ∀ move ∈ [completes], ActsAsOwner fun _ => move := by
    intro move member tick mem held
    rw [List.mem_singleton.mp member]
    exact if_pos held
  have kept := life_torn_down zeroBytes silent_card_ready [] [] silent_card_owner (by simp)
  have given := life_torn_down zeroBytes silent_card_ready [] [completes] silent_card_owner late
  refine ⟨kept, ?_, given, ?_⟩
  · exact kept.inFlight.mpr
      ⟨silent_card_timed_out, idle_card_keeps (kept.lastCommand.mpr silent_card_timed_out)⟩
  · by_contra inFlight
    exact completes_gives_back _ (given.inFlight.mp inFlight).2

end Verbifrost.ConnectXTeardown
