import Verbifrost.ConnectXService
import Verbifrost.Mlx5CmdRuns

/-!
# Bringing the card up

`start` as a script: once the command queue is set up the service sends four
commands in a fixed order and stops at the first that fails. What `start`
returns, the commands the device has seen and the registry entries left behind
follow from how far the script came, and the entries of the commands that were
accepted stay when a later one fails.
-/

namespace Verbifrost.ConnectXBringUp

open Verbifrost.ByteMemory Verbifrost.Mlx5Registers Verbifrost.ReferenceHeap
open Verbifrost.Mlx5CmdExec Verbifrost.Mlx5CmdInit Verbifrost.Mlx5CmdRing Verbifrost.ConnectXService
open Verbifrost.Mlx5CmdRuns (CountersClear cmd_init_counters)

set_option autoImplicit false

abbrev Entries := List (String × PropertyValue)

/-- A command, and the entries made of its response when it is accepted. -/
structure ScriptStep where
  act : DeviceAct
  call : CmdCall
  entries : Bytes → Entries

def runStep (step : ScriptStep) (service : ConnectXRDMA) : IOReturn × ConnectXRDMA :=
  let (result, queue) := mlx5CmdExec step.act step.call service.cmdQueue
  let service := { service with cmdQueue := queue }
  if result.ret = .success then
    (result.ret,
      { service with
        properties := step.entries (result.outData.getD zeroBytes) ++ service.properties })
  else (result.ret, service)

def runScript : List ScriptStep → ConnectXRDMA → Bool × ConnectXRDMA
  | [], service => (true, service)
  | step :: rest, service => orFail (runStep step service) (runScript rest)

def sentUntilFailure : List ScriptStep → CmdQueue → List (DeviceAct × CmdCall)
  | [], _ => []
  | step :: rest, queue =>
      let ran := mlx5CmdExec step.act step.call queue
      (step.act, step.call) :: if ran.1.ret = .success then sentUntilFailure rest ran.2 else []

def acceptedResponses : List ScriptStep → CmdQueue → List Bytes
  | [], _ => []
  | step :: rest, queue =>
      let ran := mlx5CmdExec step.act step.call queue
      if ran.1.ret = .success then
        ran.1.outData.getD zeroBytes :: acceptedResponses rest ran.2
      else []

/-- The entries that the steps make of the responses they have got. -/
def entriesOf : List ScriptStep → List Bytes → Entries
  | step :: rest, response :: later => entriesOf rest later ++ step.entries response
  | _, _ => []

theorem or_fail_success {outcome : IOReturn × ConnectXRDMA} (success : outcome.1 = .success)
    (next : ConnectXRDMA → Bool × ConnectXRDMA) : orFail outcome next = next outcome.2 :=
  if_neg (not_not.mpr success)

theorem or_fail_failed {outcome : IOReturn × ConnectXRDMA} (failed : outcome.1 ≠ .success)
    (next : ConnectXRDMA → Bool × ConnectXRDMA) : orFail outcome next = (false, outcome.2) :=
  if_pos failed

theorem run_step_eq (step : ScriptStep) (service : ConnectXRDMA) :
    runStep step service =
      ((mlx5CmdExec step.act step.call service.cmdQueue).1.ret,
        { service with
          cmdQueue := (mlx5CmdExec step.act step.call service.cmdQueue).2
          properties :=
            (if (mlx5CmdExec step.act step.call service.cmdQueue).1.ret = .success then
              step.entries
                ((mlx5CmdExec step.act step.call service.cmdQueue).1.outData.getD zeroBytes)
            else []) ++ service.properties }) := by
  simp only [runStep]
  split_ifs <;> rfl

/-- For every script: by induction on its steps. -/
theorem run_script_result (script : List ScriptStep) (service : ConnectXRDMA) :
    runScript script service =
      (decide ((acceptedResponses script service.cmdQueue).length = script.length),
        { service with
          cmdQueue := afterCommands service.cmdQueue (sentUntilFailure script service.cmdQueue)
          properties :=
            entriesOf script (acceptedResponses script service.cmdQueue) ++ service.properties }) := by
  induction script generalizing service with
  | nil => rfl
  | cons step rest induction =>
      have code : (runStep step service).1 =
          (mlx5CmdExec step.act step.call service.cmdQueue).1.ret := by
        rw [run_step_eq]
      by_cases success : (mlx5CmdExec step.act step.call service.cmdQueue).1.ret = .success
      · rw [runScript, or_fail_success (code.trans success), induction, run_step_eq]
        simp only [acceptedResponses, sentUntilFailure, if_pos success, entriesOf,
          List.length_cons, Nat.add_right_cancel_iff, List.append_assoc]
        rfl
      · have short : ¬(acceptedResponses (step :: rest) service.cmdQueue).length =
            (step :: rest).length := by
          simp only [acceptedResponses, if_neg success, List.length_nil, List.length_cons]
          omega
        have failed : (runStep step service).1 ≠ .success := by
          rw [code]
          exact success
        rw [runScript, or_fail_failed failed, decide_eq_false short, run_step_eq]
        simp only [acceptedResponses, sentUntilFailure, if_neg success, entriesOf]
        rfl

/-- The commands of `initHardware`, each with the entries made of its response. -/
def enableStep (act : DeviceAct) : ScriptStep where
  act := act
  call := enableHcaCall
  entries := fun outBuf =>
    [("HCAFunctionID", .number ((loadBE outBuf 8 16).setWidth 64) 16)]

def pagesStep (act : DeviceAct) : ScriptStep where
  act := act
  call := queryPagesCall 1
  entries := fun _ => []

/-- The capability structure follows the eight bytes of the response header. -/
def capStep (act : DeviceAct) : ScriptStep where
  act := act
  call := queryHcaCapCall
  entries := fun outBuf =>
    let cap := window outBuf 8
    [("HCAMaxQPs", .number ((1#32 <<< logMaxQpOf cap).signExtend 64) 32),
      ("HCALogMaxQP", .number ((logMaxQpOf cap).setWidth 64) 8),
      ("HCANumPorts", .number ((numPortsOf cap).setWidth 64) 8)]

def initStep (act : DeviceAct) : ScriptStep where
  act := act
  call := ConnectXService.initHcaCall
  entries := fun _ => []

def bringUpScript (outcomes : StartOutcomes) : List ScriptStep :=
  [enableStep outcomes.enableHca, pagesStep outcomes.queryPages, capStep outcomes.queryHcaCap,
    initStep outcomes.initHca]

theorem send_enable_hca_step (act : DeviceAct) (service : ConnectXRDMA) :
    sendEnableHCA act service = runStep (enableStep act) service := rfl

theorem query_pages_step (act : DeviceAct) (pagesNeeded : BitVec 16) (service : ConnectXRDMA) :
    ((queryPages act 1 pagesNeeded service).1, (queryPages act 1 pagesNeeded service).2.2) =
      runStep (pagesStep act) service := by
  simp only [run_step_eq, pagesStep, ite_self, List.nil_append, queryPages]
  split_ifs <;> rfl

theorem query_hca_cap_step (act : DeviceAct) (service : ConnectXRDMA) :
    queryHcaCap act service = runStep (capStep act) service := by
  simp only [run_step_eq, queryHcaCap]
  by_cases success : (mlx5CmdExec act queryHcaCapCall service.cmdQueue).1.ret = .success
  · have accepted : (mlx5CmdExec (capStep act).act (capStep act).call service.cmdQueue).1.ret =
        .success := success
    rw [if_neg (not_not.mpr success), if_pos accepted, accepted]
    rfl
  · have refused : ¬(mlx5CmdExec (capStep act).act (capStep act).call service.cmdQueue).1.ret =
        .success := success
    rw [if_pos success, if_neg refused]
    rfl

theorem init_hca_step (act : DeviceAct) (service : ConnectXRDMA) :
    initHca act service = runStep (initStep act) service := by
  simp only [run_step_eq, initStep, ite_self, List.nil_append, initHca]

theorem send_commands_script (outcomes : StartOutcomes) (service : ConnectXRDMA) :
    sendCommands outcomes service = runScript (bringUpScript outcomes) service := by
  have paged := query_pages_step outcomes.queryPages 0
  simp only [sendCommands, bringUpScript, runScript, send_enable_hca_step, query_hca_cap_step,
    init_hca_step]
  congr 1
  funext service
  rw [← paged]

theorem sent_prefix (script : List ScriptStep) (queue : CmdQueue) :
    sentUntilFailure script queue <+: script.map fun step => (step.act, step.call) := by
  induction script generalizing queue with
  | nil => exact List.prefix_rfl
  | cons step rest induction =>
      simp only [sentUntilFailure, List.map_cons]
      apply (List.prefix_cons_inj _).mpr
      split_ifs
      · exact induction _
      · exact List.nil_prefix

theorem sent_length (script : List ScriptStep) (queue : CmdQueue) :
    (sentUntilFailure script queue).length =
      min script.length ((acceptedResponses script queue).length + 1) := by
  induction script generalizing queue with
  | nil => rfl
  | cons step rest induction =>
      simp only [sentUntilFailure, acceptedResponses]
      split_ifs
      · simp only [List.length_cons, induction]
        omega
      · simp only [List.length_cons, List.length_nil]
        omega

/-- Every step of `start` before the first command goes well. -/
structure ReadyForCommands (outcomes : StartOutcomes) : Prop where
  superStart : outcomes.superStart = true
  pciProvider : outcomes.providerIsPci = true
  reached : ReachesCmdInit outcomes
  ring : outcomes.cmdInit.ringBuffer.isSome = true
  kept : ¬RingLost outcomes.cmdInit

/-- The service after `initCmdQueue`. -/
def queuedService (outcomes : StartOutcomes) (iseg : Bytes) : ConnectXRDMA :=
  (initCmdQueue outcomes (mapBAR0 outcomes (retained iseg)).2).2

def accepted (outcomes : StartOutcomes) (iseg : Bytes) : List Bytes :=
  acceptedResponses (bringUpScript outcomes) (queuedService outcomes iseg).cmdQueue

def sent (outcomes : StartOutcomes) (iseg : Bytes) : List (DeviceAct × CmdCall) :=
  sentUntilFailure (bringUpScript outcomes) (queuedService outcomes iseg).cmdQueue

/-- The queue of a service that was stopped: both descriptors are gone. -/
def cleaned (queue : CmdQueue) : CmdQueue :=
  { queue with ctx := { queue.ctx with mboxMd := none, cmdRingMd := none } }

def publishedEntries (outcomes : StartOutcomes) : Entries :=
  [("DeviceID", .number (outcomes.deviceID.setWidth 64) 16),
    ("VendorID", .number (outcomes.vendorID.setWidth 64) 16),
    ("RDMAProvider", .text "VerbifrostConnectX"), ("VerbifrostRDMA", .yes)]

/-- What `start` returns and leaves behind. -/
structure FollowsScript (outcomes : StartOutcomes) (iseg : Bytes)
    (result : Bool × ConnectXRDMA) : Prop where
  returned : result.1 = true ↔ ReadyForCommands outcomes ∧ (accepted outcomes iseg).length = 4
  inOrder : sent outcomes iseg <+: (bringUpScript outcomes).map fun step => (step.act, step.call)
  oneFurther : (sent outcomes iseg).length = min 4 ((accepted outcomes iseg).length + 1)
  queue : ReadyForCommands outcomes → result.2.cmdQueue =
    (if result.1 then id else cleaned)
      (afterCommands (queuedService outcomes iseg).cmdQueue (sent outcomes iseg))
  entries : ReadyForCommands outcomes → result.2.properties =
    (if result.1 then publishedEntries outcomes else []) ++
      entriesOf (bringUpScript outcomes) (accepted outcomes iseg)
  untouched : ¬ReadyForCommands outcomes →
    result.2.properties = [] ∧ CountersClear result.2.cmdQueue.ctx

/-- No command was sent and nothing was entered in the registry. -/
structure Untouched (service : ConnectXRDMA) : Prop where
  entries : service.properties = []
  counters : CountersClear service.cmdQueue.ctx

theorem untouched_stop {service : ConnectXRDMA} (untouched : Untouched service) :
    Untouched (stop service) where
  entries := untouched.entries
  counters := ⟨untouched.counters.token, untouched.counters.total, untouched.counters.failed⟩

theorem untouched_retained (iseg : Bytes) : Untouched (retained iseg) where
  entries := rfl
  counters := ⟨rfl, rfl, rfl⟩

theorem untouched_map_bar0 (outcomes : StartOutcomes) {service : ConnectXRDMA}
    (untouched : Untouched service) : Untouched (mapBAR0 outcomes service).2 := by
  unfold mapBAR0
  cases outcomes.bar0Length with
  | none => exact untouched
  | some length =>
      cases outcomes.bar0Address with
      | none => exact ⟨untouched.entries, untouched.counters⟩
      | some address => exact ⟨untouched.entries, untouched.counters⟩

theorem untouched_init_queue (outcomes : StartOutcomes) {service : ConnectXRDMA}
    (untouched : Untouched service) : Untouched (initCmdQueue outcomes service).2 where
  entries := untouched.entries
  counters := cmd_init_counters outcomes.cmdInit _ _ _ _

/-- What `start` makes of the end of the bring-up. -/
def concluded (outcomes : StartOutcomes) (result : Bool × ConnectXRDMA) : Bool × ConnectXRDMA :=
  if result.1 = false then (false, stop result.2) else (true, publish outcomes result.2)

theorem start_retained {outcomes : StartOutcomes} (iseg : Bytes)
    (superStart : outcomes.superStart = true) (pciProvider : outcomes.providerIsPci = true) :
    start outcomes (newService iseg) = concluded outcomes (initHardware outcomes (retained iseg)) := by
  simp only [start, superStart, pciProvider]
  rfl

theorem init_cmd_queue_success (outcomes : StartOutcomes) (service : ConnectXRDMA)
    (owns : OwnsNoQueue service) :
    (initCmdQueue outcomes service).1 = .success ↔
      outcomes.cmdInit.ringBuffer.isSome = true ∧ ¬RingLost outcomes.cmdInit := by
  constructor
  · intro succeeded
    have kept : ¬RingLost outcomes.cmdInit := fun lost =>
      (init_cmd_queue_dangles outcomes service lost).1 succeeded
    refine ⟨?_, kept⟩
    rcases Option.eq_none_or_eq_some outcomes.cmdInit.ringBuffer with missing | ⟨buffer, found⟩
    · have failed := (cmd_init_no_ring outcomes.cmdInit service.bar0 service.bar0Size service.iseg
        service.heap missing).1
      exact absurd succeeded failed
    · rw [found]
      rfl
  · rintro ⟨ring, kept⟩
    rcases cmd_init_ready outcomes.cmdInit service.bar0 service.bar0Size service.iseg service.heap _
      owns.owns.settled ring kept with ⟨_, ready⟩
    exact ready.succeeded

theorem init_hardware_ready {outcomes : StartOutcomes} (iseg : Bytes)
    (ready : ReadyForCommands outcomes) :
    initHardware outcomes (retained iseg) = sendCommands outcomes (queuedService outcomes iseg) := by
  rcases ready.reached with ⟨bar0, ⟨address, atAddress, present⟩, boots⟩
  rcases Option.isSome_iff_exists.mp bar0 with ⟨length, found⟩
  have mapped : (mapBAR0 outcomes (retained iseg)).1 = .success ∧
      (mapBAR0 outcomes (retained iseg)).2.initSeg = address + mlx5InitSegOffset := by
    simp [mapBAR0, found, atAddress]
  have read : (readInitSegment (mapBAR0 outcomes (retained iseg)).2).1 = .success := by
    simp [readInitSegment, mapped.2, present]
  have waited := (wait_for_initializing_success outcomes (mapBAR0 outcomes (retained iseg)).2).mpr boots
  have queued := (init_cmd_queue_success outcomes _
    (map_bar0_owns outcomes _ (retained_owns iseg) rfl)).mpr ⟨ready.ring, ready.kept⟩
  rw [init_hardware_eq, or_fail_success mapped.1, or_fail_success read, read_init_segment_service,
    or_fail_success waited]
  exact or_fail_success queued _

structure EndedEarly (result : Bool × ConnectXRDMA) : Prop where
  returned : result.1 = false
  untouched : Untouched result.2

theorem or_fail_ended {outcome : IOReturn × ConnectXRDMA}
    {next : ConnectXRDMA → Bool × ConnectXRDMA} (untouched : Untouched outcome.2)
    (continued : outcome.1 = .success → EndedEarly (next outcome.2)) :
    EndedEarly (orFail outcome next) := by
  by_cases success : outcome.1 = .success
  · rw [or_fail_success success]
    exact continued success
  · rw [or_fail_failed success]
    exact ⟨rfl, untouched⟩

theorem init_hardware_not_ready {outcomes : StartOutcomes} (iseg : Bytes)
    (superStart : outcomes.superStart = true) (pciProvider : outcomes.providerIsPci = true)
    (notReady : ¬ReadyForCommands outcomes) :
    EndedEarly (initHardware outcomes (retained iseg)) := by
  have owned := map_bar0_owns outcomes _ (retained_owns iseg) rfl
  have mapped := untouched_map_bar0 outcomes (untouched_retained iseg)
  rw [init_hardware_eq]
  apply or_fail_ended mapped
  intro mapSucceeded
  have found := map_bar0_success mapSucceeded
  apply or_fail_ended (by rwa [read_init_segment_service])
  intro readSucceeded
  have present := read_init_segment_success readSucceeded
  rw [read_init_segment_service]
  refine or_fail_ended mapped ?_
  intro waitSucceeded
  have boots := (wait_for_initializing_success outcomes _).mp waitSucceeded
  have reached : ReachesCmdInit outcomes := by
    rcases found with ⟨bar0, address, atAddress, initSeg⟩
    rw [initSeg] at present
    exact ⟨bar0, ⟨address, atAddress, present⟩, boots⟩
  refine or_fail_ended (untouched_init_queue outcomes mapped) ?_
  intro queueSucceeded
  have queue := (init_cmd_queue_success outcomes _ owned).mp queueSucceeded
  exact absurd ⟨superStart, pciProvider, reached, queue.1, queue.2⟩ notReady

theorem start_not_ready {outcomes : StartOutcomes} (iseg : Bytes)
    (notReady : ¬ReadyForCommands outcomes) : EndedEarly (start outcomes (newService iseg)) := by
  have fresh : Untouched (newService iseg) := ⟨rfl, rfl, rfl, rfl⟩
  by_cases superStart : outcomes.superStart = true
  · by_cases pciProvider : outcomes.providerIsPci = true
    · have ended := init_hardware_not_ready iseg superStart pciProvider notReady
      rw [start_retained iseg superStart pciProvider, concluded, if_pos ended.returned]
      exact ⟨rfl, untouched_stop ended.untouched⟩
    · have notPci := Bool.eq_false_iff.mpr pciProvider
      simp only [start, superStart, notPci]
      exact ⟨rfl, fresh.entries, fresh.counters⟩
  · have refused := Bool.eq_false_iff.mpr superStart
    simp only [start, refused]
    exact ⟨rfl, fresh⟩

def scriptedService (outcomes : StartOutcomes) (iseg : Bytes) : ConnectXRDMA :=
  { queuedService outcomes iseg with
    cmdQueue := afterCommands (queuedService outcomes iseg).cmdQueue (sent outcomes iseg)
    properties := entriesOf (bringUpScript outcomes) (accepted outcomes iseg) }

theorem queued_service_entries (outcomes : StartOutcomes) (iseg : Bytes) :
    (queuedService outcomes iseg).properties = [] := by
  have mapped := untouched_map_bar0 outcomes (untouched_retained iseg)
  exact (untouched_init_queue outcomes mapped).entries

theorem bring_up_result (outcomes : StartOutcomes) (iseg : Bytes) :
    runScript (bringUpScript outcomes) (queuedService outcomes iseg) =
      (decide ((accepted outcomes iseg).length = 4), scriptedService outcomes iseg) := by
  have script := run_script_result (bringUpScript outcomes) (queuedService outcomes iseg)
  rw [queued_service_entries, List.append_nil] at script
  exact script

theorem start_ready {outcomes : StartOutcomes} (iseg : Bytes) (ready : ReadyForCommands outcomes) :
    start outcomes (newService iseg) =
      if (accepted outcomes iseg).length = 4 then
        (true, publish outcomes (scriptedService outcomes iseg))
      else (false, stop (scriptedService outcomes iseg)) := by
  rw [start_retained iseg ready.superStart ready.pciProvider, init_hardware_ready iseg ready,
    send_commands_script, bring_up_result, concluded]
  by_cases all : (accepted outcomes iseg).length = 4
  · simp only [all, decide_true, Bool.true_eq_false, if_false, if_true]
  · simp only [all, decide_false, if_true, if_false]

/-- For every outcome of the IOKit calls and every behaviour of the firmware. -/
theorem start_follows_script (outcomes : StartOutcomes) (iseg : Bytes) :
    FollowsScript outcomes iseg (start outcomes (newService iseg)) := by
  have inOrder := sent_prefix (bringUpScript outcomes) (queuedService outcomes iseg).cmdQueue
  have oneFurther := sent_length (bringUpScript outcomes) (queuedService outcomes iseg).cmdQueue
  by_cases ready : ReadyForCommands outcomes
  · rw [start_ready iseg ready]
    by_cases all : (accepted outcomes iseg).length = 4
    · rw [if_pos all]
      constructor
      · exact ⟨fun _ => ⟨ready, all⟩, fun _ => rfl⟩
      · exact inOrder
      · exact oneFurther
      · exact fun _ => rfl
      · exact fun _ => rfl
      · exact fun claimed => absurd ready claimed
    · rw [if_neg all]
      constructor
      · simp [all]
      · exact inOrder
      · exact oneFurther
      · exact fun _ => rfl
      · exact fun _ => rfl
      · exact fun claimed => absurd ready claimed
  · have ended := start_not_ready iseg ready
    constructor
    · rw [ended.returned]
      simp [ready]
    · exact inOrder
    · exact oneFurther
    · exact fun claimed => absurd claimed ready
    · exact fun claimed => absurd claimed ready
    · exact fun _ => ⟨ended.untouched.entries, ended.untouched.counters⟩

end Verbifrost.ConnectXBringUp
