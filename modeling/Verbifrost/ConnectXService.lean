import Verbifrost.Mlx5CmdInit

/-!
# The IOKit service of the ConnectX card

`VerbifrostConnectXRDMA::start`, the bring-up sequence `initHardware` with the
four firmware commands it sends, and `stop`. The outcome of every IOKit call
and the device's behaviour during every command are arguments. The references
the service takes (the PCI device, the BAR0 map, the two descriptors of the
command queue and the transient `IODMACommand`s) live on one heap.

The PCI configuration accesses and the log lines are left out: nothing that
`start` returns or releases depends on them.
-/

namespace Verbifrost.ConnectXService

open Verbifrost.ByteMemory Verbifrost.Mlx5Registers Verbifrost.ReferenceHeap
open Verbifrost.Mlx5CmdExec Verbifrost.Mlx5CmdInit

set_option autoImplicit false

inductive PropertyValue where
  | yes
  | text (value : String)
  | number (value : BitVec 64) (bits : Nat)
deriving DecidableEq

/-- The object's fields, the registers of the init segment it maps, its
registry properties (the last one set first) and the references it has taken. -/
structure ConnectXRDMA where
  pciDevice : Option Nat
  bar0Map : Option Nat
  bar0 : BitVec 64
  bar0Size : BitVec 32
  initSeg : BitVec 64
  cmdQueue : CmdQueue
  iseg : Bytes
  properties : List (String × PropertyValue)
  heap : Heap

def newService (iseg : Bytes) : ConnectXRDMA where
  pciDevice := none
  bar0Map := none
  bar0 := 0
  bar0Size := 0
  initSeg := 0
  cmdQueue := blankQueue
  iseg := iseg
  properties := []
  heap := emptyHeap

/-- What the environment answers during one `start`. `initializing` is the
register as each poll of `waitForInitializing` reads it. -/
structure StartOutcomes where
  superStart : Bool
  providerIsPci : Bool
  vendorID : BitVec 16
  deviceID : BitVec 16
  bar0Length : Option (BitVec 64)
  bar0Address : Option (BitVec 64)
  initializing : Nat → BitVec 32
  cmdInit : CmdInitOutcomes
  enableHca : DeviceAct
  queryPages : DeviceAct
  queryHcaCap : DeviceAct
  initHca : DeviceAct

def setProperty (name : String) (value : PropertyValue) (service : ConnectXRDMA) : ConnectXRDMA :=
  { service with properties := (name, value) :: service.properties }

def mapBAR0 (outcomes : StartOutcomes) (service : ConnectXRDMA) : IOReturn × ConnectXRDMA :=
  match outcomes.bar0Length with
  | none => (.noResources, service)
  | some length =>
      let service := { service with bar0Size := length.setWidth 32 }
      match outcomes.bar0Address with
      | none => (.noResources, service)
      | some address =>
          let (map, heap) := acquire service.heap
          (.success,
            { service with
              bar0Map := some map
              bar0 := address
              initSeg := address + mlx5InitSegOffset
              heap := heap })

/-- The version and the queue parameters it reads are only logged. -/
def readInitSegment (service : ConnectXRDMA) : IOReturn × ConnectXRDMA :=
  if service.initSeg = 0#64 then (.notReady, service) else (.success, service)

def pollInitializing (outcomes : StartOutcomes) : Nat → Nat → IOReturn
  | 0, _ => .timeout
  | remaining + 1, poll =>
      if byteSwap (outcomes.initializing poll) &&& mlx5IsegInitializingBit = 0 then .success
      else pollInitializing outcomes remaining (poll + 1)

def waitForInitializing (outcomes : StartOutcomes) (service : ConnectXRDMA) :
    IOReturn × ConnectXRDMA :=
  (pollInitializing outcomes 1000 0, service)

def initCmdQueue (outcomes : StartOutcomes) (service : ConnectXRDMA) : IOReturn × ConnectXRDMA :=
  let state := mlx5CmdInit outcomes.cmdInit service.bar0 service.bar0Size service.iseg service.heap
  (state.ret, { service with cmdQueue := state.queue, iseg := state.iseg, heap := state.heap })

def enableHcaCall : CmdCall where
  opcode := mlx5CmdOpEnableHca
  opMod := 0
  inData := some zeroBytes
  inLen := 0
  outData := some zeroBytes
  outLen := 64
  outStatus := true

def sendEnableHCA (act : DeviceAct) (service : ConnectXRDMA) : IOReturn × ConnectXRDMA :=
  let (result, queue) := mlx5CmdExec act enableHcaCall service.cmdQueue
  let service := { service with cmdQueue := queue }
  if result.ret = .success then
    let outBuf := result.outData.getD zeroBytes
    let funcId := byteSwap (load outBuf 8 16)
    (result.ret, setProperty "HCAFunctionID" (.number (funcId.setWidth 64) 16) service)
  else (result.ret, service)

def queryPagesCall (type : BitVec 16) : CmdCall where
  opcode := mlx5CmdOpQueryPages
  opMod := type
  inData := none
  inLen := 0
  outData := some zeroBytes
  outLen := 16
  outStatus := true

/-- The second component is `*pages_needed` after the call, a signed 16-bit number. -/
def queryPages (act : DeviceAct) (type pagesNeeded : BitVec 16) (service : ConnectXRDMA) :
    IOReturn × BitVec 16 × ConnectXRDMA :=
  let (result, queue) := mlx5CmdExec act (queryPagesCall type) service.cmdQueue
  let service := { service with cmdQueue := queue }
  if result.ret = .success then
    let outBuf := result.outData.getD zeroBytes
    (result.ret, byteSwap (load outBuf 8 16), service)
  else (result.ret, pagesNeeded, service)

def queryHcaCapCall : CmdCall where
  opcode := mlx5CmdOpQueryHcaCap
  opMod := 0x00
  inData := none
  inLen := 0
  outData := some zeroBytes
  outLen := 1024
  outStatus := true

/-- The capability bytes `queryHcaCap` looks at, from the start of the structure. -/
def numPortsOf (cap : Bytes) : Byte := cap 0x61 &&& 0x7

def logMaxQpOf (cap : Bytes) : Byte := cap 0x18 &&& 0x3F

/-- The registry entries for the capability structure. In C the shift that
gives `HCAMaxQPs` is undefined from 31 on. -/
def publishCapabilities (cap : Bytes) (service : ConnectXRDMA) : ConnectXRDMA :=
  let numPorts := numPortsOf cap
  let logMaxQp := logMaxQpOf cap
  let service := setProperty "HCANumPorts" (.number (numPorts.setWidth 64) 8) service
  let service := setProperty "HCALogMaxQP" (.number (logMaxQp.setWidth 64) 8) service
  setProperty "HCAMaxQPs" (.number ((1#32 <<< logMaxQp).signExtend 64) 32) service

def queryHcaCap (act : DeviceAct) (service : ConnectXRDMA) : IOReturn × ConnectXRDMA :=
  let (result, queue) := mlx5CmdExec act queryHcaCapCall service.cmdQueue
  let service := { service with cmdQueue := queue }
  if result.ret ≠ .success then (result.ret, service)
  else
    let outBuf := result.outData.getD zeroBytes
    let cap := window outBuf 8
    (.success, publishCapabilities cap service)

def initHcaCall : CmdCall where
  opcode := mlx5CmdOpInitHca
  opMod := 0
  inData := some zeroBytes
  inLen := 496
  outData := some zeroBytes
  outLen := 16
  outStatus := true

def initHca (act : DeviceAct) (service : ConnectXRDMA) : IOReturn × ConnectXRDMA :=
  let (result, queue) := mlx5CmdExec act initHcaCall service.cmdQueue
  (result.ret, { service with cmdQueue := queue })

def orFail (outcome : IOReturn × ConnectXRDMA) (next : ConnectXRDMA → Bool × ConnectXRDMA) :
    Bool × ConnectXRDMA :=
  if outcome.1 ≠ .success then (false, outcome.2) else next outcome.2

def initHardware (outcomes : StartOutcomes) (service : ConnectXRDMA) : Bool × ConnectXRDMA :=
  orFail (mapBAR0 outcomes service) fun service =>
  orFail (readInitSegment service) fun service =>
  orFail (waitForInitializing outcomes service) fun service =>
  orFail (initCmdQueue outcomes service) fun service =>
  orFail (sendEnableHCA outcomes.enableHca service) fun service =>
  let (ret, _, service) := queryPages outcomes.queryPages 1 0 service
  orFail (ret, service) fun service =>
  orFail (queryHcaCap outcomes.queryHcaCap service) fun service =>
  orFail (initHca outcomes.initHca service) fun service => (true, service)

def freeHardware (service : ConnectXRDMA) : ConnectXRDMA :=
  let (ctx, heap) := mlx5CmdCleanup service.cmdQueue.ctx service.heap
  let heap := releaseIfSet service.bar0Map heap
  let heap := releaseIfSet service.pciDevice heap
  { service with
    cmdQueue := { service.cmdQueue with ctx := ctx }
    bar0Map := none
    pciDevice := none
    heap := heap }

def stop (service : ConnectXRDMA) : ConnectXRDMA := freeHardware service

def publish (outcomes : StartOutcomes) (service : ConnectXRDMA) : ConnectXRDMA :=
  let service := setProperty "VerbifrostRDMA" .yes service
  let service := setProperty "RDMAProvider" (.text "VerbifrostConnectX") service
  let service := setProperty "VendorID" (.number (outcomes.vendorID.setWidth 64) 16) service
  setProperty "DeviceID" (.number (outcomes.deviceID.setWidth 64) 16) service

def start (outcomes : StartOutcomes) (service : ConnectXRDMA) : Bool × ConnectXRDMA :=
  if outcomes.superStart = false then (false, service)
  else if outcomes.providerIsPci = false then (false, { service with pciDevice := none })
  else
    let (device, heap) := acquire service.heap
    let (ready, service) := initHardware outcomes { service with pciDevice := some device, heap := heap }
    if ready = false then (false, stop service) else (true, publish outcomes service)

/-- The references `freeHardware` releases, in its order. -/
def references (service : ConnectXRDMA) : List Nat :=
  queueReferences service.cmdQueue.ctx ++ (service.bar0Map.toList ++ service.pciDevice.toList)

theorem free_hardware_heap (service : ConnectXRDMA) :
    (freeHardware service).heap = releaseAll (references service) service.heap := by
  simp only [freeHardware, references, release_all_append, ← cleanup_heap, release_if_set]

/-- The service's pointers are exactly its unreleased references. -/
structure Owns (service : ConnectXRDMA) : Prop where
  distinct : (references service).Nodup
  settled : Settled service.heap (references service).toFinset

/-- A pointer of the service refers to something already released. -/
def Dangles (service : ConnectXRDMA) : Prop :=
  ∃ handle ∈ references service, handle < service.heap.next ∧ 1 ≤ service.heap.released handle

def ReleasedOnce (heap : Heap) : Prop := ∀ handle < heap.next, heap.released handle = 1

theorem owns_stop {service : ConnectXRDMA} (owns : Owns service) :
    ReleasedOnce (stop service).heap := by
  have settled := settled_release_all owns.distinct owns.settled
  intro handle allocated
  rw [stop, free_hardware_heap] at allocated ⊢
  simpa using settled.count handle allocated

theorem dangles_stop {service : ConnectXRDMA} (dangles : Dangles service) :
    ¬ReleasedOnce (stop service).heap := by
  intro once
  rcases dangles with ⟨handle, member, allocated, released⟩
  have twice := release_all_again member allocated released
  have exact := once handle (by simpa [stop, free_hardware_heap] using allocated)
  rw [stop, free_hardware_heap] at exact
  omega

def KeepsReferences (before after : ConnectXRDMA) : Prop :=
  references after = references before ∧ after.heap = before.heap

theorem owns_of_keeps {before after : ConnectXRDMA} (keeps : KeepsReferences before after)
    (owns : Owns before) : Owns after := by
  constructor
  · rw [keeps.1]
    exact owns.distinct
  · rw [keeps.1, keeps.2]
    exact owns.settled

theorem exec_queue_references (act : DeviceAct) (call : CmdCall) (queue : CmdQueue) :
    queueReferences (mlx5CmdExec act call queue).2.ctx = queueReferences queue.ctx := by
  rcases exec_same_queue act call queue with ⟨token, total, failed, same⟩
  rw [same]
  rfl

theorem exec_keeps (act : DeviceAct) (call : CmdCall) (service : ConnectXRDMA) :
    KeepsReferences service
      { service with cmdQueue := (mlx5CmdExec act call service.cmdQueue).2 } := by
  constructor
  · simp only [references, exec_queue_references]
  · rfl

theorem send_enable_hca_keeps (act : DeviceAct) (service : ConnectXRDMA) :
    KeepsReferences service (sendEnableHCA act service).2 := by
  have kept := exec_keeps act enableHcaCall service
  simp only [sendEnableHCA]
  split_ifs <;> exact kept

theorem query_pages_keeps (act : DeviceAct) (type pagesNeeded : BitVec 16)
    (service : ConnectXRDMA) :
    KeepsReferences service (queryPages act type pagesNeeded service).2.2 := by
  have kept := exec_keeps act (queryPagesCall type) service
  simp only [queryPages]
  split_ifs <;> exact kept

theorem query_hca_cap_keeps (act : DeviceAct) (service : ConnectXRDMA) :
    KeepsReferences service (queryHcaCap act service).2 := by
  have kept := exec_keeps act queryHcaCapCall service
  simp only [queryHcaCap]
  split_ifs <;> exact kept

theorem init_hca_keeps (act : DeviceAct) (service : ConnectXRDMA) :
    KeepsReferences service (initHca act service).2 :=
  exec_keeps act initHcaCall service

theorem or_fail_ends {property : ConnectXRDMA → Prop} {outcome : IOReturn × ConnectXRDMA}
    {next : ConnectXRDMA → Bool × ConnectXRDMA} (stopped : property outcome.2)
    (continued : outcome.1 = .success → property (next outcome.2).2) :
    property (orFail outcome next).2 := by
  unfold orFail
  split_ifs with failed
  · exact stopped
  · exact continued (not_not.mp failed)

/-- The four commands of the bring-up, after the command queue is there. -/
def sendCommands (outcomes : StartOutcomes) (service : ConnectXRDMA) : Bool × ConnectXRDMA :=
  orFail (sendEnableHCA outcomes.enableHca service) fun service =>
  let (ret, _, service) := queryPages outcomes.queryPages 1 0 service
  orFail (ret, service) fun service =>
  orFail (queryHcaCap outcomes.queryHcaCap service) fun service =>
  orFail (initHca outcomes.initHca service) fun service => (true, service)

theorem send_commands_owns (outcomes : StartOutcomes) (service : ConnectXRDMA)
    (owns : Owns service) : Owns (sendCommands outcomes service).2 := by
  have enabled := owns_of_keeps (send_enable_hca_keeps outcomes.enableHca service) owns
  apply or_fail_ends enabled
  intro _
  have paged := owns_of_keeps (query_pages_keeps outcomes.queryPages 1 0 _) enabled
  apply or_fail_ends paged
  intro _
  have queried := owns_of_keeps (query_hca_cap_keeps outcomes.queryHcaCap _) paged
  apply or_fail_ends queried
  intro _
  have initialised := owns_of_keeps (init_hca_keeps outcomes.initHca _) queried
  apply or_fail_ends initialised
  intro _
  exact initialised

/-- The service owns its references and none of them is of the command queue. -/
structure OwnsNoQueue (service : ConnectXRDMA) : Prop where
  owns : Owns service
  noRing : service.cmdQueue.ctx.cmdRingMd = none
  noMailboxes : service.cmdQueue.ctx.mboxMd = none

theorem map_bar0_owns (outcomes : StartOutcomes) (service : ConnectXRDMA)
    (before : OwnsNoQueue service) (unmapped : service.bar0Map = none) :
    OwnsNoQueue (mapBAR0 outcomes service).2 := by
  have settled := settled_acquire before.owns.settled
  have fresh : service.heap.next ∉ references service := by
    intro member
    exact Nat.lt_irrefl _ (before.owns.settled.allocated _ (List.mem_toFinset.mpr member))
  unfold mapBAR0
  cases outcomes.bar0Length with
  | none => exact before
  | some length =>
      cases outcomes.bar0Address with
      | none => exact ⟨⟨before.owns.distinct, before.owns.settled⟩, before.noRing, before.noMailboxes⟩
      | some address =>
          have distinct := before.owns.distinct
          simp only [references, queueReferences, before.noRing, before.noMailboxes, unmapped,
            Option.toList_none, List.nil_append] at distinct fresh settled
          refine ⟨⟨?_, ?_⟩, before.noRing, before.noMailboxes⟩
          · simpa [references, queueReferences, before.noRing, before.noMailboxes] using
              List.nodup_cons.mpr ⟨fresh, distinct⟩
          · simpa [references, queueReferences, before.noRing, before.noMailboxes] using settled

theorem init_cmd_queue_owns (outcomes : StartOutcomes) (service : ConnectXRDMA)
    (before : OwnsNoQueue service) (kept : ¬RingLost outcomes.cmdInit) :
    Owns (initCmdQueue outcomes service).2 := by
  rcases before with ⟨⟨distinct, settled⟩, noRing, noMailboxes⟩
  simp only [references, queueReferences, noRing, noMailboxes, Option.toList_none,
    List.nil_append] at distinct settled
  cases allocated : outcomes.cmdInit.ringBuffer with
  | none =>
      rcases cmd_init_no_ring outcomes.cmdInit service.bar0 service.bar0Size service.iseg service.heap
        allocated with ⟨_, stillNoRing, stillNoMailboxes, sameHeap⟩
      constructor
      · simpa only [references, queueReferences, initCmdQueue, stillNoRing, stillNoMailboxes,
          Option.toList_none, List.nil_append] using distinct
      · simpa only [references, queueReferences, initCmdQueue, stillNoRing, stillNoMailboxes,
          sameHeap, Option.toList_none, List.nil_append] using settled
  | some buffer =>
      rcases cmd_init_ready outcomes.cmdInit service.bar0 service.bar0Size service.iseg service.heap _
        settled (by rw [allocated]; rfl) kept with ⟨mbox, ready⟩
      have older : ∀ handle ∈ service.bar0Map.toList ++ service.pciDevice.toList,
          handle < service.heap.next := by
        intro handle member
        exact settled.allocated handle (List.mem_toFinset.mpr member)
      have ringFresh : service.heap.next ∉ service.bar0Map.toList ++ service.pciDevice.toList := by
        intro member
        exact Nat.lt_irrefl _ (older _ member)
      have mboxFresh : mbox ∉ service.heap.next ::
          (service.bar0Map.toList ++ service.pciDevice.toList) := by
        intro member
        have later := ready.later
        rcases List.mem_cons.mp member with same | member
        · omega
        · have earlier := older _ member
          omega
      have listed : references (initCmdQueue outcomes service).2 =
          mbox :: service.heap.next :: (service.bar0Map.toList ++ service.pciDevice.toList) := by
        simp only [references, queueReferences, initCmdQueue, ready.ringPointer, ready.mboxPointer]
        rfl
      constructor
      · rw [listed]
        exact List.nodup_cons.mpr ⟨mboxFresh, List.nodup_cons.mpr ⟨ringFresh, distinct⟩⟩
      · rw [listed, List.toFinset_cons, List.toFinset_cons]
        exact ready.settled

theorem init_cmd_queue_dangles (outcomes : StartOutcomes) (service : ConnectXRDMA)
    (lost : RingLost outcomes.cmdInit) :
    (initCmdQueue outcomes service).1 ≠ .success ∧ Dangles (initCmdQueue outcomes service).2 := by
  have dangling := cmd_init_ring_lost outcomes.cmdInit service.bar0 service.bar0Size service.iseg
    service.heap lost
  refine ⟨dangling.failed, service.heap.next, ?_, dangling.allocated, dangling.released⟩
  simp [references, queueReferences, initCmdQueue, dangling.pointer]

/-- The firmware clears the initializing bit while it is polled. -/
def FirmwareBoots (outcomes : StartOutcomes) : Prop :=
  ∃ poll < 1000, byteSwap (outcomes.initializing poll) &&& mlx5IsegInitializingBit = 0

theorem poll_initializing_success (outcomes : StartOutcomes) (remaining poll : Nat) :
    pollInitializing outcomes remaining poll = .success ↔
      ∃ offset < remaining,
        byteSwap (outcomes.initializing (poll + offset)) &&& mlx5IsegInitializingBit = 0 := by
  induction remaining generalizing poll with
  | zero => simp [pollInitializing]
  | succ remaining induction =>
      simp only [pollInitializing]
      by_cases cleared : byteSwap (outcomes.initializing poll) &&& mlx5IsegInitializingBit = 0
      · rw [if_pos cleared]
        exact ⟨fun _ => ⟨0, Nat.succ_pos _, cleared⟩, fun _ => rfl⟩
      · rw [if_neg cleared, induction (poll + 1)]
        constructor
        · rintro ⟨offset, bound, found⟩
          refine ⟨offset + 1, by omega, ?_⟩
          rwa [← Nat.add_assoc, Nat.add_right_comm]
        · rintro ⟨offset, bound, found⟩
          cases offset with
          | zero => exact absurd found cleared
          | succ offset =>
              refine ⟨offset, by omega, ?_⟩
              rwa [Nat.add_right_comm, Nat.add_assoc]

/-- The bring-up gets as far as `mlx5_cmd_init`. -/
structure ReachesCmdInit (outcomes : StartOutcomes) : Prop where
  bar0 : outcomes.bar0Length.isSome = true
  mapped : ∃ address, outcomes.bar0Address = some address ∧ address + mlx5InitSegOffset ≠ 0#64
  boots : FirmwareBoots outcomes

theorem map_bar0_success {outcomes : StartOutcomes} {service : ConnectXRDMA}
    (succeeded : (mapBAR0 outcomes service).1 = .success) :
    outcomes.bar0Length.isSome = true ∧ ∃ address, outcomes.bar0Address = some address ∧
      (mapBAR0 outcomes service).2.initSeg = address + mlx5InitSegOffset := by
  unfold mapBAR0 at succeeded ⊢
  cases length : outcomes.bar0Length with
  | none => simp [length] at succeeded
  | some bytes =>
      cases address : outcomes.bar0Address with
      | none => simp [length, address] at succeeded
      | some base => exact ⟨rfl, base, rfl, rfl⟩

theorem read_init_segment_success {service : ConnectXRDMA}
    (succeeded : (readInitSegment service).1 = .success) : service.initSeg ≠ 0#64 := by
  intro missing
  simp [readInitSegment, missing] at succeeded

@[simp] theorem read_init_segment_service (service : ConnectXRDMA) :
    (readInitSegment service).2 = service := by
  unfold readInitSegment
  split_ifs <;> rfl

theorem wait_for_initializing_success (outcomes : StartOutcomes) (service : ConnectXRDMA) :
    (waitForInitializing outcomes service).1 = .success ↔ FirmwareBoots outcomes := by
  have polls := poll_initializing_success outcomes 1000 0
  simp only [Nat.zero_add] at polls
  exact polls

theorem init_hardware_eq (outcomes : StartOutcomes) (service : ConnectXRDMA) :
    initHardware outcomes service =
      orFail (mapBAR0 outcomes service) fun service =>
      orFail (readInitSegment service) fun service =>
      orFail (waitForInitializing outcomes service) fun service =>
      orFail (initCmdQueue outcomes service) (sendCommands outcomes) := rfl

theorem init_hardware_owns (outcomes : StartOutcomes) (service : ConnectXRDMA)
    (before : OwnsNoQueue service) (unmapped : service.bar0Map = none)
    (kept : ¬(ReachesCmdInit outcomes ∧ RingLost outcomes.cmdInit)) :
    Owns (initHardware outcomes service).2 := by
  have mapped := map_bar0_owns outcomes service before unmapped
  rw [init_hardware_eq]
  apply or_fail_ends mapped.owns
  intro mapSucceeded
  have found := map_bar0_success mapSucceeded
  apply or_fail_ends (by simpa using mapped.owns)
  intro readSucceeded
  have present := read_init_segment_success readSucceeded
  rw [read_init_segment_service]
  refine or_fail_ends mapped.owns ?_
  intro waitSucceeded
  have boots := (wait_for_initializing_success outcomes _).mp waitSucceeded
  have reached : ReachesCmdInit outcomes := by
    rcases found with ⟨bar0, address, atAddress, initSeg⟩
    rw [initSeg] at present
    exact ⟨bar0, ⟨address, atAddress, present⟩, boots⟩
  have ringKept : ¬RingLost outcomes.cmdInit := fun lost => kept ⟨reached, lost⟩
  have queued := init_cmd_queue_owns outcomes _ mapped ringKept
  apply or_fail_ends queued
  intro _
  exact send_commands_owns outcomes _ queued

theorem init_hardware_dangles (outcomes : StartOutcomes) (service : ConnectXRDMA)
    (reached : ReachesCmdInit outcomes) (lost : RingLost outcomes.cmdInit) :
    Dangles (initHardware outcomes service).2 := by
  rcases reached with ⟨bar0, ⟨address, atAddress, present⟩, boots⟩
  rcases Option.isSome_iff_exists.mp bar0 with ⟨length, found⟩
  have mapped : (mapBAR0 outcomes service).1 = .success ∧
      (mapBAR0 outcomes service).2.initSeg = address + mlx5InitSegOffset := by
    simp [mapBAR0, found, atAddress]
  have read : (readInitSegment (mapBAR0 outcomes service).2).1 = .success := by
    simp [readInitSegment, mapped.2, present]
  have waited := (wait_for_initializing_success outcomes (mapBAR0 outcomes service).2).mpr boots
  have failed := init_cmd_queue_dangles outcomes (mapBAR0 outcomes service).2 lost
  have sameService : (waitForInitializing outcomes (mapBAR0 outcomes service).2).2 =
      (mapBAR0 outcomes service).2 := rfl
  have ended : (initHardware outcomes service).2 =
      (initCmdQueue outcomes (mapBAR0 outcomes service).2).2 := by
    rw [init_hardware_eq]
    simp only [orFail, mapped.1, read, read_init_segment_service, waited, sameService, ne_eq,
      not_true, if_false, failed.1, not_false_eq_true, if_true]
  rw [ended]
  exact failed.2

/-- `start`, and one `stop` when it returned true. -/
def startThenStop (outcomes : StartOutcomes) (iseg : Bytes) : ConnectXRDMA :=
  let (started, service) := start outcomes (newService iseg)
  if started then stop service else service

def retained (iseg : Bytes) : ConnectXRDMA :=
  { newService iseg with pciDevice := some (acquire emptyHeap).1, heap := (acquire emptyHeap).2 }

theorem retained_owns (iseg : Bytes) : OwnsNoQueue (retained iseg) where
  owns := by
    constructor
    · simp [references, queueReferences, retained, newService, blankQueue, zeroContext]
    · have settled := settled_acquire settled_empty
      rw [insert_empty_eq] at settled
      simpa [references, queueReferences, retained, newService, blankQueue, zeroContext] using settled
  noRing := rfl
  noMailboxes := rfl

theorem start_then_stop_heap (outcomes : StartOutcomes) (iseg : Bytes)
    (superStart : outcomes.superStart = true) (pciProvider : outcomes.providerIsPci = true) :
    (startThenStop outcomes iseg).heap = (stop (initHardware outcomes (retained iseg)).2).heap := by
  have begun : start outcomes (newService iseg) =
      (let (ready, service) := initHardware outcomes (retained iseg)
      if ready = false then (false, stop service) else (true, publish outcomes service)) := by
    simp only [start, superStart, pciProvider]
    rfl
  rw [startThenStop, begun]
  rcases initHardware outcomes (retained iseg) with ⟨ready, service⟩
  cases ready <;> rfl

/-- For every outcome of the IOKit calls and every behaviour of the firmware. -/
theorem references_released_once_iff (outcomes : StartOutcomes) (iseg : Bytes) :
    ReleasedOnce (startThenStop outcomes iseg).heap ↔
      ¬(outcomes.superStart = true ∧ outcomes.providerIsPci = true ∧ ReachesCmdInit outcomes ∧
        RingLost outcomes.cmdInit) := by
  have nothing : ReleasedOnce (newService iseg).heap := by
    intro handle allocated
    exact absurd allocated (Nat.not_lt_zero handle)
  by_cases superStart : outcomes.superStart = true
  · by_cases pciProvider : outcomes.providerIsPci = true
    · rw [start_then_stop_heap outcomes iseg superStart pciProvider]
      by_cases lost : ReachesCmdInit outcomes ∧ RingLost outcomes.cmdInit
      · have twice := dangles_stop (init_hardware_dangles outcomes (retained iseg) lost.1 lost.2)
        simp [twice, superStart, pciProvider, lost]
      · have once := owns_stop (init_hardware_owns outcomes (retained iseg) (retained_owns iseg) rfl lost)
        simp [once, superStart, pciProvider, lost]
    · simpa [startThenStop, start, superStart, pciProvider] using nothing
  · simpa [startThenStop, start, superStart] using nothing

/-- The card boots, the ring is allocated and no `IODMACommand` can be created for it. -/
def noDmaCommand : StartOutcomes where
  superStart := true
  providerIsPci := true
  vendorID := 0x15B3
  deviceID := 0x1015
  bar0Length := some 0x2000000
  bar0Address := some 0x10000000
  initializing := fun _ => 0
  cmdInit := ⟨some zeroBytes, none, some zeroBytes, none⟩
  enableHca := fun _ mem => mem
  queryPages := fun _ mem => mem
  queryHcaCap := fun _ mem => mem
  initHca := fun _ mem => mem

theorem no_dma_command_releases_ring_twice :
    (start noDmaCommand (newService zeroBytes)).1 = false ∧
      (startThenStop noDmaCommand zeroBytes).heap.released 2 = 2 ∧
      ¬ReleasedOnce (startThenStop noDmaCommand zeroBytes).heap := by
  refine ⟨rfl, rfl, ?_⟩
  intro once
  have ring := once 2 (by decide)
  exact absurd ring (by decide)

end Verbifrost.ConnectXService
