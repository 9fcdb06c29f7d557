import Verbifrost.GuardedRun
import Verbifrost.Mlx5CmdRuns
import Verbifrost.Mlx5Verbs

/-!
# The operation table

The rest of `mlx5_verbs.cpp`: the verbs that are stubs, the two queries, and
`mlx5_ib_init_ops`, which fills the table the RDMA core calls through. A member
of the table is `none` for `NULL`. The core calls any member on any of its
objects in any order; the objects are its own, and the driver's side of a call
is the device behind `to_mdev` and the kernel's allocator.
-/

namespace Verbifrost.Mlx5DeviceOps

open Verbifrost.ByteMemory Verbifrost.Mlx5Registers Verbifrost.ReferenceHeap Verbifrost.GuardedRun
open Verbifrost.IbVerbs Verbifrost.Mlx5CmdExec Verbifrost.Mlx5CmdRing Verbifrost.Mlx5CmdRuns
open Verbifrost.Mlx5Verbs

set_option autoImplicit false

structure IbAh where
  device : BitVec 64
  pd : BitVec 64
  uobject : BitVec 64

structure IbDeviceAttr where
  fwVer : BitVec 64
  nodeGuid : BitVec 64
  sysImageGuid : BitVec 64
  maxMrSize : BitVec 64
  pageSizeCap : BitVec 64
  vendorId : BitVec 32
  vendorPartId : BitVec 32
  hwRev : BitVec 32
  maxQp : BitVec 32
  maxQpWr : BitVec 32
  maxSge : BitVec 32
  maxCq : BitVec 32
  maxCqe : BitVec 32
  maxMr : BitVec 32
  maxPd : BitVec 32
  maxQpInitRdAtom : BitVec 32
  maxQpRdAtom : BitVec 32
  maxSrq : BitVec 32
  maxSrqWr : BitVec 32
  maxSrqSge : BitVec 32
  maxPkeys : BitVec 16
  localCaAckDelay : BitVec 8
  physPortCnt : BitVec 8

/-- `memset(attr, 0, sizeof(*attr))`. -/
def zeroAttr : IbDeviceAttr where
  fwVer := 0
  nodeGuid := 0
  sysImageGuid := 0
  maxMrSize := 0
  pageSizeCap := 0
  vendorId := 0
  vendorPartId := 0
  hwRev := 0
  maxQp := 0
  maxQpWr := 0
  maxSge := 0
  maxCq := 0
  maxCqe := 0
  maxMr := 0
  maxPd := 0
  maxQpInitRdAtom := 0
  maxQpRdAtom := 0
  maxSrq := 0
  maxSrqWr := 0
  maxSrqSge := 0
  maxPkeys := 0
  localCaAckDelay := 0
  physPortCnt := 0

/-- `struct mlx5_ib_dev`, with the queue behind `cmd_ctx`. -/
structure Mlx5IbDev where
  cmdCtx : CmdQueue
  maxQp : BitVec 32
  maxCq : BitVec 32
  maxMr : BitVec 32
  maxPd : BitVec 32
  numPorts : BitVec 32
  nodeGuid : BitVec 64

structure Provider where
  dev : Mlx5IbDev
  heap : Heap

/-- What a call meets: the device's behaviour, and the outcome of the allocation it makes. -/
structure Surroundings where
  act : DeviceAct
  buffer : Option DmaBuffer

/-- A member of the table that takes one object, or the memory behind one
pointer, and returns an `int`. -/
abbrev Verb (Object : Type) := Surroundings → Object → Provider → Int × Object × Provider

def mlx5VendorId : BitVec 32 := 0x15B3
def mlx5DevCx6Lx : BitVec 32 := 0x1015

def Provider.withQueue (provider : Provider) (queue : CmdQueue) : Provider :=
  { provider with dev := { provider.dev with cmdCtx := queue } }

def allocPd : Verb IbPd := fun around pd provider =>
  let result := mlx5IbAllocPd around.act pd provider.dev.cmdCtx
  (result.ret, result.pd, provider.withQueue result.queue)

def deallocPd : Verb IbPd := fun around pd provider =>
  let result := mlx5IbDeallocPd around.act pd provider.dev.cmdCtx
  (result.ret, result.pd, provider.withQueue result.queue)

def createCq : Verb IbCq := fun around cq provider =>
  let result := mlx5IbCreateCq around.act around.buffer cq provider.dev.cmdCtx provider.heap
  (result.ret, result.cq, { provider.withQueue result.queue with heap := result.heap })

def destroyCq : Verb IbCq := fun around cq provider =>
  let result := mlx5IbDestroyCq around.act cq provider.dev.cmdCtx
  (result.1, cq, provider.withQueue result.2)

def deregMr : Verb IbMr := fun around mr provider =>
  let result := mlx5IbDeregMr around.act mr provider.dev.cmdCtx
  (result.1, mr, provider.withQueue result.2)

/-- No completions, and nothing written behind `wc`. -/
def mlx5IbPollCq (_cq : IbCq) (_ne : BitVec 32) : Verb Bytes := fun _ wc provider =>
  (0, wc, provider)

def mlx5IbReqNotifyCq (_flags : BitVec 32) : Verb IbCq := fun _ cq provider => (0, cq, provider)

def mlx5IbCreateQp : Verb IbQp := fun _ qp provider => (-1, qp, provider)

def mlx5IbModifyQp (_mask : BitVec 32) : Verb IbQp := fun _ qp provider => (-1, qp, provider)

def mlx5IbDestroyQp : Verb IbQp := fun _ qp provider => (-1, qp, provider)

/-- Neither `wr` nor `bad_wr` is touched. -/
def mlx5IbPostSend : Verb IbQp := fun _ qp provider => (-1, qp, provider)

def mlx5IbPostRecv : Verb IbQp := fun _ qp provider => (-1, qp, provider)

def mlx5IbRegUserMr (_pd : IbPd) (_start _length _virtAddr : BitVec 64) (_accessFlags : BitVec 32) :
    Surroundings → Provider → Option IbMr × Provider := fun _ provider => (none, provider)

def mlx5IbCreateAh (_flags : BitVec 32) : Verb IbAh := fun _ ah provider => (0, ah, provider)

def mlx5IbDestroyAh (_flags : BitVec 32) : Verb IbAh := fun _ ah provider => (0, ah, provider)

/-- What `query_device` reports for a device. -/
def deviceAttr (dev : Mlx5IbDev) : IbDeviceAttr :=
  { zeroAttr with
    vendorId := mlx5VendorId
    vendorPartId := mlx5DevCx6Lx
    maxQp := dev.maxQp
    maxCq := dev.maxCq
    maxMr := dev.maxMr
    maxPd := dev.maxPd
    physPortCnt := dev.numPorts.setWidth 8
    nodeGuid := dev.nodeGuid }

def mlx5IbQueryDevice : Verb (Option IbDeviceAttr) := fun _ attr provider =>
  match attr with
  | none => (-1, none, provider)
  | some _ => (0, some (deviceAttr provider.dev), provider)

def mlx5IbQueryPort (_port : BitVec 32) : Verb Bytes := fun _ props provider => (0, props, provider)

/-- `struct ib_device_ops`. -/
structure IbDeviceOps where
  queryDevice : Option (Verb (Option IbDeviceAttr))
  queryPort : Option (BitVec 32 → Verb Bytes)
  getPortImmutable : Option (BitVec 32 → Verb Bytes)
  getLinkLayer : Option (BitVec 32 → Verb Bytes)
  modifyDevice : Option (BitVec 32 → Verb Bytes)
  modifyPort : Option (BitVec 32 → Verb Bytes)
  allocPd : Option (Verb IbPd)
  deallocPd : Option (Verb IbPd)
  createCq : Option (Verb IbCq)
  destroyCq : Option (Verb IbCq)
  pollCq : Option (IbCq → BitVec 32 → Verb Bytes)
  reqNotifyCq : Option (BitVec 32 → Verb IbCq)
  resizeCq : Option (BitVec 32 → Verb IbCq)
  createQp : Option (Verb IbQp)
  modifyQp : Option (BitVec 32 → Verb IbQp)
  destroyQp : Option (Verb IbQp)
  queryQp : Option (BitVec 32 → Verb IbQp)
  postSend : Option (Verb IbQp)
  postRecv : Option (Verb IbQp)
  regUserMr : Option (IbPd → BitVec 64 → BitVec 64 → BitVec 64 → BitVec 32 →
    Surroundings → Provider → Option IbMr × Provider)
  deregMr : Option (Verb IbMr)
  mapMrSg : Option (BitVec 32 → Verb IbMr)
  createAh : Option (BitVec 32 → Verb IbAh)
  destroyAh : Option (BitVec 32 → Verb IbAh)
  allocUcontext : Option (Verb Bytes)
  deallocUcontext : Option (Verb Bytes)
  mmap : Option (BitVec 64 → BitVec 64 → Verb Bytes)

/-- `memset(ops, 0, sizeof(*ops))`. -/
def zeroOps : IbDeviceOps where
  queryDevice := none
  queryPort := none
  getPortImmutable := none
  getLinkLayer := none
  modifyDevice := none
  modifyPort := none
  allocPd := none
  deallocPd := none
  createCq := none
  destroyCq := none
  pollCq := none
  reqNotifyCq := none
  resizeCq := none
  createQp := none
  modifyQp := none
  destroyQp := none
  queryQp := none
  postSend := none
  postRecv := none
  regUserMr := none
  deregMr := none
  mapMrSg := none
  createAh := none
  destroyAh := none
  allocUcontext := none
  deallocUcontext := none
  mmap := none

def mlx5IbInitOps (_ops : IbDeviceOps) : IbDeviceOps :=
  { zeroOps with
    queryDevice := some mlx5IbQueryDevice
    queryPort := some mlx5IbQueryPort
    allocPd := some allocPd
    deallocPd := some deallocPd
    createCq := some createCq
    destroyCq := some destroyCq
    pollCq := some mlx5IbPollCq
    reqNotifyCq := some mlx5IbReqNotifyCq
    createQp := some mlx5IbCreateQp
    modifyQp := some mlx5IbModifyQp
    destroyQp := some mlx5IbDestroyQp
    postSend := some mlx5IbPostSend
    postRecv := some mlx5IbPostRecv
    regUserMr := some mlx5IbRegUserMr
    deregMr := some deregMr
    createAh := some mlx5IbCreateAh
    destroyAh := some mlx5IbDestroyAh }

inductive DeviceMember where
  | queryPort (port : BitVec 32)
  | getPortImmutable (port : BitVec 32)
  | getLinkLayer (port : BitVec 32)
  | modifyDevice (mask : BitVec 32)
  | modifyPort (port : BitVec 32)
  | allocUcontext
  | deallocUcontext
  | mmap (offset length : BitVec 64)

inductive PdMember where
  | allocPd
  | deallocPd

inductive CqMember where
  | createCq
  | destroyCq
  | reqNotifyCq (flags : BitVec 32)
  | resizeCq (cqe : BitVec 32)

inductive QpMember where
  | createQp
  | modifyQp (mask : BitVec 32)
  | destroyQp
  | queryQp (mask : BitVec 32)
  | postSend
  | postRecv

inductive MrMember where
  | deregMr
  | mapMrSg (nents : BitVec 32)

inductive AhMember where
  | createAh (flags : BitVec 32)
  | destroyAh (flags : BitVec 32)

def deviceVerb (ops : IbDeviceOps) : DeviceMember → Option (Verb Bytes)
  | .queryPort port => ops.queryPort.map fun verb => verb port
  | .getPortImmutable port => ops.getPortImmutable.map fun verb => verb port
  | .getLinkLayer port => ops.getLinkLayer.map fun verb => verb port
  | .modifyDevice mask => ops.modifyDevice.map fun verb => verb mask
  | .modifyPort port => ops.modifyPort.map fun verb => verb port
  | .allocUcontext => ops.allocUcontext
  | .deallocUcontext => ops.deallocUcontext
  | .mmap offset length => ops.mmap.map fun verb => verb offset length

def pdVerb (ops : IbDeviceOps) : PdMember → Option (Verb IbPd)
  | .allocPd => ops.allocPd
  | .deallocPd => ops.deallocPd

def cqVerb (ops : IbDeviceOps) : CqMember → Option (Verb IbCq)
  | .createCq => ops.createCq
  | .destroyCq => ops.destroyCq
  | .reqNotifyCq flags => ops.reqNotifyCq.map fun verb => verb flags
  | .resizeCq cqe => ops.resizeCq.map fun verb => verb cqe

def qpVerb (ops : IbDeviceOps) : QpMember → Option (Verb IbQp)
  | .createQp => ops.createQp
  | .modifyQp mask => ops.modifyQp.map fun verb => verb mask
  | .destroyQp => ops.destroyQp
  | .queryQp mask => ops.queryQp.map fun verb => verb mask
  | .postSend => ops.postSend
  | .postRecv => ops.postRecv

def mrVerb (ops : IbDeviceOps) : MrMember → Option (Verb IbMr)
  | .deregMr => ops.deregMr
  | .mapMrSg nents => ops.mapMrSg.map fun verb => verb nents

def ahVerb (ops : IbDeviceOps) : AhMember → Option (Verb IbAh)
  | .createAh flags => ops.createAh.map fun verb => verb flags
  | .destroyAh flags => ops.destroyAh.map fun verb => verb flags

inductive CoreCall where
  | queryDevice (attr : Option IbDeviceAttr)
  | device (member : DeviceMember) (memory : Bytes)
  | pd (member : PdMember) (key : Nat)
  | cq (member : CqMember) (key : Nat)
  | pollCq (key : Nat) (ne : BitVec 32) (wc : Bytes)
  | qp (member : QpMember) (key : Nat)
  | mr (member : MrMember) (key : Nat)
  | ah (member : AhMember) (key : Nat)
  | regUserMr (key : Nat) (start length virtAddr : BitVec 64) (accessFlags : BitVec 32)

/-- The core's objects, any bytes it was given back, and what was returned to it.
`commands` lists the commands of the calls made, by their own words. -/
structure Core where
  provider : Provider
  pds : Nat → IbPd
  cqs : Nat → IbCq
  qps : Nat → IbQp
  mrs : Nat → IbMr
  ahs : Nat → IbAh
  attrs : List (Option IbDeviceAttr)
  completions : List (Int × Bytes × Bytes)
  qpReturns : List Int
  regions : List (Option IbMr)
  commands : List (DeviceAct × CmdCall)

/-- The command a call sends: CREATE_CQ only behind an allocated ring. -/
def commandOf (around : Surroundings) (core : Core) : CoreCall → Option CmdCall
  | .pd .allocPd _ => some allocPdCall
  | .pd .deallocPd key => some (deallocPdCall (core.pds key))
  | .cq .createCq key =>
      around.buffer.map fun ring => createCqCall (core.cqs key) ring.physicalAddress
  | .cq .destroyCq key => some (destroyCqCall (core.cqs key))
  | .mr .deregMr key => some (deregMrCall (core.mrs key))
  | _ => none

def logCommand (around : Surroundings) (command : Option CmdCall) (core : Core) : Core :=
  { core with commands := core.commands ++ (command.map fun call => (around.act, call)).toList }

/-- A call through a member that is `NULL` cannot be made. -/
def perform (ops : IbDeviceOps) (around : Surroundings) (core : Core) : CoreCall → Option Core
  | .queryDevice attr => ops.queryDevice.map fun verb =>
      let (_, attr, provider) := verb around attr core.provider
      { core with provider := provider, attrs := core.attrs ++ [attr] }
  | .device member memory => (deviceVerb ops member).map fun verb =>
      let (_, _, provider) := verb around memory core.provider
      { core with provider := provider }
  | .pd member key => (pdVerb ops member).map fun verb =>
      let (_, pd, provider) := verb around (core.pds key) core.provider
      { core with provider := provider, pds := Function.update core.pds key pd }
  | .cq member key => (cqVerb ops member).map fun verb =>
      let (_, cq, provider) := verb around (core.cqs key) core.provider
      { core with provider := provider, cqs := Function.update core.cqs key cq }
  | .pollCq key ne wc => ops.pollCq.map fun verb =>
      let (ret, after, provider) := verb (core.cqs key) ne around wc core.provider
      { core with provider := provider, completions := core.completions ++ [(ret, wc, after)] }
  | .qp member key => (qpVerb ops member).map fun verb =>
      let (ret, qp, provider) := verb around (core.qps key) core.provider
      { core with
        provider := provider
        qps := Function.update core.qps key qp
        qpReturns := core.qpReturns ++ [ret] }
  | .mr member key => (mrVerb ops member).map fun verb =>
      let (_, mr, provider) := verb around (core.mrs key) core.provider
      { core with provider := provider, mrs := Function.update core.mrs key mr }
  | .ah member key => (ahVerb ops member).map fun verb =>
      let (_, ah, provider) := verb around (core.ahs key) core.provider
      { core with provider := provider, ahs := Function.update core.ahs key ah }
  | .regUserMr key start length virtAddr accessFlags => ops.regUserMr.map fun verb =>
      let (region, provider) :=
        verb (core.pds key) start length virtAddr accessFlags around core.provider
      { core with provider := provider, regions := core.regions ++ [region] }

def step (ops : IbDeviceOps) (core : Core) (action : Surroundings × CoreCall) : Option Core :=
  (perform ops action.1 core action.2).map
    (logCommand action.1 (commandOf action.1 core action.2))

def newCore (provider : Provider) (pds : Nat → IbPd) (cqs : Nat → IbCq) (qps : Nat → IbQp)
    (mrs : Nat → IbMr) (ahs : Nat → IbAh) : Core where
  provider := provider
  pds := pds
  cqs := cqs
  qps := qps
  mrs := mrs
  ahs := ahs
  attrs := []
  completions := []
  qpReturns := []
  regions := []
  commands := []

def providerCommands : List (BitVec 16 × BitVec 16) :=
  [(mlx5CmdOpCreateMkey, 0x01), (mlx5CmdOpDestroyMkey, 0x01), (mlx5CmdOpCreateCq, 0),
    (mlx5CmdOpDestroyCq, 0), (mlx5CmdOpDestroyMkey, 0)]

/-- What no run of calls goes beyond: the device sees the commands listed and no
others, and no QP, memory region or completion ever comes out of the provider. -/
structure ProviderLimits (start now : Core) : Prop where
  queue : now.provider.dev.cmdCtx = afterCommands start.provider.dev.cmdCtx now.commands
  sent : ∀ command ∈ now.commands, (command.2.opcode, command.2.opMod) ∈ providerCommands
  capabilities : deviceAttr now.provider.dev = deviceAttr start.provider.dev
  attrs : ∀ attr ∈ now.attrs, attr = none ∨ attr = some (deviceAttr start.provider.dev)
  completions : ∀ poll ∈ now.completions, poll.1 = 0 ∧ poll.2.2 = poll.2.1
  qps : now.qps = start.qps
  qpReturns : ∀ ret ∈ now.qpReturns, ret = -1
  regions : ∀ region ∈ now.regions, region = none
  ahs : now.ahs = start.ahs

theorem new_core_limits (provider : Provider) (pds : Nat → IbPd) (cqs : Nat → IbCq)
    (qps : Nat → IbQp) (mrs : Nat → IbMr) (ahs : Nat → IbAh) :
    ProviderLimits (newCore provider pds cqs qps mrs ahs)
      (newCore provider pds cqs qps mrs ahs) where
  queue := rfl
  sent := by
    intro command member
    cases member
  capabilities := rfl
  attrs := by
    intro attr member
    cases member
  completions := by
    intro poll member
    cases member
  qps := rfl
  qpReturns := by
    intro ret member
    cases member
  regions := by
    intro region member
    cases member
  ahs := rfl

def afterCommand (around : Surroundings) (command : Option CmdCall) (queue : CmdQueue) : CmdQueue :=
  match command with
  | none => queue
  | some call => (mlx5CmdExec around.act call queue).2

structure Serves (around : Surroundings) (command : Option CmdCall) (before after : Provider) :
    Prop where
  queue : after.dev.cmdCtx = afterCommand around command before.dev.cmdCtx
  capabilities : deviceAttr after.dev = deviceAttr before.dev

theorem serves_nothing (around : Surroundings) (provider : Provider) :
    Serves around none provider provider := ⟨rfl, rfl⟩

theorem alloc_pd_serves (around : Surroundings) (pd : IbPd) (provider : Provider) :
    Serves around (some allocPdCall) provider (allocPd around pd provider).2.2 := by
  constructor
  · simp only [allocPd, Provider.withQueue, mlx5IbAllocPd, afterCommand]
    split_ifs <;> rfl
  · rfl

theorem dealloc_pd_serves (around : Surroundings) (pd : IbPd) (provider : Provider) :
    Serves around (some (deallocPdCall pd)) provider (deallocPd around pd provider).2.2 := by
  constructor
  · simp only [deallocPd, Provider.withQueue, mlx5IbDeallocPd, afterCommand]
    split_ifs <;> rfl
  · rfl

theorem create_cq_serves (around : Surroundings) (cq : IbCq) (provider : Provider) :
    Serves around (around.buffer.map fun ring => createCqCall cq ring.physicalAddress) provider
      (createCq around cq provider).2.2 := by
  constructor
  · simp only [createCq, Provider.withQueue, mlx5IbCreateCq]
    cases around.buffer with
    | none => rfl
    | some ring =>
        simp only [Option.map_some, afterCommand]
        split_ifs <;> rfl
  · rfl

theorem destroy_cq_serves (around : Surroundings) (cq : IbCq) (provider : Provider) :
    Serves around (some (destroyCqCall cq)) provider (destroyCq around cq provider).2.2 := ⟨rfl, rfl⟩

theorem dereg_mr_serves (around : Surroundings) (mr : IbMr) (provider : Provider) :
    Serves around (some (deregMrCall mr)) provider (deregMr around mr provider).2.2 := ⟨rfl, rfl⟩

/-- A call leaves the log alone and keeps within the limits, its command apart. -/
structure Performs (around : Surroundings) (call : CoreCall) (core next : Core) : Prop where
  serves : Serves around (commandOf around core call) core.provider next.provider
  commands : next.commands = core.commands
  attrs : next.attrs = core.attrs ∨ ∃ attr, next.attrs = core.attrs ++ [attr] ∧
    (attr = none ∨ attr = some (deviceAttr core.provider.dev))
  completions : next.completions = core.completions ∨
    ∃ wc, next.completions = core.completions ++ [(0, wc, wc)]
  qps : next.qps = core.qps
  qpReturns : next.qpReturns = core.qpReturns ∨ next.qpReturns = core.qpReturns ++ [-1]
  regions : next.regions = core.regions ∨ next.regions = core.regions ++ [none]
  ahs : next.ahs = core.ahs

theorem performs_on_objects {around : Surroundings} {call : CoreCall} {core : Core}
    {provider : Provider} (serves : Serves around (commandOf around core call) core.provider provider)
    (pds : Nat → IbPd) (cqs : Nat → IbCq) (mrs : Nat → IbMr) :
    Performs around call core
      { core with provider := provider, pds := pds, cqs := cqs, mrs := mrs } where
  serves := serves
  commands := rfl
  attrs := Or.inl rfl
  completions := Or.inl rfl
  qps := rfl
  qpReturns := Or.inl rfl
  regions := Or.inl rfl
  ahs := rfl

theorem performs_on_qp {around : Surroundings} {member : QpMember} (core : Core) (key : Nat) :
    Performs around (.qp member key) core
      { core with
        qps := Function.update core.qps key (core.qps key)
        qpReturns := core.qpReturns ++ [-1] } where
  serves := serves_nothing around core.provider
  commands := rfl
  attrs := Or.inl rfl
  completions := Or.inl rfl
  qps := Function.update_eq_self key core.qps
  qpReturns := Or.inr rfl
  regions := Or.inl rfl
  ahs := rfl

theorem performs_on_ah {around : Surroundings} {member : AhMember} (core : Core) (key : Nat) :
    Performs around (.ah member key) core
      { core with ahs := Function.update core.ahs key (core.ahs key) } where
  serves := serves_nothing around core.provider
  commands := rfl
  attrs := Or.inl rfl
  completions := Or.inl rfl
  qps := rfl
  qpReturns := Or.inl rfl
  regions := Or.inl rfl
  ahs := Function.update_eq_self key core.ahs

theorem performs_query (around : Surroundings) (attr : Option IbDeviceAttr) (core : Core) :
    Performs around (.queryDevice attr) core
      { core with attrs := core.attrs ++ [(mlx5IbQueryDevice around attr core.provider).2.1] } where
  serves := serves_nothing around core.provider
  commands := rfl
  attrs := by
    right
    refine ⟨_, rfl, ?_⟩
    cases attr with
    | none => exact Or.inl rfl
    | some attr => exact Or.inr rfl
  completions := Or.inl rfl
  qps := rfl
  qpReturns := Or.inl rfl
  regions := Or.inl rfl
  ahs := rfl

theorem perform_performs {ops : IbDeviceOps} {around : Surroundings} {core next : Core}
    {call : CoreCall} (done : perform (mlx5IbInitOps ops) around core call = some next) :
    Performs around call core next := by
  cases call with
  | queryDevice attr =>
      cases attr with
      | none =>
          cases done
          exact performs_query around none core
      | some attr =>
          cases done
          exact performs_query around (some attr) core
  | device member memory =>
      cases member with
      | queryPort port =>
          cases done
          exact performs_on_objects (serves_nothing around core.provider) _ _ _
      | _ => cases done
  | pd member key =>
      cases member with
      | allocPd =>
          cases done
          exact performs_on_objects (alloc_pd_serves around _ core.provider) _ _ _
      | deallocPd =>
          cases done
          exact performs_on_objects (dealloc_pd_serves around _ core.provider) _ _ _
  | cq member key =>
      cases member with
      | createCq =>
          cases done
          exact performs_on_objects (create_cq_serves around _ core.provider) _ _ _
      | destroyCq =>
          cases done
          exact performs_on_objects (destroy_cq_serves around _ core.provider) _ _ _
      | reqNotifyCq flags =>
          cases done
          exact performs_on_objects (serves_nothing around core.provider) _ _ _
      | resizeCq cqe => cases done
  | pollCq key ne wc =>
      cases done
      exact
        { performs_on_objects (serves_nothing around core.provider) core.pds core.cqs core.mrs with
          completions := Or.inr ⟨wc, rfl⟩ }
  | qp member key =>
      cases member with
      | queryQp mask => cases done
      | _ =>
          cases done
          exact performs_on_qp core key
  | mr member key =>
      cases member with
      | deregMr =>
          cases done
          exact performs_on_objects (dereg_mr_serves around _ core.provider) _ _ _
      | mapMrSg nents => cases done
  | ah member key =>
      cases member with
      | createAh flags =>
          cases done
          exact performs_on_ah core key
      | destroyAh flags =>
          cases done
          exact performs_on_ah core key
  | regUserMr key start length virtAddr accessFlags =>
      cases done
      exact
        { performs_on_objects (serves_nothing around core.provider) core.pds core.cqs core.mrs with
          regions := Or.inr rfl }

theorem command_of_provider {around : Surroundings} {core : Core} {call : CoreCall}
    {command : CmdCall} (sent : commandOf around core call = some command) :
    (command.opcode, command.opMod) ∈ providerCommands := by
  cases call with
  | pd member key =>
      cases member with
      | allocPd =>
          cases sent
          exact List.mem_cons_self
      | deallocPd =>
          cases sent
          exact List.mem_cons_of_mem _ List.mem_cons_self
  | cq member key =>
      cases member with
      | createCq =>
          rcases Option.map_eq_some_iff.mp sent with ⟨ring, _, rfl⟩
          exact List.mem_cons_of_mem _ (List.mem_cons_of_mem _ List.mem_cons_self)
      | destroyCq =>
          cases sent
          simp [destroyCqCall, destroyCall, providerCommands]
      | reqNotifyCq flags => cases sent
      | resizeCq cqe => cases sent
  | mr member key =>
      cases member with
      | deregMr =>
          cases sent
          simp [deregMrCall, destroyCall, providerCommands]
      | mapMrSg nents => cases sent
  | _ => cases sent

theorem after_commands_logged (around : Surroundings) (command : Option CmdCall) (queue : CmdQueue)
    (commands : List (DeviceAct × CmdCall)) :
    afterCommands queue (commands ++ (command.map fun call => (around.act, call)).toList) =
      afterCommand around command (afterCommands queue commands) := by
  rw [afterCommands, List.foldl_append]
  cases command <;> rfl

theorem forall_mem_longer {α : Type} {property : α → Prop} {before after : List α} {last : α}
    (longer : after = before ++ [last]) (held : ∀ entry ∈ before, property entry)
    (own : property last) : ∀ entry ∈ after, property entry := by
  rw [longer, List.forall_mem_append]
  exact ⟨held, List.forall_mem_singleton.mpr own⟩

theorem step_limits {ops : IbDeviceOps} {start : Core} (core : Core)
    (action : Surroundings × CoreCall) (next : Core) (limits : ProviderLimits start core)
    (stepped : step (mlx5IbInitOps ops) core action = some next) : ProviderLimits start next := by
  rcases action with ⟨around, call⟩
  rcases Option.map_eq_some_iff.mp stepped with ⟨performed, done, rfl⟩
  have performs := perform_performs done
  constructor
  · simp only [logCommand]
    rw [performs.serves.queue, performs.commands, after_commands_logged, limits.queue]
  · intro command member
    simp only [logCommand, performs.commands, List.mem_append, Option.mem_toList,
      Option.map_eq_some_iff] at member
    rcases member with earlier | ⟨sent, own, rfl⟩
    · exact limits.sent command earlier
    · exact command_of_provider own
  · exact performs.serves.capabilities.trans limits.capabilities
  · rcases performs.attrs with same | ⟨reported, longer, what⟩
    · exact same.symm ▸ limits.attrs
    · rw [limits.capabilities] at what
      exact forall_mem_longer longer limits.attrs what
  · rcases performs.completions with same | ⟨wc, longer⟩
    · exact same.symm ▸ limits.completions
    · exact forall_mem_longer longer limits.completions ⟨rfl, rfl⟩
  · exact performs.qps.trans limits.qps
  · rcases performs.qpReturns with same | longer
    · exact same.symm ▸ limits.qpReturns
    · exact forall_mem_longer longer limits.qpReturns rfl
  · rcases performs.regions with same | longer
    · exact same.symm ▸ limits.regions
    · exact forall_mem_longer longer limits.regions rfl
  · exact performs.ahs.trans limits.ahs

/-- For every table that was filled, every provider, all objects of the core, and
every run of calls with any device and any allocator. -/
theorem provider_limits_always (ops : IbDeviceOps) (provider : Provider) (pds : Nat → IbPd)
    (cqs : Nat → IbCq) (qps : Nat → IbQp) (mrs : Nat → IbMr) (ahs : Nat → IbAh)
    (actions : List (Surroundings × CoreCall)) :
    Always (step (mlx5IbInitOps ops)) (ProviderLimits (newCore provider pds cqs qps mrs ahs))
      (newCore provider pds cqs qps mrs ahs) actions :=
  always_of_invariant (fun _ limits => limits) step_limits
    (new_core_limits provider pds cqs qps mrs ahs) actions

end Verbifrost.Mlx5DeviceOps
