import Mathlib.Algebra.Group.Nat.Defs
import Verbifrost.ResourceReplay

/-!
# Clients of the verbs library

The calls that `vfinfo.c`, `trace_verbs.c` and `dump_ops.c` make of `librdma`,
for all that the library may answer: whether each of them gives back what it
was handed, and the parts before what they were made from.
-/

namespace Verbifrost.VerbsClients

open Verbifrost.ResourceReplay

set_option autoImplicit false

/-- The pointers the library hands out; that of the device list may be null. -/
inductive Handle where
  | deviceList (pointer : Option Nat)
  | context (pointer : Nat)
  | pd (pointer : Nat)
  | mr (pointer : Nat)
  | cq (pointer : Nat)
  | qp (pointer : Nat)
deriving DecidableEq

inductive Call where
  | getDeviceList (answer : Option Nat)
  | freeDeviceList (list : Option Nat)
  | getDeviceName (list : Option Nat) (index : Nat)
  | openDevice (list : Option Nat) (index : Nat) (answer : Option Nat)
  | closeDevice (context : Nat)
  | queryDevice (context : Nat)
  | queryPort (context : Nat)
  | queryGid (context : Nat) (index : Nat)
  | readOps (context : Nat)
  | allocPd (context : Nat) (answer : Option Nat)
  | deallocPd (pd : Nat)
  | regMr (pd : Nat) (answer : Option Nat)
  | deregMr (mr : Nat)
  | createCq (context : Nat) (answer : Option Nat)
  | destroyCq (cq : Nat)
  | createQp (pd cq : Nat) (answer : Option Nat)
  | destroyQp (qp : Nat)

def handed (answer : Option Handle) (origins : List Handle) : List (Action Handle) :=
  answer.toList.map fun handle => .acquire handle origins

def Call.actions : Call → List (Action Handle)
  | .getDeviceList answer => handed (answer.map fun list => .deviceList (some list)) []
  | .freeDeviceList list => [.release (.deviceList list)]
  | .getDeviceName list _ => [.use (.deviceList list)]
  | .openDevice list _ answer => .use (.deviceList list) :: handed (answer.map .context) []
  | .closeDevice context => [.release (.context context)]
  | .queryDevice context => [.use (.context context)]
  | .queryPort context => [.use (.context context)]
  | .queryGid context _ => [.use (.context context)]
  | .readOps context => [.use (.context context)]
  | .allocPd context answer => .use (.context context) :: handed (answer.map .pd) [.context context]
  | .deallocPd pd => [.release (.pd pd)]
  | .regMr pd answer => .use (.pd pd) :: handed (answer.map .mr) [.pd pd]
  | .deregMr mr => [.release (.mr mr)]
  | .createCq context answer =>
      .use (.context context) :: handed (answer.map .cq) [.context context]
  | .destroyCq cq => [.release (.cq cq)]
  | .createQp pd cq answer => .use (.pd pd) :: handed (answer.map .qp) [.pd pd, .cq cq]
  | .destroyQp qp => [.release (.qp qp)]

/-- What the library answers for one device. The state and the length of the GID
table are what is found in `port_attr` after the call, whatever it returned. -/
structure DeviceAnswers where
  context : Option Nat
  queryPort : BitVec 32
  portState : BitVec 32
  gidTblLen : BitVec 32
  pd : Option Nat
  mr : Option Nat
  cq : Option Nat
  qp : Option Nat

structure Answers where
  deviceList : Option Nat
  numDevices : BitVec 32
  device : Nat → DeviceAnswers

/-- `for (int i = 0; i < num_devices; i++)`. -/
def Answers.indices (answers : Answers) : List Nat := List.range answers.numDevices.toInt.toNat

def ibvPortActive : BitVec 32 := 4

/-- `if (answer) { … }`. -/
def ifGiven (answer : Option Nat) (calls : Nat → List Call) : List Call :=
  match answer with
  | none => []
  | some pointer => calls pointer

def queryGids (context : Nat) (device : DeviceAnswers) : List Call :=
  (List.range (min device.gidTblLen.toInt.toNat 4)).map (.queryGid context)

def testPd (context : Nat) (device : DeviceAnswers) : List Call :=
  .allocPd context device.pd :: ifGiven device.pd fun pd =>
    (.regMr pd device.mr :: ifGiven device.mr fun mr => [.deregMr mr]) ++ [.deallocPd pd]

def testCq (context : Nat) (device : DeviceAnswers) : List Call :=
  .createCq context device.cq :: ifGiven device.cq fun cq => [.destroyCq cq]

def vfinfoDevice (list : Option Nat) (device : DeviceAnswers) (index : Nat) : List Call :=
  .getDeviceName list index :: .openDevice list index device.context ::
    ifGiven device.context fun context =>
      ([.queryDevice context, .queryPort context] ++ queryGids context device ++
        testPd context device ++ testCq context device) ++ [.closeDevice context]

def vfinfo (answers : Answers) : List Call :=
  .getDeviceList answers.deviceList :: ifGiven answers.deviceList fun list =>
    if answers.numDevices = 0 then [.freeDeviceList (some list)]
    else
      (answers.indices.flatMap fun index =>
        vfinfoDevice (some list) (answers.device index) index) ++ [.freeDeviceList (some list)]

def tryVerbs (context : Nat) (device : DeviceAnswers) : List Call :=
  .allocPd context device.pd :: ifGiven device.pd fun pd =>
    (.createCq context device.cq :: ifGiven device.cq fun cq =>
      (.createQp pd cq device.qp :: ifGiven device.qp fun qp => [.destroyQp qp]) ++
        [.destroyCq cq]) ++ [.deallocPd pd]

/-- Where the port cannot be queried, the next device is turned to at once. -/
def traceDevice (list : Option Nat) (device : DeviceAnswers) (index : Nat) : List Call :=
  .openDevice list index device.context :: ifGiven device.context fun context =>
    .queryPort context ::
      if device.queryPort ≠ 0 then []
      else
        ([.getDeviceName list index, .readOps context] ++
          if device.portState = ibvPortActive then tryVerbs context device else []) ++
            [.closeDevice context]

/-- From the listing of the devices on, once `librdma.dylib` is loaded. -/
def traceVerbs (answers : Answers) : List Call :=
  .getDeviceList answers.deviceList ::
    ((answers.indices.flatMap fun index =>
      traceDevice answers.deviceList (answers.device index) index) ++
        [.freeDeviceList answers.deviceList])

/-- What `ibv_query_port` returns is not looked at; the loop ends with the first active device. -/
def dumpDevices (list : Option Nat) (device : Nat → DeviceAnswers) : List Nat → List Call
  | [] => []
  | index :: rest =>
      .openDevice list index (device index).context ::
        match (device index).context with
        | none => dumpDevices list device rest
        | some context =>
            .queryPort context ::
              if (device index).portState ≠ ibvPortActive then
                .closeDevice context :: dumpDevices list device rest
              else [.getDeviceName list index, .readOps context, .closeDevice context]

def dumpOps (answers : Answers) : List Call :=
  .getDeviceList answers.deviceList ::
    (dumpDevices answers.deviceList answers.device answers.indices ++
      [.freeDeviceList answers.deviceList])

def actionsOf (calls : List Call) : List (Action Handle) := calls.flatMap Call.actions

theorem actions_append (first later : List Call) :
    actionsOf (first ++ later) = actionsOf first ++ actionsOf later :=
  List.flatMap_append

theorem actions_cons (call : Call) (later : List Call) :
    actionsOf (call :: later) = call.actions ++ actionsOf later :=
  List.flatMap_cons

theorem actions_rounds (indices : List Nat) (calls : Nat → List Call) :
    actionsOf (indices.flatMap calls) = indices.flatMap fun index => actionsOf (calls index) :=
  List.flatMap_assoc

theorem creation_gives_back {held : List (Holding Handle)} {create : Call} {destroy : Nat → Call}
    {handle : Nat → Handle} {origin : Handle} {origins : List Handle} {answer : Option Nat}
    (body : Nat → List Call)
    (creates : create.actions = .use origin :: handed (answer.map handle) origins)
    (destroys : ∀ pointer, (destroy pointer).actions = [.release (handle pointer)])
    (listed : origin ∈ held.map Holding.resource)
    (made : ∀ origin ∈ origins, origin ∈ held.map Holding.resource)
    (unneeded : ∀ pointer, Unneeded held (handle pointer))
    (fresh : ∀ pointer, handle pointer ∉ origins)
    (inner : ∀ pointer, GivesBack (⟨handle pointer, origins⟩ :: held) (actionsOf (body pointer))) :
    GivesBack held (actionsOf (create :: ifGiven answer fun pointer =>
      body pointer ++ [destroy pointer])) := by
  have used := gives_back_use listed
  rw [actions_cons, creates]
  cases answer with
  | none => exact used
  | some pointer =>
      have bracket := gives_back_bracket made (unneeded pointer) (fresh pointer) (inner pointer)
      have closing : actionsOf (body pointer ++ [destroy pointer]) =
          actionsOf (body pointer) ++ [.release (handle pointer)] := by
        rw [actions_append, actions_cons, destroys]
        rfl
      rw [ifGiven, closing]
      show GivesBack held ([.use origin] ++ (.acquire (handle pointer) origins ::
        (actionsOf (body pointer) ++ [.release (handle pointer)])))
      exact gives_back_append used bracket

/-- Between two devices: the list is held, and nothing that was made from something. -/
structure Between (list : Option Nat) (held : List (Holding Handle)) : Prop where
  listed : .deviceList list ∈ held.map Holding.resource
  roots : ∀ holding ∈ held, holding.origins = []

abbrev within (context : Nat) (held : List (Holding Handle)) : List (Holding Handle) :=
  ⟨.context context, []⟩ :: held

section Rounds

variable {list : Option Nat} {held : List (Holding Handle)}

theorem unneeded_between (between : Between list held) (handle : Handle) :
    Unneeded held handle := by
  intro holding member
  rw [between.roots holding member]
  exact List.not_mem_nil

theorem unneeded_within (between : Between list held) (context : Nat) (handle : Handle) :
    Unneeded (within context held) handle :=
  List.forall_mem_cons.mpr ⟨List.not_mem_nil, unneeded_between between handle⟩

theorem between_within (between : Between list held) (context : Nat) :
    Between list (within context held) where
  listed := List.mem_cons_of_mem _ between.listed
  roots := List.forall_mem_cons.mpr ⟨rfl, between.roots⟩

theorem context_used (context : Nat) :
    GivesBack (within context held) [.use (.context context)] :=
  gives_back_use List.mem_cons_self

theorem test_cq_gives_back (between : Between list held) (context : Nat) (device : DeviceAnswers) :
    GivesBack (within context held) (actionsOf (testCq context device)) := by
  apply creation_gives_back (fun _ => []) rfl fun _ => rfl
  · exact List.mem_cons_self
  · simp
  · exact fun _ => unneeded_within between context _
  · simp
  · exact fun _ => replay_nil _

theorem test_pd_gives_back (between : Between list held) (context : Nat) (device : DeviceAnswers) :
    GivesBack (within context held) (actionsOf (testPd context device)) := by
  apply creation_gives_back
    (fun pd => .regMr pd device.mr :: ifGiven device.mr fun mr => [.deregMr mr]) rfl fun _ => rfl
  · exact List.mem_cons_self
  · simp
  · exact fun _ => unneeded_within between context _
  · simp
  · intro pd
    apply creation_gives_back (fun _ => []) rfl fun _ => rfl
    · exact List.mem_cons_self
    · simp
    · intro mr
      exact List.forall_mem_cons.mpr ⟨by simp, unneeded_within between context _⟩
    · simp
    · exact fun _ => replay_nil _

theorem try_verbs_gives_back (between : Between list held) (context : Nat)
    (device : DeviceAnswers) :
    GivesBack (within context held) (actionsOf (tryVerbs context device)) := by
  apply creation_gives_back (fun pd =>
    .createCq context device.cq :: ifGiven device.cq fun cq =>
      (.createQp pd cq device.qp :: ifGiven device.qp fun qp => [.destroyQp qp]) ++
        [Call.destroyCq cq]) rfl fun _ => rfl
  · exact List.mem_cons_self
  · simp
  · exact fun _ => unneeded_within between context _
  · simp
  intro pd
  have withPd : ∀ handle, handle ≠ .context context →
      Unneeded (⟨.pd pd, [.context context]⟩ :: within context held) handle := by
    intro handle other
    exact List.forall_mem_cons.mpr ⟨by simpa using other, unneeded_within between context handle⟩
  apply creation_gives_back (fun cq =>
    .createQp pd cq device.qp :: ifGiven device.qp fun qp => [.destroyQp qp]) rfl fun _ => rfl
  · exact List.mem_cons_of_mem _ List.mem_cons_self
  · simp
  · exact fun _ => withPd _ (by simp)
  · simp
  intro cq
  apply creation_gives_back (fun _ => []) rfl fun _ => rfl
  · exact List.mem_cons_of_mem _ List.mem_cons_self
  · simp
  · intro qp
    exact List.forall_mem_cons.mpr ⟨by simp, withPd _ (by simp)⟩
  · simp
  · exact fun _ => replay_nil _

theorem query_gids_gives_back (context : Nat) (device : DeviceAnswers) :
    GivesBack (within context held) (actionsOf (queryGids context device)) := by
  rw [queryGids]
  generalize List.range (min device.gidTblLen.toInt.toNat 4) = indices
  induction indices with
  | nil => exact replay_nil _
  | cons index rest induction =>
      rw [List.map_cons, actions_cons]
      exact gives_back_append (gives_back_use List.mem_cons_self) induction

theorem vfinfo_device_gives_back (between : Between list held) (device : DeviceAnswers)
    (index : Nat) : GivesBack held (actionsOf (vfinfoDevice list device index)) := by
  have named := gives_back_use between.listed
  rw [vfinfoDevice, actions_cons]
  apply gives_back_append named
  apply creation_gives_back (fun context =>
    [Call.queryDevice context, Call.queryPort context] ++ queryGids context device ++
      testPd context device ++ testCq context device) rfl fun _ => rfl
  · exact between.listed
  · simp
  · exact fun _ => unneeded_between between _
  · simp
  · intro context
    have queried := @context_used held context
    rw [actions_append, actions_append, actions_append]
    apply gives_back_append
    · apply gives_back_append
      · apply gives_back_append
        · exact gives_back_append queried queried
        · exact query_gids_gives_back context device
      · exact test_pd_gives_back between context device
    · exact test_cq_gives_back between context device

def abandoned (device : DeviceAnswers) : List (Holding Handle) :=
  if device.queryPort ≠ 0 then device.context.toList.map fun context => ⟨.context context, []⟩
  else []

theorem between_abandoned (between : Between list held) (device : DeviceAnswers) :
    Between list (abandoned device ++ held) := by
  rw [abandoned]
  split_ifs
  · cases device.context with
    | none => exact between
    | some context => exact between_within between context
  · exact between

theorem queried_device_gives_back (between : Between list held) {device : DeviceAnswers}
    (queried : device.queryPort = 0) (index : Nat) :
    GivesBack held (actionsOf (traceDevice list device index)) := by
  simp only [traceDevice, queried, ne_eq, not_true, if_false]
  apply creation_gives_back (fun context =>
    Call.queryPort context :: ([Call.getDeviceName list index, Call.readOps context] ++
      if device.portState = ibvPortActive then tryVerbs context device else [])) rfl fun _ => rfl
  · exact between.listed
  · simp
  · exact fun _ => unneeded_between between _
  · simp
  · intro context
    have named := gives_back_use (between_within between context).listed
    have read := @context_used held context
    rw [actions_cons, actions_append]
    apply gives_back_append read
    apply gives_back_append
    · exact gives_back_append named read
    · split_ifs
      · exact try_verbs_gives_back between context device
      · exact replay_nil _

theorem trace_device_replay (between : Between list held) (device : DeviceAnswers) (index : Nat) :
    replay held (actionsOf (traceDevice list device index)) = some (abandoned device ++ held) := by
  by_cases queried : device.queryPort = 0
  · rw [abandoned, if_neg (not_not.mpr queried)]
    exact queried_device_gives_back between queried index
  · have listed := between.listed
    rw [abandoned, if_pos queried, traceDevice]
    simp only [ne_eq, queried, not_false_eq_true, if_true]
    cases device.context with
    | none => exact replay_use listed []
    | some context =>
        have taken := @replay_acquire _ _ held [] (by simp) (.context context)
          [.use (.context context)]
        exact (replay_use listed _).trans (taken.trans (context_used context))

end Rounds

theorem list_answered (list : Nat) (later : List Call) :
    replay [] (actionsOf (.getDeviceList (some list) :: later)) =
      replay [⟨.deviceList (some list), []⟩] (actionsOf later) := by
  rw [actions_cons]
  exact replay_acquire (by simp) _ _

theorem between_first (list : Nat) : Between (some list) [⟨.deviceList (some list), []⟩] where
  listed := List.mem_cons_self
  roots := by simp

theorem list_freed {list : Option Nat} {above : List (Holding Handle)}
    (contexts : ∀ holding ∈ above, ∃ context, holding = ⟨.context context, []⟩) :
    replay (above ++ [⟨.deviceList list, []⟩]) (actionsOf [.freeDeviceList list]) = some above := by
  have other : ∀ holding ∈ above, holding.resource ≠ .deviceList list := by
    intro holding member
    rcases contexts holding member with ⟨context, same⟩
    rw [same]
    exact Handle.noConfusion
  have unneeded : Unneeded (above ++ [⟨.deviceList list, []⟩]) (.deviceList list) := by
    intro holding member
    rcases List.mem_append.mp member with above_ | last
    · rcases contexts holding above_ with ⟨context, same⟩
      rw [same]
      exact List.not_mem_nil
    · rw [List.mem_singleton.mp last]
      exact List.not_mem_nil
  have freed := replay_release other unneeded []
  rwa [List.append_nil] at freed

/-- For all answers of the library. -/
theorem vfinfo_gives_back (answers : Answers) : GivesBack [] (actionsOf (vfinfo answers)) := by
  cases listed : answers.deviceList with
  | none =>
      simp only [vfinfo, listed, ifGiven]
      rfl
  | some list =>
      have freed := @list_freed (some list) [] (by simp)
      simp only [vfinfo, listed, ifGiven]
      rw [GivesBack, list_answered]
      split_ifs
      · exact freed
      · have rounds := @replay_rounds _ _ _ (Between (some list))
          (fun index => actionsOf (vfinfoDevice (some list) (answers.device index) index))
          (fun _ => []) (fun index held between =>
            ⟨vfinfo_device_gives_back between (answers.device index) index, between⟩)
          answers.indices _ (between_first list)
        have nothing : (answers.indices.reverse.flatMap fun _ => ([] : List (Holding Handle))) = [] :=
          List.flatMap_eq_nil_iff.mpr fun _ _ => rfl
        rw [actions_append, actions_rounds, replay_append, rounds.1, Option.bind_some, nothing]
        exact freed

/-- The contexts that `trace_verbs` does not close, the last one opened first. -/
def abandonedContexts (answers : Answers) : List (Holding Handle) :=
  answers.indices.reverse.flatMap fun index => abandoned (answers.device index)

theorem abandoned_contexts (answers : Answers) :
    ∀ holding ∈ abandonedContexts answers, ∃ context, holding = ⟨.context context, []⟩ := by
  intro holding member
  rcases List.mem_flatMap.mp member with ⟨index, _, kept⟩
  rw [abandoned] at kept
  split_ifs at kept
  · rcases List.mem_map.mp kept with ⟨context, _, same⟩
    exact ⟨context, same.symm⟩
  · cases kept

theorem null_list_fails {calls : List Call}
    (first : ∃ call later, calls = call :: later ∧
      (call = .freeDeviceList none ∨ ∃ index answer, call = .openDevice none index answer)) :
    replay [] (actionsOf (.getDeviceList none :: calls)) = none := by
  rcases first with ⟨call, later, same, freed | ⟨index, answer, opened⟩⟩
  · rw [same, freed]
    exact replay_release_missing List.not_mem_nil _
  · rw [same, opened]
    exact replay_use_missing List.not_mem_nil _

theorem trace_verbs_replay (answers : Answers) :
    replay [] (actionsOf (traceVerbs answers)) =
      answers.deviceList.map fun _ => abandonedContexts answers := by
  cases listed : answers.deviceList with
  | none =>
      rw [traceVerbs, listed, Option.map_none]
      apply null_list_fails
      cases answers.indices with
      | nil => exact ⟨_, _, rfl, Or.inl rfl⟩
      | cons index rest => exact ⟨_, _, rfl, Or.inr ⟨_, _, rfl⟩⟩
  | some list =>
      have rounds := @replay_rounds _ _ _ (Between (some list))
        (fun index => actionsOf (traceDevice (some list) (answers.device index) index))
        (fun index => abandoned (answers.device index)) (fun index held between =>
          ⟨trace_device_replay between (answers.device index) index,
            between_abandoned between (answers.device index)⟩)
        answers.indices _ (between_first list)
      rw [traceVerbs, listed, list_answered, actions_append, actions_rounds, replay_append, rounds.1,
        Option.bind_some]
      exact list_freed (abandoned_contexts answers)

theorem abandoned_nil_iff (device : DeviceAnswers) :
    abandoned device = [] ↔ (device.context.isSome = true → device.queryPort = 0) := by
  rw [abandoned]
  cases device.context with
  | none => simp
  | some context => simp

/-- For all answers of the library: nothing is left over exactly where there is a
list and every port that is asked answers. -/
theorem trace_verbs_gives_back_iff (answers : Answers) :
    GivesBack [] (actionsOf (traceVerbs answers)) ↔ answers.deviceList.isSome = true ∧
      ∀ index ∈ answers.indices, (answers.device index).context.isSome = true →
        (answers.device index).queryPort = 0 := by
  rw [GivesBack, trace_verbs_replay]
  cases answers.deviceList with
  | none => simp
  | some list =>
      rw [Option.map_some, Option.some_inj, abandonedContexts, List.flatMap_eq_nil_iff]
      simp only [abandoned_nil_iff, List.mem_reverse, Option.isSome_some, true_and]

theorem dump_devices_gives_back {list : Option Nat} {held : List (Holding Handle)}
    (between : Between list held) (device : Nat → DeviceAnswers) (indices : List Nat) :
    GivesBack held (actionsOf (dumpDevices list device indices)) := by
  induction indices with
  | nil => exact replay_nil _
  | cons index rest induction =>
      have listed := gives_back_use between.listed
      rw [dumpDevices, actions_cons]
      cases (device index).context with
      | none => exact gives_back_append listed induction
      | some context =>
          have read := @context_used held context
          have named := gives_back_use (between_within between context).listed
          have bracket : ∀ body, GivesBack (within context held) body →
              GivesBack held (.acquire (.context context) [] ::
                (body ++ [.release (.context context)])) := fun _ inner =>
            gives_back_bracket (by simp) (unneeded_between between _) (by simp) inner
          by_cases active : (device index).portState = ibvPortActive
          · have dumped := bracket _ (gives_back_append read (gives_back_append named read))
            have whole := gives_back_append listed dumped
            simp only [active, ne_eq, not_true, if_false]
            exact whole
          · have closed := gives_back_append listed (bracket _ read)
            have whole := gives_back_append closed induction
            simp only [active, ne_eq, not_false_eq_true, if_true]
            exact whole

def Call.opsRead : Call → Option Nat
  | .readOps context => some context
  | _ => none

/-- The context of a device whose port is found active, whether the query went well or not. -/
def DeviceAnswers.activeContext (device : DeviceAnswers) : Option Nat :=
  device.context.filter fun _ => device.portState = ibvPortActive

theorem dump_devices_first (list : Option Nat) (device : Nat → DeviceAnswers) (indices : List Nat) :
    (dumpDevices list device indices).filterMap Call.opsRead =
      (indices.filterMap fun index => (device index).activeContext).head?.toList := by
  induction indices with
  | nil => rfl
  | cons index rest induction =>
      rw [dumpDevices]
      cases opened : (device index).context with
      | none =>
          have none : (device index).activeContext = none := by
            rw [DeviceAnswers.activeContext, opened]
            rfl
          simp only [List.filterMap_cons, none]
          exact induction
      | some context =>
          by_cases active : (device index).portState = ibvPortActive
          · have found : (device index).activeContext = some context := by
              rw [DeviceAnswers.activeContext, opened]
              simp [active]
            simp only [List.filterMap_cons, found, active, ne_eq, not_true, if_false]
            rfl
          · have none : (device index).activeContext = none := by
              rw [DeviceAnswers.activeContext, opened]
              simp [active]
            simp only [List.filterMap_cons, none, active, ne_eq, not_false_eq_true, if_true]
            exact induction

/-- What `dump_ops` does for all answers of the library. -/
structure DumpsFirst (answers : Answers) : Prop where
  givesBack : GivesBack [] (actionsOf (dumpOps answers)) ↔ answers.deviceList.isSome = true
  dumped : (dumpOps answers).filterMap Call.opsRead =
    (answers.indices.filterMap fun index => (answers.device index).activeContext).head?.toList

theorem dump_ops_dumps_first (answers : Answers) : DumpsFirst answers where
  givesBack := by
    cases listed : answers.deviceList with
    | none =>
        have fails : replay [] (actionsOf (dumpOps answers)) = none := by
          rw [dumpOps, listed]
          apply null_list_fails
          cases answers.indices with
          | nil => exact ⟨_, _, rfl, Or.inl rfl⟩
          | cons index rest => exact ⟨_, _, rfl, Or.inr ⟨_, _, rfl⟩⟩
        rw [GivesBack, fails]
        simp
    | some list =>
        have dumped := dump_devices_gives_back (between_first list) answers.device answers.indices
        have freed := @list_freed (some list) [] (by simp)
        have whole : GivesBack [] (actionsOf (dumpOps answers)) := by
          rw [GivesBack, dumpOps, listed, list_answered, actions_append, replay_append, dumped,
            Option.bind_some]
          exact freed
        exact iff_of_true whole rfl
  dumped := by
    have first := dump_devices_first answers.deviceList answers.device answers.indices
    rw [dumpOps, List.filterMap_cons, List.filterMap_append, first]
    exact List.append_nil _

end Verbifrost.VerbsClients
