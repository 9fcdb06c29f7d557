import Verbifrost.Mlx5CmdRuns

/-!
# Whose memory it is

The owner bit of the ring entry says who may touch the shared memory. Here the
pieces of a run are listed with the memory each of them finds and leaves: where
the driver writes, whether it owns the entry when it does, and what a call makes
of a device that keeps to the protocol in turn, that is one that only touches the
memory while the entry is its own.
-/

namespace Verbifrost.Mlx5CmdOwnership

open Verbifrost.ByteMemory Verbifrost.Mlx5Registers Verbifrost.ReferenceHeap
open Verbifrost.Mlx5CmdExec Verbifrost.Mlx5CmdInit Verbifrost.Mlx5CmdAddresses
open Verbifrost.Mlx5CmdProtocol Verbifrost.Mlx5CmdSubmission Verbifrost.Mlx5CmdRing
open Verbifrost.Mlx5CmdRuns

set_option autoImplicit false

/-- One piece of a call, with the memory it finds and the memory it leaves. -/
structure Access where
  writes : Bool
  before : DmaMemory
  after : DmaMemory

def writesMemory : Phase → Bool
  | .picked _ => true
  | .filled _ => true
  | _ => false

def accessOf (phase : Phase) (queue : CmdQueue) : Access where
  writes := writesMemory phase
  before := queue.mem
  after := (callStep phase queue).2.mem

/-- The pieces along `drive`. -/
def accesses (act : DeviceAct) : Nat → Nat → Phase → CmdQueue → List Access
  | 0, _, _, _ => []
  | _ + 1, _, .returned _ _, _ => []
  | fuel + 1, tick, phase, queue =>
      let found := { queue with mem := act tick queue.mem }
      accessOf phase found ::
        accesses act fuel (tick + 1) (callStep phase found).1 (callStep phase found).2

def callAccesses (act : DeviceAct) (call : CmdCall) (queue : CmdQueue) : List Access :=
  accesses act execFuel 0 (.entered call) queue

def runAccesses (queue : CmdQueue) (commands : List (DeviceAct × CmdCall)) : List Access :=
  (eachCall callAccesses queue commands).flatten

/-- The piece leaves alone what lies behind these many bytes of the ring and of the pool. -/
structure Within (ringBytes poolBytes : Nat) (access : Access) : Prop where
  ring : ∀ index, ringBytes ≤ index → access.after.ring index = access.before.ring index
  pool : ∀ index, poolBytes ≤ index → access.after.mboxPool index = access.before.mboxPool index

/-- The driver holds entry 0. -/
def Held (mem : DmaMemory) : Prop := ownerOf (mem.ring protBlockStatusOff) = mlx5CmdOwnerSw

instance (mem : DmaMemory) : Decidable (Held mem) := inferInstanceAs (Decidable (_ = _))

/-- What the driver writes it writes while the entry is its own. -/
def Respects (access : Access) : Prop := access.writes = true → Held access.before

/-- A device that leaves the memory alone while the driver holds the entry. -/
def ActsAsOwner (act : DeviceAct) : Prop := ∀ tick mem, Held mem → act tick mem = mem

/-- The device does nothing in a call before its doorbell, whatever it still owes. -/
def ActsOnDoorbell (act : DeviceAct) : Prop := ∀ tick < 3, ∀ mem, act tick mem = mem

/-- The result is that of one answer, the memory as it was when the entry was
given back, or of none. Given back behind the last poll, the delivery status of
the entry is not read. -/
structure CompletesAtomically (act : DeviceAct) (call : CmdCall) (queue : CmdQueue) : Prop where
  polled : ∀ moment < pollLimit, GivenBack act call queue moment →
    (∀ earlier < moment, ¬GivenBack act call queue earlier) →
      (mlx5CmdExec act call queue).1 =
        answeredResult call ((deviceMem act call queue moment).ring protBlockStatusOff)
          (outMbox 0#32 (deviceMem act call queue moment))
  late : ∀ moment, pollLimit ≤ moment → moment ≤ pollLimit + 1 → GivenBack act call queue moment →
    (∀ earlier < moment, ¬GivenBack act call queue earlier) →
      (mlx5CmdExec act call queue).1 =
        answeredResult call 0#8 (outMbox 0#32 (deviceMem act call queue moment))
  never : (∀ moment ≤ pollLimit + 1, ¬GivenBack act call queue moment) →
    (mlx5CmdExec act call queue).1 = failWith call .timeout 0xFF

theorem accesses_invariant {act : DeviceAct} {invariant : Phase → CmdQueue → Prop}
    {property : Access → Prop}
    (preserved : ∀ tick phase queue, 0 < piecesLeft phase → invariant phase queue →
      property (accessOf phase { queue with mem := act tick queue.mem }) ∧
        invariant (callStep phase { queue with mem := act tick queue.mem }).1
          (callStep phase { queue with mem := act tick queue.mem }).2)
    (fuel tick : Nat) {phase : Phase} {queue : CmdQueue} (initial : invariant phase queue) :
    ∀ access ∈ accesses act fuel tick phase queue, property access := by
  induction fuel generalizing tick phase queue with
  | zero =>
      intro access member
      cases member
  | succ fuel induction =>
      by_cases unfinished : 0 < piecesLeft phase
      · rcases preserved tick phase queue unfinished initial with ⟨first, next⟩
        have listed : accesses act (fuel + 1) tick phase queue =
            accessOf phase { queue with mem := act tick queue.mem } ::
              accesses act fuel (tick + 1)
                (callStep phase { queue with mem := act tick queue.mem }).1
                (callStep phase { queue with mem := act tick queue.mem }).2 := by
          cases phase with
          | returned sub result => simp [piecesLeft] at unfinished
          | _ => rfl
        rw [listed]
        intro access member
        rcases List.mem_cons.mp member with rfl | later
        · exact first
        · exact induction (tick + 1) next access later
      · obtain ⟨sub, result, rfl⟩ := pieces_left_zero (Nat.eq_zero_of_not_pos unfinished)
        intro access member
        cases member

theorem run_accesses_of_calls {property : Access → Prop}
    (holds : ∀ act call queue, ∀ access ∈ callAccesses act call queue, property access)
    (queue : CmdQueue) (commands : List (DeviceAct × CmdCall)) :
    ∀ access ∈ runAccesses queue commands, property access := by
  induction commands generalizing queue with
  | nil =>
      intro access member
      cases member
  | cons command rest induction =>
      rcases command with ⟨act, call⟩
      intro access member
      rw [runAccesses, eachCall, List.flatten_cons, List.mem_append] at member
      rcases member with first | later
      · exact holds act call queue access first
      · exact induction _ access later

/-- Every call uses slot 0. -/
def UsesFirstSlot : Phase → Prop
  | .entered _ => True
  | .picked sub | .filled sub | .polling sub _ | .sawOwner sub | .polled sub _ | .delivered sub
  | .accepted sub _ | .returned sub _ => sub.slot = 0#32

theorem call_step_first_slot {phase : Phase} (first : UsesFirstSlot phase) (queue : CmdQueue) :
    UsesFirstSlot (callStep phase queue).1 := by
  cases phase with
  | entered call => rfl
  | polling sub remaining =>
      cases remaining with
      | zero => exact first
      | succ remaining =>
          simp only [callStep]
          split_ifs <;> exact first
  | polled sub deliveryStatus =>
      simp only [callStep]
      split_ifs <;> exact first
  | delivered sub =>
      simp only [callStep]
      split_ifs <;> exact first
  | _ => exact first

/-- The status byte is not part of the request, the signature byte is the end of it. -/
theorem fill_entry_outside (ctx : Mlx5CmdContext) (call : CmdCall) (token : BitVec 8) (ring : Bytes)
    (index : Nat) (outside : index < 4 ∨ 33 ≤ index) :
    fillEntry ctx call 0#32 token ring index = ring index := by
  simp only [fillEntry, entry_offset_zero, Nat.zero_add, protBlockInPtrOff, protBlockInLenOff,
    protBlockOutPtrOff, protBlockOutLenOff, protBlockTokenOff, protBlockSignatureOff]
  rw [store_outside _ _ _ _ (by omega), store_outside _ _ _ _ (by omega),
    store_outside _ _ _ _ (by omega), store_outside _ _ _ _ (by omega),
    store_outside _ _ _ _ (by omega), store_outside _ _ _ _ (by omega)]

theorem fill_mailboxes_outside (call : CmdCall) (pool : Bytes) (index : Nat)
    (outside : 8192 ≤ index) : fillMailboxes call 0#32 pool index = pool index := by
  have size : mlx5CmdMailboxSize.toNat = 4096 := rfl
  simp only [fillMailboxes, in_mbox_offset_zero, out_mbox_offset_zero, size]
  rw [copy_in_data_outside _ _ _ _ (by omega), write_header_outside _ _ _ _ (by omega),
    copy_in_outside _ _ _ _ _ (by omega), copy_in_outside _ _ _ _ _ (by omega)]

theorem call_step_reads {phase : Phase} (reading : writesMemory phase = false) (queue : CmdQueue) :
    (callStep phase queue).2.mem = queue.mem := by
  cases phase with
  | picked sub => cases reading
  | filled sub => cases reading
  | polling sub remaining =>
      cases remaining with
      | zero => rfl
      | succ remaining =>
          simp only [callStep]
          split_ifs <;> rfl
  | polled sub deliveryStatus =>
      simp only [callStep]
      split_ifs <;> rfl
  | delivered sub =>
      simp only [callStep]
      split_ifs <;> rfl
  | _ => rfl

theorem access_within {phase : Phase} (first : UsesFirstSlot phase) (queue : CmdQueue) :
    Within 33 8192 (accessOf phase queue) := by
  cases writing : writesMemory phase with
  | false =>
      have same := call_step_reads writing queue
      constructor
      · intro index _
        exact congrArg (fun mem => mem.ring index) same
      · intro index _
        exact congrArg (fun mem => mem.mboxPool index) same
  | true =>
      cases phase with
      | picked sub =>
          rcases sub with ⟨call, slot, token⟩
          obtain rfl : slot = 0#32 := first
          constructor
          · intro index beyond
            exact fill_entry_outside _ _ _ _ _ (Or.inr beyond)
          · intro index beyond
            exact fill_mailboxes_outside _ _ _ beyond
      | filled sub =>
          rcases sub with ⟨call, slot, token⟩
          obtain rfl : slot = 0#32 := first
          constructor
          · intro index beyond
            simp only [accessOf, callStep, writeStatus, entry_offset_zero, Nat.zero_add,
              protBlockStatusOff]
            exact store_outside _ _ _ _ (by omega)
          · intro index _
            rfl
      | _ => cases writing

theorem call_accesses_within (act : DeviceAct) (call : CmdCall) (queue : CmdQueue) :
    ∀ access ∈ callAccesses act call queue, Within 33 8192 access := by
  have preserved : ∀ (tick : Nat) (phase : Phase) (queue : CmdQueue), 0 < piecesLeft phase →
      UsesFirstSlot phase → Within 33 8192 (accessOf phase { queue with mem := act tick queue.mem }) ∧
        UsesFirstSlot (callStep phase { queue with mem := act tick queue.mem }).1 :=
    fun _ _ _ _ first => ⟨access_within first _, call_step_first_slot first _⟩
  have start : UsesFirstSlot (.entered call) := trivial
  exact accesses_invariant preserved execFuel 0 start

def atRequest (act : DeviceAct) (queue : CmdQueue) : CmdQueue where
  ctx := { queue.ctx with nextToken := nextToken queue.ctx.nextToken }
  mem := act 1 (act 0 queue.mem)

theorem request_accessed (act : DeviceAct) (call : CmdCall) (queue : CmdQueue) :
    accessOf (.picked (submission call queue)) (atRequest act queue) ∈
      callAccesses act call queue := by
  have listed : callAccesses act call queue =
      accessOf (.entered call) { queue with mem := act 0 queue.mem } ::
        accessOf (.picked (submission call queue)) (atRequest act queue) ::
          accesses act (pollLimit + 6) 2 (.filled (submission call queue))
            (callStep (.picked (submission call queue)) (atRequest act queue)).2 := rfl
  rw [listed]
  exact List.mem_cons_of_mem _ List.mem_cons_self

/-- A device that leaves a byte where the signature of the next request goes. -/
def setSignature : DeviceAct := fun _ mem => { mem with ring := store mem.ring 32 1#8 }

theorem signature_cleared (call : CmdCall) (queue : CmdQueue) :
    ((accessOf (.picked (submission call queue)) (atRequest setSignature queue)).before.ring 32 = 1) ∧
      (accessOf (.picked (submission call queue)) (atRequest setSignature queue)).after.ring 32 = 0 := by
  constructor
  · exact store_byte (setSignature 0 queue.mem).ring 32 1#8
  · simp only [accessOf, callStep, fillRequest, fillEntry, submission, entry_offset_zero,
      Nat.zero_add]
    exact store_byte _ 32 0#8

/-- For every queue that was set up: every run of commands stays inside the ring
and the mailbox pool exactly when the ring has room for the fields of one entry. -/
theorem commands_within_buffers_iff (outcomes : CmdInitOutcomes) (bar0 : BitVec 64)
    (bar0Size : BitVec 32) (iseg : Bytes) (heap : Heap)
    (succeeded : (mlx5CmdInit outcomes bar0 bar0Size iseg heap).ret = .success) :
    (∀ commands, ∀ access ∈ runAccesses (mlx5CmdInit outcomes bar0 bar0Size iseg heap).queue commands,
        Within (ringSize (mlx5CmdInit outcomes bar0 bar0Size iseg heap).queue.ctx).toNat
          (mboxPoolSize (mlx5CmdInit outcomes bar0 bar0Size iseg heap).queue.ctx).toNat access) ↔
      33 ≤ (ringSize (mlx5CmdInit outcomes bar0 bar0Size iseg heap).queue.ctx).toNat := by
  have poolSize := cmd_init_pool_size outcomes bar0 bar0Size iseg heap succeeded
  generalize mlx5CmdInit outcomes bar0 bar0Size iseg heap = state at poolSize ⊢
  constructor
  · intro within
    by_contra small
    have member : accessOf (.picked (submission bareInitHca state.queue))
        (atRequest setSignature state.queue) ∈
        runAccesses state.queue [(setSignature, bareInitHca)] := by
      rw [runAccesses, eachCall, eachCall, List.flatten_singleton]
      exact request_accessed setSignature bareInitHca state.queue
    rcases signature_cleared bareInitHca state.queue with ⟨before, after⟩
    have kept := (within _ _ member).ring 32 (by omega)
    rw [before, after] at kept
    exact absurd kept (by decide)
  · intro room commands access member
    have confined := run_accesses_of_calls call_accesses_within state.queue commands access member
    constructor
    · intro index beyond
      exact confined.ring index (by omega)
    · intro index beyond
      exact confined.pool index (by omega)

theorem wide_ring_within :
    (mlx5CmdInit ringAllocated 0 0 wideParams emptyHeap).ret = .success ∧
      ∀ commands,
        ∀ access ∈ runAccesses (mlx5CmdInit ringAllocated 0 0 wideParams emptyHeap).queue commands,
          Within (ringSize (mlx5CmdInit ringAllocated 0 0 wideParams emptyHeap).queue.ctx).toNat
            (mboxPoolSize (mlx5CmdInit ringAllocated 0 0 wideParams emptyHeap).queue.ctx).toNat
            access := by
  have params : isegRead32 wideParams mlx5IsegCmdqParams = 0x00050600 := iseg_read_write _ _ _
  obtain ⟨entries, stride⟩ := cmd_init_geometry ringAllocated 0 0 wideParams emptyHeap
  have size : ringSize (mlx5CmdInit ringAllocated 0 0 wideParams emptyHeap).queue.ctx = 2048 := by
    rw [ringSize, entries, stride, geometry, params]
    decide
  refine ⟨rfl, (commands_within_buffers_iff _ _ _ _ _ rfl).mpr ?_⟩
  rw [size]
  decide

/-- The owner bit up to the doorbell of a call that began with it. -/
def OwnedUntil (phase : Phase) (queue : CmdQueue) : Prop :=
  match phase with
  | .entered _ => Held queue.mem
  | .picked sub => sub.slot = 0#32 ∧ Held queue.mem
  | .filled sub => sub.slot = 0#32 ∧ Held queue.mem
  | _ => True

def OwnedSince (_ : Nat) (phase : Phase) (queue : CmdQueue) : Prop :=
  match phase with
  | .delivered _ => Held queue.mem
  | .accepted _ _ => Held queue.mem
  | .returned _ result => result.ret = .timeout ↔ ¬Held queue.mem
  | phase => UsesFirstSlot phase

theorem fill_request_held (ctx : Mlx5CmdContext) (call : CmdCall) (token : BitVec 8)
    (mem : DmaMemory) : Held (fillRequest ctx call 0#32 token mem) ↔ Held mem := by
  have kept := fill_entry_outside ctx call token mem.ring protBlockStatusOff (Or.inl (by decide))
  simp only [Held, fillRequest, kept]

theorem call_step_respects {act : DeviceAct} (owner : ActsAsOwner act) (tick : Nat) (phase : Phase)
    (queue : CmdQueue) (owned : OwnedUntil phase queue) :
    Respects (accessOf phase { queue with mem := act tick queue.mem }) ∧
      OwnedUntil (callStep phase { queue with mem := act tick queue.mem }).1
        (callStep phase { queue with mem := act tick queue.mem }).2 := by
  cases phase with
  | entered call =>
      have still := owner tick queue.mem owned
      rw [still]
      constructor
      · intro writing
        cases writing
      · exact ⟨rfl, owned⟩
  | picked sub =>
      rcases sub with ⟨call, slot, token⟩
      obtain ⟨rfl, held⟩ : slot = 0#32 ∧ Held queue.mem := owned
      have still := owner tick queue.mem held
      rw [still]
      constructor
      · intro _
        exact held
      · exact ⟨rfl, (fill_request_held _ _ _ _).mpr held⟩
  | filled sub =>
      have still := owner tick queue.mem owned.2
      rw [still]
      constructor
      · intro _
        exact owned.2
      · trivial
  | polling sub remaining =>
      constructor
      · intro writing
        cases writing
      · cases remaining with
        | zero => trivial
        | succ remaining =>
            simp only [callStep]
            split_ifs <;> trivial
  | polled sub deliveryStatus =>
      constructor
      · intro writing
        cases writing
      · simp only [callStep]
        split_ifs <;> trivial
  | delivered sub =>
      constructor
      · intro writing
        cases writing
      · simp only [callStep]
        split_ifs <;> trivial
  | _ =>
      constructor
      · intro writing
        cases writing
      · trivial

/-- A call that begins with the entry its own writes nothing without it. -/
theorem call_respects {act : DeviceAct} (owner : ActsAsOwner act) (call : CmdCall)
    {queue : CmdQueue} (held : Held queue.mem) :
    ∀ access ∈ callAccesses act call queue, Respects access := by
  have preserved : ∀ (tick : Nat) (phase : Phase) (queue : CmdQueue), 0 < piecesLeft phase →
      OwnedUntil phase queue → Respects (accessOf phase { queue with mem := act tick queue.mem }) ∧
        OwnedUntil (callStep phase { queue with mem := act tick queue.mem }).1
          (callStep phase { queue with mem := act tick queue.mem }).2 :=
    fun tick phase queue _ owned => call_step_respects owner tick phase queue owned
  have start : OwnedUntil (.entered call) queue := held
  exact accesses_invariant preserved execFuel 0 start

/-- A call that begins without it writes its request all the same. -/
theorem call_intrudes {act : DeviceAct} (doorbell : ActsOnDoorbell act) (call : CmdCall)
    {queue : CmdQueue} (lost : ¬Held queue.mem) :
    ¬∀ access ∈ callAccesses act call queue, Respects access := by
  intro respected
  apply lost
  have request := respected _ (request_accessed act call queue) rfl
  have still : act 1 (act 0 queue.mem) = queue.mem := by
    rw [doorbell 0 (by decide), doorbell 1 (by decide)]
  simpa only [accessOf, atRequest, still] using request

theorem call_step_owned {act : DeviceAct} (owner : ActsAsOwner act) (tick : Nat) (phase : Phase)
    (queue : CmdQueue) (unfinished : 0 < piecesLeft phase) (owned : OwnedSince tick phase queue) :
    OwnedSince (tick + 1) (callStep phase { queue with mem := act tick queue.mem }).1
      (callStep phase { queue with mem := act tick queue.mem }).2 := by
  cases phase with
  | entered call => rfl
  | polling sub remaining =>
      cases remaining with
      | zero => exact owned
      | succ remaining =>
          simp only [callStep]
          split_ifs <;> exact owned
  | polled sub deliveryStatus =>
      rcases sub with ⟨call, slot, token⟩
      obtain rfl : slot = 0#32 := owned
      simp only [callStep, read_status_zero]
      split_ifs with lost undelivered
      · exact iff_of_true rfl lost
      · exact iff_of_false (by intro timeout; cases timeout) lost
      · exact not_not.mp lost
  | delivered sub =>
      have still := owner tick queue.mem owned
      rw [still]
      simp only [callStep]
      split_ifs
      · exact iff_of_false (by intro timeout; cases timeout) (not_not.mpr owned)
      · exact owned
  | accepted sub fwStatus =>
      have still := owner tick queue.mem owned
      rw [still]
      exact iff_of_false (by intro timeout; cases timeout) (not_not.mpr owned)
  | returned sub result => simp [piecesLeft] at unfinished
  | _ => exact owned

/-- After a call the entry is the driver's, unless the call has timed out. -/
theorem call_returns_entry {act : DeviceAct} (owner : ActsAsOwner act) (call : CmdCall)
    (queue : CmdQueue) :
    returnCode act call queue = .timeout ↔ ¬Held (mlx5CmdExec act call queue).2.mem := by
  have start : OwnedSince 0 (.entered call) queue := trivial
  rcases drive_invariant (call_step_owned owner) execFuel start with ⟨_, _, _, owned⟩
  rcases exec_returns act call queue with ⟨sub, result, final, returned⟩
  rw [final] at owned
  rw [returnCode, returned]
  exact owned

theorem run_respects_cons {act : DeviceAct} (owner : ActsAsOwner act) (call : CmdCall)
    {queue : CmdQueue} (held : Held queue.mem) (rest : List (DeviceAct × CmdCall)) :
    (∀ access ∈ runAccesses queue ((act, call) :: rest), Respects access) ↔
      ∀ access ∈ runAccesses (mlx5CmdExec act call queue).2 rest, Respects access := by
  rw [runAccesses, eachCall, List.flatten_cons, List.forall_mem_append]
  exact and_iff_right (call_respects owner call held)

theorem run_intrudes {act : DeviceAct} (doorbell : ActsOnDoorbell act) (call : CmdCall)
    {queue : CmdQueue} (lost : ¬Held queue.mem) (rest : List (DeviceAct × CmdCall)) :
    ¬∀ access ∈ runAccesses queue ((act, call) :: rest), Respects access := by
  intro respected
  apply call_intrudes doorbell call lost
  intro access member
  apply respected
  rw [runAccesses, eachCall, List.flatten_cons, List.mem_append]
  exact Or.inl member

/-- By induction on the run: a call that times out leaves the entry to the next one. -/
theorem run_respects_iff {queue : CmdQueue} {commands : List (DeviceAct × CmdCall)}
    (held : Held queue.mem) (owner : ∀ command ∈ commands, ActsAsOwner command.1)
    (doorbell : ∀ command ∈ commands, ActsOnDoorbell command.1) :
    (∀ access ∈ runAccesses queue commands, Respects access) ↔
      ∀ code ∈ (returnCodes queue commands).dropLast, code ≠ .timeout := by
  induction commands generalizing queue with
  | nil =>
      constructor
      · intro _ code member
        cases member
      · intro _ access member
        cases member
  | cons command rest induction =>
      rcases command with ⟨act, call⟩
      rcases List.forall_mem_cons.mp owner with ⟨first, laterOwner⟩
      rcases List.forall_mem_cons.mp doorbell with ⟨_, laterDoorbell⟩
      rw [run_respects_cons first call held]
      cases rest with
      | nil =>
          constructor
          · intro _ code member
            cases member
          · intro _ access member
            cases member
      | cons next rest =>
          have codes : returnCodes queue ((act, call) :: next :: rest) =
              returnCode act call queue ::
                returnCodes (mlx5CmdExec act call queue).2 (next :: rest) := rfl
          have nonempty : returnCodes (mlx5CmdExec act call queue).2 (next :: rest) ≠ [] := by
            intro empty
            cases empty
          have returned := call_returns_entry first call queue
          rw [codes, List.dropLast_cons_of_ne_nil nonempty, List.forall_mem_cons]
          by_cases answered : returnCode act call queue = .timeout
          · have intrudes := run_intrudes (laterDoorbell next List.mem_cons_self) next.2
              (returned.mp answered) rest
            apply iff_of_false
            · exact intrudes
            · rintro ⟨notTimeout, _⟩
              exact notTimeout answered
          · have kept := not_not.mp (fun lost => answered (returned.mpr lost))
            exact (induction kept laterOwner laterDoorbell).trans (and_iff_right answered).symm

/-- For every queue that was set up and every run of commands on devices that act
on the doorbell and only while they own the entry: the driver writes only what is
its own exactly when no call but the last one has timed out. -/
theorem driver_respects_owner_iff (outcomes : CmdInitOutcomes) (bar0 : BitVec 64)
    (bar0Size : BitVec 32) (iseg : Bytes) (heap : Heap)
    (succeeded : (mlx5CmdInit outcomes bar0 bar0Size iseg heap).ret = .success)
    (commands : List (DeviceAct × CmdCall))
    (owner : ∀ command ∈ commands, ActsAsOwner command.1)
    (doorbell : ∀ command ∈ commands, ActsOnDoorbell command.1) :
    (∀ access ∈ runAccesses (mlx5CmdInit outcomes bar0 bar0Size iseg heap).queue commands,
        Respects access) ↔
      ∀ code ∈ (returnCodes (mlx5CmdInit outcomes bar0 bar0Size iseg heap).queue commands).dropLast,
        code ≠ .timeout := by
  have held : Held (mlx5CmdInit outcomes bar0 bar0Size iseg heap).queue.mem := by
    have released := cmd_init_entry_released outcomes bar0 bar0Size iseg heap succeeded
    rwa [read_status_zero] at released
  exact run_respects_iff held owner doorbell

/-- Two commands that are never answered: the second request is written into an
entry the device still owns. -/
theorem silent_commands_intrude :
    (mlx5CmdInit ringAllocated 0 0 wideParams emptyHeap).ret = .success ∧
      ¬∀ access ∈ runAccesses (mlx5CmdInit ringAllocated 0 0 wideParams emptyHeap).queue
        [(silentDevice, bareInitHca), (silentDevice, bareInitHca)], Respects access := by
  have owner : ∀ command ∈ [(silentDevice, bareInitHca), (silentDevice, bareInitHca)],
      ActsAsOwner command.1 := by
    intro command member
    simp only [List.mem_cons, List.not_mem_nil, or_false, or_self] at member
    subst member
    exact fun _ _ _ => rfl
  have doorbell : ∀ command ∈ [(silentDevice, bareInitHca), (silentDevice, bareInitHca)],
      ActsOnDoorbell command.1 := by
    intro command member
    simp only [List.mem_cons, List.not_mem_nil, or_false, or_self] at member
    subst member
    exact fun _ _ _ => rfl
  refine ⟨rfl, ?_⟩
  rw [driver_respects_owner_iff _ _ _ _ _ rfl _ owner doorbell]
  intro answered
  exact answered _ List.mem_cons_self (silent_times_out _ _)

section Settling

variable {act : DeviceAct} (owner : ActsAsOwner act) (call : CmdCall) (queue : CmdQueue)

def beforeAccess (act : DeviceAct) (call : CmdCall) (queue : CmdQueue) : Nat → DmaMemory
  | 0 => handedOver act call queue
  | access + 1 => deviceMem act call queue access

theorem access_acts (access : Nat) :
    act (3 + access) (beforeAccess act call queue access) = deviceMem act call queue access := by
  cases access <;> rfl

theorem given_back_held (access : Nat) :
    GivenBack act call queue access ↔ Held (deviceMem act call queue access) := by
  rw [GivenBack, read_status_zero]
  rfl

theorem drive_until_given_back (polls fuel remaining : Nat)
    (kept : ∀ earlier < polls, ¬GivenBack act call queue earlier) :
    drive act (fuel + polls) 3 (.polling (submission call queue) (remaining + polls))
        ⟨(submitted call queue).ctx, handedOver act call queue⟩ =
      drive act fuel (3 + polls) (.polling (submission call queue) remaining)
        ⟨(submitted call queue).ctx, beforeAccess act call queue polls⟩ := by
  induction polls generalizing fuel remaining with
  | zero => rfl
  | succ polls induction =>
      have last : ¬ownerOf ((deviceMem act call queue polls).ring protBlockStatusOff) =
          mlx5CmdOwnerSw := fun held =>
        kept polls (Nat.lt_succ_self _) ((given_back_held call queue polls).mpr held)
      have shifted : fuel + (polls + 1) = fuel + 1 + polls := by omega
      have counted : remaining + (polls + 1) = remaining + 1 + polls := by omega
      have polling : 0 < piecesLeft (.polling (submission call queue) (remaining + 1)) :=
        Nat.succ_pos _
      rw [shifted, counted,
        induction (fuel + 1) (remaining + 1) (fun earlier before => kept earlier (by omega)),
        drive_step _ _ _ _ _ polling]
      simp only [access_acts, callStep, submission, read_status_zero]
      rw [if_neg last]
      rfl

theorem exec_until_given_back {polls : Nat} (remaining : Nat) (split : pollLimit = remaining + polls)
    (kept : ∀ earlier < polls, ¬GivenBack act call queue earlier) :
    drive act execFuel 0 (.entered call) queue =
      drive act (remaining + 5) (3 + polls) (.polling (submission call queue) remaining)
        ⟨(submitted call queue).ctx, beforeAccess act call queue polls⟩ := by
  have opened := drive_opening act (pollLimit + 5) call queue
  have waited := drive_until_given_back call queue polls (remaining + 5) remaining kept
  have fuel : pollLimit + 5 = remaining + 5 + polls := by omega
  rw [← waited, ← split, ← fuel]
  exact opened

theorem exec_past_polls (kept : ∀ earlier < pollLimit, ¬GivenBack act call queue earlier) :
    drive act execFuel 0 (.entered call) queue =
      drive act 4 (3 + (pollLimit + 1)) (.polled (submission call queue) (deliveryOf 0#8))
        ⟨(submitted call queue).ctx, deviceMem act call queue pollLimit⟩ := by
  have polling : 0 < piecesLeft (.polling (submission call queue) 0) := Nat.succ_pos _
  rw [exec_until_given_back call queue 0 (Nat.zero_add _).symm kept,
    drive_step _ _ _ _ _ polling]
  simp only [access_acts, callStep]
  rfl

include owner

/-- From a timeout check that finds the entry given back nothing changes any more. -/
theorem drive_settled_check (token : BitVec 8) (status : Byte) (current : CmdQueue)
    (mem : DmaMemory) (tick fuel : Nat) (now : act tick current.mem = mem) (held : Held mem) :
    (drive act (fuel + 4) tick (.polled ⟨call, 0#32, token⟩ (deliveryOf status)) current).1 =
      .returned ⟨call, 0#32, token⟩ (answeredResult call status (outMbox 0#32 mem)) := by
  have still : ∀ tick, act tick mem = mem := fun tick => owner tick mem held
  have free : ¬ownerOf (readStatus current.ctx 0#32 mem) ≠ mlx5CmdOwnerSw := by
    rw [read_status_zero]
    exact not_not.mpr held
  unfold answeredResult
  by_cases delivered : deliveryOf status ≠ mlx5CmdDeliveryStatOk
  · simp only [drive, callStep, now, if_neg free, if_pos delivered]
  · by_cases accepted : outMbox 0#32 mem mlx5MboxStatusOff ≠ mlx5CmdStatOk
    · simp only [drive, callStep, now, still, if_neg free, if_neg delivered, if_pos accepted]
    · simp only [drive, callStep, now, still, if_neg free, if_neg delivered, if_neg accepted]

theorem exec_given_back_polled {moment : Nat} (inTime : moment < pollLimit)
    (given : GivenBack act call queue moment)
    (kept : ∀ earlier < moment, ¬GivenBack act call queue earlier) :
    (mlx5CmdExec act call queue).1 =
      answeredResult call ((deviceMem act call queue moment).ring protBlockStatusOff)
        (outMbox 0#32 (deviceMem act call queue moment)) := by
  have held := (given_back_held call queue moment).mp given
  have free : ownerOf ((deviceMem act call queue moment).ring protBlockStatusOff) =
      mlx5CmdOwnerSw := held
  have still : ∀ tick, act tick (deviceMem act call queue moment) =
      deviceMem act call queue moment := fun tick => owner tick _ held
  obtain ⟨left, split⟩ : ∃ left, pollLimit = left + 1 + moment :=
    ⟨pollLimit - moment - 1, by omega⟩
  have polling : 0 < piecesLeft (.polling (submission call queue) (left + 1)) := Nat.succ_pos _
  have shifted : left + 1 + 5 = left + 4 + 1 + 1 := by omega
  -- the poll that finds the entry given back, then the second read of its status
  have noticed : drive act execFuel 0 (.entered call) queue =
      drive act (left + 4) (3 + moment + 1 + 1)
        (.polled (submission call queue)
          (deliveryOf ((deviceMem act call queue moment).ring protBlockStatusOff)))
        ⟨(submitted call queue).ctx, deviceMem act call queue moment⟩ := by
    rw [exec_until_given_back call queue (left + 1) split kept, shifted,
      drive_step _ _ _ _ _ polling]
    simp only [access_acts, callStep, submission, read_status_zero, if_pos free]
    simp only [drive, still, callStep, read_status_zero]
  have settled := drive_settled_check owner call (nextToken queue.ctx.nextToken)
    ((deviceMem act call queue moment).ring protBlockStatusOff)
    ⟨(submitted call queue).ctx, deviceMem act call queue moment⟩ _ (3 + moment + 1 + 1) left
    (still _) held
  rw [mlx5CmdExec, noticed]
  exact congrArg resultOf settled

theorem exec_given_back_late {moment : Nat} (afterPolls : pollLimit ≤ moment)
    (beforeCheck : moment ≤ pollLimit + 1) (given : GivenBack act call queue moment)
    (kept : ∀ earlier < moment, ¬GivenBack act call queue earlier) :
    (mlx5CmdExec act call queue).1 =
      answeredResult call 0#8 (outMbox 0#32 (deviceMem act call queue moment)) := by
  have held := (given_back_held call queue moment).mp given
  have past := exec_past_polls call queue (fun earlier before => kept earlier (by omega))
  have found : act (3 + (pollLimit + 1)) (deviceMem act call queue pollLimit) =
      deviceMem act call queue moment := by
    rcases Nat.eq_or_lt_of_le afterPolls with atEnd | afterEnd
    · rw [atEnd]
      exact owner _ _ held
    · have last : moment = pollLimit + 1 := by omega
      rw [last]
      rfl
  have settled := drive_settled_check owner call (nextToken queue.ctx.nextToken) 0#8
    ⟨(submitted call queue).ctx, deviceMem act call queue pollLimit⟩ _ (3 + (pollLimit + 1)) 0
    found held
  rw [mlx5CmdExec, past]
  exact congrArg resultOf settled

end Settling

theorem exec_never_given_back (act : DeviceAct) (call : CmdCall) (queue : CmdQueue)
    (kept : ∀ moment ≤ pollLimit + 1, ¬GivenBack act call queue moment) :
    (mlx5CmdExec act call queue).1 = failWith call .timeout 0xFF := by
  have past := exec_past_polls call queue (fun earlier before => kept earlier (by omega))
  have found : act (3 + (pollLimit + 1)) (deviceMem act call queue pollLimit) =
      deviceMem act call queue (pollLimit + 1) := rfl
  have lost : ownerOf ((deviceMem act call queue (pollLimit + 1)).ring protBlockStatusOff) ≠
      mlx5CmdOwnerSw := fun held =>
    kept (pollLimit + 1) (Nat.le_refl _) ((given_back_held call queue (pollLimit + 1)).mpr held)
  rw [mlx5CmdExec, past]
  simp only [drive, callStep, submission, found, read_status_zero, if_pos lost]
  rfl

/-- For every call on every queue, and every device that touches the memory only
while the entry is its own, however often and wherever it does. -/
theorem completes_atomically (act : DeviceAct) (owner : ActsAsOwner act) (call : CmdCall)
    (queue : CmdQueue) : CompletesAtomically act call queue where
  polled := fun _ inTime given kept => exec_given_back_polled owner call queue inTime given kept
  late := fun _ afterPolls beforeCheck given kept =>
    exec_given_back_late owner call queue afterPolls beforeCheck given kept
  never := exec_never_given_back act call queue

/-- While it owns the entry: half of the response, then all of it with the status byte. -/
def stagedDevice : DeviceAct := fun tick mem =>
  if Held mem then mem
  else if tick = 5 then { mem with mboxPool := copyIn mem.mboxPool 4096 (fun _ => 0xFF) 2048 }
  else if tick = 9 then writeAnswer 0#8 zeroBytes mem
  else mem

theorem staged_device_atomic :
    CompletesAtomically stagedDevice bareInitHca
      (mlx5CmdInit ringAllocated 0 0 wideParams emptyHeap).queue := by
  apply completes_atomically
  intro tick mem held
  exact if_pos held

end Verbifrost.Mlx5CmdOwnership
