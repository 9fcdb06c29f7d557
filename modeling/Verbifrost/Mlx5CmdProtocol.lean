import Mathlib.Logic.Function.Basic
import Verbifrost.GuardedRun
import Verbifrost.Mlx5CmdExec

/-!
# Calls and device as one system

Any number of calls of `mlx5_cmd_exec` on one context, interleaved with a
device that fetches, answers and releases each command whose doorbell it saw,
at any later moment. A call is named by a number that is never used twice; the
same number names its command on the device side, so "the response to this
very request" is a statement about one entry of `device`. The driver side is
`callStep`, the same pieces that `mlx5CmdExec` runs.
-/

namespace Verbifrost.Mlx5CmdProtocol

open Verbifrost.ByteMemory Verbifrost.Mlx5Registers Verbifrost.GuardedRun Verbifrost.Mlx5CmdExec

set_option autoImplicit false

@[ext] structure Request where
  opcode : BitVec 16
  opMod : BitVec 16
  inData : Bytes
  token : BitVec 32

/-- What a device reads from a ring entry and the input mailbox it points to. -/
def decodeRequest (entry inMbox : Nat) (mem : DmaMemory) : Request where
  opcode := loadBE mem.mboxPool (inMbox + mlx5MboxOpcodeOff) 16
  opMod := loadBE mem.mboxPool (inMbox + mlx5MboxOpModOff) 16
  inData := fun index => if index < 4080 then mem.mboxPool (inMbox + 16 + index) else 0
  token := loadBE mem.ring (entry + protBlockTokenOff) 32

def requestOf (sub : Submission) : Request where
  opcode := sub.call.opcode
  opMod := sub.call.opMod
  inData := payload sub.call
  token := sub.token.setWidth 32

/-- The device may write fewer bytes than the mailbox holds. -/
structure Response where
  length : Nat
  bytes : Bytes

/-- The cleared output mailbox with the response written over it. -/
def Response.image (response : Response) : Bytes := fun index =>
  if index < min response.length 4096 then response.bytes index else 0

inductive Stage where
  | unsent
  | rung (slot : BitVec 32)
  | fetched (slot : BitVec 32) (request : Request)
  | responded (slot : BitVec 32) (request : Request) (response : Response)
  | done (request : Request) (response : Response)

def Stage.Outstanding : Stage → Prop
  | .rung _ | .fetched _ _ | .responded _ _ _ => True
  | .unsent | .done _ _ => False

structure System where
  queue : CmdQueue
  phase : Nat → Option Phase
  device : Nat → Stage

def initialSystem (queue : CmdQueue) : System where
  queue := queue
  phase := fun _ => none
  device := fun _ => .unsent

inductive Action where
  | begin (id : Nat) (call : CmdCall)
  | advance (id : Nat)
  | fetch (id : Nat)
  | respond (id : Nat) (response : Response)
  | release (id : Nat) (delivery : BitVec 7)

/-- Only the piece that hands the entry over also rings the doorbell. -/
def ringDoorbell (phase : Phase) (id : Nat) (device : Nat → Stage) : Nat → Stage :=
  match phase with
  | .filled sub => Function.update device id (.rung sub.slot)
  | _ => device

def advanceCall (sys : System) (id : Nat) (phase : Phase) : System where
  queue := (callStep phase sys.queue).2
  phase := Function.update sys.phase id (some (callStep phase sys.queue).1)
  device := ringDoorbell phase id sys.device

def writeResponse (slot : BitVec 32) (response : Response) (mem : DmaMemory) : DmaMemory :=
  { mem with
    mboxPool := copyIn mem.mboxPool (outMboxOffset slot).toNat response.bytes
      (min response.length 4096) }

def withMem (queue : CmdQueue) (mem : DmaMemory) : CmdQueue := { queue with mem := mem }

def step (sys : System) : Action → Option System
  | .begin id call =>
      match sys.phase id with
      | none => some (advanceCall sys id (.entered call))
      | some _ => none
  | .advance id =>
      match sys.phase id with
      | none => none
      | some (.returned _ _) => none
      | some phase => some (advanceCall sys id phase)
  | .fetch id =>
      match sys.device id with
      | .rung slot =>
          let request := decodeRequest (entryOffset sys.queue.ctx slot) (inMboxOffset slot).toNat
            sys.queue.mem
          some { sys with device := Function.update sys.device id (.fetched slot request) }
      | _ => none
  | .respond id response =>
      match sys.device id with
      | .fetched slot request =>
          some { sys with
            queue := withMem sys.queue (writeResponse slot response sys.queue.mem)
            device := Function.update sys.device id (.responded slot request response) }
      | _ => none
  | .release id delivery =>
      match sys.device id with
      | .responded slot request response =>
          some { sys with
            queue := withMem sys.queue
              (writeStatus sys.queue.ctx slot (delivery ++ 0#1) sys.queue.mem)
            device := Function.update sys.device id (.done request response) }
      | _ => none

/-- A call that has picked its slot and has not returned. -/
def Using : Option Phase → Prop
  | none | some (.returned _ _) => False
  | some _ => True

/-- The caller got the status and the bytes the device produced for this request. -/
def ReturnsOwn (sub : Submission) (result : CmdResult) (stage : Stage) : Prop :=
  ∃ response : Response, stage = .done (requestOf sub) response ∧
    response.image mlx5MboxStatusOff = mlx5CmdStatOk ∧
    result.outStatus = reportStatus sub.call (response.image mlx5MboxStatusOff) ∧
    result.outData = copyResponse sub.call response.image

/-- One caller: a call starts when no other is in progress. -/
def OneAtATime (sys : System) : Action → Prop
  | .begin _ _ => ∀ other, ¬Using (sys.phase other)
  | _ => True

/-- A call starts when ring entry 0 is owned by software. -/
def EntryFree (sys : System) : Action → Prop
  | .begin _ _ => ownerOf (readStatus sys.queue.ctx 0#32 sys.queue.mem) = mlx5CmdOwnerSw
  | _ => True

def InTime (sys : System) : Action → Prop
  | .advance id => ∀ sub deliveryStatus, sys.phase id = some (.polled sub deliveryStatus) →
      ownerOf (readStatus sys.queue.ctx 0#32 sys.queue.mem) = mlx5CmdOwnerSw
  | _ => True

def entryOwner (mem : DmaMemory) : Byte := ownerOf (mem.ring protBlockStatusOff)

def OutHolds (mem : DmaMemory) (content : Bytes) : Prop :=
  ∀ index < 4096, outMbox 0#32 mem index = content index

theorem read_status_zero (ctx : Mlx5CmdContext) (mem : DmaMemory) :
    readStatus ctx 0#32 mem = mem.ring protBlockStatusOff := by
  simp [readStatus]

theorem write_status_zero (ctx : Mlx5CmdContext) (status : Byte) (mem : DmaMemory) :
    entryOwner (writeStatus ctx 0#32 status mem) = ownerOf status := by
  rw [entryOwner, ← read_status_zero ctx, read_status_write]

theorem decode_write_status (ctx : Mlx5CmdContext) (status : Byte) (mem : DmaMemory) :
    decodeRequest 0 0 (writeStatus ctx 0#32 status mem) = decodeRequest 0 0 mem := by
  have token : loadBE (writeStatus ctx 0#32 status mem).ring (0 + protBlockTokenOff) 32 =
      loadBE mem.ring (0 + protBlockTokenOff) 32 := by
    simp only [writeStatus, entry_offset_zero]
    exact load_be_store_disjoint (by decide) _ _ _ _ (by decide)
  simp only [decodeRequest, token]
  rfl

theorem fill_entry_token (ctx : Mlx5CmdContext) (call : CmdCall) (token : BitVec 8) (ring : Bytes) :
    loadBE (fillEntry ctx call 0#32 token ring) protBlockTokenOff 32 = token.setWidth 32 := by
  simp only [fillEntry, entry_offset_zero, Nat.zero_add]
  rw [load_be_store_disjoint (by decide) _ _ _ _ (by decide)]
  exact load_be_store_swap (by decide) _ _ _

theorem payload_short (call : CmdCall) (index : Nat) (beyond : 4080 ≤ index) :
    payload call index = 0 := by
  have short := in_copy_len_le call
  unfold payload
  cases call.inData with
  | none => rfl
  | some data =>
      have outside : ¬index < (inCopyLen call).toNat := by omega
      simp only [if_neg outside]

theorem fill_request_decodes (ctx : Mlx5CmdContext) (sub : Submission) (mem : DmaMemory) :
    decodeRequest 0 0 (fillRequest ctx sub.call 0#32 sub.token mem) = requestOf sub := by
  apply Request.ext
  · change loadBE (fillMailboxes sub.call 0#32 mem.mboxPool) 0 16 = sub.call.opcode
    rw [← request_mailbox_opcode]
    apply load_be_congr (by decide)
    intro index bound
    exact fill_mailboxes_request _ _ _ (by omega)
  · change loadBE (fillMailboxes sub.call 0#32 mem.mboxPool) 6 16 = sub.call.opMod
    rw [← request_mailbox_op_mod]
    apply load_be_congr (by decide)
    intro index bound
    exact fill_mailboxes_request _ _ _ (by omega)
  · funext index
    simp only [decodeRequest, requestOf, fillRequest, Nat.zero_add]
    split_ifs with inside
    · rw [fill_mailboxes_request _ _ _ (by omega), request_mailbox_payload]
    · exact (payload_short _ _ (by omega)).symm
  · simp only [decodeRequest, requestOf, fillRequest, Nat.zero_add, fill_entry_token]

theorem fill_request_out_zero (ctx : Mlx5CmdContext) (sub : Submission) (mem : DmaMemory) :
    OutHolds (fillRequest ctx sub.call 0#32 sub.token mem) zeroBytes := by
  intro index inside
  simp only [outMbox, window, out_mbox_offset_zero, fillRequest]
  exact fill_mailboxes_out_zero _ _ _ inside

theorem fill_request_owner (ctx : Mlx5CmdContext) (sub : Submission) (mem : DmaMemory) :
    entryOwner (fillRequest ctx sub.call 0#32 sub.token mem) = entryOwner mem := by
  simp only [entryOwner, fillRequest, fillEntry, entry_offset_zero, Nat.zero_add, store]
  iterate 6 rw [copy_in_outside _ _ _ _ _ (by left; decide)]

theorem write_response_out (response : Response) (mem : DmaMemory) (blank : OutHolds mem zeroBytes) :
    OutHolds (writeResponse 0#32 response mem) response.image := by
  intro index inside
  have before := blank index inside
  simp only [outMbox, window, out_mbox_offset_zero, writeResponse, Response.image] at before ⊢
  split_ifs with written
  · exact copy_in_inside _ _ _ _ _ written
  · rw [copy_in_outside _ _ _ _ _ (by omega)]
    exact before

/-- How far the device is with the command of `sub`, and what the shared
memory holds because of it. -/
def Tracks (mem : DmaMemory) (sub : Submission) : Stage → Prop
  | .unsent => False
  | .rung slot =>
      slot = 0#32 ∧ entryOwner mem ≠ mlx5CmdOwnerSw ∧ decodeRequest 0 0 mem = requestOf sub ∧
        OutHolds mem zeroBytes
  | .fetched slot request =>
      slot = 0#32 ∧ entryOwner mem ≠ mlx5CmdOwnerSw ∧ request = requestOf sub ∧
        OutHolds mem zeroBytes
  | .responded slot request response =>
      slot = 0#32 ∧ entryOwner mem ≠ mlx5CmdOwnerSw ∧ request = requestOf sub ∧
        OutHolds mem response.image
  | .done request response =>
      entryOwner mem = mlx5CmdOwnerSw ∧ request = requestOf sub ∧ OutHolds mem response.image

def PhaseOk (mem : DmaMemory) (stage : Stage) : Phase → Prop
  | .entered _ => False
  | .picked sub => sub.slot = 0#32 ∧ stage = .unsent
  | .filled sub =>
      sub.slot = 0#32 ∧ stage = .unsent ∧ decodeRequest 0 0 mem = requestOf sub ∧
        OutHolds mem zeroBytes
  | .polling sub _ | .polled sub _ => sub.slot = 0#32 ∧ Tracks mem sub stage
  | .sawOwner sub | .delivered sub =>
      sub.slot = 0#32 ∧ Tracks mem sub stage ∧ entryOwner mem = mlx5CmdOwnerSw
  | .accepted sub fwStatus =>
      sub.slot = 0#32 ∧ Tracks mem sub stage ∧ entryOwner mem = mlx5CmdOwnerSw ∧
        fwStatus = outMbox 0#32 mem mlx5MboxStatusOff ∧ fwStatus = mlx5CmdStatOk
  | .returned sub result =>
      (stage.Outstanding → Tracks mem sub stage) ∧
        (result.ret = .success → ReturnsOwn sub result stage) ∧
        (result.ret ≠ .timeout → ¬stage.Outstanding)

theorem tracks_busy {mem : DmaMemory} {sub : Submission} {stage : Stage}
    (tracks : Tracks mem sub stage) (outstanding : stage.Outstanding) :
    entryOwner mem ≠ mlx5CmdOwnerSw := by
  cases stage with
  | unsent => exact tracks.elim
  | rung slot => exact tracks.2.1
  | fetched slot request => exact tracks.2.1
  | responded slot request response => exact tracks.2.1
  | done request response => exact outstanding.elim

theorem tracks_released {mem : DmaMemory} {sub : Submission} {stage : Stage}
    (tracks : Tracks mem sub stage) (released : entryOwner mem = mlx5CmdOwnerSw) :
    ∃ response, stage = .done (requestOf sub) response ∧ OutHolds mem response.image := by
  cases stage with
  | unsent => exact tracks.elim
  | rung slot => exact absurd released tracks.2.1
  | fetched slot request => exact absurd released tracks.2.1
  | responded slot request response => exact absurd released tracks.2.1
  | done request response =>
      obtain ⟨_, same, holds⟩ := tracks
      exact ⟨response, by rw [same], holds⟩

theorem tracks_released_settled {mem : DmaMemory} {sub : Submission} {stage : Stage}
    (tracks : Tracks mem sub stage) (released : entryOwner mem = mlx5CmdOwnerSw) :
    ¬stage.Outstanding := by
  intro outstanding
  exact tracks_busy tracks outstanding released

/-- A call occupies the slot from its pick until it returned and its command is over. -/
def Busy (sys : System) (id : Nat) : Prop := Using (sys.phase id) ∨ (sys.device id).Outstanding

structure Exclusive (sys : System) : Prop where
  unsent : ∀ id, sys.phase id = none → sys.device id = .unsent
  phases : ∀ id phase, sys.phase id = some phase →
    PhaseOk sys.queue.mem (sys.device id) phase
  exclusive : ∀ left right, Busy sys left → Busy sys right → left = right

theorem initial_exclusive (queue : CmdQueue) : Exclusive (initialSystem queue) where
  unsent := by intro id _; rfl
  phases := by intro id phase started; cases started
  exclusive := by
    intro left right busy _
    rcases busy with using_ | outstanding
    · exact using_.elim
    · exact outstanding.elim

/-- A returned call whose command is over no longer depends on the memory. -/
theorem settled_phase_ok {before after : DmaMemory} {stage : Stage} {phase : Phase}
    (ok : PhaseOk before stage phase) (idle : ¬Using (some phase)) (settled : ¬stage.Outstanding) :
    PhaseOk after stage phase := by
  cases phase with
  | returned sub result =>
      obtain ⟨_, own, ended⟩ := ok
      exact ⟨fun outstanding => absurd outstanding settled, own, ended⟩
  | _ => exact absurd trivial idle

theorem failed_phase_ok {mem : DmaMemory} {stage : Stage} {sub : Submission} {result : CmdResult}
    (tracks : Tracks mem sub stage) (failed : result.ret ≠ .success)
    (ended : result.ret ≠ .timeout → ¬stage.Outstanding) :
    PhaseOk mem stage (.returned sub result) := by
  refine ⟨fun _ => tracks, ?_, ended⟩
  intro success
  exact absurd success failed

/-- A step that concerns one call only, while no other call is busy. -/
theorem exclusive_of_one {sys next : System} (id : Nat) (inv : Exclusive sys)
    (others : ∀ other, other ≠ id → ¬Busy sys other)
    (samePhase : ∀ other, other ≠ id → next.phase other = sys.phase other)
    (sameDevice : ∀ other, other ≠ id → next.device other = sys.device other)
    (ownUnsent : next.phase id = none → next.device id = .unsent)
    (ownPhase : ∀ phase, next.phase id = some phase →
      PhaseOk next.queue.mem (next.device id) phase) : Exclusive next where
  unsent := by
    intro other fresh
    by_cases same : other = id
    · subst same
      exact ownUnsent fresh
    · rw [sameDevice other same]
      exact inv.unsent other (by rw [← samePhase other same]; exact fresh)
  phases := by
    intro other phase current
    by_cases same : other = id
    · subst same
      exact ownPhase phase current
    · rw [samePhase other same] at current
      rw [sameDevice other same]
      have quiet := others other same
      apply settled_phase_ok (inv.phases other phase current)
      · intro active
        exact quiet (Or.inl (by rw [current]; exact active))
      · intro outstanding
        exact quiet (Or.inr outstanding)
  exclusive := by
    have onlyId : ∀ other, Busy next other → other = id := by
      intro other busy
      by_contra different
      apply others other different
      rw [Busy, samePhase other different, sameDevice other different] at busy
      exact busy
    intro left right leftBusy rightBusy
    rw [onlyId left leftBusy, onlyId right rightBusy]

def stageAfter (phase : Phase) (stage : Stage) : Stage :=
  match phase with
  | .filled sub => .rung sub.slot
  | _ => stage

/-- One piece of the call whose turn it is. -/
theorem call_step_phase_ok (queue : CmdQueue) (stage : Stage) (phase : Phase)
    (ok : PhaseOk queue.mem stage phase) (active : Using (some phase)) :
    PhaseOk (callStep phase queue).2.mem (stageAfter phase stage) (callStep phase queue).1 := by
  have ownerRead : ownerOf (readStatus queue.ctx 0#32 queue.mem) = entryOwner queue.mem := by
    rw [read_status_zero, entryOwner]
  cases phase with
  | entered call => exact ok.elim
  | picked sub =>
      obtain ⟨slot, unsent⟩ := ok
      simp only [callStep, slot]
      exact ⟨slot, unsent, fill_request_decodes _ _ _, fill_request_out_zero _ _ _⟩
  | filled sub =>
      obtain ⟨slot, _, decodes, blank⟩ := ok
      simp only [callStep, slot, stageAfter]
      refine ⟨slot, rfl, ?_, ?_, blank⟩
      · rw [write_status_zero]
        decide
      · rw [decode_write_status]
        exact decodes
  | polling sub remaining =>
      obtain ⟨slot, tracks⟩ := ok
      cases remaining with
      | zero => exact ⟨slot, tracks⟩
      | succ remaining =>
          simp only [callStep, slot, ownerRead]
          split_ifs with released
          · exact ⟨slot, tracks, released⟩
          · exact ⟨slot, tracks⟩
  | sawOwner sub =>
      obtain ⟨slot, tracks, _⟩ := ok
      exact ⟨slot, tracks⟩
  | polled sub deliveryStatus =>
      obtain ⟨slot, tracks⟩ := ok
      simp only [callStep, slot, ownerRead]
      split_ifs with busy undelivered
      · apply failed_phase_ok tracks (by simp [failWith])
        intro late
        exact absurd rfl late
      · apply failed_phase_ok tracks (by simp [failWith])
        intro _
        exact tracks_released_settled tracks (not_not.mp busy)
      · exact ⟨slot, tracks, not_not.mp busy⟩
  | delivered sub =>
      obtain ⟨slot, tracks, released⟩ := ok
      simp only [callStep, slot]
      split_ifs with refused
      · apply failed_phase_ok tracks (by simp [failWith])
        intro _
        exact tracks_released_settled tracks released
      · exact ⟨slot, tracks, released, rfl, not_not.mp refused⟩
  | accepted sub fwStatus =>
      obtain ⟨slot, tracks, released, examined, accepted⟩ := ok
      obtain ⟨response, done, holds⟩ := tracks_released tracks released
      have status : fwStatus = response.image mlx5MboxStatusOff :=
        examined.trans (holds mlx5MboxStatusOff (by decide))
      refine ⟨fun _ => tracks, fun _ => ⟨response, done, ?_, ?_, ?_⟩,
        fun _ => tracks_released_settled tracks released⟩
      · rw [← status, accepted]
      · rw [← status]
      · simp only [slot]
        exact copy_response_congr _ holds
  | returned sub result => exact active.elim

theorem outstanding_phase {mem : DmaMemory} {stage : Stage} {phase : Phase}
    (ok : PhaseOk mem stage phase) (outstanding : stage.Outstanding) :
    (∃ sub remaining, phase = .polling sub remaining ∧ sub.slot = 0#32 ∧ Tracks mem sub stage) ∨
      (∃ sub deliveryStatus, phase = .polled sub deliveryStatus ∧ sub.slot = 0#32 ∧
        Tracks mem sub stage) ∨
      ∃ sub result, phase = .returned sub result ∧ result.ret = .timeout ∧ Tracks mem sub stage := by
  cases phase with
  | entered call => exact ok.elim
  | picked sub =>
      rw [ok.2] at outstanding
      exact outstanding.elim
  | filled sub =>
      rw [ok.2.1] at outstanding
      exact outstanding.elim
  | polling sub remaining => exact Or.inl ⟨sub, remaining, rfl, ok⟩
  | polled sub deliveryStatus => exact Or.inr (Or.inl ⟨sub, deliveryStatus, rfl, ok⟩)
  | sawOwner sub => exact absurd ok.2.2 (tracks_busy ok.2.1 outstanding)
  | delivered sub => exact absurd ok.2.2 (tracks_busy ok.2.1 outstanding)
  | accepted sub fwStatus => exact absurd ok.2.2.1 (tracks_busy ok.2.1 outstanding)
  | returned sub result =>
      obtain ⟨tracks, _, ended⟩ := ok
      have late : result.ret = .timeout := by
        by_contra other
        exact ended other outstanding
      exact Or.inr (Or.inr ⟨sub, result, rfl, late, tracks outstanding⟩)

/-- The device moves an outstanding command on, whatever its call is doing. -/
theorem device_step_phase_ok {before after : DmaMemory} {stage moved : Stage} {phase : Phase}
    (ok : PhaseOk before stage phase) (outstanding : stage.Outstanding)
    (transfer : ∀ sub, Tracks before sub stage → Tracks after sub moved) :
    PhaseOk after moved phase := by
  rcases outstanding_phase ok outstanding with
    ⟨sub, remaining, rfl, slot, tracks⟩ | ⟨sub, deliveryStatus, rfl, slot, tracks⟩ |
      ⟨sub, result, rfl, late, tracks⟩
  · exact ⟨slot, transfer sub tracks⟩
  · exact ⟨slot, transfer sub tracks⟩
  · apply failed_phase_ok (transfer sub tracks)
    · rw [late]
      decide
    · intro other
      exact absurd late other

theorem delivery_released (delivery : BitVec 7) : ownerOf (delivery ++ 0#1) = mlx5CmdOwnerSw := by
  revert delivery
  decide

theorem outstanding_tracks {sys : System} (inv : Exclusive sys) (id : Nat)
    (outstanding : (sys.device id).Outstanding) :
    ∃ sub, Tracks sys.queue.mem sub (sys.device id) := by
  cases current : sys.phase id with
  | none =>
      rw [inv.unsent id current] at outstanding
      exact outstanding.elim
  | some phase =>
      rcases outstanding_phase (inv.phases id phase current) outstanding with
        ⟨sub, _, _, _, tracks⟩ | ⟨sub, _, _, _, tracks⟩ | ⟨sub, _, _, _, tracks⟩
      all_goals exact ⟨sub, tracks⟩

theorem begin_cases {sys next : System} {id : Nat} {call : CmdCall}
    (stepped : step sys (.begin id call) = some next) :
    sys.phase id = none ∧ next = advanceCall sys id (.entered call) := by
  cases fresh : sys.phase id with
  | none =>
      simp only [step, fresh, Option.some.injEq] at stepped
      exact ⟨rfl, stepped.symm⟩
  | some phase => simp [step, fresh] at stepped

theorem advance_cases {sys next : System} {id : Nat} (stepped : step sys (.advance id) = some next) :
    ∃ phase, sys.phase id = some phase ∧ Using (some phase) ∧ next = advanceCall sys id phase := by
  cases current : sys.phase id with
  | none => simp [step, current] at stepped
  | some phase =>
      cases phase with
      | returned sub result => simp [step, current] at stepped
      | _ =>
          simp only [step, current, Option.some.injEq] at stepped
          exact ⟨_, rfl, trivial, stepped.symm⟩

theorem fetch_cases {sys next : System} {id : Nat} (stepped : step sys (.fetch id) = some next) :
    ∃ slot, sys.device id = .rung slot ∧
      next = { sys with
        device := Function.update sys.device id (.fetched slot
          (decodeRequest (entryOffset sys.queue.ctx slot) (inMboxOffset slot).toNat sys.queue.mem)) } := by
  cases stage : sys.device id with
  | rung slot =>
      simp only [step, stage, Option.some.injEq] at stepped
      exact ⟨slot, rfl, stepped.symm⟩
  | _ => simp [step, stage] at stepped

theorem respond_cases {sys next : System} {id : Nat} {response : Response}
    (stepped : step sys (.respond id response) = some next) :
    ∃ slot request, sys.device id = .fetched slot request ∧
      next = { sys with
        queue := withMem sys.queue (writeResponse slot response sys.queue.mem)
        device := Function.update sys.device id (.responded slot request response) } := by
  cases stage : sys.device id with
  | fetched slot request =>
      simp only [step, stage, Option.some.injEq] at stepped
      exact ⟨slot, request, rfl, stepped.symm⟩
  | _ => simp [step, stage] at stepped

theorem release_cases {sys next : System} {id : Nat} {delivery : BitVec 7}
    (stepped : step sys (.release id delivery) = some next) :
    ∃ slot request response, sys.device id = .responded slot request response ∧
      next = { sys with
        queue := withMem sys.queue (writeStatus sys.queue.ctx slot (delivery ++ 0#1) sys.queue.mem)
        device := Function.update sys.device id (.done request response) } := by
  cases stage : sys.device id with
  | responded slot request response =>
      simp only [step, stage, Option.some.injEq] at stepped
      exact ⟨slot, request, response, rfl, stepped.symm⟩
  | _ => simp [step, stage] at stepped

theorem begin_exclusive {sys : System} {id : Nat} {call : CmdCall} (inv : Exclusive sys)
    (fresh : sys.phase id = none) (alone : ∀ other, ¬Using (sys.phase other))
    (free : entryOwner sys.queue.mem = mlx5CmdOwnerSw) :
    Exclusive (advanceCall sys id (.entered call)) := by
  apply exclusive_of_one id inv
  · intro other _ busy
    rcases busy with active | outstanding
    · exact alone other active
    · obtain ⟨sub, tracks⟩ := outstanding_tracks inv other outstanding
      exact tracks_busy tracks outstanding free
  · intro other different
    exact Function.update_of_ne different _ _
  · intro other _
    rfl
  · intro unstarted
    simp [advanceCall] at unstarted
  · intro phase current
    simp only [advanceCall, Function.update_self, Option.some.injEq] at current
    subst current
    exact ⟨rfl, inv.unsent id fresh⟩

theorem advance_exclusive {sys : System} {id : Nat} {phase : Phase} (inv : Exclusive sys)
    (current : sys.phase id = some phase) (active : Using (some phase)) :
    Exclusive (advanceCall sys id phase) := by
  have busy : Busy sys id := Or.inl (by rw [current]; exact active)
  have ownStage : ringDoorbell phase id sys.device id = stageAfter phase (sys.device id) := by
    cases phase <;> simp [ringDoorbell, stageAfter]
  have otherStage : ∀ other, other ≠ id → ringDoorbell phase id sys.device other = sys.device other := by
    intro other different
    cases phase <;> simp [ringDoorbell, Function.update_of_ne different]
  apply exclusive_of_one id inv
  · intro other different otherBusy
    exact different (inv.exclusive other id otherBusy busy)
  · intro other different
    exact Function.update_of_ne different _ _
  · exact otherStage
  · intro unstarted
    simp [advanceCall] at unstarted
  · intro moved after
    simp only [advanceCall, Function.update_self, Option.some.injEq] at after
    subst after
    simp only [advanceCall, ownStage]
    exact call_step_phase_ok _ _ _ (inv.phases id phase current) active

theorem device_exclusive {sys : System} {id : Nat} {moved : Stage} (inv : Exclusive sys)
    (mem : DmaMemory) (outstanding : (sys.device id).Outstanding)
    (transfer : ∀ sub, Tracks sys.queue.mem sub (sys.device id) → Tracks mem sub moved) :
    Exclusive { sys with
      queue := withMem sys.queue mem
      device := Function.update sys.device id moved } := by
  have busy : Busy sys id := Or.inr outstanding
  apply exclusive_of_one id inv
  · intro other different otherBusy
    exact different (inv.exclusive other id otherBusy busy)
  · intro other _
    rfl
  · intro other different
    exact Function.update_of_ne different _ _
  · intro unstarted
    rw [inv.unsent id unstarted] at outstanding
    exact outstanding.elim
  · intro phase current
    simp only [Function.update_self]
    exact device_step_phase_ok (inv.phases id phase current) outstanding transfer

theorem step_exclusive {sys next : System} {action : Action} (inv : Exclusive sys)
    (alone : OneAtATime sys action) (free : EntryFree sys action)
    (stepped : step sys action = some next) : Exclusive next := by
  cases action with
  | begin id call =>
      obtain ⟨fresh, rfl⟩ := begin_cases stepped
      exact begin_exclusive inv fresh alone
        (by simpa only [EntryFree, read_status_zero, entryOwner] using free)
  | advance id =>
      obtain ⟨phase, current, active, rfl⟩ := advance_cases stepped
      exact advance_exclusive inv current active
  | fetch id =>
      obtain ⟨slot, stage, rfl⟩ := fetch_cases stepped
      apply device_exclusive inv sys.queue.mem (by rw [stage]; trivial)
      intro sub tracks
      rw [stage] at tracks
      obtain ⟨rfl, owner, decodes, blank⟩ := tracks
      refine ⟨rfl, owner, ?_, blank⟩
      rw [entry_offset_zero, in_mbox_offset_zero]
      exact decodes
  | respond id response =>
      obtain ⟨slot, request, stage, rfl⟩ := respond_cases stepped
      apply device_exclusive inv _ (by rw [stage]; trivial)
      intro sub tracks
      rw [stage] at tracks
      obtain ⟨rfl, owner, same, blank⟩ := tracks
      exact ⟨rfl, owner, same, write_response_out _ _ blank⟩
  | release id delivery =>
      obtain ⟨slot, request, response, stage, rfl⟩ := release_cases stepped
      apply device_exclusive inv _ (by rw [stage]; trivial)
      intro sub tracks
      rw [stage] at tracks
      obtain ⟨rfl, _, same, holds⟩ := tracks
      refine ⟨?_, same, holds⟩
      rw [write_status_zero]
      exact delivery_released delivery

/-- Every run of a single caller in which each call finds the entry free. -/
theorem calls_return_own_response (queue : CmdQueue) (actions : List Action) (final : System)
    (ran : run step (initialSystem queue) actions = some final)
    (oneCaller : Meets step OneAtATime (initialSystem queue) actions)
    (entryFree : Meets step EntryFree (initialSystem queue) actions)
    (id : Nat) (sub : Submission) (result : CmdResult)
    (returned : final.phase id = some (.returned sub result)) (success : result.ret = .success) :
    ReturnsOwn sub result (final.device id) := by
  have exclusive : Exclusive final := by
    refine run_invariant ?_ (initial_exclusive queue) (meets_and oneCaller entryFree) ran
    intro sys action next inv guarded stepped
    exact step_exclusive inv guarded.1 guarded.2 stepped
  exact (exclusive.phases id _ returned).2.1 success

/-- Status zero and the number 7 in the first word of the body. -/
def sampleResponse : Response where
  length := 12
  bytes := store zeroBytes 8 (byteSwap 7#32)

def otherResponse : Response where
  length := 12
  bytes := store zeroBytes 8 (byteSwap 9#32)

def sendRun (id : Nat) (opcode : BitVec 16) : List Action :=
  [.begin id (sampleCall opcode), .advance id, .advance id]

def completeRun (id : Nat) (response : Response) : List Action :=
  [.fetch id, .respond id response, .release id 0]

def collectRun (id : Nat) : List Action := List.replicate 5 (.advance id)

def isBegin : Action → Bool
  | .begin _ _ => true
  | _ => false

theorem continuing_guards (sys : System) (action : Action) (continuing : isBegin action = false) :
    OneAtATime sys action ∧ EntryFree sys action := by
  cases action with
  | begin id call => cases continuing
  | _ => exact ⟨trivial, trivial⟩

theorem continuing_one_at_a_time {actions : List Action} (sys : System)
    (continuing : ∀ action ∈ actions, isBegin action = false) : Meets step OneAtATime sys actions := by
  apply meets_of_forall
  intro action member state
  exact (continuing_guards state action (continuing action member)).1

theorem continuing_entry_free {actions : List Action} (sys : System)
    (continuing : ∀ action ∈ actions, isBegin action = false) : Meets step EntryFree sys actions := by
  apply meets_of_forall
  intro action member state
  exact (continuing_guards state action (continuing action member)).2

theorem polls_run_out (sys : System) (id : Nat) (sub : Submission) (remaining : Nat)
    (current : sys.phase id = some (.polling sub remaining))
    (busy : ownerOf (readStatus sys.queue.ctx sub.slot sys.queue.mem) ≠ mlx5CmdOwnerSw) :
    run step sys (List.replicate remaining (.advance id)) =
      some { sys with phase := Function.update sys.phase id (some (.polling sub 0)) } := by
  induction remaining generalizing sys with
  | zero =>
      rw [← current, Function.update_eq_self]
      rfl
  | succ remaining induction =>
      have polled : advanceCall sys id (.polling sub (remaining + 1)) =
          { sys with phase := Function.update sys.phase id (some (.polling sub remaining)) } := by
        simp only [advanceCall, callStep, if_neg busy, ringDoorbell]
      have stepped : step sys (.advance id) =
          some { sys with phase := Function.update sys.phase id (some (.polling sub remaining)) } := by
        rw [← polled]
        simp only [step, current]
      rw [List.replicate_succ, run, stepped]
      dsimp only [Option.bind]
      have rest := induction
        { sys with phase := Function.update sys.phase id (some (.polling sub remaining)) }
        (by simp) busy
      simpa only [Function.update_idem] using rest

/-- The call gives up, the device fetches its command only now, answers it while
the next call is waiting, and answers the next command after that. -/
def lateTail : List Action :=
  [.advance 0, .advance 0, .fetch 0] ++ sendRun 1 mlx5CmdOpEnableHca ++
    [.respond 0 sampleResponse, .release 0 0, .advance 1, .advance 1, .advance 1, .advance 1,
      .advance 1, .fetch 1, .respond 1 otherResponse, .release 1 0]

def lateRun : List Action :=
  sendRun 0 mlx5CmdOpQueryPages ++ (List.replicate pollLimit (.advance 0) ++ lateTail)

def sentSystem : System :=
  advanceCall (advanceCall (advanceCall (initialSystem blankQueue) 0
    (.entered (sampleCall mlx5CmdOpQueryPages)))
      0 (.picked (submission (sampleCall mlx5CmdOpQueryPages) blankQueue)))
      0 (.filled (submission (sampleCall mlx5CmdOpQueryPages) blankQueue))

def timedOutSystem : System :=
  { sentSystem with
    phase := Function.update sentSystem.phase 0
      (some (.polling (submission (sampleCall mlx5CmdOpQueryPages) blankQueue) 0)) }

/-- The call gives up, the device completes its command afterwards, and only
then the next call starts. -/
def recoveredTail : List Action :=
  [.advance 0, .advance 0] ++ completeRun 0 sampleResponse ++ sendRun 1 mlx5CmdOpEnableHca ++
    completeRun 1 otherResponse ++ collectRun 1

def recoveredRun : List Action :=
  sendRun 0 mlx5CmdOpQueryPages ++ (List.replicate pollLimit (.advance 0) ++ recoveredTail)

theorem sent_run : run step (initialSystem blankQueue) (sendRun 0 mlx5CmdOpQueryPages) =
    some sentSystem := rfl

theorem polled_run :
    run step sentSystem (List.replicate pollLimit (.advance 0)) = some timedOutSystem :=
  polls_run_out sentSystem 0 _ pollLimit rfl (by decide)

theorem timed_out_guards {guard : System → Action → Prop} {tail : List Action}
    (continuing : ∀ sys action, isBegin action = false → guard sys action)
    (first : guard (initialSystem blankQueue) (.begin 0 (sampleCall mlx5CmdOpQueryPages)))
    (later : Meets step guard timedOutSystem tail) :
    Meets step guard (initialSystem blankQueue)
      (sendRun 0 mlx5CmdOpQueryPages ++ (List.replicate pollLimit (.advance 0) ++ tail)) := by
  apply meets_append sent_run
  · exact meets_cons rfl first (meets_cons rfl (continuing _ _ rfl)
      (meets_cons rfl (continuing _ _ rfl) trivial))
  · refine meets_append polled_run (meets_of_forall ?_ _) later
    intro action member sys
    rw [List.eq_of_mem_replicate member]
    exact continuing _ _ rfl

theorem recovered_run_returns_own :
    ∃ final first given sub result, run step (initialSystem blankQueue) recoveredRun = some final ∧
      final.phase 0 = some (.returned first given) ∧ given.ret = .timeout ∧
      final.phase 1 = some (.returned sub result) ∧ result.ret = .success ∧
      ReturnsOwn sub result (final.device 1) := by
  have oneCaller : Meets step OneAtATime (initialSystem blankQueue) recoveredRun := by
    apply timed_out_guards (fun sys action continuing => (continuing_guards sys action continuing).1)
    · intro other active
      exact active
    · iterate 5 apply meets_cons rfl trivial
      refine meets_cons rfl ?_ (continuing_one_at_a_time _ (by decide))
      intro other active
      cases other with
      | zero => exact active
      | succ other => exact active
  have entryFree : Meets step EntryFree (initialSystem blankQueue) recoveredRun := by
    apply timed_out_guards (fun sys action continuing => (continuing_guards sys action continuing).2)
    · rfl
    · iterate 5 apply meets_cons rfl trivial
      exact meets_cons rfl rfl (continuing_entry_free _ (by decide))
  have ran := run_trans sent_run (run_trans polled_run
    (show run step timedOutSystem recoveredTail = some _ from rfl))
  exact ⟨_, _, _, _, _, ran, rfl, rfl, rfl, rfl,
    calls_return_own_response blankQueue recoveredRun _ ran oneCaller entryFree 1 _ _ rfl rfl⟩

theorem late_completion_answers_next_call :
    ∃ final sub result, run step (initialSystem blankQueue) lateRun = some final ∧
      Meets step OneAtATime (initialSystem blankQueue) lateRun ∧
      final.phase 1 = some (.returned sub result) ∧ result.ret = .success ∧
      ¬ReturnsOwn sub result (final.device 1) := by
  have oneCaller : Meets step OneAtATime (initialSystem blankQueue) lateRun := by
    apply timed_out_guards (fun sys action continuing => (continuing_guards sys action continuing).1)
    · intro other active
      exact active
    · iterate 3 apply meets_cons rfl trivial
      refine meets_cons rfl ?_ (continuing_one_at_a_time _ (by decide))
      intro other active
      cases other with
      | zero => exact active
      | succ other => exact active
  refine ⟨_, _, _, run_trans sent_run (run_trans polled_run rfl), oneCaller, rfl, rfl, ?_⟩
  rintro ⟨response, stage, _, _, copied⟩
  rw [← (Stage.done.inj stage).2] at copied
  have bytes := congrFun (Option.some.inj copied) 3
  revert bytes
  decide

structure Served (sys : System) : Prop where
  exclusive : Exclusive sys
  owner : entryOwner sys.queue.mem ≠ mlx5CmdOwnerSw → ∃ id, (sys.device id).Outstanding
  inTime : ∀ id sub result, sys.phase id = some (.returned sub result) → result.ret ≠ .timeout

theorem initial_served (queue : CmdQueue)
    (released : ownerOf (readStatus queue.ctx 0#32 queue.mem) = mlx5CmdOwnerSw) :
    Served (initialSystem queue) where
  exclusive := initial_exclusive queue
  owner := by
    intro busy
    rw [read_status_zero] at released
    exact absurd released busy
  inTime := by intro id sub result returned; cases returned

theorem served_entry_free {sys : System} (served : Served sys)
    (alone : ∀ other, ¬Using (sys.phase other)) : entryOwner sys.queue.mem = mlx5CmdOwnerSw := by
  by_contra busy
  obtain ⟨id, outstanding⟩ := served.owner busy
  cases current : sys.phase id with
  | none =>
      rw [served.exclusive.unsent id current] at outstanding
      exact outstanding
  | some phase =>
      cases phase with
      | returned sub result =>
          exact (served.exclusive.phases id _ current).2.2 (served.inTime id _ _ current) outstanding
      | _ => exact alone id (by rw [current]; trivial)

theorem call_step_timeout {phase : Phase} {queue : CmdQueue} {sub : Submission} {result : CmdResult}
    (active : Using (some phase)) (returned : (callStep phase queue).1 = .returned sub result)
    (late : result.ret = .timeout) :
    ∃ deliveryStatus, phase = .polled sub deliveryStatus ∧
      ownerOf (readStatus queue.ctx sub.slot queue.mem) ≠ mlx5CmdOwnerSw := by
  cases phase with
  | polled held deliveryStatus =>
      simp only [callStep] at returned
      split_ifs at returned with busy undelivered
      · cases returned
        exact ⟨deliveryStatus, rfl, busy⟩
      · cases returned
        cases late
  | delivered held =>
      simp only [callStep] at returned
      split_ifs at returned
      cases returned
      cases late
  | accepted held fwStatus =>
      cases returned
      cases late
  | polling held remaining =>
      cases remaining with
      | zero => cases returned
      | succ remaining =>
          simp only [callStep] at returned
          split_ifs at returned
  | returned held result => exact active.elim
  | _ => cases returned

theorem call_step_owner {queue : CmdQueue} {stage : Stage} {phase : Phase}
    (ok : PhaseOk queue.mem stage phase) :
    (stageAfter phase stage).Outstanding ∨
      (entryOwner (callStep phase queue).2.mem = entryOwner queue.mem ∧
        stageAfter phase stage = stage) := by
  cases phase with
  | filled sub => exact Or.inl trivial
  | picked sub =>
      refine Or.inr ⟨?_, rfl⟩
      simp only [callStep, ok.1]
      exact fill_request_owner _ _ _
  | polling sub remaining =>
      refine Or.inr ⟨?_, rfl⟩
      cases remaining with
      | zero => rfl
      | succ remaining =>
          simp only [callStep]
          split_ifs <;> rfl
  | polled sub deliveryStatus =>
      refine Or.inr ⟨?_, rfl⟩
      simp only [callStep]
      split_ifs <;> rfl
  | delivered sub =>
      refine Or.inr ⟨?_, rfl⟩
      simp only [callStep]
      split_ifs <;> rfl
  | _ => exact Or.inr ⟨rfl, rfl⟩

theorem advance_served {sys : System} {id : Nat} {phase : Phase} (served : Served sys)
    (next : Exclusive (advanceCall sys id phase)) (current : sys.phase id = some phase)
    (active : Using (some phase))
    (inTime : InTime sys (.advance id)) : Served (advanceCall sys id phase) where
  exclusive := next
  owner := by
    intro busy
    rcases call_step_owner (served.exclusive.phases id phase current) with handed | ⟨kept, same⟩
    · refine ⟨id, ?_⟩
      cases phase <;> simpa [advanceCall, ringDoorbell, stageAfter] using handed
    · have before : entryOwner sys.queue.mem ≠ mlx5CmdOwnerSw := by
        rw [← kept]
        exact busy
      obtain ⟨other, outstanding⟩ := served.owner before
      refine ⟨other, ?_⟩
      cases phase with
      | filled sub =>
          by_cases own : other = id
          · simp [advanceCall, ringDoorbell, own, Stage.Outstanding]
          · simpa [advanceCall, ringDoorbell, Function.update_of_ne own] using outstanding
      | _ => exact outstanding
  inTime := by
    intro other sub result returned late
    by_cases own : other = id
    · subst own
      simp only [advanceCall, Function.update_self, Option.some.injEq] at returned
      obtain ⟨deliveryStatus, rfl, busy⟩ := call_step_timeout active returned late
      have slot := (served.exclusive.phases other _ current).1
      rw [slot] at busy
      exact busy (inTime sub deliveryStatus current)
    · simp only [advanceCall, Function.update_of_ne own] at returned
      exact served.inTime other sub result returned late

theorem step_served {sys next : System} {action : Action} (served : Served sys)
    (alone : OneAtATime sys action) (inTime : InTime sys action)
    (stepped : step sys action = some next) : Served next := by
  have free : EntryFree sys action := by
    cases action with
    | begin id call =>
        simpa only [EntryFree, read_status_zero, entryOwner] using served_entry_free served alone
    | _ => trivial
  have exclusive := step_exclusive served.exclusive alone free stepped
  cases action with
  | begin id call =>
      obtain ⟨fresh, rfl⟩ := begin_cases stepped
      refine ⟨exclusive, served.owner, ?_⟩
      intro other sub result returned
      by_cases own : other = id
      · simp [advanceCall, own, callStep] at returned
      · simp only [advanceCall, Function.update_of_ne own] at returned
        exact served.inTime other sub result returned
  | advance id =>
      obtain ⟨phase, current, active, rfl⟩ := advance_cases stepped
      exact advance_served served exclusive current active inTime
  | fetch id =>
      obtain ⟨slot, stage, rfl⟩ := fetch_cases stepped
      exact ⟨exclusive, fun _ => ⟨id, by simp [Stage.Outstanding]⟩, served.inTime⟩
  | respond id response =>
      obtain ⟨slot, request, stage, rfl⟩ := respond_cases stepped
      exact ⟨exclusive, fun _ => ⟨id, by simp [Stage.Outstanding]⟩, served.inTime⟩
  | release id delivery =>
      obtain ⟨slot, request, response, stage, rfl⟩ := release_cases stepped
      refine ⟨exclusive, ?_, served.inTime⟩
      intro busy
      obtain ⟨sub, tracks⟩ := outstanding_tracks served.exclusive id (by rw [stage]; trivial)
      rw [stage] at tracks
      obtain ⟨rfl, _⟩ := tracks
      refine absurd ?_ busy
      change entryOwner (writeStatus sys.queue.ctx 0#32 (delivery ++ 0#1) sys.queue.mem) = _
      rw [write_status_zero]
      exact delivery_released delivery

/-- Any interleaving of calls in which each picks the slot when no other call
is using it, and none times out. -/
theorem interleaved_calls_exclusive (queue : CmdQueue)
    (released : ownerOf (readStatus queue.ctx 0#32 queue.mem) = mlx5CmdOwnerSw)
    (actions : List Action) (final : System)
    (ran : run step (initialSystem queue) actions = some final)
    (inTime : Meets step InTime (initialSystem queue) actions)
    (slotFree : Meets step OneAtATime (initialSystem queue) actions) :
    (∀ left right, Using (final.phase left) → Using (final.phase right) → left = right) ∧
      ∀ id sub result, final.phase id = some (.returned sub result) → result.ret = .success →
        ReturnsOwn sub result (final.device id) := by
  have served : Served final := by
    refine run_invariant ?_ (initial_served queue released) (meets_and slotFree inTime) ran
    intro sys action next inv guarded stepped
    exact step_served inv guarded.1 guarded.2 stepped
  constructor
  · intro left right leftUsing rightUsing
    exact served.exclusive.exclusive left right (Or.inl leftUsing) (Or.inl rightUsing)
  · intro id sub result returned success
    exact (served.exclusive.phases id _ returned).2.1 success

/-- A call of one caller from its start to its return, then one of another
caller up to the moment the device has fetched its command. -/
def firstTurns : List Action :=
  sendRun 0 mlx5CmdOpQueryPages ++ completeRun 0 sampleResponse ++ collectRun 0 ++
    sendRun 1 mlx5CmdOpEnableHca ++ [.fetch 1]

def lastTurns : List Action :=
  [.advance 1, .respond 1 otherResponse, .advance 1, .release 1 0] ++ collectRun 1

theorem serialised_run_exclusive :
    ∃ middle final first given sub result,
      run step (initialSystem blankQueue) firstTurns = some middle ∧
      Using (middle.phase 1) ∧ (∀ other, Using (middle.phase other) → other = 1) ∧
      run step (initialSystem blankQueue) (firstTurns ++ lastTurns) = some final ∧
      final.phase 0 = some (.returned first given) ∧ given.ret = .success ∧
      ReturnsOwn first given (final.device 0) ∧
      final.phase 1 = some (.returned sub result) ∧ result.ret = .success ∧
      ReturnsOwn sub result (final.device 1) := by
  have started : run step (initialSystem blankQueue) firstTurns = some _ := rfl
  have finished : run step (initialSystem blankQueue) (firstTurns ++ lastTurns) = some _ := rfl
  have serialised : Meets step OneAtATime (initialSystem blankQueue) firstTurns := by
    refine meets_cons rfl (fun _ active => active) ?_
    iterate 10 apply meets_cons rfl trivial
    refine meets_cons rfl ?_ (continuing_one_at_a_time _ (by decide))
    intro other active
    cases other with
    | zero => exact active
    | succ other => exact active
  have inTime : Meets step InTime (initialSystem blankQueue) firstTurns := by
    iterate 15 apply meets_cons rfl (by first | trivial | exact fun _ _ _ => rfl)
    trivial
  have allSerialised : Meets step OneAtATime (initialSystem blankQueue) (firstTurns ++ lastTurns) :=
    meets_append started serialised (continuing_one_at_a_time _ (by decide))
  have allInTime : Meets step InTime (initialSystem blankQueue) (firstTurns ++ lastTurns) := by
    apply meets_append started inTime
    iterate 9 apply meets_cons rfl (by first | trivial | exact fun _ _ _ => rfl | exact nofun)
    trivial
  have exclusive := (interleaved_calls_exclusive blankQueue rfl _ _ started inTime serialised).1
  have own := (interleaved_calls_exclusive blankQueue rfl _ _ finished allInTime allSerialised).2
  refine ⟨_, _, _, _, _, _, started, trivial, ?_, finished, rfl, rfl, own 0 _ _ rfl rfl, rfl, rfl,
    own 1 _ _ rfl rfl⟩
  intro other active
  exact exclusive other 1 active trivial

/-- Two calls share the slot: the second fills it between the fill and the
doorbell of the first. -/
def overlappingRun : List Action :=
  [.begin 0 (sampleCall mlx5CmdOpQueryPages), .begin 1 (sampleCall mlx5CmdOpEnableHca), .advance 0,
    .advance 1, .advance 0, .fetch 0, .respond 0 sampleResponse, .release 0 0, .advance 0, .advance 0,
    .advance 0, .advance 0, .advance 0]

theorem overlapping_calls_share_slot :
    ∃ middle final sub result,
      run step (initialSystem blankQueue) (overlappingRun.take 2) = some middle ∧
      run step (initialSystem blankQueue) overlappingRun = some final ∧
      Meets step InTime (initialSystem blankQueue) overlappingRun ∧
      Using (middle.phase 0) ∧ Using (middle.phase 1) ∧
      final.phase 0 = some (.returned sub result) ∧ result.ret = .success ∧
      ¬ReturnsOwn sub result (final.device 0) := by
  have inTime : Meets step InTime (initialSystem blankQueue) overlappingRun := by
    iterate 10 apply meets_cons rfl (by first | trivial | exact nofun)
    apply meets_cons rfl (fun _ _ _ => rfl)
    iterate 2 apply meets_cons rfl (by first | trivial | exact nofun)
    trivial
  refine ⟨_, _, _, _, rfl, rfl, inTime, trivial, trivial, rfl, rfl, ?_⟩
  rintro ⟨response, stage, _⟩
  have opcodes := congrArg Request.opcode (Stage.done.inj stage).1
  revert opcodes
  decide

end Verbifrost.Mlx5CmdProtocol
