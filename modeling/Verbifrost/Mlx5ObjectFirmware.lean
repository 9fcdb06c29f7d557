import Verbifrost.Mlx5Firmware
import Verbifrost.Mlx5VerbRuns

/-!
# Firmware that numbers objects

A firmware of any make that keeps a directory of live PDs, CQs, keys and QPs:
what it accepts to create gets a number that is not live, what it accepts to
destroy is gone, and everything else leaves the directory alone. The number of
a new object stands where the driver reads it, at byte 16 of the output
mailbox, and the number of one to be destroyed where the driver writes it, at
byte 16 of the input mailbox. One command of the driver is followed from the
mailboxes to the directory.
-/

namespace Verbifrost.Mlx5ObjectFirmware

open Verbifrost.ByteMemory Verbifrost.Mlx5Registers Verbifrost.IbVerbs
open Verbifrost.Mlx5CmdExec Verbifrost.Mlx5Firmware Verbifrost.Mlx5Verbs Verbifrost.Mlx5MemoryRegion
open Verbifrost.Mlx5QueuePair Verbifrost.Mlx5VerbRuns

set_option autoImplicit false

/-- The memory after the device has acted from the given state. -/
def frozen {State : Type} (device : StatefulDevice State) (state : State) : DeviceAct :=
  fun tick mem => (device tick state mem).2

section Frozen

variable {State : Type} (firmware : Firmware State) (base : BitVec 64) (moment : Moment)
  (state : State)

/-- One command is executed at most once, and its state matters only then. -/
theorem drive_with_frozen (fuel tick : Nat) (phase : Phase) (queue : CmdQueue) (now : State)
    (same : now = state ∨
      ∀ later, tick ≤ later → moment.map (fun poll => 3 + poll.val) ≠ some later) :
    (driveWith (executeAt firmware base moment) fuel tick phase queue now).1 =
      drive (frozen (executeAt firmware base moment) state) fuel tick phase queue := by
  induction fuel generalizing tick phase queue now with
  | zero => rfl
  | succ fuel induction =>
      by_cases unfinished : 0 < piecesLeft phase
      · rw [drive_with_step _ _ _ _ _ unfinished, drive_step _ _ _ _ _ unfinished]
        by_cases acts : moment.map (fun poll => 3 + poll.val) = some tick
        · have unchanged : now = state :=
            same.resolve_right fun finished => finished tick (Nat.le_refl _) acts
          rw [unchanged]
          apply induction
          right
          intro later after executed
          rw [acts, Option.some_inj] at executed
          omega
        · have silent : ∀ state mem,
              executeAt firmware base moment tick state mem = (state, mem) :=
            fun _ _ => if_neg acts
          rw [frozen, silent, silent]
          apply induction
          exact same.imp_right fun finished later after => finished later (by omega)
      · obtain ⟨sub, result, rfl⟩ := pieces_left_zero (Nat.eq_zero_of_not_pos unfinished)
        rfl

theorem exec_with_frozen (call : CmdCall) (queue : CmdQueue) :
    (execWith (executeAt firmware base moment) call queue state).1 =
      mlx5CmdExec (frozen (executeAt firmware base moment) state) call queue := by
  simp only [execWith, mlx5CmdExec,
    drive_with_frozen firmware base moment state execFuel 0 (.entered call) queue state (Or.inl rfl)]

end Frozen

inductive Kind where
  | pd
  | cq
  | key
  | qp
deriving DecidableEq

abbrev Name := Kind × BitVec 32

/-- `op_mod` 1 makes CREATE_MKEY the allocation of a PD. -/
def creates (request : Request) : Option Kind :=
  if request.opcode = mlx5CmdOpCreateMkey then
    if request.opMod = 0x01 then some .pd else some .key
  else if request.opcode = mlx5CmdOpCreateCq then some .cq
  else if request.opcode = mlx5CmdOpCreateQp then some .qp
  else none

def destroys (request : Request) : Option Name :=
  let number := loadBE request.data 0 32
  if request.opcode = mlx5CmdOpDestroyMkey then
    if request.opMod = 0x01 then some (.pd, number) else some (.key, number)
  else if request.opcode = mlx5CmdOpDestroyCq then some (.cq, number)
  else if request.opcode = mlx5CmdOpDestroyQp then some (.qp, number)
  else none

def Accepted (reply : Reply) : Prop := reply.deliveryStatus = 0 ∧ replyMailbox reply 0 = 0

def givenNumber (reply : Reply) : BitVec 32 := loadBE (replyMailbox reply) 16 32

/-- A key has 24 bits of number, and eight that are the driver's. -/
structure KeepsDirectory {State : Type} (firmware : Firmware State) (live : State → Set Name) :
    Prop where
  created : ∀ state request kind, creates request = some kind →
    Accepted (firmware state request).2 →
      (kind, givenNumber (firmware state request).2) ∉ live state ∧
        live (firmware state request).1 =
          insert (kind, givenNumber (firmware state request).2) (live state)
  keyWidth : ∀ state request, creates request = some .key → Accepted (firmware state request).2 →
    (givenNumber (firmware state request).2).toNat < 2 ^ 24
  destroyed : ∀ state request name, destroys request = some name →
    Accepted (firmware state request).2 →
      live (firmware state request).1 = live state \ {name}
  refused : ∀ state request, ¬Accepted (firmware state request).2 →
    live (firmware state request).1 = live state
  others : ∀ state request, creates request = none → destroys request = none →
    live (firmware state request).1 = live state

/-- What a command did to the directory, as its caller can tell. -/
structure Served (request : Request) (succeeded : Prop) (number : BitVec 32)
    (before after : Set Name) : Prop where
  created : ∀ kind, creates request = some kind → succeeded →
    (kind, number) ∉ before ∧ after = insert (kind, number) before
  keyWidth : creates request = some .key → succeeded → number.toNat < 2 ^ 24
  destroyed : ∀ name, destroys request = some name → succeeded → after = before \ {name}
  refused : ¬succeeded → after = before
  others : creates request = none → destroys request = none → after = before

abbrev ServedCall (act : DeviceAct) (call : CmdCall) (queue : CmdQueue) (before after : Set Name) :
    Prop :=
  Served (requestOf call) ((mlx5CmdExec act call queue).1.ret = .success) (extracted act call queue)
    before after

theorem outcome_success_iff (call : CmdCall) (reply : Reply) :
    (outcome call reply).ret = .success ↔ Accepted reply := by
  unfold outcome Accepted
  split_ifs with undelivered refused
  · exact iff_of_false not_false (fun accepted => undelivered accepted.1)
  · exact iff_of_false not_false (fun accepted => refused accepted.2)
  · exact iff_of_true rfl ⟨not_not.mp undelivered, not_not.mp refused⟩

theorem outcome_number {call : CmdCall} {reply : Reply} {data : Bytes} (accepted : Accepted reply)
    (buffer : call.outData = some data) (asked : 12 ≤ call.outLen.toNat) :
    loadBE ((outcome call reply).outData.getD zeroBytes) 8 32 = givenNumber reply := by
  have inside : 12 ≤ (outCopyLen call).toNat := by
    unfold outCopyLen
    split_ifs
    · decide
    · exact asked
  have delivered : ¬reply.deliveryStatus ≠ 0 := not_not.mpr accepted.1
  have status : ¬replyMailbox reply 0 ≠ 0 := not_not.mpr accepted.2
  rw [outcome, if_neg delivered, if_neg status]
  dsimp only
  rw [← copy_response_data]
  exact response_word (by decide) call data _ buffer 8 inside

section Served

variable {State : Type} {firmware : Firmware State} {live : State → Set Name}
  (keeps : KeepsDirectory firmware live)

include keeps

theorem exec_served (moment : Moment) {call : CmdCall} {data : Bytes} (queue : CmdQueue)
    (state : State) (buffer : call.outData = some data) (asked : 12 ≤ call.outLen.toNat) :
    ServedCall (frozen (executeAt firmware queue.ctx.mboxDmaBase moment) state) call queue
      (live state)
      (live (execWith (executeAt firmware queue.ctx.mboxDmaBase moment) call queue state).2) := by
  rw [ServedCall, extracted, ← exec_with_frozen]
  cases moment with
  | none =>
      rcases exec_with_unexecuted firmware queue.ctx.mboxDmaBase call queue state with
        ⟨result, kept⟩
      have failed : ¬(timedOut call).ret = .success := IOReturn.noConfusion
      rw [result, kept]
      exact
        { created := fun _ _ succeeded => absurd succeeded failed
          keyWidth := fun _ succeeded => absurd succeeded failed
          destroyed := fun _ _ succeeded => absurd succeeded failed
          refused := fun _ => rfl
          others := fun _ _ => rfl }
  | some poll =>
      rcases exec_with_executed firmware poll call queue state with ⟨result, next⟩
      rw [result, next, outcome_success_iff]
      exact
        { created := by
            intro kind created accepted
            rw [outcome_number accepted buffer asked]
            exact keeps.created state _ kind created accepted
          keyWidth := by
            intro created accepted
            rw [outcome_number accepted buffer asked]
            exact keeps.keyWidth state _ created accepted
          destroyed := keeps.destroyed state _
          refused := keeps.refused state _
          others := keeps.others state _ }

end Served

theorem destroy_request_number (opcode opMod : BitVec 16) (number : BitVec 32) :
    loadBE (requestOf (destroyCall opcode opMod number)).data 0 32 = number := by
  have written : ∀ index < 32 / 8, payload (destroyCall opcode opMod number) (0 + index) =
      store zeroBytes 0 (byteSwap number) (0 + index) := by
    intro index inside
    have copied : 0 + index < (inCopyLen (destroyCall opcode opMod number)).toNat := by
      have length : (inCopyLen (destroyCall opcode opMod number)).toNat = 4 := rfl
      omega
    exact if_pos copied
  calc
    loadBE (payload (destroyCall opcode opMod number)) 0 32 =
        loadBE (store zeroBytes 0 (byteSwap number)) 0 32 := load_be_congr (by decide) written
    _ = number := load_be_store_swap (by decide) _ _ _

theorem dealloc_pd_destroys (pd : IbPd) :
    destroys (requestOf (deallocPdCall pd)) = some (.pd, pd.localDmaLkey) :=
  congrArg (fun number => some (Kind.pd, number)) (destroy_request_number _ _ _)

theorem destroy_cq_destroys (cq : IbCq) :
    destroys (requestOf (destroyCqCall cq)) = some (.cq, cq.cqe) :=
  congrArg (fun number => some (Kind.cq, number)) (destroy_request_number _ _ _)

/-- The key number in an `lkey`. -/
def keyNumber (mr : IbMr) : BitVec 32 := mr.lkey >>> 8

theorem dereg_mr_destroys (mr : IbMr) :
    destroys (requestOf (deregMrCall mr)) = some (.key, keyNumber mr) :=
  congrArg (fun number => some (Kind.key, number)) (destroy_request_number _ _ _)

theorem destroy_qp_destroys (mqp : Mlx5IbQp) :
    destroys (requestOf (destroyQpCall mqp)) = some (.qp, mqp.qpn) :=
  congrArg (fun number => some (Kind.qp, number)) (destroy_request_number _ _ _)

/-- Numbers are given out in order and never again. -/
structure Counter where
  next : Nat
  live : List Name
  below : ∀ name ∈ live, name.2.toNat < next
  bounded : next ≤ 2 ^ 24

def newCounter : Counter where
  next := 1
  live := []
  below := by
    intro name member
    cases member
  bounded := by decide

def Counter.names (counter : Counter) : Set Name := {name | name ∈ counter.live}

theorem counter_number {number : Nat} (room : number < 2 ^ 24) :
    (BitVec.ofNat 32 number).toNat = number :=
  Nat.mod_eq_of_lt (Nat.lt_trans room (by decide))

def Counter.enter (counter : Counter) (kind : Kind) (room : counter.next < 2 ^ 24) : Counter where
  next := counter.next + 1
  live := (kind, BitVec.ofNat 32 counter.next) :: counter.live
  below := by
    intro name member
    rcases List.mem_cons.mp member with same | old
    · rw [same, counter_number room]
      exact Nat.lt_succ_self _
    · exact Nat.lt_succ_of_lt (counter.below name old)
  bounded := room

def Counter.leave (counter : Counter) (name : Name) : Counter where
  next := counter.next
  live := counter.live.filter fun other => other ≠ name
  below := fun other member => counter.below other (List.mem_filter.mp member).1
  bounded := counter.bounded

def accept (number : BitVec 32) : Reply where
  deliveryStatus := 0
  mailbox := store zeroBytes 16 (byteSwap number)
  length := 4096
  bounded := Nat.le_refl _

def refusal : Reply where
  deliveryStatus := 0
  mailbox := fun _ => 1
  length := 1
  bounded := by decide

def countingFirmware : Firmware Counter := fun counter request =>
  match creates request, destroys request with
  | some kind, _ =>
      if room : counter.next < 2 ^ 24 then
        (counter.enter kind room, accept (BitVec.ofNat 32 counter.next))
      else (counter, refusal)
  | none, some name =>
      if name ∈ counter.live then (counter.leave name, accept 0) else (counter, refusal)
  | none, none => (counter, accept 0)

theorem accept_number (number : BitVec 32) : givenNumber (accept number) = number := by
  have written : ∀ index < 32 / 8, replyMailbox (accept number) (16 + index) =
      store zeroBytes 16 (byteSwap number) (16 + index) := by
    intro index inside
    have within : 16 + index < 4096 := by omega
    exact if_pos within
  calc
    givenNumber (accept number) = loadBE (store zeroBytes 16 (byteSwap number)) 16 32 :=
      load_be_congr (by decide) written
    _ = number := load_be_store_swap (by decide) _ _ _

theorem accept_accepted (number : BitVec 32) : Accepted (accept number) := ⟨rfl, rfl⟩

theorem refusal_refused : ¬Accepted refusal := by
  rintro ⟨_, status⟩
  cases status

theorem creates_of_destroys {request : Request} {name : Name}
    (destroying : destroys request = some name) : creates request = none := by
  unfold destroys at destroying
  split_ifs at destroying with mkey _ cq qp
  · rw [creates, mkey]
    rfl
  · rw [creates, mkey]
    rfl
  · rw [creates, cq]
    rfl
  · rw [creates, qp]
    rfl

theorem counting_keeps_directory : KeepsDirectory countingFirmware Counter.names where
  created := by
    intro counter request kind creating accepted
    simp only [countingFirmware, creating] at accepted ⊢
    split_ifs at accepted ⊢ with room
    · rw [accept_number]
      refine ⟨?_, ?_⟩
      · intro old
        have below := counter.below _ old
        rw [counter_number room] at below
        exact Nat.lt_irrefl _ below
      · ext name
        exact List.mem_cons
    · exact absurd accepted refusal_refused
  keyWidth := by
    intro counter request creating accepted
    simp only [countingFirmware, creating] at accepted ⊢
    split_ifs at accepted ⊢ with room
    · rw [accept_number, counter_number room]
      exact room
    · exact absurd accepted refusal_refused
  destroyed := by
    intro counter request name destroying accepted
    simp only [countingFirmware, creates_of_destroys destroying, destroying] at accepted ⊢
    split_ifs at accepted ⊢ with member
    · ext other
      simp only [Counter.names, Counter.leave, Set.mem_ofPred_eq, List.mem_filter, decide_eq_true_eq,
        Set.mem_sdiff, Set.mem_singleton_iff, ne_eq]
    · exact absurd accepted refusal_refused
  refused := by
    intro counter request refused
    unfold countingFirmware at refused ⊢
    split at refused
    · split_ifs at refused ⊢
      · exact absurd (accept_accepted _) refused
      · rfl
    · split_ifs at refused ⊢
      · exact absurd (accept_accepted _) refused
      · rfl
    · rfl
  others := by
    intro counter request creating destroying
    simp only [countingFirmware, creating, destroying]

end Verbifrost.Mlx5ObjectFirmware
