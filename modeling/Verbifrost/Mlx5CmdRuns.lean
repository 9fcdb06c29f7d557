import Mathlib.Algebra.BigOperators.Group.List.Basic
import Mathlib.Algebra.GroupWithZero.Nat
import Mathlib.Data.List.Nodup
import Verbifrost.Mlx5CmdRing
import Verbifrost.Mlx5CmdSubmission

/-!
# Commands in a row

What a run of commands does to the three counters of the context: the token,
which is bumped on entry and once more when it wraps, and the two statistics,
which `mlx5_cmd_exec` bumps on different exits. A run starts from the context
that `mlx5_cmd_init` leaves, and each command meets a device of its own.
-/

namespace Verbifrost.Mlx5CmdRuns

open Verbifrost.ByteMemory Verbifrost.Mlx5Registers Verbifrost.ReferenceHeap
open Verbifrost.Mlx5CmdExec Verbifrost.Mlx5CmdInit Verbifrost.Mlx5CmdRing
open Verbifrost.Mlx5CmdProtocol Verbifrost.Mlx5CmdSubmission

set_option autoImplicit false

/-- One observation for each command, made in the queue that the command finds. -/
def eachCall {α : Type} (observe : DeviceAct → CmdCall → CmdQueue → α) :
    CmdQueue → List (DeviceAct × CmdCall) → List α
  | _, [] => []
  | queue, (act, call) :: rest =>
      observe act call queue :: eachCall observe (mlx5CmdExec act call queue).2 rest

theorem after_commands_nil (queue : CmdQueue) : afterCommands queue [] = queue := rfl

theorem after_commands_cons (queue : CmdQueue) (act : DeviceAct) (call : CmdCall)
    (rest : List (DeviceAct × CmdCall)) :
    afterCommands queue ((act, call) :: rest) = afterCommands (mlx5CmdExec act call queue).2 rest :=
  rfl

/-- The token in the ring entry right after the request was written into it. -/
def placedToken (act : DeviceAct) (call : CmdCall) (queue : CmdQueue) : BitVec 32 :=
  entryWord (drive act 2 0 (.entered call) queue).2 protBlockTokenOff 32

def placedTokens (queue : CmdQueue) (commands : List (DeviceAct × CmdCall)) : List (BitVec 32) :=
  eachCall placedToken queue commands

/-- The memset is all that `mlx5_cmd_init` does to the three counters. -/
structure CountersClear (ctx : Mlx5CmdContext) : Prop where
  token : ctx.nextToken = 0#8
  total : ctx.totalCommands = 0#32
  failed : ctx.failedCommands = 0#32

theorem init_mailboxes_counters (outcomes : CmdInitOutcomes) (ctx : Mlx5CmdContext) (ringMd : Nat)
    (ring iseg : Bytes) (heap : Heap) (clear : CountersClear ctx) :
    CountersClear (initMailboxes outcomes ctx ringMd ring iseg heap).queue.ctx := by
  unfold initMailboxes
  cases outcomes.mboxBuffer with
  | none => exact ⟨clear.token, clear.total, clear.failed⟩
  | some buffer => exact ⟨clear.token, clear.total, clear.failed⟩

theorem init_ring_dma_counters (outcomes : CmdInitOutcomes) (ctx : Mlx5CmdContext) (ringMd : Nat)
    (ring iseg : Bytes) (heap : Heap) (clear : CountersClear ctx) :
    CountersClear (initRingDma outcomes ctx ringMd ring iseg heap).queue.ctx := by
  unfold initRingDma
  cases outcomes.dmaCmd with
  | none => exact clear
  | some dma =>
      dsimp only
      split_ifs
      · exact clear
      · exact clear
      · exact clear
      · apply init_mailboxes_counters
        exact ⟨clear.token, clear.total, clear.failed⟩

theorem cmd_init_counters (outcomes : CmdInitOutcomes) (bar0 : BitVec 64) (bar0Size : BitVec 32)
    (iseg : Bytes) (heap : Heap) :
    CountersClear (mlx5CmdInit outcomes bar0 bar0Size iseg heap).queue.ctx := by
  unfold mlx5CmdInit
  cases outcomes.ringBuffer with
  | none => exact ⟨rfl, rfl, rfl⟩
  | some buffer =>
      apply init_ring_dma_counters
      exact ⟨rfl, rfl, rfl⟩

theorem placed_token (act : DeviceAct) (call : CmdCall) (queue : CmdQueue) :
    placedToken act call queue = (nextToken queue.ctx.nextToken).setWidth 32 := by
  simp only [placedToken, entryWord, drive, callStep, fillRequest, entry_offset_zero, Nat.zero_add]
  exact fill_entry_token _ call _ _

/-- The token a call has, or will have, picked. -/
def PickedToken (token : BitVec 8) (ctx : Mlx5CmdContext) : Phase → Prop
  | .entered _ => nextToken ctx.nextToken = token
  | _ => ctx.nextToken = token

theorem call_step_token (act : DeviceAct) (token : BitVec 8) (tick : Nat) (phase : Phase)
    (queue : CmdQueue) (_ : 0 < piecesLeft phase) (picked : PickedToken token queue.ctx phase) :
    PickedToken token (callStep phase { queue with mem := act tick queue.mem }).2.ctx
      (callStep phase { queue with mem := act tick queue.mem }).1 := by
  cases phase with
  | polling sub remaining =>
      cases remaining with
      | zero => exact picked
      | succ remaining =>
          simp only [callStep]
          split_ifs
          · exact picked
          · exact picked
  | polled sub deliveryStatus =>
      simp only [callStep]
      split_ifs
      · exact picked
      · exact picked
      · exact picked
  | delivered sub =>
      simp only [callStep]
      split_ifs
      · exact picked
      · exact picked
  | _ => exact picked

theorem exec_token (act : DeviceAct) (call : CmdCall) (queue : CmdQueue) :
    (mlx5CmdExec act call queue).2.ctx.nextToken = nextToken queue.ctx.nextToken := by
  have start : PickedToken (nextToken queue.ctx.nextToken) queue.ctx (.entered call) := rfl
  rcases drive_invariant (call_step_token act (nextToken queue.ctx.nextToken)) execFuel start with
    ⟨_, _, _, picked⟩
  rcases exec_returns act call queue with ⟨sub, result, final, _⟩
  rw [final] at picked
  exact picked

def cycleToken (number : Nat) : BitVec 8 := BitVec.ofNat 8 (number % 255 + 1)

theorem cycle_token_nat (number : Nat) : (cycleToken number).toNat = number % 255 + 1 := by
  have small : number % 255 < 255 := Nat.mod_lt _ (by decide)
  rw [cycleToken, BitVec.toNat_ofNat]
  exact Nat.mod_eq_of_lt (by omega)

/-- The second bump leaves out zero, so that the period is 255 and not 256. -/
theorem next_token_nat (token : BitVec 8) :
    (nextToken token).toNat = token.toNat % 255 + 1 := by
  have bound := token.isLt
  have wrapped : token + 1 = 0 ↔ token.toNat = 255 := by
    rw [← BitVec.toNat_inj, BitVec.toNat_add]
    simp only [BitVec.ofNat_eq_ofNat, BitVec.toNat_ofNat]
    omega
  unfold nextToken
  by_cases last : token.toNat = 255
  · rw [if_pos (wrapped.mpr last), wrapped.mpr last, last]
    rfl
  · rw [if_neg (fun zero => last (wrapped.mp zero)), BitVec.toNat_add]
    simp only [BitVec.ofNat_eq_ofNat, BitVec.toNat_ofNat]
    omega

theorem next_token_cycle (number : Nat) : nextToken (cycleToken number) = cycleToken (number + 1) := by
  apply BitVec.eq_of_toNat_eq
  rw [next_token_nat, cycle_token_nat, cycle_token_nat]
  omega

theorem placed_tokens_from (commands : List (DeviceAct × CmdCall)) (queue : CmdQueue) (number : Nat)
    (first : nextToken queue.ctx.nextToken = cycleToken number) :
    placedTokens queue commands =
      (List.range' number commands.length).map (fun number => (cycleToken number).setWidth 32) := by
  induction commands generalizing queue number with
  | nil => rfl
  | cons command rest induction =>
      rcases command with ⟨act, call⟩
      have second : nextToken (mlx5CmdExec act call queue).2.ctx.nextToken = cycleToken (number + 1) := by
        rw [exec_token, first, next_token_cycle]
      have later := induction (mlx5CmdExec act call queue).2 (number + 1) second
      rw [List.length_cons, List.range'_succ, List.map_cons, ← later, ← first, ← placed_token act call]
      rfl

structure TokensCycle (tokens : List (BitVec 32)) : Prop where
  value : ∀ n (called : 1 ≤ n) (sent : n ≤ tokens.length), tokens[n - 1].toNat = (n - 1) % 255 + 1
  nonzero : ∀ token, token ∈ tokens → token ≠ 0
  distinct : ∀ start, ((tokens.drop start).take 255).Nodup

theorem tokens_cycle_of_value {tokens : List (BitVec 32)}
    (value : ∀ n (called : 1 ≤ n) (sent : n ≤ tokens.length),
      tokens[n - 1].toNat = (n - 1) % 255 + 1) : TokensCycle tokens := by
  have atIndex : ∀ index (inside : index < tokens.length),
      tokens[index].toNat = index % 255 + 1 := by
    intro index inside
    exact value (index + 1) (Nat.succ_pos _) inside
  constructor
  · exact value
  · intro token placed zero
    rcases List.getElem_of_mem placed with ⟨index, inside, same⟩
    have positive := atIndex index inside
    rw [same, zero] at positive
    exact absurd positive (Nat.succ_ne_zero _).symm
  · intro start
    rw [List.Nodup, List.pairwise_iff_getElem]
    intro left right leftInside rightInside before same
    have rightShort := rightInside
    rw [List.length_take, List.length_drop] at rightShort
    have leftToken := atIndex (start + left) (by omega)
    have rightToken := atIndex (start + right) (by omega)
    rw [List.getElem_take, List.getElem_take, List.getElem_drop, List.getElem_drop] at same
    rw [same, rightToken] at leftToken
    omega

/-- For every way of setting the queue up, every run of commands and every device. -/
theorem placed_tokens_cycle (outcomes : CmdInitOutcomes) (bar0 : BitVec 64) (bar0Size : BitVec 32)
    (iseg : Bytes) (heap : Heap) (commands : List (DeviceAct × CmdCall)) :
    (placedTokens (mlx5CmdInit outcomes bar0 bar0Size iseg heap).queue commands).length =
        commands.length ∧
      TokensCycle (placedTokens (mlx5CmdInit outcomes bar0 bar0Size iseg heap).queue commands) := by
  have clear := cmd_init_counters outcomes bar0 bar0Size iseg heap
  have first : nextToken (mlx5CmdInit outcomes bar0 bar0Size iseg heap).queue.ctx.nextToken =
      cycleToken 0 := by
    rw [clear.token]
    rfl
  rw [placed_tokens_from commands _ 0 first]
  constructor
  · rw [List.length_map, List.length_range']
  · apply tokens_cycle_of_value
    intro n called sent
    have wide := Nat.lt_of_lt_of_le (cycleToken (n - 1)).isLt (show 2 ^ 8 ≤ 2 ^ 32 by decide)
    rw [List.getElem_map, List.getElem_range', BitVec.toNat_setWidth, Nat.one_mul, Nat.zero_add,
      Nat.mod_eq_of_lt wide, cycle_token_nat]

/-- The doorbell register is written in the piece that hands the entry to the device. -/
def ringsDoorbell : Phase → Nat
  | .filled _ => 1
  | _ => 0

/-- Doorbells rung along `drive`. -/
def doorbells (act : DeviceAct) : Nat → Nat → Phase → CmdQueue → Nat
  | 0, _, _, _ => 0
  | fuel + 1, tick, phase, queue =>
      let next := callStep phase { queue with mem := act tick queue.mem }
      ringsDoorbell phase + doorbells act fuel (tick + 1) next.1 next.2

def callDoorbells (act : DeviceAct) (call : CmdCall) (queue : CmdQueue) : Nat :=
  doorbells act execFuel 0 (.entered call) queue

def returnCode (act : DeviceAct) (call : CmdCall) (queue : CmdQueue) : IOReturn :=
  (mlx5CmdExec act call queue).1.ret

def commandsSent (queue : CmdQueue) (commands : List (DeviceAct × CmdCall)) : Nat :=
  (eachCall callDoorbells queue commands).sum

def returnCodes (queue : CmdQueue) (commands : List (DeviceAct × CmdCall)) : List IOReturn :=
  eachCall returnCode queue commands

/-- What the two statistics are reported as, modulo their 32 bits. -/
structure StatisticsExact (queue : CmdQueue) (commands : List (DeviceAct × CmdCall)) : Prop where
  total : (afterCommands queue commands).ctx.totalCommands =
    BitVec.ofNat 32 (commandsSent queue commands)
  failed : (afterCommands queue commands).ctx.failedCommands =
    BitVec.ofNat 32 ((returnCodes queue commands).countP (· ≠ .success))
  succeeded : (afterCommands queue commands).ctx.totalCommands -
      (afterCommands queue commands).ctx.failedCommands =
    BitVec.ofNat 32 ((returnCodes queue commands).countP (· = .success))

def PastDoorbell : Phase → Prop
  | .entered _ => False
  | .picked _ => False
  | .filled _ => False
  | _ => True

theorem call_step_past_doorbell {phase : Phase} (past : PastDoorbell phase) (queue : CmdQueue) :
    PastDoorbell (callStep phase queue).1 := by
  cases phase with
  | entered call => exact past
  | picked sub => exact past
  | filled sub => trivial
  | polling sub remaining =>
      cases remaining with
      | zero => trivial
      | succ remaining =>
          simp only [callStep]
          split_ifs <;> trivial
  | polled sub deliveryStatus =>
      simp only [callStep]
      split_ifs <;> trivial
  | delivered sub =>
      simp only [callStep]
      split_ifs <;> trivial
  | _ => trivial

theorem rings_past_doorbell {phase : Phase} (past : PastDoorbell phase) : ringsDoorbell phase = 0 := by
  cases phase with
  | filled sub => exact absurd past not_false
  | _ => rfl

theorem doorbells_past (act : DeviceAct) (fuel tick : Nat) {phase : Phase} (queue : CmdQueue)
    (past : PastDoorbell phase) : doorbells act fuel tick phase queue = 0 := by
  induction fuel generalizing tick phase queue with
  | zero => rfl
  | succ fuel induction =>
      have next := call_step_past_doorbell past { queue with mem := act tick queue.mem }
      rw [doorbells, rings_past_doorbell past, induction (tick + 1) _ next]

theorem doorbells_opening (act : DeviceAct) (fuel : Nat) (call : CmdCall) (queue : CmdQueue) :
    doorbells act (fuel + 3) 0 (.entered call) queue = 1 := by
  have past : PastDoorbell (.polling (submission call queue) pollLimit) := trivial
  simp only [doorbells, callStep, ringsDoorbell]
  exact congrArg (fun later => 0 + (0 + (1 + later))) (doorbells_past act fuel _ _ past)

theorem call_doorbells_one (act : DeviceAct) (call : CmdCall) (queue : CmdQueue) :
    callDoorbells act call queue = 1 :=
  doorbells_opening act (pollLimit + 5) call queue

theorem commands_sent_length (queue : CmdQueue) (commands : List (DeviceAct × CmdCall)) :
    commandsSent queue commands = commands.length := by
  induction commands generalizing queue with
  | nil => rfl
  | cons command rest induction =>
      rcases command with ⟨act, call⟩
      have later := induction (mlx5CmdExec act call queue).2
      rw [commandsSent] at later ⊢
      rw [eachCall, List.sum_cons, later, call_doorbells_one, List.length_cons, Nat.add_comm]

/-- How far a call has come with the statistics it found on entry. A call that
timed out has not been counted as sent. -/
def Accounts (total failed : BitVec 32) (_ : Nat) : Phase → CmdQueue → Prop
  | .delivered _, queue => queue.ctx.totalCommands = total + 1 ∧ queue.ctx.failedCommands = failed
  | .accepted _ _, queue => queue.ctx.totalCommands = total + 1 ∧ queue.ctx.failedCommands = failed
  | .returned _ result, queue =>
      (queue.ctx.totalCommands = if result.ret = .timeout then total else total + 1) ∧
        queue.ctx.failedCommands = if result.ret = .success then failed else failed + 1
  | _, queue => queue.ctx.totalCommands = total ∧ queue.ctx.failedCommands = failed

theorem call_step_accounts (act : DeviceAct) (total failed : BitVec 32) (tick : Nat) (phase : Phase)
    (queue : CmdQueue) (_ : 0 < piecesLeft phase)
    (accounts : Accounts total failed tick phase queue) :
    Accounts total failed (tick + 1) (callStep phase { queue with mem := act tick queue.mem }).1
      (callStep phase { queue with mem := act tick queue.mem }).2 := by
  cases phase with
  | polling sub remaining =>
      cases remaining with
      | zero => exact accounts
      | succ remaining =>
          simp only [callStep]
          split_ifs
          · exact accounts
          · exact accounts
  | polled sub deliveryStatus =>
      rcases accounts with ⟨sent, lost⟩
      simp only [callStep]
      split_ifs
      · exact ⟨sent, congrArg (· + 1) lost⟩
      · exact ⟨congrArg (· + 1) sent, congrArg (· + 1) lost⟩
      · exact ⟨congrArg (· + 1) sent, lost⟩
  | delivered sub =>
      rcases accounts with ⟨sent, lost⟩
      simp only [callStep]
      split_ifs
      · exact ⟨sent, congrArg (· + 1) lost⟩
      · exact ⟨sent, lost⟩
  | _ => exact accounts

theorem exec_accounts (act : DeviceAct) (call : CmdCall) (queue : CmdQueue) :
    ((mlx5CmdExec act call queue).2.ctx.totalCommands =
        if returnCode act call queue = .timeout then queue.ctx.totalCommands
        else queue.ctx.totalCommands + 1) ∧
      (mlx5CmdExec act call queue).2.ctx.failedCommands =
        if returnCode act call queue = .success then queue.ctx.failedCommands
        else queue.ctx.failedCommands + 1 := by
  have start : Accounts queue.ctx.totalCommands queue.ctx.failedCommands 0 (.entered call) queue :=
    ⟨rfl, rfl⟩
  rcases drive_invariant
    (call_step_accounts act queue.ctx.totalCommands queue.ctx.failedCommands) execFuel start with
    ⟨_, _, _, accounts⟩
  rcases exec_returns act call queue with ⟨sub, result, final, returned⟩
  rw [final] at accounts
  rw [returnCode, returned]
  exact accounts

def timedOutCalls (queue : CmdQueue) (commands : List (DeviceAct × CmdCall)) : Nat :=
  (returnCodes queue commands).countP (· = .timeout)

theorem run_total (queue : CmdQueue) (commands : List (DeviceAct × CmdCall)) :
    (afterCommands queue commands).ctx.totalCommands + BitVec.ofNat 32 (timedOutCalls queue commands) =
      queue.ctx.totalCommands + BitVec.ofNat 32 commands.length := by
  induction commands generalizing queue with
  | nil => rfl
  | cons command rest induction =>
      rcases command with ⟨act, call⟩
      have added := (exec_accounts act call queue).1
      have later := induction (mlx5CmdExec act call queue).2
      have count : timedOutCalls queue ((act, call) :: rest) =
          timedOutCalls (mlx5CmdExec act call queue).2 rest +
            if returnCode act call queue = .timeout then 1 else 0 := by
        simp only [timedOutCalls, returnCodes, eachCall, List.countP_cons, decide_eq_true_eq]
      rw [after_commands_cons, count, List.length_cons, BitVec.ofNat_add rest.length 1,
        BitVec.ofNat_add, ← BitVec.add_assoc, later, added]
      split_ifs
      · rw [BitVec.add_assoc]
      · rw [BitVec.add_zero, BitVec.add_assoc, BitVec.add_comm 1]
        rfl

theorem run_failed (queue : CmdQueue) (commands : List (DeviceAct × CmdCall)) :
    (afterCommands queue commands).ctx.failedCommands =
      queue.ctx.failedCommands +
        BitVec.ofNat 32 ((returnCodes queue commands).countP (· ≠ .success)) := by
  induction commands generalizing queue with
  | nil => exact (BitVec.add_zero _).symm
  | cons command rest induction =>
      rcases command with ⟨act, call⟩
      have added := (exec_accounts act call queue).2
      have later := induction (mlx5CmdExec act call queue).2
      have count : (returnCodes queue ((act, call) :: rest)).countP (· ≠ .success) =
          (returnCodes (mlx5CmdExec act call queue).2 rest).countP (· ≠ .success) +
            if returnCode act call queue ≠ .success then 1 else 0 := by
        simp only [returnCodes, eachCall, List.countP_cons, decide_eq_true_eq]
      rw [after_commands_cons, count, later, added, BitVec.ofNat_add]
      by_cases success : returnCode act call queue = .success
      · rw [if_pos success, if_neg (not_not.mpr success), BitVec.add_zero]
      · rw [if_neg success, if_pos success, BitVec.add_assoc, BitVec.add_comm _ (BitVec.ofNat 32 1)]
        rfl

/-- The memory right after the doorbell: the device may act while the request is written. -/
def handedOver (act : DeviceAct) (call : CmdCall) (queue : CmdQueue) : DmaMemory :=
  let token := nextToken queue.ctx.nextToken
  let ctx := { queue.ctx with nextToken := token }
  writeStatus ctx 0#32 mlx5CmdOwnerHw
    (act 2 (fillRequest ctx call 0#32 token (act 1 (act 0 queue.mem))))

/-- What the device has made of it by the driver's accesses that follow. -/
def deviceMem (act : DeviceAct) (call : CmdCall) (queue : CmdQueue) : Nat → DmaMemory
  | 0 => act 3 (handedOver act call queue)
  | access + 1 => act (3 + (access + 1)) (deviceMem act call queue access)

def GivenBack (act : DeviceAct) (call : CmdCall) (queue : CmdQueue) (access : Nat) : Prop :=
  ownerOf (readStatus queue.ctx 0#32 (deviceMem act call queue access)) = mlx5CmdOwnerSw

instance (act : DeviceAct) (call : CmdCall) (queue : CmdQueue) (access : Nat) :
    Decidable (GivenBack act call queue access) :=
  inferInstanceAs (Decidable (_ = _))

/-- Which access is the timeout check: the delivery status is read between the
poll that finds the entry given back and the check, and past the last poll the
check is all that is left. -/
def checkAccess (act : DeviceAct) (call : CmdCall) (queue : CmdQueue) : Nat → Nat → Nat
  | access, 0 => access + 1
  | access, remaining + 1 =>
      if GivenBack act call queue access then access + 2
      else checkAccess act call queue (access + 1) remaining

/-- The device holds the entry when the driver checks for a timeout. -/
def Unanswered (act : DeviceAct) (call : CmdCall) (queue : CmdQueue) : Prop :=
  ¬GivenBack act call queue (checkAccess act call queue 0 pollLimit)

instance (act : DeviceAct) (call : CmdCall) (queue : CmdQueue) :
    Decidable (Unanswered act call queue) :=
  inferInstanceAs (Decidable (¬_))

/-- Past the timeout check no call times out any more. -/
def Answered (_ : Nat) : Phase → CmdQueue → Prop
  | .delivered _, _ => True
  | .accepted _ _, _ => True
  | .returned _ result, _ => result.ret ≠ .timeout
  | _, _ => False

theorem call_step_answered (act : DeviceAct) (tick : Nat) (phase : Phase) (queue : CmdQueue)
    (_ : 0 < piecesLeft phase) (answered : Answered tick phase queue) :
    Answered (tick + 1) (callStep phase { queue with mem := act tick queue.mem }).1
      (callStep phase { queue with mem := act tick queue.mem }).2 := by
  cases phase with
  | delivered sub =>
      simp only [callStep]
      split_ifs
      · intro timeout
        cases timeout
      · trivial
  | accepted sub fwStatus =>
      intro timeout
      cases timeout
  | returned sub result => exact answered
  | _ => exact absurd answered not_false

theorem drive_answered (act : DeviceAct) (fuel tick : Nat) {phase : Phase} {queue : CmdQueue}
    (answered : Answered tick phase queue) :
    (resultOf (drive act fuel tick phase queue).1).ret ≠ .timeout := by
  rcases drive_invariant (call_step_answered act) fuel answered with ⟨_, _, _, final⟩
  cases reached : (drive act fuel tick phase queue).1 with
  | returned sub result =>
      rw [reached] at final
      exact final
  | _ =>
      intro timeout
      cases timeout

/-- From the timeout check on only the owner bit found there decides. -/
theorem drive_polled_timeout (act : DeviceAct) (sub : Submission) (deliveryStatus : Byte)
    (queue : CmdQueue) (tick fuel : Nat) :
    (resultOf (drive act (fuel + 1) tick (.polled sub deliveryStatus) queue).1).ret = .timeout ↔
      ownerOf (readStatus queue.ctx sub.slot (act tick queue.mem)) ≠ mlx5CmdOwnerSw := by
  by_cases owned : ownerOf (readStatus queue.ctx sub.slot (act tick queue.mem)) ≠ mlx5CmdOwnerSw
  · have returned : (drive act (fuel + 1) tick (.polled sub deliveryStatus) queue).1 =
        .returned sub (failWith sub.call .timeout 0xFF) := by
      simp only [drive, callStep, if_pos owned]
      cases fuel <;> rfl
    rw [returned]
    exact iff_of_true rfl owned
  · have answered : Answered (tick + 1)
        (callStep (.polled sub deliveryStatus) { queue with mem := act tick queue.mem }).1
        (callStep (.polled sub deliveryStatus) { queue with mem := act tick queue.mem }).2 := by
      simp only [callStep, if_neg owned]
      split_ifs
      · intro timeout
        cases timeout
      · trivial
    exact iff_of_false (drive_answered act fuel (tick + 1) answered) owned

theorem given_back_iff (act : DeviceAct) (call : CmdCall) (queue : CmdQueue) (access : Nat)
    (ctx : Mlx5CmdContext) :
    ownerOf (readStatus ctx 0#32 (deviceMem act call queue access)) = mlx5CmdOwnerSw ↔
      GivenBack act call queue access := by
  rw [GivenBack, read_status_zero, read_status_zero]

/-- By induction on the polls left, which decide what access the check is. -/
theorem drive_polling_timeout (act : DeviceAct) (call : CmdCall) (queue : CmdQueue)
    (remaining access fuel : Nat) (sub : Submission) (slot : sub.slot = 0#32) (current : CmdQueue)
    (found : act (3 + access) current.mem = deviceMem act call queue access) :
    (resultOf (drive act (fuel + 3 + remaining) (3 + access)
        (.polling sub remaining) current).1).ret = .timeout ↔
      ¬GivenBack act call queue (checkAccess act call queue access remaining) := by
  have polling : ∀ left, 0 < piecesLeft (.polling sub left) := fun _ => Nat.succ_pos _
  have seen : 0 < piecesLeft (.sawOwner sub) := Nat.succ_pos _
  induction remaining generalizing access fuel current with
  | zero =>
      have next : act (3 + access + 1) (deviceMem act call queue access) =
          deviceMem act call queue (access + 1) := rfl
      have checked := drive_polled_timeout act sub 0
        { current with mem := deviceMem act call queue access } (3 + access + 1) (fuel + 1)
      rw [slot, next, ne_eq, given_back_iff] at checked
      rw [Nat.add_zero, drive_step act _ _ _ _ (polling 0)]
      simp only [callStep, found]
      exact checked
  | succ remaining induction =>
      rw [← Nat.add_assoc, drive_step act _ _ _ _ (polling (remaining + 1))]
      simp only [callStep, found, slot, given_back_iff]
      by_cases givenBack : GivenBack act call queue access
      · have next : act (3 + access + 1) (deviceMem act call queue access) =
            deviceMem act call queue (access + 1) := rfl
        have last : act (3 + access + 1 + 1) (deviceMem act call queue (access + 1)) =
            deviceMem act call queue (access + 2) := rfl
        have spare : fuel + 3 + remaining = fuel + remaining + 1 + 1 + 1 := by omega
        rw [if_pos givenBack, checkAccess, if_pos givenBack, spare,
          drive_step act _ _ _ _ seen]
        simp only [callStep, next]
        rw [drive_polled_timeout, slot, last, ne_eq, given_back_iff]
      · rw [if_neg givenBack, checkAccess, if_neg givenBack]
        exact induction (access + 1) fuel _ rfl

theorem drive_opening (act : DeviceAct) (fuel : Nat) (call : CmdCall) (queue : CmdQueue) :
    drive act (fuel + 3) 0 (.entered call) queue =
      drive act fuel 3 (.polling (submission call queue) pollLimit)
        ⟨(submitted call queue).ctx, handedOver act call queue⟩ := rfl

theorem exec_timeout_iff (act : DeviceAct) (call : CmdCall) (queue : CmdQueue) :
    returnCode act call queue = .timeout ↔ Unanswered act call queue := by
  have fuel : execFuel = 2 + 3 + pollLimit + 3 := rfl
  have polled := drive_polling_timeout act call queue pollLimit 0 2 (submission call queue) rfl
    ⟨(submitted call queue).ctx, handedOver act call queue⟩ rfl
  rw [returnCode, mlx5CmdExec, fuel, drive_opening]
  exact polled

def isUnanswered (act : DeviceAct) (call : CmdCall) (queue : CmdQueue) : Bool :=
  decide (Unanswered act call queue)

def unansweredCalls (queue : CmdQueue) (commands : List (DeviceAct × CmdCall)) : Nat :=
  (eachCall isUnanswered queue commands).count true

theorem timed_out_calls (queue : CmdQueue) (commands : List (DeviceAct × CmdCall)) :
    timedOutCalls queue commands = unansweredCalls queue commands := by
  induction commands generalizing queue with
  | nil => rfl
  | cons command rest induction =>
      rcases command with ⟨act, call⟩
      have later := induction (mlx5CmdExec act call queue).2
      simp only [timedOutCalls, returnCodes, unansweredCalls] at later ⊢
      simp only [eachCall, List.countP_cons, List.count_cons, later, isUnanswered,
        exec_timeout_iff, beq_true]

theorem return_codes_length (queue : CmdQueue) (commands : List (DeviceAct × CmdCall)) :
    (returnCodes queue commands).length = commands.length := by
  induction commands generalizing queue with
  | nil => rfl
  | cons command rest induction =>
      rcases command with ⟨act, call⟩
      exact congrArg (· + 1) (induction (mlx5CmdExec act call queue).2)

theorem return_codes_split (queue : CmdQueue) (commands : List (DeviceAct × CmdCall)) :
    commands.length = (returnCodes queue commands).countP (· = .success) +
      (returnCodes queue commands).countP (· ≠ .success) := by
  rw [← return_codes_length queue commands, List.length_eq_countP_add_countP (· = .success)]
  simp only [decide_eq_true_eq, ne_eq]

theorem of_nat_zero_iff (count : Nat) : BitVec.ofNat 32 count = 0#32 ↔ 2 ^ 32 ∣ count := by
  rw [← BitVec.toNat_inj, BitVec.toNat_ofNat, Nat.dvd_iff_mod_eq_zero]
  rfl

/-- Commands that time out have rung their doorbell and are not in `total_commands`. -/
theorem statistics_exact_iff (outcomes : CmdInitOutcomes) (bar0 : BitVec 64) (bar0Size : BitVec 32)
    (iseg : Bytes) (heap : Heap) (commands : List (DeviceAct × CmdCall)) :
    StatisticsExact (mlx5CmdInit outcomes bar0 bar0Size iseg heap).queue commands ↔
      2 ^ 32 ∣ unansweredCalls (mlx5CmdInit outcomes bar0 bar0Size iseg heap).queue commands := by
  have clear := cmd_init_counters outcomes bar0 bar0Size iseg heap
  have total := run_total (mlx5CmdInit outcomes bar0 bar0Size iseg heap).queue commands
  have failed := run_failed (mlx5CmdInit outcomes bar0 bar0Size iseg heap).queue commands
  rw [clear.total, BitVec.zero_add, timed_out_calls] at total
  rw [clear.failed, BitVec.zero_add] at failed
  rw [← of_nat_zero_iff]
  constructor
  · intro reported
    have sent := reported.total
    rw [commands_sent_length] at sent
    rw [sent] at total
    exact BitVec.add_right_eq_self.mp total
  · intro answered
    rw [answered, BitVec.add_zero] at total
    constructor
    · rw [commands_sent_length, total]
    · exact failed
    · rw [total, failed, return_codes_split (mlx5CmdInit outcomes bar0 bar0Size iseg heap).queue,
        BitVec.ofNat_add, BitVec.add_sub_cancel]

def wideParams : Bytes := isegWrite32 zeroBytes mlx5IsegCmdqParams 0x00050600

def silentDevice : DeviceAct := fun _ mem => mem

def bareInitHca : CmdCall where
  opcode := mlx5CmdOpInitHca
  opMod := 0
  inData := none
  inLen := 0
  outData := none
  outLen := 0
  outStatus := false

theorem silent_times_out (call : CmdCall) (queue : CmdQueue) :
    returnCode silentDevice call queue = .timeout := by
  rw [returnCode, exec_unanswered silentDevice call queue (fun _ _ _ => rfl)]
  rfl

/-- The device never answers the only command: sent, failed, and not counted as sent. -/
theorem silent_command_uncounted :
    ¬StatisticsExact (mlx5CmdInit ringAllocated 0 0 wideParams emptyHeap).queue
      [(silentDevice, bareInitHca)] := by
  intro reported
  have clear := cmd_init_counters ringAllocated 0 0 wideParams emptyHeap
  have timedOut := silent_times_out bareInitHca (mlx5CmdInit ringAllocated 0 0 wideParams emptyHeap).queue
  have uncounted := (exec_accounts silentDevice bareInitHca
    (mlx5CmdInit ringAllocated 0 0 wideParams emptyHeap).queue).1
  have sent := reported.total
  rw [if_pos timedOut, clear.total] at uncounted
  rw [commands_sent_length, after_commands_cons, after_commands_nil, uncounted] at sent
  exact absurd sent (by decide)

end Verbifrost.Mlx5CmdRuns
