import Verbifrost.GuardedRun
import Verbifrost.Mlx5CmdOutcome
import Verbifrost.Mlx5QueuePair

/-!
# Lifetime of a QP's buffers

Runs of creation and destruction of one QP object, with any allocation
outcomes and any outcome of each command. The state adds to the driver's own
what the device holds when a call returns: the buffers of every CREATE_QP that
it executed or may still execute, less those of every DESTROY_QP that it
executed. What the driver makes of the two commands plays no part in that. The
caller destroys a QP that was created, and may do so again after -1.
-/

namespace Verbifrost.Mlx5QpLifetime

open Verbifrost.ByteMemory Verbifrost.Mlx5Registers Verbifrost.ReferenceHeap Verbifrost.GuardedRun
open Verbifrost.IbVerbs Verbifrost.Mlx5CmdExec Verbifrost.Mlx5CmdOutcome Verbifrost.Mlx5Verbs
open Verbifrost.Mlx5QueuePair

set_option autoImplicit false

structure QpLife where
  mqp : Mlx5IbQp
  queue : CmdQueue
  heap : Heap
  live : Bool
  held : Finset Nat

inductive LifeAction where
  | create (outcome : CmdOutcome) (buffers : QpBuffers) (init : IbQpInitAttr)
  | destroy (outcome : CmdOutcome)

def qpReferences (mqp : Mlx5IbQp) : List Nat :=
  mqp.sq.md.toList ++ (mqp.rq.md.toList ++ mqp.dbMd.toList)

/-- The allocations let CREATE_QP be sent. -/
def Sent (buffers : QpBuffers) : Prop :=
  buffers.sq.isSome = true ∧ buffers.rq.isSome = true ∧ buffers.db.isSome = true

instance (buffers : QpBuffers) : Decidable (Sent buffers) :=
  inferInstanceAs (Decidable (_ ∧ _ ∧ _))

def heldAfterCreate (outcome : CmdOutcome) (buffers : QpBuffers) (mqp : Mlx5IbQp)
    (held : Finset Nat) : Finset Nat :=
  if Sent buffers ∧ MayExecute outcome then held ∪ (qpReferences mqp).toFinset else held

def heldAfterDestroy (outcome : CmdOutcome) (mqp : Mlx5IbQp) (held : Finset Nat) : Finset Nat :=
  if ExecutesInCall outcome then held \ (qpReferences mqp).toFinset else held

def step (life : QpLife) : LifeAction → Option QpLife
  | .create outcome buffers init =>
      let result := mlx5IbCreateQpFull (outcomeAct outcome) buffers init life.mqp life.queue life.heap
      some
        { mqp := result.qp
          queue := result.queue
          heap := result.heap
          live := result.ret == 0
          held := heldAfterCreate outcome buffers result.qp life.held }
  | .destroy outcome =>
      if life.live then
        let result := mlx5IbDestroyQpFull (outcomeAct outcome) life.mqp life.queue life.heap
        some
          { mqp := result.qp
            queue := result.queue
            heap := result.heap
            live := result.ret != 0
            held := heldAfterDestroy outcome life.mqp life.held }
      else none

def newLife (mqp : Mlx5IbQp) (queue : CmdQueue) : QpLife where
  mqp := mqp
  queue := queue
  heap := emptyHeap
  live := false
  held := ∅

/-- No buffer is released twice, and none that the device holds is released. -/
structure Safe (life : QpLife) : Prop where
  once : ∀ handle, life.heap.released handle ≤ 1
  held : ∀ handle ∈ life.held, life.heap.released handle = 0

/-- A CREATE_QP that is sent gets an answer that the driver accepts, or is over
and not executed when the call returns. A destroy is the first of its QP, and
the device executes DESTROY_QP in time or does not hold the QP's buffers. -/
def Answered (life : QpLife) : LifeAction → Prop
  | .create outcome buffers _ => Sent buffers → Passes outcome ∨ ¬MayExecute outcome
  | .destroy outcome =>
      (∀ handle ∈ qpReferences life.mqp, life.heap.released handle = 0) ∧
        (ExecutesInCall outcome ∨ ∀ handle ∈ qpReferences life.mqp, handle ∉ life.held)

theorem sent_buffers {buffers : QpBuffers} (sent : Sent buffers) :
    ∃ sq rq db, buffers = ⟨some sq, some rq, some db⟩ := by
  rcases buffers with ⟨sq, rq, db⟩
  rcases sent with ⟨sqSet, rqSet, dbSet⟩
  rcases Option.isSome_iff_exists.mp sqSet with ⟨sq, rfl⟩
  rcases Option.isSome_iff_exists.mp rqSet with ⟨rq, rfl⟩
  rcases Option.isSome_iff_exists.mp dbSet with ⟨db, rfl⟩
  exact ⟨sq, rq, db, rfl⟩

/-- A creation that did not succeed has released all it allocated. -/
theorem create_failed_releases (outcome : CmdOutcome) (buffers : QpBuffers) (init : IbQpInitAttr)
    (qp : Mlx5IbQp) (queue : CmdQueue) (heap : Heap) (failed : ¬(Sent buffers ∧ Passes outcome)) :
    (mlx5IbCreateQpFull (outcomeAct outcome) buffers init qp queue heap).ret = -1 ∧
      ReleasedFresh heap
        (mlx5IbCreateQpFull (outcomeAct outcome) buffers init qp queue heap).heap := by
  rcases buffers with ⟨sq, rq, db⟩
  cases sq with
  | none => exact ⟨rfl, released_fresh_refl heap⟩
  | some sq =>
      cases rq with
      | none => exact ⟨rfl, released_fresh_range 1 rfl rfl⟩
      | some rq =>
          cases db with
          | none => exact ⟨rfl, released_fresh_range 2 rfl rfl⟩
          | some db =>
              have refused : (mlx5CmdExec (outcomeAct outcome) (createQpCall (createQpInput
                  (allocatedQp init sq rq db heap) defaultWqeCnt defaultWqeCnt mlx5RecvWqeShift))
                  queue).1.ret ≠ .success := by
                intro succeeded
                exact failed ⟨⟨rfl, rfl, rfl⟩, (exec_success_iff outcome _ queue).mp succeeded⟩
              rw [create_qp_full_allocated]
              simp only [sendCreateQp, if_pos refused]
              exact ⟨trivial, released_fresh_range 3 rfl rfl⟩

theorem create_sent_references (outcome : CmdOutcome) (buffers : QpBuffers) (init : IbQpInitAttr)
    (qp : Mlx5IbQp) (queue : CmdQueue) (heap : Heap) (sent : Sent buffers) :
    qpReferences (mlx5IbCreateQpFull (outcomeAct outcome) buffers init qp queue heap).qp =
        List.range' heap.next 3 ∧
      (mlx5IbCreateQpFull (outcomeAct outcome) buffers init qp queue heap).heap.next =
        heap.next + 3 := by
  rcases sent_buffers sent with ⟨sq, rq, db, rfl⟩
  rw [create_qp_full_allocated]
  simp only [sendCreateQp]
  split_ifs <;> exact ⟨rfl, rfl⟩

theorem create_succeeded_keeps (outcome : CmdOutcome) (buffers : QpBuffers) (init : IbQpInitAttr)
    (qp : Mlx5IbQp) (queue : CmdQueue) (heap : Heap) (sent : Sent buffers)
    (passes : Passes outcome) :
    (mlx5IbCreateQpFull (outcomeAct outcome) buffers init qp queue heap).ret = 0 ∧
      (mlx5IbCreateQpFull (outcomeAct outcome) buffers init qp queue heap).heap.released =
        heap.released := by
  rcases sent_buffers sent with ⟨sq, rq, db, rfl⟩
  rw [create_qp_full_allocated]
  have accepted : ¬(mlx5CmdExec (outcomeAct outcome) (createQpCall (createQpInput
      (allocatedQp init sq rq db heap) defaultWqeCnt defaultWqeCnt mlx5RecvWqeShift))
      queue).1.ret ≠ .success := not_not.mpr ((exec_success_iff outcome _ queue).mpr passes)
  simp only [sendCreateQp, if_neg accepted]
  exact ⟨trivial, rfl⟩

theorem destroy_heap (act : DeviceAct) (mqp : Mlx5IbQp) (queue : CmdQueue) (heap : Heap) :
    (mlx5IbDestroyQpFull act mqp queue heap).heap = releaseAll (qpReferences mqp) heap := by
  simp only [mlx5IbDestroyQpFull, qpReferences, release_if_set, release_all_append]

structure Tracked (life : QpLife) : Prop where
  safe : Safe life
  allocated : ∀ handle ∈ life.held, handle < life.heap.next
  owned : life.live = true →
    ∃ first, qpReferences life.mqp = List.range' first 3 ∧ first + 3 ≤ life.heap.next

theorem new_life_tracked (mqp : Mlx5IbQp) (queue : CmdQueue) : Tracked (newLife mqp queue) where
  safe := ⟨fun _ => Nat.zero_le _, by intro handle member; cases member⟩
  allocated := by intro handle member; cases member
  owned := by intro live; cases live

/-- The new buffers are the only ones a creation adds to what the device holds. -/
theorem held_after_create {outcome : CmdOutcome} {buffers : QpBuffers} {mqp : Mlx5IbQp}
    {held : Finset Nat} {handle : Nat} (member : handle ∈ heldAfterCreate outcome buffers mqp held) :
    handle ∈ held ∨ handle ∈ qpReferences mqp := by
  unfold heldAfterCreate at member
  split_ifs at member with executed
  · rcases Finset.mem_union.mp member with old | fresh
    · exact Or.inl old
    · exact Or.inr (List.mem_toFinset.mp fresh)
  · exact Or.inl member

theorem held_after_destroy {outcome : CmdOutcome} {mqp : Mlx5IbQp} {held : Finset Nat} {handle : Nat}
    (settled : ExecutesInCall outcome ∨ ∀ handle ∈ qpReferences mqp, handle ∉ held)
    (member : handle ∈ heldAfterDestroy outcome mqp held) :
    handle ∈ held ∧ handle ∉ qpReferences mqp := by
  unfold heldAfterDestroy at member
  split_ifs at member with executed
  · rcases Finset.mem_sdiff.mp member with ⟨old, unlisted⟩
    exact ⟨old, by simpa using unlisted⟩
  · refine ⟨member, ?_⟩
    intro listed
    rcases settled with inCall | unheld
    · exact executed inCall
    · exact unheld handle listed member

theorem create_success_tracked {life next : QpLife} {outcome : CmdOutcome} {buffers : QpBuffers}
    {init : IbQpInitAttr} (tracked : Tracked life) (sent : Sent buffers) (passes : Passes outcome)
    (stepped : step life (.create outcome buffers init) = some next) : Tracked next := by
  rcases create_sent_references outcome buffers init life.mqp life.queue life.heap sent with
    ⟨references, grown⟩
  have kept :=
    (create_succeeded_keeps outcome buffers init life.mqp life.queue life.heap sent passes).2
  simp only [step, Option.some.injEq] at stepped
  subst stepped
  constructor
  · constructor
    · intro handle
      rw [kept]
      exact tracked.safe.once handle
    · intro handle member
      rw [kept]
      rcases held_after_create member with old | fresh
      · exact tracked.safe.held handle old
      · rw [references, List.mem_range'_1] at fresh
        exact life.heap.unreleased handle fresh.1
  · intro handle member
    rw [grown]
    rcases held_after_create member with old | fresh
    · have older := tracked.allocated handle old
      omega
    · rw [references, List.mem_range'_1] at fresh
      exact fresh.2
  · intro _
    exact ⟨life.heap.next, references, Nat.le_of_eq grown.symm⟩

theorem create_refused_tracked {life next : QpLife} {outcome : CmdOutcome} {buffers : QpBuffers}
    {init : IbQpInitAttr} (tracked : Tracked life) (failed : ¬(Sent buffers ∧ Passes outcome))
    (settled : ¬(Sent buffers ∧ MayExecute outcome))
    (stepped : step life (.create outcome buffers init) = some next) : Tracked next := by
  rcases create_failed_releases outcome buffers init life.mqp life.queue life.heap failed with
    ⟨returned, fresh⟩
  simp only [step, heldAfterCreate, if_neg settled, Option.some.injEq] at stepped
  subst stepped
  constructor
  · constructor
    · intro handle
      rw [fresh.count handle]
      split_ifs with new
      · rw [life.heap.unreleased handle new.1]
      · exact tracked.safe.once handle
    · intro handle member
      have older := tracked.allocated handle member
      rw [fresh.count handle, if_neg (by omega), Nat.add_zero]
      exact tracked.safe.held handle member
  · intro handle member
    exact Nat.lt_of_lt_of_le (tracked.allocated handle member) fresh.grows
  · intro live
    simp [returned] at live

theorem destroy_counts {life : QpLife} (tracked : Tracked life) (live : life.live = true)
    (handle : Nat) :
    (releaseAll (qpReferences life.mqp) life.heap).released handle =
      life.heap.released handle + if handle ∈ qpReferences life.mqp then 1 else 0 := by
  rcases tracked.owned live with ⟨first, references, bound⟩
  apply release_all_count
  · rw [references]
    exact List.nodup_range'
  · intro member listed
    rw [references, List.mem_range'_1] at listed
    omega

theorem destroy_tracked {life next : QpLife} {outcome : CmdOutcome} (tracked : Tracked life)
    (live : life.live = true)
    (first : ∀ handle ∈ qpReferences life.mqp, life.heap.released handle = 0)
    (settled : ExecutesInCall outcome ∨ ∀ handle ∈ qpReferences life.mqp, handle ∉ life.held)
    (stepped : step life (.destroy outcome) = some next) : Tracked next := by
  have counts := destroy_counts tracked live
  simp only [step, live, if_true, Option.some.injEq] at stepped
  subst stepped
  constructor
  · constructor
    · intro handle
      rw [destroy_heap, counts handle]
      split_ifs with listed
      · rw [first handle listed]
      · exact tracked.safe.once handle
    · intro handle member
      rcases held_after_destroy settled member with ⟨held, unlisted⟩
      rw [destroy_heap, counts handle, if_neg unlisted, Nat.add_zero]
      exact tracked.safe.held handle held
  · intro handle member
    rw [destroy_heap, release_all_next]
    exact tracked.allocated handle (held_after_destroy settled member).1
  · intro _
    rw [destroy_heap, release_all_next]
    exact tracked.owned live

theorem step_tracked (life : QpLife) (action : LifeAction) (next : QpLife) (tracked : Tracked life)
    (answered : Answered life action) (stepped : step life action = some next) : Tracked next := by
  cases action with
  | create outcome buffers init =>
      by_cases accepted : Sent buffers ∧ Passes outcome
      · exact create_success_tracked tracked accepted.1 accepted.2 stepped
      · apply create_refused_tracked tracked accepted ?_ stepped
        rintro ⟨sent, executed⟩
        rcases answered sent with passes | settled
        · exact accepted ⟨sent, passes⟩
        · exact settled executed
  | destroy outcome =>
      by_cases live : life.live = true
      · exact destroy_tracked tracked live answered.1 answered.2 stepped
      · simp [step, live] at stepped

/-- A creation gives up a command that the device executed or still has: the
three buffers are released and held. -/
theorem late_create_unsafe {life next : QpLife} {outcome : CmdOutcome} {buffers : QpBuffers}
    {init : IbQpInitAttr} (sent : Sent buffers) (refused : ¬Passes outcome)
    (executed : MayExecute outcome)
    (stepped : step life (.create outcome buffers init) = some next) : ¬Safe next := by
  intro safe
  have failed : ¬(Sent buffers ∧ Passes outcome) := fun accepted => refused accepted.2
  have fresh :=
    (create_failed_releases outcome buffers init life.mqp life.queue life.heap failed).2
  rcases create_sent_references outcome buffers init life.mqp life.queue life.heap sent with
    ⟨references, grown⟩
  have both : Sent buffers ∧ MayExecute outcome := ⟨sent, executed⟩
  simp only [step, heldAfterCreate, if_pos both, Option.some.injEq] at stepped
  subst stepped
  have kept := safe.held life.heap.next (by simp [references, List.mem_range'_1])
  rw [fresh.count, if_pos (by omega)] at kept
  omega

theorem step_unanswered_unsafe (life : QpLife) (action : LifeAction) (next : QpLife)
    (tracked : Tracked life) (unanswered : ¬Answered life action)
    (stepped : step life action = some next) : ¬Safe next := by
  cases action with
  | create outcome buffers init =>
      simp only [Answered, not_forall, not_or, not_not] at unanswered
      rcases unanswered with ⟨sent, refused, executed⟩
      exact late_create_unsafe sent refused executed stepped
  | destroy outcome =>
      intro safe
      by_cases live : life.live = true
      · have counts := destroy_counts tracked live
        simp only [step, live, if_true, Option.some.injEq] at stepped
        subst stepped
        apply unanswered
        constructor
        · intro handle listed
          have once := safe.once handle
          rw [destroy_heap, counts handle, if_pos listed] at once
          omega
        · by_contra unsettled
          simp only [not_or, not_forall, not_not] at unsettled
          rcases unsettled with ⟨late, handle, listed, held⟩
          have kept := safe.held handle (by rw [heldAfterDestroy, if_neg late]; exact held)
          rw [destroy_heap, counts handle, if_pos listed] at kept
          omega
      · simp [step, live] at stepped

/-- A run is safe in every state exactly when every command is answered as
`Answered` says. -/
theorem buffers_safe_iff_answered (mqp : Mlx5IbQp) (queue : CmdQueue) (actions : List LifeAction)
    (final : QpLife) (ran : run step (newLife mqp queue) actions = some final) :
    Always step Safe (newLife mqp queue) actions ↔
      Meets step Answered (newLife mqp queue) actions :=
  always_iff_meets (fun _ tracked => tracked.safe) step_tracked step_unanswered_unsafe
    (new_life_tracked mqp queue) ran

def sampleLife : QpLife := newLife zeroQp blankQueue

def accepts : CmdOutcome := .answers 0 0 zeroBytes

def refuses : CmdOutcome := .answers 0 0 fun _ => 3

def answeredLife : List LifeAction :=
  [.create refuses sampleBuffers ⟨none, none, .rc⟩, .create accepts sampleBuffers ⟨none, none, .rc⟩,
    .destroy accepts, .create accepts sampleBuffers ⟨none, none, .uc⟩, .destroy accepts]

def refusedLife : List LifeAction :=
  [.create accepts sampleBuffers ⟨none, none, .rc⟩, .destroy refuses, .destroy refuses]

theorem answered_life_safe :
    ∃ final, run step sampleLife answeredLife = some final ∧
      Always step Safe sampleLife answeredLife := by
  have passes : Passes accepts := ⟨rfl, Or.inl ⟨by decide, rfl⟩⟩
  have refused : ¬MayExecute refuses := by decide
  have executes : ExecutesInCall accepts := by decide
  have answered : Meets step Answered sampleLife answeredLife := by
    refine meets_cons rfl (fun _ => Or.inr refused) ?_
    refine meets_cons rfl (fun _ => Or.inl passes) ?_
    refine meets_cons rfl ⟨by decide, Or.inl executes⟩ ?_
    refine meets_cons rfl (fun _ => Or.inl passes) ?_
    exact meets_cons rfl ⟨by decide, Or.inl executes⟩ trivial
  exact ⟨_, rfl, (buffers_safe_iff_answered _ _ answeredLife _ rfl).mpr answered⟩

/-- The device refuses DESTROY_QP twice: the send ring it still uses is released twice. -/
theorem refused_destroy_releases_twice :
    ∃ final, run step sampleLife refusedLife = some final ∧ 0 ∈ final.held ∧
      final.heap.released 0 = 2 ∧ ¬Always step Safe sampleLife refusedLife := by
  refine ⟨_, rfl, ?_, rfl, ?_⟩
  · decide
  · rintro ⟨_, created⟩
    rcases created _ rfl with ⟨_, refused⟩
    rcases refused _ rfl with ⟨_, again⟩
    have safe : Safe _ := again _ rfl
    exact absurd (safe.once 0) (by decide)

end Verbifrost.Mlx5QpLifetime
