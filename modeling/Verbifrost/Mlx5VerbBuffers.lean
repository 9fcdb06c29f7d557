import Verbifrost.Mlx5CmdOutcome
import Verbifrost.Mlx5VerbRuns

/-!
# Buffers of completion queues and memory regions

Runs of the four verbs that allocate or should release a buffer, on any number
of objects. Creation releases what it allocated when it fails. Destruction
releases nothing: `mlx5_ib_destroy_cq` has no pointer to the ring, and
`mlx5_ib_dereg_mr` leaves the page list and the `mlx5_ib_mr` where they are.
-/

namespace Verbifrost.Mlx5VerbBuffers

open Verbifrost.ByteMemory Verbifrost.Mlx5Registers Verbifrost.ReferenceHeap Verbifrost.GuardedRun
open Verbifrost.ObjectTable
open Verbifrost.IbVerbs Verbifrost.Mlx5CmdExec Verbifrost.Mlx5CmdOutcome Verbifrost.Mlx5Verbs
open Verbifrost.Mlx5MemoryRegion Verbifrost.Mlx5VerbRuns

set_option autoImplicit false

inductive BufferAction where
  | createCq (act : DeviceAct) (buffer : Option DmaBuffer) (key : Nat) (cq : IbCq)
  | destroyCq (outcome : CmdOutcome) (key : Nat)
  | regUserMr (act : DeviceAct) (buffer : Option DmaBuffer) (allocated : Bool) (pd : Option Nat)
      (args : RegArgs)
  | deregMr (outcome : CmdOutcome) (address : Nat)

def BufferAction.verb : BufferAction → VerbAction
  | .createCq act buffer key cq => .createCq act buffer key cq
  | .destroyCq outcome key => .destroyCq (outcomeAct outcome) key
  | .regUserMr act buffer allocated pd args => .regUserMr act buffer allocated pd args
  | .deregMr outcome address => .deregMr (outcomeAct outcome) address

def bufferStep (store : Store) (action : BufferAction) : Option Store := step store action.verb

def startStore (pds : Nat → Option LivePd) (queue : CmdQueue) : Store :=
  { emptyStore queue with pds := pds }

inductive Holder where
  | cq (key : Nat)
  | mr (address : Nat)
deriving DecidableEq

/-- The ring of a live CQ; the page list and the structure of a live region. -/
def references (store : Store) : Holder → List Nat
  | .cq key =>
      match store.cqs key with
      | none => []
      | some live => [live.ring]
  | .mr address =>
      match store.mrs address with
      | none => []
      | some mr => [mr.pasMd, address]

/-- The buffers still allocated are exactly those of the live objects. -/
def Conserved (store : Store) : Prop :=
  ∀ handle, Allocated store.heap handle ↔ Held (references store) handle

/-- The invariant behind it: each buffer belongs to one object. -/
def Accounted (store : Store) : Prop := Ledger store.heap (references store)

theorem accounted_conserved (store : Store) (accounted : Accounted store) : Conserved store :=
  accounted.held

/-- No DESTROY_CQ or DESTROY_MKEY for a live object gets an answer that passes:
status 0, with delivery status 0 at a poll or with any between the last poll
and the timeout check. Whether the device executes the command is left open. -/
def DestroyRefused (store : Store) : BufferAction → Prop
  | .destroyCq outcome key => (store.cqs key).isSome = true → ¬Passes outcome
  | .deregMr outcome address => (store.mrs address).isSome = true → ¬Passes outcome
  | _ => True

theorem create_cq_heap (act : DeviceAct) (buffer : Option DmaBuffer) (cq : IbCq) (queue : CmdQueue)
    (heap : Heap) :
    ((mlx5IbCreateCq act buffer cq queue heap).ret = 0 ∧
        (mlx5IbCreateCq act buffer cq queue heap).heap = (acquire heap).2) ∨
      ((mlx5IbCreateCq act buffer cq queue heap).ret ≠ 0 ∧
        ∀ handle, Allocated (mlx5IbCreateCq act buffer cq queue heap).heap handle ↔
          Allocated heap handle) := by
  cases buffer with
  | none => exact Or.inr ⟨by simp [mlx5IbCreateCq], fun _ => Iff.rfl⟩
  | some ring =>
      simp only [mlx5IbCreateCq]
      split_ifs
      · exact Or.inr ⟨by simp, allocated_transient heap⟩
      · exact Or.inl ⟨rfl, rfl⟩

/-- The buffers of a returned region: the page list, then the structure. -/
structure RegionAllocated (heap : Heap) (result : MrResult) (address : Nat) (mr : Mlx5IbMr) : Prop where
  pages : mr.pasMd = heap.next
  region : address = heap.next + 1
  heap : result.heap = (acquire (acquire heap).2).2

/-- What a registration leaves allocated. The case of a null PD that is
dereferenced is open: the run ends there. -/
def RegisterEffect (heap : Heap) (result : MrResult) : Prop :=
  match result.result with
  | .null => ∀ handle, Allocated result.heap handle ↔ Allocated heap handle
  | .region address mr => RegionAllocated heap result address mr
  | .nullDereference => True

theorem reg_user_mr_heap (act : DeviceAct) (buffer : Option DmaBuffer) (allocated : Bool)
    (args : RegArgs) (queue : CmdQueue) (heap : Heap) :
    RegisterEffect heap (mlx5IbRegUserMrFull act buffer allocated args queue heap) := by
  cases buffer with
  | none =>
      intro handle
      exact Iff.rfl
  | some pages =>
      simp only [mlx5IbRegUserMrFull, buildPasList]
      split_ifs
      · exact allocated_transient heap
      · exact allocated_transient heap
      · cases args.pd with
        | none => trivial
        | some pd => exact ⟨rfl, rfl, rfl⟩

theorem references_cq (store : Store) (key : Nat) (entry : Option LiveCq) (queue : CmdQueue)
    (heap : Heap) :
    references { store with cqs := Function.update store.cqs key entry, queue := queue, heap := heap } =
      Function.update (references store) (.cq key) (entry.toList.map LiveCq.ring) := by
  funext holder
  cases holder with
  | mr address => rw [Function.update_of_ne (by simp)]; rfl
  | cq other =>
      by_cases same : other = key
      · subst same
        cases entry <;> simp [references]
      · rw [Function.update_of_ne (by simp [same])]
        simp [references, Function.update_of_ne same]

theorem references_mr (store : Store) (address : Nat) (entry : Option Mlx5IbMr) (queue : CmdQueue)
    (heap : Heap) :
    references
        { store with mrs := Function.update store.mrs address entry, queue := queue, heap := heap } =
      Function.update (references store) (.mr address)
        (entry.toList.flatMap fun mr => [mr.pasMd, address]) := by
  funext holder
  cases holder with
  | cq key => rw [Function.update_of_ne (by simp)]; rfl
  | mr other =>
      by_cases same : other = address
      · subst same
        cases entry <;> simp [references]
      · rw [Function.update_of_ne (by simp [same])]
        simp [references, Function.update_of_ne same]

section Steps

variable {store next : Store} (accounted : Accounted store)

include accounted

theorem create_cq_accounted {act : DeviceAct} {buffer : Option DmaBuffer} {key : Nat} {cq : IbCq}
    (stepped : stepCreateCq act buffer key cq store = some next) :
    Accounted next := by
  cases found : store.cqs key with
  | some live => simp [stepCreateCq, found] at stepped
  | none =>
      have idle : references store (.cq key) = [] := by simp [references, found]
      simp only [stepCreateCq, found] at stepped
      cases stepped
      obtain ⟨returned, grown⟩ | ⟨refused, same⟩ :=
        create_cq_heap act buffer cq store.queue store.heap
      · rw [Accounted, enter_on_zero returned, references_cq]
        apply ledger_take accounted idle
        · intro handle member
          rw [List.mem_singleton.mp member]
          exact not_allocated_fresh (Nat.le_refl _)
        · intro handle
          dsimp only
          rw [grown, allocated_acquire]
          simp
      · rw [Accounted, enter_on_nonzero refused]
        exact ledger_congr accounted same

theorem reg_user_mr_accounted {act : DeviceAct} {buffer : Option DmaBuffer} {allocated : Bool}
    {pd : Option Nat} {args : RegArgs}
    (stepped : stepRegUserMr act buffer allocated pd args store = some next) :
    Accounted next := by
  unfold stepRegUserMr at stepped
  split at stepped
  · cases stepped
  · rename_i live _
    have effect := reg_user_mr_heap act buffer allocated { args with pd := live.map LivePd.pd }
      store.queue store.heap
    dsimp only at stepped
    split at stepped
    · cases stepped
    · rename_i refused
      rw [RegisterEffect, refused] at effect
      cases stepped
      exact ledger_congr accounted effect
    · rename_i address mr returned
      rw [RegisterEffect, returned] at effect
      rcases effect with ⟨pages, region, grown⟩
      cases stepped
      -- the structure is at a new address, so no region was live there
      have idle : references store (.mr address) = [] := by
        cases found : store.mrs address with
        | none => simp [references, found]
        | some old =>
            have holds : Held (references store) address := ⟨.mr address, by simp [references, found]⟩
            exact absurd ((accounted.held address).mpr holds) (not_allocated_fresh (by omega))
      rw [Accounted, references_mr]
      apply ledger_take accounted idle
      · intro handle member
        apply not_allocated_fresh
        simp only [Option.toList_some, List.flatMap_singleton, List.mem_cons, List.not_mem_nil,
          or_false] at member
        omega
      · intro handle
        dsimp only
        rw [grown, allocated_acquire, allocated_acquire, acquire_next]
        simp only [Option.toList_some, List.flatMap_singleton, List.mem_cons, List.not_mem_nil,
          or_false, pages, region]
        rw [← or_assoc, or_comm (b := handle = store.heap.next)]

end Steps

theorem destroy_cq_cases {store next : Store} {act : DeviceAct} {key : Nat}
    (stepped : stepDestroyCq act key store = some next) :
    ∃ live queue, store.cqs key = some live ∧
      (((mlx5CmdExec act (destroyCqCall live.cq) store.queue).1.ret = .success ∧
          next = { store with cqs := Function.update store.cqs key none, queue := queue }) ∨
        ((mlx5CmdExec act (destroyCqCall live.cq) store.queue).1.ret ≠ .success ∧
          next = { store with queue := queue })) := by
  cases found : store.cqs key with
  | none => simp [stepDestroyCq, found] at stepped
  | some live =>
      simp only [stepDestroyCq, found, mlx5IbDestroyCq] at stepped
      cases stepped
      by_cases carried : (mlx5CmdExec act (destroyCqCall live.cq) store.queue).1.ret = .success
      · exact ⟨live, _, rfl, Or.inl ⟨carried, by rw [if_pos carried]; rfl⟩⟩
      · exact ⟨live, _, rfl, Or.inr ⟨carried, by rw [if_neg carried]; rfl⟩⟩

theorem dereg_mr_cases {store next : Store} {act : DeviceAct} {address : Nat}
    (stepped : stepDeregMr act address store = some next) :
    ∃ mr queue, store.mrs address = some mr ∧
      (((mlx5CmdExec act (deregMrCall mr.ibmr) store.queue).1.ret = .success ∧
          next = { store with mrs := Function.update store.mrs address none, queue := queue }) ∨
        ((mlx5CmdExec act (deregMrCall mr.ibmr) store.queue).1.ret ≠ .success ∧
          next = { store with queue := queue })) := by
  cases found : store.mrs address with
  | none => simp [stepDeregMr, found] at stepped
  | some mr =>
      simp only [stepDeregMr, found, mlx5IbDeregMr] at stepped
      cases stepped
      by_cases carried : (mlx5CmdExec act (deregMrCall mr.ibmr) store.queue).1.ret = .success
      · exact ⟨mr, _, rfl, Or.inl ⟨carried, by rw [if_pos carried]; rfl⟩⟩
      · exact ⟨mr, _, rfl, Or.inr ⟨carried, by rw [if_neg carried]; rfl⟩⟩

theorem start_accounted (pds : Nat → Option LivePd) (queue : CmdQueue) :
    Accounted (startStore pds queue) := by
  have nothing : references (startStore pds queue) = fun _ => [] := by
    funext holder
    cases holder <;> rfl
  rw [Accounted, nothing]
  exact ledger_empty

theorem buffer_step_accounted (store : Store) (action : BufferAction) (next : Store)
    (accounted : Accounted store) (refused : DestroyRefused store action)
    (stepped : bufferStep store action = some next) : Accounted next := by
  cases action with
  | createCq => exact create_cq_accounted accounted stepped
  | regUserMr => exact reg_user_mr_accounted accounted stepped
  | destroyCq outcome key =>
      rcases destroy_cq_cases stepped with ⟨live, queue, found, ⟨taken, _⟩ | ⟨_, rfl⟩⟩
      · exact absurd ((exec_success_iff outcome _ _).mp taken) (refused (by rw [found]; rfl))
      · exact accounted
  | deregMr outcome address =>
      rcases dereg_mr_cases stepped with ⟨mr, queue, found, ⟨taken, _⟩ | ⟨_, rfl⟩⟩
      · exact absurd ((exec_success_iff outcome _ _).mp taken) (refused (by rw [found]; rfl))
      · exact accounted

/-- A holder that goes while the heap stays leaves a buffer that belongs to nothing. -/
theorem dropped_not_conserved {store next : Store} {holder : Holder} {handle : Nat}
    (accounted : Accounted store) (member : handle ∈ references store holder)
    (kept : next.heap = store.heap)
    (gone : references next = Function.update (references store) holder []) : ¬Conserved next := by
  intro conserved
  rcases ledger_dropped accounted member with ⟨allocated, unheld⟩
  rw [← kept] at allocated
  rw [← gone] at unheld
  exact unheld ((conserved handle).mp allocated)

theorem passed_destroy_leaks (store : Store) (action : BufferAction) (next : Store)
    (accounted : Accounted store) (passed : ¬DestroyRefused store action)
    (stepped : bufferStep store action = some next) : ¬Conserved next := by
  cases action with
  | createCq => exact absurd trivial passed
  | regUserMr => exact absurd trivial passed
  | destroyCq outcome key =>
      rcases destroy_cq_cases stepped with ⟨live, queue, found, ⟨_, rfl⟩ | ⟨failed, _⟩⟩
      · have ring : live.ring ∈ references store (.cq key) := by simp [references, found]
        exact dropped_not_conserved accounted ring rfl (references_cq store key none queue _)
      · exact absurd (fun _ passes => failed ((exec_success_iff outcome _ _).mpr passes)) passed
  | deregMr outcome address =>
      rcases dereg_mr_cases stepped with ⟨mr, queue, found, ⟨_, rfl⟩ | ⟨failed, _⟩⟩
      · have region : address ∈ references store (.mr address) := by simp [references, found]
        exact dropped_not_conserved accounted region rfl (references_mr store address none queue _)
      · exact absurd (fun _ passes => failed ((exec_success_iff outcome _ _).mpr passes)) passed

/-- For every run of the four verbs, under all outcomes of the allocators and
the device: the buffers are conserved throughout exactly when no destroy of a
live object gets a passing answer. -/
theorem buffers_conserved_iff (pds : Nat → Option LivePd) (queue : CmdQueue)
    (actions : List BufferAction) (final : Store)
    (ran : run bufferStep (startStore pds queue) actions = some final) :
    Always bufferStep Conserved (startStore pds queue) actions ↔
      Meets bufferStep DestroyRefused (startStore pds queue) actions :=
  always_iff_meets accounted_conserved buffer_step_accounted passed_destroy_leaks
    (start_accounted pds queue) ran

def sampleStore : Store := startStore (fun _ => some ⟨samplePd, 3⟩) blankQueue

def answered : DeviceAct := answerAt 0 0#8 zeroBytes

def createdBuffers : List BufferAction :=
  [.createCq answered (some sampleBuffer) 0 ⟨0, 0, 0, 0, 0, 64⟩,
    .regUserMr answered (some sampleBuffer) true (some 0) (sampleArgs 8192)]

def destroyed : CmdOutcome := .answers 0 0 zeroBytes

/-- DESTROY_CQ is refused with a delivery error; DESTROY_MKEY is executed and
never answered. -/
def failedDestroys : List BufferAction :=
  [.destroyCq (.answers 0 1 zeroBytes) 0, .deregMr (.silent true) 2]

theorem refused_destroys_conserve :
    ∃ final, run bufferStep sampleStore (createdBuffers ++ failedDestroys) = some final ∧
      Always bufferStep Conserved sampleStore (createdBuffers ++ failedDestroys) := by
  have undelivered : ¬Passes (.answers 0 1 zeroBytes) := by
    rintro ⟨_, ⟨_, delivered⟩ | ⟨late, _⟩⟩
    · cases delivered
    · exact absurd late (by decide)
  refine ⟨_, rfl, ?_⟩
  apply (buffers_conserved_iff _ _ _ _ rfl).mpr
  refine meets_cons rfl trivial (meets_cons rfl trivial ?_)
  exact meets_cons rfl (fun _ => undelivered) (meets_cons rfl (fun _ => id) trivial)

theorem entered_and_left {Object : Type} (key : Nat) (object : Object) :
    leaveOn 0 (enterOn 0 (fun _ => none) key object) key = fun _ : Nat => none := by
  funext other
  by_cases same : other = key
  · subst same
    simp [leaveOn]
  · simp [leaveOn, enterOn, Function.update_of_ne same]

theorem nothing_held {store : Store} (noCq : store.cqs = fun _ => none)
    (noMr : store.mrs = fun _ => none) (handle : Nat) : ¬Held (references store) handle := by
  rintro ⟨holder, member⟩
  cases holder <;> simp [references, noCq, noMr] at member

/-- A CQ and a region are created and both destroyed: the ring, the page list
and the structure are still allocated and nothing is live. -/
theorem destroyed_objects_leak :
    ∃ final, run bufferStep sampleStore
        (createdBuffers ++ [.destroyCq destroyed 0, .deregMr destroyed 2]) = some final ∧
      (∀ handle, ¬Held (references final) handle) ∧
      Allocated final.heap 0 ∧ Allocated final.heap 1 ∧ Allocated final.heap 2 ∧ ¬Conserved final := by
  obtain ⟨final, ran, noCq, noMr, ring, pages, region⟩ : ∃ final, run bufferStep sampleStore
      (createdBuffers ++ [.destroyCq destroyed 0, .deregMr destroyed 2]) = some final ∧
      final.cqs = (fun _ => none) ∧ final.mrs = (fun _ => none) ∧
      Allocated final.heap 0 ∧ Allocated final.heap 1 ∧ Allocated final.heap 2 :=
    ⟨_, rfl, entered_and_left 0 _, entered_and_left 2 _, ⟨by decide, rfl⟩, ⟨by decide, rfl⟩,
      by decide, rfl⟩
  have unheld := nothing_held noCq noMr
  refine ⟨final, ran, unheld, ring, pages, region, ?_⟩
  intro conserved
  exact unheld 0 ((conserved 0).mp ring)

end Verbifrost.Mlx5VerbBuffers
