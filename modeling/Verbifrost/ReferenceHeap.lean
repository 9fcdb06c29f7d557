import Mathlib.Data.Finset.Basic
import Mathlib.Data.Finset.Dedup
import Mathlib.Tactic.Common

/-!
# Counted releases of allocated references

A heap hands out one fresh handle for each reference that is acquired and
counts how often each handle is released. Nothing prevents a second release:
a double release is a count above one, a leak is a count of zero.
-/

namespace Verbifrost.ReferenceHeap

set_option autoImplicit false

/-- Handles from `next` on have not been handed out and so were never released. -/
structure Heap where
  next : Nat
  released : Nat → Nat
  unreleased : ∀ handle, next ≤ handle → released handle = 0

def emptyHeap : Heap where
  next := 0
  released := fun _ => 0
  unreleased := by intro handle _; rfl

def acquire (heap : Heap) : Nat × Heap :=
  (heap.next,
    { next := heap.next + 1
      released := heap.released
      unreleased := by
        intro handle beyond
        exact heap.unreleased handle (by omega) })

def release (handle : Nat) (heap : Heap) : Heap where
  next := heap.next
  released := fun other =>
    if other = handle ∧ handle < heap.next then heap.released other + 1 else heap.released other
  unreleased := by
    intro other beyond
    have notReleased : ¬(other = handle ∧ handle < heap.next) := by omega
    rw [if_neg notReleased]
    exact heap.unreleased other beyond

/-- `if (pointer) pointer->release();` -/
def releaseIfSet (pointer : Option Nat) (heap : Heap) : Heap :=
  match pointer with
  | none => heap
  | some handle => release handle heap

@[simp] theorem acquire_handle (heap : Heap) : (acquire heap).1 = heap.next := rfl

@[simp] theorem acquire_next (heap : Heap) : (acquire heap).2.next = heap.next + 1 := rfl

@[simp] theorem acquire_released (heap : Heap) : (acquire heap).2.released = heap.released := rfl

@[simp] theorem release_next (handle : Nat) (heap : Heap) :
    (release handle heap).next = heap.next := rfl

theorem release_count (handle other : Nat) (heap : Heap) (allocated : handle < heap.next) :
    (release handle heap).released other =
      heap.released other + if other = handle then 1 else 0 := by
  by_cases same : other = handle
  · simp [release, same, allocated]
  · simp [release, same]

def Allocated (heap : Heap) (handle : Nat) : Prop := handle < heap.next ∧ heap.released handle = 0

theorem not_allocated_fresh {heap : Heap} {handle : Nat} (fresh : heap.next ≤ handle) :
    ¬Allocated heap handle := by
  intro allocated
  exact Nat.not_lt.mpr fresh allocated.1

theorem allocated_acquire (heap : Heap) (handle : Nat) :
    Allocated (acquire heap).2 handle ↔ handle = heap.next ∨ Allocated heap handle := by
  have fresh := heap.unreleased heap.next (Nat.le_refl _)
  simp only [Allocated, acquire_next, acquire_released]
  by_cases same : handle = heap.next
  · simp [same, fresh]
  · have older : handle < heap.next + 1 ↔ handle < heap.next := by omega
    simp [same, older]

theorem allocated_release (handle other : Nat) (heap : Heap) :
    Allocated (release handle heap) other ↔ Allocated heap other ∧ other ≠ handle := by
  simp only [Allocated, release]
  by_cases same : other = handle
  · subst same
    by_cases allocated : other < heap.next
    · simp [allocated]
    · simp [allocated]
  · simp [same]

theorem allocated_transient (heap : Heap) (handle : Nat) :
    Allocated (release (acquire heap).1 (acquire heap).2) handle ↔ Allocated heap handle := by
  rw [allocated_release, allocated_acquire, acquire_handle]
  constructor
  · rintro ⟨fresh | old, other⟩
    · exact absurd fresh other
    · exact old
  · intro old
    exact ⟨Or.inr old, Nat.ne_of_lt old.1⟩

/-- Handles in `live` are unreleased, all others that were handed out were released once. -/
structure Settled (heap : Heap) (live : Finset Nat) : Prop where
  allocated : ∀ handle ∈ live, handle < heap.next
  count : ∀ handle < heap.next, heap.released handle = if handle ∈ live then 0 else 1

theorem settled_empty : Settled emptyHeap ∅ where
  allocated := by simp
  count := by
    intro handle allocated
    exact absurd allocated (Nat.not_lt_zero handle)

theorem settled_acquire {heap : Heap} {live : Finset Nat} (settled : Settled heap live) :
    Settled (acquire heap).2 (insert heap.next live) where
  allocated := by
    intro handle member
    rw [acquire_next]
    rcases Finset.mem_insert.mp member with fresh | old
    · omega
    · exact Nat.lt_succ_of_lt (settled.allocated handle old)
  count := by
    intro handle allocated
    rw [acquire_next] at allocated
    rw [acquire_released]
    by_cases fresh : handle = heap.next
    · rw [fresh, heap.unreleased heap.next (Nat.le_refl _), if_pos (Finset.mem_insert_self _ _)]
    · rw [settled.count handle (by omega)]
      simp [fresh]

theorem settled_release {heap : Heap} {live : Finset Nat} {handle : Nat}
    (settled : Settled heap live) (held : handle ∈ live) :
    Settled (release handle heap) (live.erase handle) where
  allocated := by
    intro other member
    exact settled.allocated other (Finset.mem_of_mem_erase member)
  count := by
    intro other allocated
    rw [release_next] at allocated
    rw [release_count handle other heap (settled.allocated handle held), settled.count other allocated]
    by_cases same : other = handle
    · simp [same, held]
    · simp [same]

theorem settled_transient {heap : Heap} {live : Finset Nat} (settled : Settled heap live) :
    Settled (release (acquire heap).1 (acquire heap).2) live := by
  have fresh : heap.next ∉ live := fun member => Nat.lt_irrefl _ (settled.allocated _ member)
  have once := settled_release (settled_acquire settled) (Finset.mem_insert_self heap.next live)
  rwa [Finset.erase_insert fresh] at once

theorem release_le (handle other : Nat) (heap : Heap) :
    heap.released other ≤ (release handle heap).released other := by
  simp only [release]
  split_ifs <;> omega

theorem released_of_release {heap : Heap} {handle : Nat} (allocated : handle < heap.next) :
    1 ≤ (release handle heap).released handle := by
  rw [release_count handle handle heap allocated, if_pos rfl]
  omega

theorem release_again {heap : Heap} {handle : Nat} (allocated : handle < heap.next)
    (before : 1 ≤ heap.released handle) : 2 ≤ (release handle heap).released handle := by
  rw [release_count handle handle heap allocated, if_pos rfl]
  omega

def releaseAll : List Nat → Heap → Heap
  | [], heap => heap
  | handle :: rest, heap => releaseAll rest (release handle heap)

theorem release_if_set (pointer : Option Nat) (heap : Heap) :
    releaseIfSet pointer heap = releaseAll pointer.toList heap := by
  cases pointer <;> rfl

theorem release_all_append (first second : List Nat) (heap : Heap) :
    releaseAll (first ++ second) heap = releaseAll second (releaseAll first heap) := by
  induction first generalizing heap with
  | nil => rfl
  | cons handle rest induction => exact induction (release handle heap)

@[simp] theorem release_all_next (handles : List Nat) (heap : Heap) :
    (releaseAll handles heap).next = heap.next := by
  induction handles generalizing heap with
  | nil => rfl
  | cons handle rest induction => exact induction (release handle heap)

theorem release_all_count {handles : List Nat} {heap : Heap} (distinct : handles.Nodup)
    (allocated : ∀ handle ∈ handles, handle < heap.next) (other : Nat) :
    (releaseAll handles heap).released other =
      heap.released other + if other ∈ handles then 1 else 0 := by
  induction handles generalizing heap with
  | nil => simp [releaseAll]
  | cons handle rest induction =>
      rcases List.nodup_cons.mp distinct with ⟨fresh, distinctRest⟩
      have later : ∀ following ∈ rest, following < (release handle heap).next := by
        intro following member
        exact allocated following (List.mem_cons_of_mem _ member)
      rw [releaseAll, induction distinctRest later,
        release_count handle other heap (allocated handle List.mem_cons_self)]
      by_cases same : other = handle
      · subst same
        simp [fresh]
      · simp [same]

theorem release_all_le (handles : List Nat) (other : Nat) (heap : Heap) :
    heap.released other ≤ (releaseAll handles heap).released other := by
  induction handles generalizing heap with
  | nil => exact Nat.le_refl _
  | cons handle rest induction =>
      exact Nat.le_trans (release_le handle other heap) (induction (release handle heap))

theorem settled_release_all {heap : Heap} {handles : List Nat} (distinct : handles.Nodup)
    (settled : Settled heap handles.toFinset) : Settled (releaseAll handles heap) ∅ := by
  induction handles generalizing heap with
  | nil => simpa [releaseAll] using settled
  | cons handle rest induction =>
      rcases List.nodup_cons.mp distinct with ⟨fresh, distinctRest⟩
      rw [List.toFinset_cons] at settled
      have outside : handle ∉ rest.toFinset := by simpa using fresh
      have first := settled_release settled (Finset.mem_insert_self handle rest.toFinset)
      rw [Finset.erase_insert outside] at first
      exact induction distinctRest first

/-- Everything acquired in between was released once, nothing older was touched. -/
structure ReleasedFresh (before after : Heap) : Prop where
  grows : before.next ≤ after.next
  count : ∀ handle, after.released handle =
    before.released handle + if before.next ≤ handle ∧ handle < after.next then 1 else 0

theorem released_fresh_refl (heap : Heap) : ReleasedFresh heap heap where
  grows := Nat.le_refl _
  count := by
    intro handle
    have nothing : ¬(heap.next ≤ handle ∧ handle < heap.next) := by omega
    rw [if_neg nothing, Nat.add_zero]

theorem released_fresh_range {before grown : Heap} (count : Nat)
    (same : grown.released = before.released) (grows : grown.next = before.next + count) :
    ReleasedFresh before (releaseAll (List.range' before.next count) grown) where
  grows := by
    rw [release_all_next]
    omega
  count := by
    intro handle
    have allocated : ∀ member ∈ List.range' before.next count, member < grown.next := by
      intro member listed
      rw [grows]
      exact (List.mem_range'_1.mp listed).2
    rw [release_all_count List.nodup_range' allocated, same, release_all_next, grows]
    simp only [List.mem_range'_1]

theorem release_all_again {heap : Heap} {handles : List Nat} {handle : Nat}
    (member : handle ∈ handles) (allocated : handle < heap.next)
    (before : 1 ≤ heap.released handle) : 2 ≤ (releaseAll handles heap).released handle := by
  induction handles generalizing heap with
  | nil => exact absurd member List.not_mem_nil
  | cons first rest induction =>
      rcases List.mem_cons.mp member with rfl | later
      · exact Nat.le_trans (release_again allocated before) (release_all_le rest _ _)
      · exact induction later allocated (Nat.le_trans before (release_le first handle heap))

end Verbifrost.ReferenceHeap
