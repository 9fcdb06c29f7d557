import Verbifrost.Mlx5Doorbells

/-!
# Work reaching the device

A reader that knows nothing but the doorbell record and the two rings: when it
polls a queue it compares the doorbell with the slot it stopped at and takes the
entries between the two out of ring memory. Posts and polls come in any order.
What is published is a slot, so a reader that is a whole ring behind cannot tell,
and that is all that can go wrong: no entry is taken twice, out of order or with
another content.
-/

namespace Verbifrost.Mlx5WqeDelivery

open Verbifrost.ByteMemory Verbifrost.Mlx5Registers Verbifrost.ReferenceHeap Verbifrost.RingQueue
open Verbifrost.GuardedRun
open Verbifrost.IbVerbs Verbifrost.Mlx5CmdExec Verbifrost.Mlx5Verbs Verbifrost.Mlx5QueuePair
open Verbifrost.Mlx5WorkQueues Verbifrost.Mlx5WqeLayout Verbifrost.Mlx5Doorbells

set_option autoImplicit false

/-- A WQE as the fields of its control segment or of its data segment. -/
inductive Wqe where
  | send (opcode : BitVec 8) (index : BitVec 16) (qpn : BitVec 24) (segments : BitVec 8)
  | recv (byteCount lkey : BitVec 32) (address : BitVec 64)
deriving DecidableEq

def readSend (buf : Bytes) (start : Nat) : Wqe :=
  let first := loadBE buf start 32
  let second := loadBE buf (start + 4) 32
  .send (first.extractLsb' 24 8) (first.extractLsb' 0 16) (second.extractLsb' 8 24)
    (second.extractLsb' 0 8)

def readRecv (buf : Bytes) (start : Nat) : Wqe :=
  .recv (loadBE buf start 32) (loadBE buf (start + 4) 32) (loadBE buf (start + 8) 64)

def readWqe (mqp : Mlx5IbQp) (kind : Post) (slot : Nat) : Wqe :=
  match kind with
  | .send => readSend mqp.sq.buf (slot * 2 ^ mqp.sq.wqeShift.toNat)
  | .recv => readRecv mqp.rq.buf (slot * 2 ^ mqp.rq.wqeShift.toNat)

/-- The slot the doorbell announces: the send doorbell is a byte offset. -/
def announcedSlot (mqp : Mlx5IbQp) : Post → Nat
  | .send => (doorbellWord mqp .send).toNat / 2 ^ mqp.sq.wqeShift.toNat
  | .recv => (doorbellWord mqp .recv).toNat

def postedWqe (created : Mlx5IbQp) (kind : Post) (number : Nat) : Wqe :=
  match kind with
  | .send => .send 0x08 (BitVec.ofNat 16 (number % 256)) (created.qpn.setWidth 24) 2
  | .recv => .recv 4096 0 0

/-- `position` and `taken` are the reader's own; `posted` only counts. -/
structure Delivery where
  mqp : Mlx5IbQp
  posted : Post → Nat
  position : Post → Nat
  taken : Post → List Wqe

def newDelivery (mqp : Mlx5IbQp) : Delivery where
  mqp := mqp
  posted := fun _ => 0
  position := fun _ => 0
  taken := fun _ => []

inductive DeliveryAction where
  | post (kind : Post)
  | poll (kind : Post)

/-- Entries between the slot the reader stopped at and the one announced. -/
def distance (now : Delivery) (kind : Post) : Nat :=
  let capacity := (ringOf now.mqp kind).wqeCnt.toNat
  (announcedSlot now.mqp kind + capacity - now.position kind) % capacity

def found (now : Delivery) (kind : Post) : List Wqe :=
  (ringSlots (ringOf now.mqp kind).wqeCnt.toNat (now.position kind) (distance now kind)).map
    (readWqe now.mqp kind)

def poll (now : Delivery) (kind : Post) : Delivery :=
  { now with
    position := Function.update now.position kind (announcedSlot now.mqp kind)
    taken := Function.update now.taken kind (now.taken kind ++ found now kind) }

def step (now : Delivery) : DeliveryAction → Option Delivery
  | .post kind =>
      some
        { now with
          mqp := post now.mqp kind
          posted := Function.update now.posted kind (now.posted kind + 1) }
  | .poll kind => some (poll now kind)

/-- After the poll the reader has taken what was posted: everything, once, in order. -/
def DeliversAll (created : Mlx5IbQp) (now : Delivery) : DeliveryAction → Prop
  | .post _ => True
  | .poll kind =>
      (poll now kind).taken kind = (List.range (now.posted kind)).map (postedWqe created kind)

/-- Fewer entries wait than the ring has slots. -/
def WithinRing (now : Delivery) : DeliveryAction → Prop
  | .post _ => True
  | .poll kind =>
      now.posted kind - (now.taken kind).length < (ringOf now.mqp kind).wqeCnt.toNat

theorem read_send_congr {left right : Bytes} {start : Nat}
    (same : ∀ index < 8, left (start + index) = right (start + index)) :
    readSend left start = readSend right start := by
  have first : loadBE left start 32 = loadBE right start 32 := by
    apply load_be_congr (by decide)
    intro index bound
    exact same index (by omega)
  have second : loadBE left (start + 4) 32 = loadBE right (start + 4) 32 := by
    apply load_be_congr (by decide)
    intro index bound
    rw [Nat.add_assoc]
    exact same (4 + index) (by omega)
  rw [readSend, readSend, first, second]

theorem read_recv_congr {left right : Bytes} {start : Nat}
    (same : ∀ index < 16, left (start + index) = right (start + index)) :
    readRecv left start = readRecv right start := by
  have words : ∀ offset w, w / 8 * 8 = w → offset + w / 8 ≤ 16 →
      loadBE left (start + offset) w = loadBE right (start + offset) w := by
    intro offset w whole inside
    apply load_be_congr whole
    intro index bound
    rw [Nat.add_assoc]
    exact same (offset + index) (by omega)
  have first := words 0 32 (by decide) (by decide)
  rw [Nat.add_zero] at first
  rw [readRecv, readRecv, first, words 4 32 (by decide) (by decide), words 8 64 (by decide) (by decide)]

theorem read_posted_send {created mqp : Mlx5IbQp} {number : Nat}
    (qpn : mqp.qpn = created.qpn) (position : RingAt mqp.sq mlx5SendWqeShift number) :
    readSend (post mqp .send).sq.buf (wqeOffset mqp.sq) = postedWqe created .send number := by
  have first : (loadBE (post mqp .send).sq.buf (wqeOffset mqp.sq) 32).toNat =
      8 * 2 ^ 24 + mqp.sq.head.toNat % 2 ^ 16 := ctrl_seg_first mqp.qpn mqp.sq
  have second : (loadBE (post mqp .send).sq.buf (wqeOffset mqp.sq + 4) 32).toNat =
      mqp.qpn.toNat % 2 ^ 24 * 2 ^ 8 + 2 := ctrl_seg_second mqp.qpn mqp.sq
  have head := position.head
  have eight : (0x08 : BitVec 8).toNat = 8 := rfl
  have two : (2 : BitVec 8).toNat = 2 := rfl
  simp only [readSend, postedWqe, Wqe.send.injEq]
  refine ⟨?_, ?_, ?_, ?_⟩
  · apply BitVec.eq_of_toNat_eq
    rw [field_nat, first, eight]
    omega
  · apply BitVec.eq_of_toNat_eq
    rw [field_nat, first, BitVec.toNat_ofNat]
    omega
  · apply BitVec.eq_of_toNat_eq
    rw [field_nat, second, BitVec.toNat_setWidth, qpn]
    omega
  · apply BitVec.eq_of_toNat_eq
    rw [field_nat, second, two]
    omega

theorem load_be_store_zero {w : Nat} (whole : w / 8 * 8 = w) (swapped : byteSwap 0#(w) = 0#(w))
    (memory : Bytes) (offset : Nat) : loadBE (store memory offset 0#(w)) offset w = 0#(w) := by
  have decoded := load_be_store_swap whole memory offset 0#(w)
  rwa [swapped] at decoded

theorem read_posted_recv (created mqp : Mlx5IbQp) (number : Nat) :
    readRecv (post mqp .recv).rq.buf (wqeOffset mqp.rq) = postedWqe created .recv number := by
  simp only [readRecv, postedWqe, Wqe.recv.injEq, post, mlx5IbPostRecvFull, writeDataSeg]
  refine ⟨?_, ?_, ?_⟩
  · rw [load_be_store_disjoint (by decide) _ _ _ _ (by omega),
      load_be_store_disjoint (by decide) _ _ _ _ (by omega)]
    exact load_be_store_swap (by decide) _ _ _
  · rw [load_be_store_disjoint (by decide) _ _ _ _ (by omega)]
    exact load_be_store_zero (by decide) (by decide) _ _
  · exact load_be_store_zero (by decide) (by decide) _ _

section Slots

variable {created mqp : Mlx5IbQp} {posted : Post → Nat}
  (position : PostedTo created mqp (posted .send) (posted .recv))

include position

theorem read_own_slot (kind : Post) :
    readWqe (post mqp kind) kind (posted kind % 256) = postedWqe created kind (posted kind) := by
  cases kind with
  | send =>
      have offset := wqe_offset_of_head (Or.inl position.send.stride) (ring_at_bound position.send)
      have own := read_posted_send position.number position.send
      rw [offset, position.send.head] at own
      exact own
  | recv =>
      have offset := wqe_offset_of_head (Or.inr position.recv.stride) (ring_at_bound position.recv)
      have own := read_posted_recv created mqp (posted .recv)
      rw [offset, position.recv.head] at own
      exact own

theorem read_other_slot (next kind : Post) (slot : Nat)
    (other : kind = next → slot ≠ posted kind % 256) :
    readWqe (post mqp next) kind slot = readWqe mqp kind slot := by
  cases next with
  | send =>
      cases kind with
      | send =>
          have apart := other rfl
          have offset := wqe_offset_of_head (Or.inl position.send.stride) (ring_at_bound position.send)
          have stride : 2 ^ mqp.sq.wqeShift.toNat = 64 := by
            rw [position.send.stride]
            decide
          rw [position.send.head, stride] at offset
          apply read_send_congr
          intro index bound
          have same : (post mqp .send).sq.wqeShift = mqp.sq.wqeShift := rfl
          rw [same, stride]
          apply post_send_outside
          omega
      | recv => rfl
  | recv =>
      cases kind with
      | send => rfl
      | recv =>
          have apart := other rfl
          have offset := wqe_offset_of_head (Or.inr position.recv.stride) (ring_at_bound position.recv)
          have stride : 2 ^ mqp.rq.wqeShift.toNat = 16 := by
            rw [position.recv.stride]
            decide
          rw [position.recv.head, stride] at offset
          apply read_recv_congr
          intro index bound
          have same : (post mqp .recv).rq.wqeShift = mqp.rq.wqeShift := rfl
          rw [same, stride]
          apply post_recv_outside
          omega

end Slots

/-- The reader has the first entries of each queue and stands where they end;
the last 256 entries posted to a queue lie in their slots. -/
structure Delivering (created : Mlx5IbQp) (now : Delivery) : Prop where
  doorbells : DoorbellsAt created now.mqp (now.posted .send) (now.posted .recv)
  laid : ∀ kind number, number < now.posted kind → now.posted kind ≤ number + 256 →
    readWqe now.mqp kind (number % 256) = postedWqe created kind number
  delivered : ∀ kind, now.taken kind =
    (List.range (now.taken kind).length).map (postedWqe created kind)
  position : ∀ kind, now.position kind = (now.taken kind).length % 256
  behind : ∀ kind, (now.taken kind).length ≤ now.posted kind

section Invariant

variable {created : Mlx5IbQp} {now : Delivery} (delivering : Delivering created now)

include delivering

theorem delivering_capacity (kind : Post) : (ringOf now.mqp kind).wqeCnt.toNat = 256 := by
  cases kind with
  | send => exact ring_at_capacity delivering.doorbells.position.send
  | recv => exact ring_at_capacity delivering.doorbells.position.recv

theorem delivering_announced (kind : Post) : announcedSlot now.mqp kind = now.posted kind % 256 := by
  cases kind with
  | send =>
      have stride : 2 ^ now.mqp.sq.wqeShift.toNat = 64 := by
        rw [delivering.doorbells.position.send.stride]
        decide
      rw [announcedSlot, delivering.doorbells.send, stride, Nat.mul_div_cancel _ (by decide)]
  | recv => exact delivering.doorbells.recv

theorem delivering_distance (kind : Post) :
    distance now kind = (now.posted kind - (now.taken kind).length) % 256 := by
  have behind := delivering.behind kind
  have apart := slot_distance 256 (now.taken kind).length
    (now.posted kind - (now.taken kind).length) (by decide)
  rw [Nat.add_sub_cancel' behind] at apart
  simp only [distance]
  rw [delivering_capacity delivering, delivering_announced delivering, delivering.position kind]
  exact apart

theorem delivering_found (kind : Post)
    (room : now.posted kind - (now.taken kind).length < 256) :
    found now kind = (List.range' (now.taken kind).length
      (now.posted kind - (now.taken kind).length)).map (postedWqe created kind) := by
  have behind := delivering.behind kind
  rw [found, delivering_capacity delivering, delivering_distance delivering,
    Nat.mod_eq_of_lt room, delivering.position kind, ring_slots_first_slot, ringSlots, List.map_map]
  apply List.map_congr_left
  intro number member
  rw [List.mem_range'_1] at member
  exact delivering.laid kind number (by omega) (by omega)

theorem delivers_all_iff (kind : Post) :
    DeliversAll created now (.poll kind) ↔
      now.posted kind - (now.taken kind).length < (ringOf now.mqp kind).wqeCnt.toNat := by
  have behind := delivering.behind kind
  have taken : (poll now kind).taken kind = now.taken kind ++ found now kind := by
    simp only [poll, Function.update_self]
  rw [DeliversAll, taken, delivering_capacity delivering]
  constructor
  · intro all
    have count := congrArg List.length all
    rw [List.length_append, List.length_map, List.length_range, found, List.length_map,
      ring_slots_length, delivering_distance delivering] at count
    omega
  · intro room
    have first := delivering.delivered kind
    have joined := @List.range'_append_1 0 (now.taken kind).length
      (now.posted kind - (now.taken kind).length)
    rw [Nat.zero_add, Nat.add_sub_cancel' behind] at joined
    rw [delivering_found delivering kind room]
    calc
      now.taken kind ++ (List.range' (now.taken kind).length
          (now.posted kind - (now.taken kind).length)).map (postedWqe created kind) =
          (List.range (now.taken kind).length).map (postedWqe created kind) ++
            (List.range' (now.taken kind).length
              (now.posted kind - (now.taken kind).length)).map (postedWqe created kind) := by
        rw [← first]
      _ = (List.range (now.posted kind)).map (postedWqe created kind) := by
        rw [← List.map_append, List.range_eq_range', List.range_eq_range', joined]

/-- The doorbells and the slots after one more post; the reader has not moved. -/
theorem post_delivering (next : Post) :
    Delivering created
      { now with
        mqp := post now.mqp next
        posted := Function.update now.posted next (now.posted next + 1) } where
  doorbells := by
    have rung := post_doorbells delivering.doorbells next
    cases next <;> exact rung
  laid := by
    intro kind number below recent
    by_cases same : kind = next
    · subst same
      simp only [Function.update_self] at below recent
      by_cases last : number = now.posted kind
      · rw [last]
        exact read_own_slot delivering.doorbells.position kind
      · have apart : number % 256 ≠ now.posted kind % 256 := by omega
        calc
          readWqe (post now.mqp kind) kind (number % 256) = readWqe now.mqp kind (number % 256) :=
            read_other_slot delivering.doorbells.position kind kind _ (fun _ => apart)
          _ = postedWqe created kind number := delivering.laid kind number (by omega) (by omega)
    · simp only [Function.update_of_ne same] at below recent
      calc
        readWqe (post now.mqp next) kind (number % 256) = readWqe now.mqp kind (number % 256) :=
          read_other_slot delivering.doorbells.position next kind _ (fun own => absurd own same)
        _ = postedWqe created kind number := delivering.laid kind number below recent
  delivered := delivering.delivered
  position := delivering.position
  behind := by
    intro kind
    have behind := delivering.behind kind
    by_cases same : kind = next
    · subst same
      simp only [Function.update_self]
      omega
    · simp only [Function.update_of_ne same]
      exact behind

theorem poll_delivering (kind : Post)
    (room : now.posted kind - (now.taken kind).length < (ringOf now.mqp kind).wqeCnt.toNat) :
    Delivering created (poll now kind) := by
  have all := (delivers_all_iff delivering kind).mpr room
  rw [DeliversAll] at all
  have count : ((poll now kind).taken kind).length = now.posted kind := by
    rw [all, List.length_map, List.length_range]
  have others : ∀ other, other ≠ kind → (poll now kind).taken other = now.taken other := by
    intro other apart
    simp only [poll, Function.update_of_ne apart]
  constructor
  · exact delivering.doorbells
  · exact delivering.laid
  · intro other
    by_cases same : other = kind
    · subst same
      rw [count, all]
    · rw [others other same]
      exact delivering.delivered other
  · intro other
    by_cases same : other = kind
    · subst same
      rw [count]
      simp only [poll, Function.update_self]
      exact delivering_announced delivering other
    · rw [others other same]
      simp only [poll, Function.update_of_ne same]
      exact delivering.position other
  · intro other
    by_cases same : other = kind
    · subst same
      exact Nat.le_of_eq count
    · rw [others other same]
      exact delivering.behind other

end Invariant

theorem delivers_iff_within (created : Mlx5IbQp) (now : Delivery) (action : DeliveryAction)
    (delivering : Delivering created now) :
    DeliversAll created now action ↔ WithinRing now action := by
  cases action with
  | post kind => exact Iff.rfl
  | poll kind => exact delivers_all_iff delivering kind

theorem step_delivering {created : Mlx5IbQp} (now : Delivery) (action : DeliveryAction)
    (next : Delivery) (delivering : Delivering created now) (room : WithinRing now action)
    (stepped : step now action = some next) : Delivering created next := by
  cases action with
  | post kind =>
      cases stepped
      exact post_delivering delivering kind
  | poll kind =>
      cases stepped
      exact poll_delivering delivering kind room

theorem created_delivering {act : DeviceAct} {buffers : QpBuffers} {init : IbQpInitAttr}
    {qp : Mlx5IbQp} {queue : CmdQueue} {heap : Heap}
    (succeeded : (mlx5IbCreateQpFull act buffers init qp queue heap).ret = 0) :
    Delivering (mlx5IbCreateQpFull act buffers init qp queue heap).qp
      (newDelivery (mlx5IbCreateQpFull act buffers init qp queue heap).qp) where
  doorbells := created_doorbells succeeded
  laid := by
    intro kind number below
    cases below
  delivered := fun _ => rfl
  position := fun _ => rfl
  behind := fun _ => Nat.le_refl _

/-- For every created QP and every interleaving of posts and polls: each poll
brings the reader everything posted so far, every entry once, in order and as it
was posted, exactly when less than a ring waits at every poll. -/
theorem posts_delivered_iff (act : DeviceAct) (buffers : QpBuffers) (init : IbQpInitAttr)
    (qp : Mlx5IbQp) (queue : CmdQueue) (heap : Heap)
    (succeeded : (mlx5IbCreateQpFull act buffers init qp queue heap).ret = 0)
    (actions : List DeliveryAction) :
    Meets step (DeliversAll (mlx5IbCreateQpFull act buffers init qp queue heap).qp)
        (newDelivery (mlx5IbCreateQpFull act buffers init qp queue heap).qp) actions ↔
      Meets step WithinRing (newDelivery (mlx5IbCreateQpFull act buffers init qp queue heap).qp)
        actions :=
  meets_iff_meets (delivers_iff_within _) step_delivering actions (created_delivering succeeded)

def postsOf (actions : List DeliveryAction) : List Post :=
  actions.filterMap fun action =>
    match action with
    | .post kind => some kind
    | .poll _ => none

theorem few_posts_within {created : Mlx5IbQp} (actions : List DeliveryAction) {now : Delivery}
    (delivering : Delivering created now)
    (few : ∀ kind, now.posted kind + (postsOf actions).count kind < 256) :
    Meets step WithinRing now actions := by
  induction actions generalizing now with
  | nil => trivial
  | cons action rest induction =>
      cases action with
      | post next =>
          have more : ∀ kind, Function.update now.posted next (now.posted next + 1) kind +
              (postsOf rest).count kind < 256 := by
            intro kind
            have counted := few kind
            have listed : postsOf (.post next :: rest) = next :: postsOf rest := rfl
            rw [listed, List.count_cons] at counted
            by_cases same : kind = next
            · subst same
              rw [if_pos (beq_self_eq_true _)] at counted
              rw [Function.update_self]
              omega
            · rw [Function.update_of_ne same]
              omega
          exact meets_cons rfl trivial (induction (post_delivering delivering next) more)
      | poll kind =>
          have room : WithinRing now (.poll kind) := by
            have counted := few kind
            rw [WithinRing, delivering_capacity delivering]
            omega
          exact meets_cons rfl room (induction (poll_delivering delivering kind room) few)

/-- A send and a receive before the first poll, two sends before the second. -/
theorem few_posts_delivered :
    sampleCreation.ret = 0 ∧
      Meets step (DeliversAll sampleCreation.qp) (newDelivery sampleCreation.qp)
        [.post .send, .post .recv, .poll .send, .post .send, .post .send, .poll .send,
          .poll .recv] := by
  have start : Delivering sampleCreation.qp (newDelivery sampleCreation.qp) :=
    created_delivering rfl
  refine ⟨rfl, (posts_delivered_iff _ _ _ _ _ _ rfl _).mpr (few_posts_within _ start ?_)⟩
  intro kind
  cases kind <;> decide

end Verbifrost.Mlx5WqeDelivery
