import Verbifrost.Mlx5WorkQueues

/-!
# Where posted work lands

Any interleaving of sends and receives on a QP that was created. The two queues
share the QP and one doorbell page and nothing else: a send writes a control
segment in the send ring and doorbell word 0, a receive writes a data segment in
the receive ring and doorbell word 1, and the order of the calls leaves no trace.
-/

namespace Verbifrost.Mlx5WqeLayout

open Verbifrost.ByteMemory Verbifrost.Mlx5Registers Verbifrost.ReferenceHeap
open Verbifrost.IbVerbs Verbifrost.Mlx5CmdExec Verbifrost.Mlx5Verbs Verbifrost.Mlx5QueuePair
open Verbifrost.Mlx5WorkQueues

set_option autoImplicit false

inductive Post where
  | send
  | recv
deriving DecidableEq

def post (mqp : Mlx5IbQp) : Post → Mlx5IbQp
  | .send => (mlx5IbPostSendFull mqp).2
  | .recv => (mlx5IbPostRecvFull mqp).2

def posted (mqp : Mlx5IbQp) (posts : List Post) : Mlx5IbQp := posts.foldl post mqp

def ringBytes (ring : WorkRing) : Nat := (ring.wqeCnt <<< ring.wqeShift).toNat

/-- Where the slot of the entry with this number, counted from 0, begins. -/
def slotOffset (ring : WorkRing) (count : Nat) : Nat :=
  count % ring.wqeCnt.toNat * 2 ^ ring.wqeShift.toNat

/-- A word of the control segment that a send on `mqp` leaves in its slot. -/
def ctrlWord (created mqp : Mlx5IbQp) (count offset : Nat) : BitVec 32 :=
  loadBE (post mqp .send).sq.buf (slotOffset created.sq count + offset) 32

/-- The send with this number writes one control segment of its slot, moves the
head and writes its byte offset to doorbell word 0. That nothing else is written
is said for every content of the ring and of the doorbell page, so that a byte
rewritten as it was counts too. -/
structure SendWrites (created mqp : Mlx5IbQp) (count : Nat) : Prop where
  inside : slotOffset created.sq count + 16 ≤ ringBytes created.sq
  only : ∀ buf index,
    index < slotOffset created.sq count ∨ slotOffset created.sq count + 16 ≤ index →
      (post { mqp with sq := { mqp.sq with buf := buf } } .send).sq.buf index = buf index
  opcode : (ctrlWord created mqp count 0).extractLsb' 24 8 = 0x08
  index : ((ctrlWord created mqp count 0).extractLsb' 0 16).toNat =
    count % created.sq.wqeCnt.toNat
  number : (ctrlWord created mqp count 4).extractLsb' 8 24 = created.qpn.setWidth 24
  segments : (ctrlWord created mqp count 4).extractLsb' 0 8 = 2
  head : (post mqp .send).sq.head.toNat = (count + 1) % created.sq.wqeCnt.toNat
  doorbell : (loadBE (post mqp .send).dbRecord 0 32).toNat = slotOffset created.sq (count + 1)
  recvQueue : ∀ rq, (post { mqp with rq := rq } .send).rq = rq
  recvDoorbell : ∀ dbRecord index, 4 ≤ index →
    (post { mqp with dbRecord := dbRecord } .send).dbRecord index = dbRecord index

/-- A word of the data segment that a receive on `mqp` leaves in its slot. -/
def dataWord (created mqp : Mlx5IbQp) (count offset w : Nat) : BitVec w :=
  loadBE (post mqp .recv).rq.buf (slotOffset created.rq count + offset) w

/-- The receive with this number writes the placeholder data segment in its slot,
moves the head and writes it to doorbell word 1, and writes nothing else. -/
structure RecvWrites (created mqp : Mlx5IbQp) (count : Nat) : Prop where
  inside : slotOffset created.rq count + 2 ^ created.rq.wqeShift.toNat ≤ ringBytes created.rq
  only : ∀ buf index, index < slotOffset created.rq count ∨
      slotOffset created.rq count + 2 ^ created.rq.wqeShift.toNat ≤ index →
    (post { mqp with rq := { mqp.rq with buf := buf } } .recv).rq.buf index = buf index
  byteCount : dataWord created mqp count 0 32 = 4096
  lkey : dataWord created mqp count 4 32 = 0
  addr : dataWord created mqp count 8 64 = 0
  head : (post mqp .recv).rq.head.toNat = (count + 1) % created.rq.wqeCnt.toNat
  doorbell : (loadBE (post mqp .recv).dbRecord 4 32).toNat =
    (count + 1) % created.rq.wqeCnt.toNat
  sendQueue : ∀ sq, (post { mqp with sq := sq } .recv).sq = sq
  sendDoorbell : ∀ dbRecord index, index < 4 ∨ 8 ≤ index →
    (post { mqp with dbRecord := dbRecord } .recv).dbRecord index = dbRecord index

theorem ctrl_seg_first (qpn : BitVec 32) (ring : WorkRing) :
    (loadBE (writeCtrlSeg qpn ring) (wqeOffset ring) 32).toNat =
      8 * 2 ^ 24 + ring.head.toNat % 2 ^ 16 := by
  have opcode : ((mlx5OpcodeRdmaWrite <<< 24) ||| (0#32 <<< 16)).toNat = 8 <<< 24 := by decide
  have mask : (0xFFFF : BitVec 32).toNat = 2 ^ 16 - 1 := by decide
  have low : ring.head.toNat % 2 ^ 16 < 2 ^ 24 := by omega
  simp only [writeCtrlSeg]
  rw [load_be_store_disjoint (by decide) _ _ _ _ (by omega),
    load_be_store_disjoint (by decide) _ _ _ _ (by omega),
    load_be_store_disjoint (by decide) _ _ _ _ (by omega), load_be_store_swap (by decide)]
  rw [BitVec.toNat_or, opcode, BitVec.toNat_and, mask, Nat.and_two_pow_sub_one_eq_mod,
    ← Nat.shiftLeft_add_eq_or_of_lt low, Nat.shiftLeft_eq]

theorem ctrl_seg_second (qpn : BitVec 32) (ring : WorkRing) :
    (loadBE (writeCtrlSeg qpn ring) (wqeOffset ring + 4) 32).toNat =
      qpn.toNat % 2 ^ 24 * 2 ^ 8 + 2 := by
  have mask : (0xFFFFFF : BitVec 32).toNat = 2 ^ 24 - 1 := by decide
  have two : (2 : BitVec 32).toNat = 2 := rfl
  have shifted : ((qpn &&& 0xFFFFFF) <<< 8).toNat = (qpn.toNat % 2 ^ 24) <<< 8 := by
    rw [BitVec.toNat_shiftLeft, BitVec.toNat_and, mask, Nat.and_two_pow_sub_one_eq_mod,
      Nat.shiftLeft_eq]
    omega
  simp only [writeCtrlSeg]
  rw [load_be_store_disjoint (by decide) _ _ _ _ (by omega),
    load_be_store_disjoint (by decide) _ _ _ _ (by omega), load_be_store_swap (by decide)]
  rw [BitVec.toNat_or, shifted, two, ← Nat.shiftLeft_add_eq_or_of_lt (by decide), Nat.shiftLeft_eq]

theorem data_seg_words (ring : WorkRing) :
    loadBE (writeDataSeg ring) (wqeOffset ring) 32 = 4096 ∧
      loadBE (writeDataSeg ring) (wqeOffset ring + 4) 32 = 0 ∧
        loadBE (writeDataSeg ring) (wqeOffset ring + 8) 64 = 0 := by
  have noKey : (0 : BitVec 32) = byteSwap 0#32 := by decide
  have noAddress : (0 : BitVec 64) = byteSwap 0#64 := by decide
  simp only [writeDataSeg]
  refine ⟨?_, ?_, ?_⟩
  · rw [load_be_store_disjoint (by decide) _ _ _ _ (by omega),
      load_be_store_disjoint (by decide) _ _ _ _ (by omega), load_be_store_swap (by decide)]
    rfl
  · rw [load_be_store_disjoint (by decide) _ _ _ _ (by omega), loadBE, load_store (by decide)]
    exact noKey.symm
  · rw [loadBE, load_store (by decide)]
    exact noAddress.symm

theorem field_nat {word : BitVec 32} (start length : Nat) :
    (word.extractLsb' start length).toNat = word.toNat / 2 ^ start % 2 ^ length := by
  rw [BitVec.extractLsb'_toNat, Nat.shiftRight_eq_div_pow]

structure RingAt (ring : WorkRing) (shift : BitVec 32) (count : Nat) : Prop where
  size : ring.wqeCnt = defaultWqeCnt
  stride : ring.wqeShift = shift
  head : ring.head.toNat = count % 256

structure PostedTo (created mqp : Mlx5IbQp) (sends recvs : Nat) : Prop where
  number : mqp.qpn = created.qpn
  send : RingAt mqp.sq mlx5SendWqeShift sends
  recv : RingAt mqp.rq mlx5RecvWqeShift recvs

theorem ring_at_bound {ring : WorkRing} {shift : BitVec 32} {count : Nat}
    (position : RingAt ring shift count) : ring.head.toNat < 256 := by
  rw [position.head]
  exact Nat.mod_lt _ (by decide)

theorem ring_at_capacity {ring : WorkRing} {shift : BitVec 32} {count : Nat}
    (position : RingAt ring shift count) : ring.wqeCnt.toNat = 256 := by
  rw [position.size]
  rfl

theorem ring_at_next {ring : WorkRing} {shift : BitVec 32} {count : Nat}
    (position : RingAt ring shift count) (buf : Bytes) :
    RingAt { ring with buf := buf, head := nextHead ring } shift (count + 1) where
  size := position.size
  stride := position.stride
  head := by
    rw [next_head_nat position.size (ring_at_bound position), position.head]
    omega

theorem post_posted_to {created mqp : Mlx5IbQp} {sends recvs : Nat}
    (posted : PostedTo created mqp sends recvs) (next : Post) :
    PostedTo created (post mqp next) (sends + [next].count .send) (recvs + [next].count .recv) := by
  cases next with
  | send => exact ⟨posted.number, ring_at_next posted.send _, posted.recv⟩
  | recv => exact ⟨posted.number, posted.send, ring_at_next posted.recv _⟩

/-- The induction over a run of posts: what every post preserves, with its
number of sends and receives, holds after any of them. -/
theorem posted_invariant {invariant : Mlx5IbQp → Nat → Nat → Prop}
    (preserved : ∀ mqp sends recvs next, invariant mqp sends recvs →
      invariant (post mqp next) (sends + [next].count .send) (recvs + [next].count .recv))
    {mqp : Mlx5IbQp} {sends recvs : Nat} (start : invariant mqp sends recvs) (posts : List Post) :
    invariant (posted mqp posts) (sends + posts.count .send) (recvs + posts.count .recv) := by
  induction posts generalizing mqp sends recvs with
  | nil => exact start
  | cons next rest induction =>
      have later := induction (preserved mqp sends recvs next start)
      have split : ∀ kind, [next].count kind + rest.count kind = (next :: rest).count kind := by
        intro kind
        rw [← List.count_append, List.singleton_append]
      rw [Nat.add_assoc, Nat.add_assoc, split, split] at later
      exact later

theorem posts_posted_to {created mqp : Mlx5IbQp} {sends recvs : Nat}
    (start : PostedTo created mqp sends recvs) (posts : List Post) :
    PostedTo created (posted mqp posts) (sends + posts.count .send) (recvs + posts.count .recv) := by
  have preserved : ∀ mqp sends recvs next, PostedTo created mqp sends recvs →
      PostedTo created (post mqp next) (sends + [next].count .send) (recvs + [next].count .recv) :=
    fun _ _ _ next now => post_posted_to now next
  exact posted_invariant preserved start posts

theorem created_posted_to {act : DeviceAct} {buffers : QpBuffers} {init : IbQpInitAttr}
    {qp : Mlx5IbQp} {queue : CmdQueue} {heap : Heap}
    (succeeded : (mlx5IbCreateQpFull act buffers init qp queue heap).ret = 0) :
    PostedTo (mlx5IbCreateQpFull act buffers init qp queue heap).qp
      (mlx5IbCreateQpFull act buffers init qp queue heap).qp 0 0 := by
  rcases create_qp_full_succeeded succeeded with ⟨sq, rq, db, _, same⟩
  rw [same]
  exact ⟨rfl, ⟨rfl, rfl, rfl⟩, ⟨rfl, rfl, rfl⟩⟩

theorem ring_at_offset {base ring : WorkRing} {shift : BitVec 32} {first count : Nat}
    (strides : shift = mlx5SendWqeShift ∨ shift = mlx5RecvWqeShift)
    (start : RingAt base shift first) (now : RingAt ring shift count) :
    wqeOffset ring = slotOffset base count := by
  have stride : ring.wqeShift = mlx5SendWqeShift ∨ ring.wqeShift = mlx5RecvWqeShift := by
    rw [now.stride]
    exact strides
  rw [wqe_offset_of_head stride (ring_at_bound now), slotOffset, ring_at_capacity start,
    start.stride, now.stride, now.head]

theorem next_head_count {base ring : WorkRing} {shift : BitVec 32} {first count : Nat}
    (start : RingAt base shift first) (now : RingAt ring shift count) :
    (nextHead ring).toNat = (count + 1) % base.wqeCnt.toNat := by
  rw [ring_at_capacity start]
  exact (ring_at_next now ring.buf).head

theorem slot_inside {ring : WorkRing} {shift : BitVec 32} {first : Nat}
    (strides : shift = mlx5SendWqeShift ∨ shift = mlx5RecvWqeShift)
    (position : RingAt ring shift first) (count : Nat) :
    slotOffset ring count + 2 ^ ring.wqeShift.toNat ≤ ringBytes ring := by
  have size : ringBytes ring = 256 * 2 ^ ring.wqeShift.toNat := by
    rw [ringBytes, position.size, position.stride]
    rcases strides with send | recv
    · rw [send]
      rfl
    · rw [recv]
      rfl
  have slot : count % 256 + 1 ≤ 256 := Nat.mod_lt _ (by decide)
  have ends := Nat.mul_le_mul_right (2 ^ ring.wqeShift.toNat) slot
  rw [Nat.succ_mul] at ends
  rw [slotOffset, ring_at_capacity position, size]
  exact ends

section OnePost

variable {created mqp : Mlx5IbQp} {sends recvs : Nat} (start : PostedTo created created 0 0)
  (now : PostedTo created mqp sends recvs)

include start now

theorem send_writes : SendWrites created mqp sends := by
  have offset := ring_at_offset (Or.inl rfl) start.send now.send
  have first : (ctrlWord created mqp sends 0).toNat = 8 * 2 ^ 24 + mqp.sq.head.toNat % 2 ^ 16 := by
    rw [ctrlWord, ← offset]
    exact ctrl_seg_first mqp.qpn mqp.sq
  have second : (ctrlWord created mqp sends 4).toNat = mqp.qpn.toNat % 2 ^ 24 * 2 ^ 8 + 2 := by
    rw [ctrlWord, ← offset]
    exact ctrl_seg_second mqp.qpn mqp.sq
  have head := now.send.head
  exact
    { inside := by
        have slot := slot_inside (Or.inl rfl) start.send sends
        have wide : 2 ^ created.sq.wqeShift.toNat = 64 := by
          rw [start.send.stride]
          rfl
        omega
      only := by
        intro buf index outside
        rw [← offset] at outside
        exact post_send_outside { mqp with sq := { mqp.sq with buf := buf } } index outside
      opcode := by
        have eight : (0x08 : BitVec 8).toNat = 8 := rfl
        apply BitVec.eq_of_toNat_eq
        rw [field_nat, first, eight]
        omega
      index := by
        rw [field_nat, first, ring_at_capacity start.send]
        omega
      number := by
        apply BitVec.eq_of_toNat_eq
        rw [field_nat, second, BitVec.toNat_setWidth, now.number]
        omega
      segments := by
        have two : (2 : BitVec 8).toNat = 2 := rfl
        apply BitVec.eq_of_toNat_eq
        rw [field_nat, second, two]
        omega
      head := next_head_count start.send now.send
      doorbell := by
        rw [← ring_at_offset (Or.inl rfl) start.send (ring_at_next now.send mqp.sq.buf)]
        exact congrArg BitVec.toNat (load_be_store_swap (by decide) _ _ _)
      recvQueue := by
        intro rq
        rfl
      recvDoorbell := by
        intro dbRecord index beyond
        exact store_outside _ _ _ _ (Or.inr beyond) }

theorem recv_writes : RecvWrites created mqp recvs := by
  have offset := ring_at_offset (Or.inr rfl) start.recv now.recv
  have wide : 2 ^ created.rq.wqeShift.toNat = 16 := by
    rw [start.recv.stride]
    rfl
  have segment := data_seg_words mqp.rq
  rw [offset] at segment
  have head := next_head_count start.recv now.recv
  have bound : (nextHead mqp.rq).toNat < 2 ^ 16 := by
    have small := ring_at_bound (ring_at_next now.recv mqp.rq.buf)
    exact Nat.lt_trans small (by decide)
  have mask : (0xFFFF : BitVec 32).toNat = 2 ^ 16 - 1 := by decide
  exact
    { inside := slot_inside (Or.inr rfl) start.recv recvs
      only := by
        intro buf index outside
        rw [← offset, wide] at outside
        exact post_recv_outside { mqp with rq := { mqp.rq with buf := buf } } index outside
      byteCount := segment.1
      lkey := segment.2.1
      addr := segment.2.2
      head := head
      doorbell := by
        have word : loadBE (post mqp .recv).dbRecord 4 32 = nextHead mqp.rq &&& 0xFFFF :=
          load_be_store_swap (by decide) _ _ _
        rw [word, BitVec.toNat_and, mask, Nat.and_two_pow_sub_one_eq_mod, Nat.mod_eq_of_lt bound,
          head]
      sendQueue := by
        intro sq
        rfl
      sendDoorbell := by
        intro dbRecord index outside
        exact store_outside _ _ _ _ outside }

end OnePost

/-- A send and a receive in either order: the stores to the doorbell page are
to different words of it. -/
theorem send_recv_commute (mqp : Mlx5IbQp) :
    post (post mqp .send) .recv = post (post mqp .recv) .send := by
  simp only [post, mlx5IbPostSendFull, mlx5IbPostRecvFull]
  rw [store_commute _ 0 4 _ _ (by decide)]

theorem post_commute (mqp : Mlx5IbQp) (first second : Post) :
    post (post mqp first) second = post (post mqp second) first := by
  cases first <;> cases second
  · rfl
  · exact send_recv_commute mqp
  · exact (send_recv_commute mqp).symm
  · rfl

theorem posted_of_counts (mqp : Mlx5IbQp) {left right : List Post}
    (sends : left.count .send = right.count .send) (recvs : left.count .recv = right.count .recv) :
    posted mqp left = posted mqp right := by
  have reordered : left.Perm right := by
    rw [List.perm_iff_count]
    intro kind
    cases kind with
    | send => exact sends
    | recv => exact recvs
  apply reordered.foldl_eq'
  intro first _ second _ current
  exact post_commute current first second

/-- What holds of all interleavings of sends and receives on a QP. -/
structure PostsLaidOut (created : Mlx5IbQp) : Prop where
  send : ∀ posts : List Post, SendWrites created (posted created posts) (posts.count .send)
  recv : ∀ posts : List Post, RecvWrites created (posted created posts) (posts.count .recv)
  order : ∀ left right : List Post, left.count .send = right.count .send →
    left.count .recv = right.count .recv → posted created left = posted created right

/-- For every created QP and every interleaving, of any length. -/
theorem created_posts_laid_out (act : DeviceAct) (buffers : QpBuffers) (init : IbQpInitAttr)
    (qp : Mlx5IbQp) (queue : CmdQueue) (heap : Heap)
    (succeeded : (mlx5IbCreateQpFull act buffers init qp queue heap).ret = 0) :
    PostsLaidOut (mlx5IbCreateQpFull act buffers init qp queue heap).qp := by
  have start := created_posted_to succeeded
  constructor
  · intro posts
    have now := posts_posted_to start posts
    rw [Nat.zero_add, Nat.zero_add] at now
    exact send_writes start now
  · intro posts
    have now := posts_posted_to start posts
    rw [Nat.zero_add, Nat.zero_add] at now
    exact recv_writes start now
  · intro left right sends recvs
    exact posted_of_counts _ sends recvs

theorem sample_posts_laid_out : sampleCreation.ret = 0 ∧ PostsLaidOut sampleCreation.qp :=
  ⟨rfl, created_posts_laid_out _ _ _ _ _ _ rfl⟩

end Verbifrost.Mlx5WqeLayout
