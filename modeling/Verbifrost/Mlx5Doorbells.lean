import Verbifrost.Mlx5WqeLayout

/-!
# What a doorbell tells the device

The two words of the doorbell record publish a head that is already reduced
modulo the ring size; the mask of the receive doorbell has nothing left to mask.
The BlueFlame register receives the first eight bytes of the WQE, loaded as one
word and swapped once more.
-/

namespace Verbifrost.Mlx5Doorbells

open Verbifrost.ByteMemory Verbifrost.Mlx5Registers Verbifrost.ReferenceHeap Verbifrost.RingQueue
open Verbifrost.IbVerbs Verbifrost.Mlx5CmdExec Verbifrost.Mlx5Verbs Verbifrost.Mlx5QueuePair
open Verbifrost.Mlx5WorkQueues Verbifrost.Mlx5WqeLayout

set_option autoImplicit false

def ringOf (mqp : Mlx5IbQp) : Post → WorkRing
  | .send => mqp.sq
  | .recv => mqp.rq

/-- Word 0 for the send queue and word 1 for the receive queue. -/
def doorbellWord (mqp : Mlx5IbQp) : Post → BitVec 32
  | .send => loadBE mqp.dbRecord 0 32
  | .recv => loadBE mqp.dbRecord 4 32

/-- No other two points of a run show the same two words of this queue with
another number of posts between them, up to a full ring. -/
def DeterminesPosted (created : Mlx5IbQp) (kind : Post) (first between : List Post) : Prop :=
  ∀ otherFirst otherBetween : List Post,
    otherBetween.count kind ≤ (ringOf created kind).wqeCnt.toNat →
    doorbellWord (posted created otherFirst) kind = doorbellWord (posted created first) kind →
    doorbellWord (posted created (otherFirst ++ otherBetween)) kind =
      doorbellWord (posted created (first ++ between)) kind →
    otherBetween.count kind = between.count kind

/-- The QP after this many sends and receives, with its doorbell record. -/
structure DoorbellsAt (created mqp : Mlx5IbQp) (sends recvs : Nat) : Prop where
  position : PostedTo created mqp sends recvs
  send : (doorbellWord mqp .send).toNat = sends % 256 * 64
  recv : (doorbellWord mqp .recv).toNat = recvs % 256

theorem send_doorbell_nat {ring : WorkRing} {count : Nat}
    (position : RingAt ring mlx5SendWqeShift count) :
    (ring.head <<< ring.wqeShift).toNat = count % 256 * 64 := by
  have stride : 2 ^ mlx5SendWqeShift.toNat = 64 := by decide
  have offset := wqe_offset_of_head (Or.inl position.stride) (ring_at_bound position)
  rw [position.stride, stride, position.head] at offset
  exact offset

theorem recv_doorbell_nat {ring : WorkRing} {count : Nat}
    (position : RingAt ring mlx5RecvWqeShift count) :
    (ring.head &&& 0xFFFF).toNat = count % 256 := by
  have mask : (0xFFFF : BitVec 32).toNat = 2 ^ 16 - 1 := by decide
  have bound := ring_at_bound position
  rw [BitVec.toNat_and, mask, Nat.and_two_pow_sub_one_eq_mod, Nat.mod_eq_of_lt (by omega)]
  exact position.head

theorem post_doorbells {created mqp : Mlx5IbQp} {sends recvs : Nat}
    (now : DoorbellsAt created mqp sends recvs) (next : Post) :
    DoorbellsAt created (post mqp next) (sends + [next].count .send)
      (recvs + [next].count .recv) := by
  have position := post_posted_to now.position next
  cases next with
  | send =>
      have written : doorbellWord (post mqp .send) .send =
          (post mqp .send).sq.head <<< (post mqp .send).sq.wqeShift :=
        load_be_store_swap (by decide) _ _ _
      have kept : doorbellWord (post mqp .send) .recv = doorbellWord mqp .recv :=
        load_be_store_disjoint (by decide) _ _ _ _ (by decide)
      constructor
      · exact position
      · rw [written]
        exact send_doorbell_nat position.send
      · rw [kept]
        exact now.recv
  | recv =>
      have written : doorbellWord (post mqp .recv) .recv = (post mqp .recv).rq.head &&& 0xFFFF :=
        load_be_store_swap (by decide) _ _ _
      have kept : doorbellWord (post mqp .recv) .send = doorbellWord mqp .send :=
        load_be_store_disjoint (by decide) _ _ _ _ (by decide)
      constructor
      · exact position
      · rw [kept]
        exact now.send
      · rw [written]
        exact recv_doorbell_nat position.recv

theorem posts_doorbells {created mqp : Mlx5IbQp} {sends recvs : Nat}
    (start : DoorbellsAt created mqp sends recvs) (posts : List Post) :
    DoorbellsAt created (posted mqp posts) (sends + posts.count .send)
      (recvs + posts.count .recv) := by
  have preserved : ∀ mqp sends recvs next, DoorbellsAt created mqp sends recvs →
      DoorbellsAt created (post mqp next) (sends + [next].count .send)
        (recvs + [next].count .recv) := fun _ _ _ next now => post_doorbells now next
  exact posted_invariant preserved start posts

theorem created_doorbells {act : DeviceAct} {buffers : QpBuffers} {init : IbQpInitAttr}
    {qp : Mlx5IbQp} {queue : CmdQueue} {heap : Heap}
    (succeeded : (mlx5IbCreateQpFull act buffers init qp queue heap).ret = 0) :
    DoorbellsAt (mlx5IbCreateQpFull act buffers init qp queue heap).qp
      (mlx5IbCreateQpFull act buffers init qp queue heap).qp 0 0 := by
  have position := created_posted_to succeeded
  rcases create_qp_full_succeeded succeeded with ⟨sq, rq, db, _, same⟩
  have cleared : ∀ offset, offset + 4 ≤ 4096 →
      loadBE (copyIn db.bytes 0 zeroBytes 4096) offset 32 = loadBE zeroBytes offset 32 := by
    intro offset inside
    apply load_be_congr (by decide)
    intro index bound
    have copied := copy_in_inside db.bytes zeroBytes 0 4096 (offset + index) (by omega)
    rwa [Nat.zero_add] at copied
  constructor
  · exact position
  · rw [same]
    exact congrArg BitVec.toNat (cleared 0 (by decide))
  · rw [same]
    exact congrArg BitVec.toNat (cleared 4 (by decide))

theorem doorbell_word_eq_iff {created left right : Mlx5IbQp} {kind : Post}
    {leftPosts rightPosts : List Post}
    (leftAt : DoorbellsAt created left (leftPosts.count .send) (leftPosts.count .recv))
    (rightAt : DoorbellsAt created right (rightPosts.count .send) (rightPosts.count .recv)) :
    doorbellWord left kind = doorbellWord right kind ↔
      leftPosts.count kind % 256 = rightPosts.count kind % 256 := by
  rw [← BitVec.toNat_inj]
  cases kind with
  | send =>
      rw [leftAt.send, rightAt.send]
      exact Nat.mul_left_inj (by decide)
  | recv => rw [leftAt.recv, rightAt.recv]

/-- For every created QP, either queue and every run of posts. -/
theorem determines_posted_iff (act : DeviceAct) (buffers : QpBuffers) (init : IbQpInitAttr)
    (qp : Mlx5IbQp) (queue : CmdQueue) (heap : Heap)
    (succeeded : (mlx5IbCreateQpFull act buffers init qp queue heap).ret = 0) (kind : Post)
    (first between : List Post)
    (bound : between.count kind ≤
      (ringOf (mlx5IbCreateQpFull act buffers init qp queue heap).qp kind).wqeCnt.toNat) :
    DeterminesPosted (mlx5IbCreateQpFull act buffers init qp queue heap).qp kind first between ↔
      between.count kind ≠ 0 ∧ between.count kind ≠
        (ringOf (mlx5IbCreateQpFull act buffers init qp queue heap).qp kind).wqeCnt.toNat := by
  have start := created_doorbells succeeded
  generalize (mlx5IbCreateQpFull act buffers init qp queue heap).qp = created at start bound ⊢
  have capacity : (ringOf created kind).wqeCnt.toNat = 256 := by
    cases kind with
    | send => exact ring_at_capacity start.position.send
    | recv => exact ring_at_capacity start.position.recv
  have reached : ∀ posts : List Post,
      DoorbellsAt created (posted created posts) (posts.count .send) (posts.count .recv) := by
    intro posts
    have now := posts_doorbells start posts
    rwa [Nat.zero_add, Nat.zero_add] at now
  have same : ∀ left right : List Post,
      doorbellWord (posted created left) kind = doorbellWord (posted created right) kind ↔
        left.count kind % 256 = right.count kind % 256 :=
    fun left right => doorbell_word_eq_iff (reached left) (reached right)
  rw [capacity] at bound
  simp only [DeterminesPosted, capacity, same, List.count_append]
  rw [← slots_determine_distance_iff 256 (first.count kind) (between.count kind) bound (by decide)]
  constructor
  · intro determined otherFirst other
    -- the counts of a run of posts to this queue alone
    have counted := determined (List.replicate otherFirst kind) (List.replicate other kind)
    rwa [List.count_replicate_self, List.count_replicate_self] at counted
  · intro determined otherFirst otherBetween
    exact determined (otherFirst.count kind) (otherBetween.count kind)

theorem sends_of_half_ring_determined :
    sampleCreation.ret = 0 ∧
      DeterminesPosted sampleCreation.qp .send [.send, .recv] (List.replicate 128 .send) := by
  have count : (List.replicate 128 Post.send).count .send = 128 := List.count_replicate_self
  have size : (ringOf sampleCreation.qp .send).wqeCnt.toNat = 256 := rfl
  refine ⟨rfl, ?_⟩
  apply (determines_posted_iff _ _ _ _ _ _ rfl .send _ _ _).mpr
  · rw [count]
    decide
  · rw [count]
    exact Nat.le_of_ble_eq_true rfl

/-- After a full ring of sends the doorbell is what it was before the first one. -/
theorem full_ring_looks_empty :
    doorbellWord (posted sampleCreation.qp (List.replicate 256 .send)) .send =
        doorbellWord (posted sampleCreation.qp []) .send ∧
      ¬DeterminesPosted sampleCreation.qp .send [] (List.replicate 256 .send) := by
  have count : (List.replicate 256 Post.send).count .send = 256 := List.count_replicate_self
  have start : DoorbellsAt sampleCreation.qp sampleCreation.qp 0 0 := created_doorbells rfl
  have full := posts_doorbells start (List.replicate 256 .send)
  have same : doorbellWord (posted sampleCreation.qp (List.replicate 256 .send)) .send =
      doorbellWord (posted sampleCreation.qp []) .send := by
    apply BitVec.eq_of_toNat_eq
    rw [full.send, count]
    exact start.send.symm
  refine ⟨same, ?_⟩
  intro determined
  have none := determined [] [] (Nat.zero_le _) rfl same.symm
  rw [count] at none
  cases none

/-- The register, byte by byte, against the start of the WQE just written. -/
def BlueFlameMatches (mqp : Mlx5IbQp) : Prop :=
  ∀ register, (post mqp .send).uar = some register → ∀ index < 8,
    byteOf register index = (post mqp .send).sq.buf (wqeOffset mqp.sq + index)

theorem blue_flame_reversed {mqp : Mlx5IbQp} {register : BitVec 64}
    (stored : (post mqp .send).uar = some register) (index : Nat) (inside : index < 8) :
    byteOf register index = (post mqp .send).sq.buf (wqeOffset mqp.sq + (7 - index)) := by
  simp only [post, mlx5IbPostSendFull, Option.map_eq_some_iff] at stored
  rcases stored with ⟨_, _, rfl⟩
  exact load_be_byte _ _ (by omega)

theorem wqe_first_eighth (mqp : Mlx5IbQp) :
    (post mqp .send).sq.buf (wqeOffset mqp.sq) = 0x08 ∧
      (post mqp .send).sq.buf (wqeOffset mqp.sq + 7) = 0x02 := by
  have opcode : (0x08 : Byte).toNat = 8 := rfl
  have segments : (0x02 : Byte).toNat = 2 := rfl
  constructor
  · have byte : byteOf (loadBE (writeCtrlSeg mqp.qpn mqp.sq) (wqeOffset mqp.sq) 32) 3 =
        (post mqp .send).sq.buf (wqeOffset mqp.sq) := load_be_byte _ _ (by decide)
    have first := ctrl_seg_first mqp.qpn mqp.sq
    apply BitVec.eq_of_toNat_eq
    rw [← byte, byteOf, field_nat, first, opcode]
    omega
  · have byte : byteOf (loadBE (writeCtrlSeg mqp.qpn mqp.sq) (wqeOffset mqp.sq + 4) 32) 0 =
        (post mqp .send).sq.buf (wqeOffset mqp.sq + 7) := load_be_byte _ _ (by decide)
    have second := ctrl_seg_second mqp.qpn mqp.sq
    apply BitVec.eq_of_toNat_eq
    rw [← byte, byteOf, field_nat, second, segments]
    omega

theorem blue_flame_mismatch {mqp : Mlx5IbQp} {register : BitVec 64} (mapped : mqp.uar = some register) :
    ∃ stored, (post mqp .send).uar = some stored ∧ byteOf stored 0 = 0x02 ∧
      ¬BlueFlameMatches mqp := by
  have some : (post mqp .send).uar.isSome = true := by simp [post, mlx5IbPostSendFull, mapped]
  rcases Option.isSome_iff_exists.mp some with ⟨written, stored⟩
  rcases wqe_first_eighth mqp with ⟨opcode, segments⟩
  have reversed := (blue_flame_reversed stored 0 (by decide)).trans segments
  refine ⟨written, stored, reversed, ?_⟩
  intro same
  have first := same written stored 0 (by decide)
  rw [reversed, Nat.add_zero, opcode] at first
  exact absurd first (by decide)

/-- For every QP with a register mapped, every number, head, stride and content of the ring. -/
theorem blue_flame_never_matches (mqp : Mlx5IbQp) (register : BitVec 64) :
    ¬BlueFlameMatches { mqp with uar := some register } := by
  have mapped : { mqp with uar := some register : Mlx5IbQp }.uar = some register := rfl
  rcases blue_flame_mismatch mapped with ⟨_, _, _, mismatch⟩
  exact mismatch

def mappedQp : Mlx5IbQp := { sampleCreation.qp with uar := some 0 }

/-- The first send on a new QP: 02 in front at the register, 08 in front in the ring. -/
theorem first_send_blue_flame_reversed :
    (∃ stored, (post mappedQp .send).uar = some stored ∧ byteOf stored 0 = 0x02 ∧
        ¬BlueFlameMatches mappedQp) ∧
      (post mappedQp .send).sq.buf 0 = 0x08 := by
  have mapped : mappedQp.uar = some 0 := rfl
  exact ⟨blue_flame_mismatch mapped, (wqe_first_eighth mappedQp).1⟩

end Verbifrost.Mlx5Doorbells
