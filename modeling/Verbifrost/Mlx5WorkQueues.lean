import Mathlib.Algebra.Group.Nat.Defs
import Verbifrost.GuardedRun
import Verbifrost.Mlx5QueuePair
import Verbifrost.RingQueue

/-!
# Posting against a consuming device

Runs of the two posting functions on one QP, interleaved with a device that
takes the posted entries of each queue in order, at any pace. Beside the QP the
state records, for each queue, the slots of the entries the device has not
taken yet, oldest first: the driver keeps no such index.
-/

namespace Verbifrost.Mlx5WorkQueues

open Verbifrost.ByteMemory Verbifrost.Mlx5Registers Verbifrost.ReferenceHeap Verbifrost.GuardedRun
open Verbifrost.RingQueue
open Verbifrost.IbVerbs Verbifrost.Mlx5CmdExec Verbifrost.Mlx5Verbs Verbifrost.Mlx5QueuePair

set_option autoImplicit false

structure Posting where
  mqp : Mlx5IbQp
  sends : List Nat
  recvs : List Nat

inductive PostAction where
  | postSend
  | postRecv
  | takeSend
  | takeRecv

/-- The slots waiting after a post, which fills the slot at the head when it returns 0. -/
def waitingAfter (ret : Int) (ring : WorkRing) (waiting : List Nat) : List Nat :=
  if ret = 0 then waiting ++ [ring.head.toNat] else waiting

def step (posting : Posting) : PostAction → Option Posting
  | .postSend =>
      let (ret, mqp) := mlx5IbPostSendFull posting.mqp
      some { posting with mqp := mqp, sends := waitingAfter ret posting.mqp.sq posting.sends }
  | .postRecv =>
      let (ret, mqp) := mlx5IbPostRecvFull posting.mqp
      some { posting with mqp := mqp, recvs := waitingAfter ret posting.mqp.rq posting.recvs }
  | .takeSend =>
      match posting.sends with
      | [] => none
      | _ :: later => some { posting with sends := later }
  | .takeRecv =>
      match posting.recvs with
      | [] => none
      | _ :: later => some { posting with recvs := later }

def newPosting (mqp : Mlx5IbQp) : Posting where
  mqp := mqp
  sends := []
  recvs := []

/-- The 16 bytes a post stores at the head include a byte of the slot. -/
def Overwrites (ring : WorkRing) (slot : Nat) : Prop :=
  ∃ index, wqeOffset ring ≤ index ∧ index < wqeOffset ring + 16 ∧
    slot * 2 ^ ring.wqeShift.toNat ≤ index ∧ index < (slot + 1) * 2 ^ ring.wqeShift.toNat

/-- What is asked of one post: it overwrites no waiting entry when it returns 0,
and on a full ring it fails and changes nothing. -/
def SparesWaiting (post : Int × Mlx5IbQp) (mqp : Mlx5IbQp) (ring : WorkRing)
    (waiting : List Nat) : Prop :=
  (post.1 = 0 → ∀ slot ∈ waiting, ¬Overwrites ring slot) ∧
    (waiting.length = ring.wqeCnt.toNat → post.1 ≠ 0 ∧ post.2 = mqp)

def KeepsWaiting (posting : Posting) : PostAction → Prop
  | .postSend => SparesWaiting (mlx5IbPostSendFull posting.mqp) posting.mqp posting.mqp.sq posting.sends
  | .postRecv => SparesWaiting (mlx5IbPostRecvFull posting.mqp) posting.mqp posting.mqp.rq posting.recvs
  | _ => True

/-- A post is made while the ring has a slot the device has taken. -/
def RoomLeft (posting : Posting) : PostAction → Prop
  | .postSend => posting.sends.length < posting.mqp.sq.wqeCnt.toNat
  | .postRecv => posting.recvs.length < posting.mqp.rq.wqeCnt.toNat
  | _ => True

theorem post_send_outside (mqp : Mlx5IbQp) (index : Nat)
    (outside : index < wqeOffset mqp.sq ∨ wqeOffset mqp.sq + 16 ≤ index) :
    (mlx5IbPostSendFull mqp).2.sq.buf index = mqp.sq.buf index := by
  simp only [mlx5IbPostSendFull, writeCtrlSeg]
  rw [store_outside _ _ _ _ (by omega), store_outside _ _ _ _ (by omega),
    store_outside _ _ _ _ (by omega), store_outside _ _ _ _ (by omega)]

theorem post_recv_outside (mqp : Mlx5IbQp) (index : Nat)
    (outside : index < wqeOffset mqp.rq ∨ wqeOffset mqp.rq + 16 ≤ index) :
    (mlx5IbPostRecvFull mqp).2.rq.buf index = mqp.rq.buf index := by
  simp only [mlx5IbPostRecvFull, writeDataSeg]
  rw [store_outside _ _ _ _ (by omega), store_outside _ _ _ _ (by omega),
    store_outside _ _ _ _ (by omega)]

/-- The byte of the ring that a post leaves at an index whatever was there before. -/
def Stores (post : Bytes → Bytes) (index : Nat) : Prop :=
  ∀ left right, post left index = post right index

/-- A post that stores 16 bytes at the head in some order stores each of them. -/
theorem stores_iff {post : Bytes → Bytes} {start : Nat}
    (within : ∀ left right index, start ≤ index → index < start + 16 →
      post left index = post right index)
    (outside : ∀ buf index, index < start ∨ start + 16 ≤ index → post buf index = buf index)
    (index : Nat) : Stores post index ↔ start ≤ index ∧ index < start + 16 := by
  constructor
  · intro stored
    by_contra missed
    have elsewhere : index < start ∨ start + 16 ≤ index := by omega
    have same := stored (fun _ => 0) (fun _ => 1)
    rw [outside _ index elsewhere, outside _ index elsewhere] at same
    exact absurd same (by decide)
  · intro bounds left right
    exact within left right index bounds.1 bounds.2

def sendRing (mqp : Mlx5IbQp) (buf : Bytes) : Bytes :=
  (mlx5IbPostSendFull { mqp with sq := { mqp.sq with buf := buf } }).2.sq.buf

def recvRing (mqp : Mlx5IbQp) (buf : Bytes) : Bytes :=
  (mlx5IbPostRecvFull { mqp with rq := { mqp.rq with buf := buf } }).2.rq.buf

theorem post_send_stores_iff (mqp : Mlx5IbQp) (index : Nat) :
    Stores (sendRing mqp) index ↔ wqeOffset mqp.sq ≤ index ∧ index < wqeOffset mqp.sq + 16 := by
  apply stores_iff
  · intro left right index low high
    simp only [sendRing, mlx5IbPostSendFull, writeCtrlSeg, store, copyIn, wqeOffset] at low high ⊢
    split_ifs <;> first | rfl | omega
  · intro buf index outside
    exact post_send_outside { mqp with sq := { mqp.sq with buf := buf } } index outside

theorem post_recv_stores_iff (mqp : Mlx5IbQp) (index : Nat) :
    Stores (recvRing mqp) index ↔ wqeOffset mqp.rq ≤ index ∧ index < wqeOffset mqp.rq + 16 := by
  apply stores_iff
  · intro left right index low high
    simp only [recvRing, mlx5IbPostRecvFull, writeDataSeg, store, copyIn, wqeOffset] at low high ⊢
    split_ifs <;> first | rfl | omega
  · intro buf index outside
    exact post_recv_outside { mqp with rq := { mqp.rq with buf := buf } } index outside

/-- A slot is overwritten exactly when the post stores a byte of it. -/
theorem overwrites_iff_stores (mqp : Mlx5IbQp) (slot : Nat) :
    (Overwrites mqp.sq slot ↔ ∃ index, Stores (sendRing mqp) index ∧
        slot * 2 ^ mqp.sq.wqeShift.toNat ≤ index ∧
          index < (slot + 1) * 2 ^ mqp.sq.wqeShift.toNat) ∧
      (Overwrites mqp.rq slot ↔ ∃ index, Stores (recvRing mqp) index ∧
        slot * 2 ^ mqp.rq.wqeShift.toNat ≤ index ∧
          index < (slot + 1) * 2 ^ mqp.rq.wqeShift.toNat) := by
  constructor
  · simp only [Overwrites, post_send_stores_iff, and_assoc]
  · simp only [Overwrites, post_recv_stores_iff, and_assoc]

/-- A ring of the default size whose waiting slots are those right behind its head. -/
structure RingTracks (ring : WorkRing) (waiting : List Nat) : Prop where
  size : ring.wqeCnt = defaultWqeCnt
  stride : ring.wqeShift = mlx5SendWqeShift ∨ ring.wqeShift = mlx5RecvWqeShift
  slots : ∃ first count, count ≤ 256 ∧ waiting = ringSlots 256 first count ∧
    ring.head.toNat = (first + count) % 256

theorem next_head_nat {ring : WorkRing} (size : ring.wqeCnt = defaultWqeCnt)
    (bound : ring.head.toNat < 256) : (nextHead ring).toNat = (ring.head.toNat + 1) % 256 := by
  have mask : (defaultWqeCnt - 1).toNat = 2 ^ 8 - 1 := by decide
  have sum : (ring.head + 1).toNat = ring.head.toNat + 1 := by
    rw [BitVec.toNat_add]
    exact Nat.mod_eq_of_lt (show ring.head.toNat + 1 < 2 ^ 32 by omega)
  rw [nextHead, size, BitVec.toNat_and, mask, Nat.and_two_pow_sub_one_eq_mod, sum]

theorem ring_tracks_head {ring : WorkRing} {waiting : List Nat} (tracks : RingTracks ring waiting) :
    ring.head.toNat < 256 := by
  rcases tracks.slots with ⟨first, count, _, _, head⟩
  rw [head]
  exact Nat.mod_lt _ (by decide)

theorem wqe_offset_of_head {ring : WorkRing}
    (stride : ring.wqeShift = mlx5SendWqeShift ∨ ring.wqeShift = mlx5RecvWqeShift)
    (bound : ring.head.toNat < 256) :
    wqeOffset ring = ring.head.toNat * 2 ^ ring.wqeShift.toNat := by
  rw [wqeOffset, BitVec.shiftLeft_eq', BitVec.toNat_shiftLeft, Nat.shiftLeft_eq]
  apply Nat.mod_eq_of_lt
  rcases stride with send | recv
  · have shift : 2 ^ mlx5SendWqeShift.toNat = 64 := by decide
    rw [send, shift]
    omega
  · have shift : 2 ^ mlx5RecvWqeShift.toNat = 16 := by decide
    rw [recv, shift]
    omega

theorem wqe_offset_nat {ring : WorkRing} {waiting : List Nat} (tracks : RingTracks ring waiting) :
    wqeOffset ring = ring.head.toNat * 2 ^ ring.wqeShift.toNat :=
  wqe_offset_of_head tracks.stride (ring_tracks_head tracks)

theorem overwrites_iff {ring : WorkRing} {waiting : List Nat} (tracks : RingTracks ring waiting)
    (slot : Nat) : Overwrites ring slot ↔ slot = ring.head.toNat := by
  have wide : 16 ≤ 2 ^ ring.wqeShift.toNat := by
    rcases tracks.stride with send | recv
    · rw [send]
      decide
    · rw [recv]
      decide
  unfold Overwrites
  rw [wqe_offset_nat tracks]
  constructor
  · rintro ⟨index, low, high, slotLow, slotHigh⟩
    have below : slot < ring.head.toNat + 1 := by
      apply Nat.lt_of_mul_lt_mul_right (a := 2 ^ ring.wqeShift.toNat)
      rw [Nat.succ_mul]
      omega
    have above : ring.head.toNat < slot + 1 := by
      apply Nat.lt_of_mul_lt_mul_right (a := 2 ^ ring.wqeShift.toNat)
      omega
    omega
  · rintro rfl
    refine ⟨ring.head.toNat * 2 ^ ring.wqeShift.toNat, Nat.le_refl _, by omega, Nat.le_refl _, ?_⟩
    rw [Nat.succ_mul]
    omega

theorem ring_tracks_post {ring : WorkRing} {waiting : List Nat} (tracks : RingTracks ring waiting)
    (room : waiting.length < 256) (buf : Bytes) :
    RingTracks { ring with buf := buf, head := nextHead ring } (waiting ++ [ring.head.toNat]) := by
  have bound := ring_tracks_head tracks
  rcases tracks with ⟨size, stride, first, count, _, rfl, head⟩
  rw [ring_slots_length] at room
  refine ⟨size, stride, first, count + 1, by omega, ?_, ?_⟩
  · rw [head, ring_slots_push]
  · rw [next_head_nat size bound, head]
    omega

theorem ring_tracks_take {ring : WorkRing} {slot : Nat} {later : List Nat}
    (tracks : RingTracks ring (slot :: later)) : RingTracks ring later := by
  rcases tracks with ⟨size, stride, first, count, small, listed, head⟩
  cases count with
  | zero => cases listed
  | succ count =>
      rw [ring_slots_pop] at listed
      refine ⟨size, stride, first + 1, count, by omega, (List.cons.inj listed).2, ?_⟩
      rw [head, Nat.add_assoc, Nat.add_comm 1 count]

theorem spares_waiting_iff {ring : WorkRing} {waiting : List Nat} (tracks : RingTracks ring waiting)
    (post : Int × Mlx5IbQp) (mqp : Mlx5IbQp) (posted : post.1 = 0) :
    SparesWaiting post mqp ring waiting ↔ waiting.length < ring.wqeCnt.toNat := by
  have capacity : ring.wqeCnt.toNat = 256 := by
    rw [tracks.size]
    rfl
  have touched := overwrites_iff tracks
  rcases tracks.slots with ⟨first, count, small, rfl, head⟩
  rw [capacity, ring_slots_length]
  constructor
  · rintro ⟨spares, _⟩
    by_contra full
    have taken := next_slot_taken 256 first count (by omega) (by decide)
    rw [← head] at taken
    exact spares posted _ taken ((touched _).mpr rfl)
  · intro room
    have free := next_slot_free 256 first count room
    rw [← head] at free
    constructor
    · intro _ slot member overwritten
      rw [(touched slot).mp overwritten] at member
      exact free member
    · intro full
      rw [ring_slots_length, capacity] at full
      omega

structure Tracks (posting : Posting) : Prop where
  send : RingTracks posting.mqp.sq posting.sends
  recv : RingTracks posting.mqp.rq posting.recvs

theorem keeps_waiting_iff (posting : Posting) (action : PostAction) (tracks : Tracks posting) :
    KeepsWaiting posting action ↔ RoomLeft posting action := by
  cases action with
  | postSend => exact spares_waiting_iff tracks.send _ _ rfl
  | postRecv => exact spares_waiting_iff tracks.recv _ _ rfl
  | takeSend => exact Iff.rfl
  | takeRecv => exact Iff.rfl

theorem step_tracks (posting : Posting) (action : PostAction) (next : Posting)
    (tracks : Tracks posting) (room : RoomLeft posting action)
    (stepped : step posting action = some next) : Tracks next := by
  cases action with
  | postSend =>
      have small : posting.sends.length < 256 := by
        rw [RoomLeft, tracks.send.size] at room
        exact room
      cases stepped
      exact ⟨ring_tracks_post tracks.send small _, tracks.recv⟩
  | postRecv =>
      have small : posting.recvs.length < 256 := by
        rw [RoomLeft, tracks.recv.size] at room
        exact room
      cases stepped
      exact ⟨tracks.send, ring_tracks_post tracks.recv small _⟩
  | takeSend =>
      cases waiting : posting.sends with
      | nil => simp [step, waiting] at stepped
      | cons slot later =>
          simp only [step, waiting, Option.some.injEq] at stepped
          subst stepped
          have send := tracks.send
          rw [waiting] at send
          exact ⟨ring_tracks_take send, tracks.recv⟩
  | takeRecv =>
      cases waiting : posting.recvs with
      | nil => simp [step, waiting] at stepped
      | cons slot later =>
          simp only [step, waiting, Option.some.injEq] at stepped
          subst stepped
          have recv := tracks.recv
          rw [waiting] at recv
          exact ⟨tracks.send, ring_tracks_take recv⟩

theorem created_tracks {act : DeviceAct} {buffers : QpBuffers} {init : IbQpInitAttr} {qp : Mlx5IbQp}
    {queue : CmdQueue} {heap : Heap}
    (created : (mlx5IbCreateQpFull act buffers init qp queue heap).ret = 0) :
    Tracks (newPosting (mlx5IbCreateQpFull act buffers init qp queue heap).qp) := by
  rcases create_qp_full_succeeded created with ⟨sq, rq, db, _, same⟩
  rw [same]
  exact ⟨⟨rfl, Or.inl rfl, 0, 0, by decide, rfl, rfl⟩, ⟨rfl, Or.inr rfl, 0, 0, by decide, rfl, rfl⟩⟩

/-- For every created QP and every interleaving of posts and consumption. -/
theorem posts_keep_waiting_iff (act : DeviceAct) (buffers : QpBuffers) (init : IbQpInitAttr)
    (qp : Mlx5IbQp) (queue : CmdQueue) (heap : Heap)
    (created : (mlx5IbCreateQpFull act buffers init qp queue heap).ret = 0)
    (actions : List PostAction) :
    Meets step KeepsWaiting (newPosting (mlx5IbCreateQpFull act buffers init qp queue heap).qp)
        actions ↔
      Meets step RoomLeft (newPosting (mlx5IbCreateQpFull act buffers init qp queue heap).qp)
        actions :=
  meets_iff_meets keeps_waiting_iff step_tracks actions (created_tracks created)

def sampleCreation : QpResult :=
  mlx5IbCreateQpFull (answerAt 0 0#8 zeroBytes) sampleBuffers ⟨none, none, .rc⟩ zeroQp
    blankQueue emptyHeap

theorem few_posts_keep_waiting :
    sampleCreation.ret = 0 ∧
      Meets step KeepsWaiting (newPosting sampleCreation.qp)
        [.postSend, .postRecv, .postSend, .takeSend] := by
  refine ⟨rfl, ?_⟩
  apply (posts_keep_waiting_iff _ _ _ _ _ _ rfl _).mpr
  refine meets_cons rfl ?_ (meets_cons rfl ?_ (meets_cons rfl ?_ (meets_cons rfl trivial trivial)))
  all_goals exact Nat.le_of_ble_eq_true rfl

def sent (posting : Posting) : Posting :=
  { posting with
    mqp := (mlx5IbPostSendFull posting.mqp).2
    sends := posting.sends ++ [posting.mqp.sq.head.toNat] }

theorem sends_fill (posting : Posting) (count : Nat) (capacity : posting.mqp.sq.wqeCnt.toNat = 256)
    (room : posting.sends.length + count ≤ 256) :
    Meets step RoomLeft posting (List.replicate count .postSend) ∧
      ∃ final, run step posting (List.replicate count .postSend) = some final ∧
        final.sends.length = posting.sends.length + count := by
  induction count generalizing posting with
  | zero => exact ⟨trivial, posting, rfl, rfl⟩
  | succ count induction =>
      have longer : (sent posting).sends.length = posting.sends.length + 1 := by simp [sent]
      rcases induction (sent posting) capacity (by omega) with ⟨met, final, ran, length⟩
      have roomNow : RoomLeft posting .postSend := by
        rw [RoomLeft, capacity]
        omega
      exact ⟨meets_cons rfl roomNow met, final, ran, by omega⟩

/-- The 257th send in a row returns 0 and overwrites an entry the device has not taken. -/
theorem send_on_full_ring_overwrites :
    ∃ full, run step (newPosting sampleCreation.qp) (List.replicate 256 .postSend) = some full ∧
      full.sends.length = 256 ∧ (mlx5IbPostSendFull full.mqp).1 = 0 ∧
      ¬KeepsWaiting full .postSend ∧
      ¬Meets step KeepsWaiting (newPosting sampleCreation.qp)
        (List.replicate 256 .postSend ++ [.postSend]) := by
  rcases sends_fill (newPosting sampleCreation.qp) 256 rfl (Nat.le_refl _) with
    ⟨room, full, ran, length⟩
  have tracks : Tracks full := run_invariant step_tracks (created_tracks rfl) room ran
  have fullLength : full.sends.length = 256 := length
  have overwritten : ¬KeepsWaiting full .postSend := by
    intro keeps
    have free := (keeps_waiting_iff full .postSend tracks).mp keeps
    rw [RoomLeft, fullLength, tracks.send.size] at free
    exact absurd free (by decide)
  refine ⟨full, ran, fullLength, rfl, overwritten, ?_⟩
  intro met
  exact overwritten (meets_suffix ran met).1

end Verbifrost.Mlx5WorkQueues
