import Mathlib.Algebra.Group.Int.Defs
import Mathlib.Algebra.Group.Nat.Defs
import Verbifrost.Mlx5Verbs

/-!
# The size of a completion queue

`mlx5_ib_create_cq` computes two sizes from one count. The allocator gets
`cqe_count * 64` in 32 bits, the device gets a logarithm that a shifting loop
takes of the count itself and rounds down. The two agree only where the product
does not wrap and the count is a power of two.
-/

namespace Verbifrost.Mlx5CqGeometry

open Verbifrost.ByteMemory Verbifrost.Mlx5Registers
open Verbifrost.IbVerbs Verbifrost.Mlx5CmdExec Verbifrost.Mlx5Verbs

set_option autoImplicit false

/-- The loop adds the integer logarithm to its counter, given fuel for every shift. -/
theorem log_loop_log2 (fuel : Nat) (tmp log : BitVec 32) (enough : tmp.toNat < 2 ^ fuel)
    (room : log.toNat + fuel < 2 ^ 32) :
    (logLoop fuel tmp log).toNat = log.toNat + tmp.toNat.log2 := by
  induction fuel generalizing tmp log with
  | zero =>
      have zero : tmp.toNat = 0 := by omega
      rw [zero, Nat.log2_zero]
      rfl
  | succ fuel induction =>
      have one : (1 : BitVec 32).toNat = 1 := rfl
      rw [logLoop, Nat.log2_def]
      by_cases more : 1 < tmp
      · have large : 2 ≤ tmp.toNat := BitVec.lt_def.mp more
        have half : (tmp >>> 1).toNat = tmp.toNat / 2 := by
          rw [BitVec.toNat_ushiftRight, Nat.shiftRight_eq_div_pow, Nat.pow_one]
        have counted : (log + 1).toNat = log.toNat + 1 := by
          rw [BitVec.toNat_add, one]
          exact Nat.mod_eq_of_lt (by omega)
        have shifted := induction (tmp >>> 1) (log + 1)
          (by rw [half]; omega) (by rw [counted]; omega)
        rw [if_pos more, if_pos large, shifted, half, counted]
        omega
      · have small : ¬2 ≤ tmp.toNat := by
          rw [BitVec.lt_def, one] at more
          omega
        rw [if_neg more, if_neg small, Nat.add_zero]

theorem log_count_log2 (count : BitVec 32) : (logCount count).toNat = count.toNat.log2 := by
  have zero : (0 : BitVec 32).toNat = 0 := rfl
  rw [logCount, log_loop_log2 32 count 0 count.isLt (by decide), zero, Nat.zero_add]

theorem cqe_count_requested {cq : IbCq} (positive : 0 < cq.cqe.toInt) : cqeCount cq = cq.cqe := by
  have above : (0#32).slt cq.cqe = true := decide_eq_true positive
  rw [cqeCount, if_pos above]

theorem cqe_count_default {cq : IbCq} (missing : ¬0 < cq.cqe.toInt) : cqeCount cq = 64 := by
  have above : ¬(0#32).slt cq.cqe = true := by
    intro greater
    exact missing (of_decide_eq_true greater)
  rw [cqeCount, if_neg above]

theorem cqe_count_bounds (cq : IbCq) : 0 < (cqeCount cq).toNat ∧ (cqeCount cq).toNat < 2 ^ 31 := by
  have width := cq.cqe.isLt
  by_cases positive : 0 < cq.cqe.toInt
  · rw [cqe_count_requested positive]
    rw [BitVec.toInt_eq_toNat_cond] at positive
    split_ifs at positive <;> omega
  · rw [cqe_count_default positive]
    decide

theorem cqe_count_small_iff (cq : IbCq) :
    (cqeCount cq).toNat < 2 ^ 26 ↔ cq.cqe.toInt < 2 ^ 26 := by
  have width := cq.cqe.isLt
  by_cases positive : 0 < cq.cqe.toInt
  · rw [cqe_count_requested positive]
    rw [BitVec.toInt_eq_toNat_cond] at positive ⊢
    split_ifs at positive ⊢ <;> omega
  · have default : (64 : BitVec 32).toNat = 64 := rfl
    rw [cqe_count_default positive, default]
    omega

theorem cq_ring_size_nat (cq : IbCq) :
    (cqRingSize cq).toNat = (cqeCount cq).toNat * 64 % 2 ^ 32 := by
  have size : (64 : BitVec 32).toNat = 64 := rfl
  rw [cqRingSize, BitVec.toNat_mul, size]

/-- `log_cq_size` as the device finds it in the mailbox of CREATE_CQ. -/
def requestedLogSize (cq : IbCq) (ring : DmaBuffer) (queue : CmdQueue) : Nat :=
  (inMbox 0#32 (submitted (createCqCall cq ring.physicalAddress) queue).mem (16 + 0x0C)).toNat

theorem requested_log_size_eq (cq : IbCq) (ring : DmaBuffer) (queue : CmdQueue) :
    requestedLogSize cq ring queue = (cqeCount cq).toNat.log2 := by
  have copied : 0x0C < (inCopyLen (createCqCall cq ring.physicalAddress)).toNat :=
    Nat.le_of_ble_eq_true rfl
  have written : createCqInput cq ring.physicalAddress 0x0C =
      (logCount (cqeCount cq)).setWidth 8 := by
    unfold createCqInput
    rw [store_outside _ _ _ _ (by left; decide), store_outside _ _ _ _ (by left; decide)]
    exact store_byte _ _ _
  have small : (cqeCount cq).toNat.log2 < 32 :=
    (Nat.log2_lt (Nat.ne_of_gt (cqe_count_bounds cq).1)).mpr (cqeCount cq).isLt
  rw [requestedLogSize, submitted_data_byte _ queue _ rfl _ copied, written, BitVec.toNat_setWidth,
    log_count_log2]
  exact Nat.mod_eq_of_lt (by omega)

/-- What the device is told fits what was allocated, if the allocation went well
and the command is sent at all. -/
def RingFits (buffer : Option DmaBuffer) (cq : IbCq) (queue : CmdQueue) : Prop :=
  ∀ ring, buffer = some ring → 2 ^ requestedLogSize cq ring queue * 64 ≤ (cqRingSize cq).toNat

theorem large_ring_exceeds {count size : Nat} (large : 2 ^ 26 ≤ count) (bound : size < 2 ^ 32) :
    size < 2 ^ count.log2 * 64 := by
  have positive : count ≠ 0 := by omega
  have exponent := (Nat.le_log2 positive).mpr large
  have power := Nat.pow_le_pow_right (show 0 < 2 by decide) exponent
  omega

/-- For every `int` in `cqe` and every outcome of the allocation. -/
theorem ring_fits_iff (buffer : Option DmaBuffer) (cq : IbCq) (queue : CmdQueue) :
    RingFits buffer cq queue ↔ buffer = none ∨ cq.cqe.toInt < 2 ^ 26 := by
  have positive := (cqe_count_bounds cq).1
  rw [← cqe_count_small_iff]
  constructor
  · intro fits
    cases allocated : buffer with
    | none => exact Or.inl rfl
    | some ring =>
        right
        by_contra large
        have told := fits ring allocated
        rw [requested_log_size_eq] at told
        have exceeds := large_ring_exceeds (Nat.not_lt.mp large) (cqRingSize cq).isLt
        omega
  · intro condition ring allocated
    rcases condition with missing | small
    · rw [missing] at allocated
      cases allocated
    · have floor := Nat.log2_self_le (Nat.ne_of_gt positive)
      rw [requested_log_size_eq, cq_ring_size_nat, Nat.mod_eq_of_lt (by omega)]
      exact Nat.mul_le_mul_right 64 floor

def sampleCq (cqe : BitVec 32) : IbCq where
  device := 0x8000
  uobject := 0
  compHandler := 0
  eventHandler := 0
  cqContext := 0
  cqe := cqe

/-- One entry more than 64 M: 64 bytes are allocated, the device is told of 4 GB. -/
theorem wrapped_ring_exceeds :
    (cqRingSize (sampleCq 0x4000001)).toNat = 64 ∧
      requestedLogSize (sampleCq 0x4000001) ⟨zeroBytes, 0x30000⟩ blankQueue = 26 ∧
      ¬RingFits (some ⟨zeroBytes, 0x30000⟩) (sampleCq 0x4000001) blankQueue := by
  refine ⟨rfl, ?_, ?_⟩
  · rw [requested_log_size_eq]
    decide
  · intro fits
    rcases (ring_fits_iff _ _ _).mp fits with missing | small
    · cases missing
    · exact absurd small (by decide)

/-- From 1 to 32 M entries: rounding down keeps powers of two only. -/
theorem holds_requested_iff (cq : IbCq) (ring : DmaBuffer) (queue : CmdQueue)
    (low : 1 ≤ cq.cqe.toNat) (high : cq.cqe.toNat ≤ 2 ^ 25) :
    cq.cqe.toNat ≤ 2 ^ requestedLogSize cq ring queue ↔ ∃ exponent, cq.cqe.toNat = 2 ^ exponent := by
  have positive : 0 < cq.cqe.toInt := by
    rw [BitVec.toInt_eq_toNat_cond]
    split_ifs <;> omega
  have floor := Nat.log2_self_le (Nat.ne_of_gt low)
  rw [requested_log_size_eq, cqe_count_requested positive]
  constructor
  · intro holds
    exact ⟨_, Nat.le_antisymm holds floor⟩
  · intro powerOfTwo
    rcases powerOfTwo with ⟨exponent, power⟩
    rw [power, Nat.log2_two_pow]

theorem queue_of_64_holds_request :
    (sampleCq 64).cqe.toNat ≤ 2 ^ requestedLogSize (sampleCq 64) ⟨zeroBytes, 0x30000⟩ blankQueue :=
  (holds_requested_iff _ _ _ (by decide) (by decide)).mpr ⟨6, by decide⟩

/-- A queue asked to hold 100 entries is created with 64. -/
theorem queue_of_100_too_small :
    2 ^ requestedLogSize (sampleCq 100) ⟨zeroBytes, 0x30000⟩ blankQueue = 64 ∧
      ¬(sampleCq 100).cqe.toNat ≤
        2 ^ requestedLogSize (sampleCq 100) ⟨zeroBytes, 0x30000⟩ blankQueue := by
  have told : requestedLogSize (sampleCq 100) ⟨zeroBytes, 0x30000⟩ blankQueue = 6 := by
    rw [requested_log_size_eq]
    decide
  rw [told]
  decide

end Verbifrost.Mlx5CqGeometry
