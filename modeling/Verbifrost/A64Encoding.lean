import Mathlib.Algebra.Group.Int.Defs
import Mathlib.Algebra.Group.Nat.Defs
import Mathlib.Data.Int.Bitwise

/-!
# Branch and page-address instructions of A64

The words of `BL`, `B` and `ADRP` as concatenations of their fields, the value
each of them computes in 64 bits, and how a decoder that works with masks and
unbounded integers finds the fields again: a mask test on a fixed field, and
the signed value of a field by subtraction.
-/

namespace Verbifrost.A64Encoding

set_option autoImplicit false

def encodeBl (imm26 : BitVec 26) : BitVec 32 := 0b100101#6 ++ imm26

def encodeB (imm26 : BitVec 26) : BitVec 32 := 0b000101#6 ++ imm26

/-- The low two bits of the page displacement stand before the opcode, the others behind it. -/
def encodeAdrp (rd : BitVec 5) (imm21 : BitVec 21) : BitVec 32 :=
  1#1 ++ imm21.extractLsb' 0 2 ++ 0b10000#5 ++ imm21.extractLsb' 2 19 ++ rd

def branchTarget (pc : BitVec 64) (imm26 : BitVec 26) : BitVec 64 :=
  pc + (imm26 ++ 0#2).signExtend 64

/-- A displacement counts pages, from the page of the instruction. -/
def pageTarget (pc : BitVec 64) (imm21 : BitVec 21) : BitVec 64 :=
  BitVec.ofNat 64 (pc.toNat / 4096 * 4096) + (imm21 ++ 0#12).signExtend 64

theorem branch_target_int (pc : Nat) (imm26 : BitVec 26) :
    branchTarget (BitVec.ofNat 64 pc) imm26 = BitVec.ofInt 64 (pc + 4 * imm26.toInt) := by
  rw [branchTarget, BitVec.signExtend, BitVec.toInt_append_zero, BitVec.ofInt_add,
    BitVec.ofInt_natCast]
  rfl

theorem page_target_int (pc : Nat) (imm21 : BitVec 21) :
    pageTarget (BitVec.ofNat 64 pc) imm21 =
      BitVec.ofInt 64 ((pc / 4096 * 4096 : Nat) + 4096 * imm21.toInt) := by
  have page : BitVec.ofNat 64 (pc % 2 ^ 64 / 4096 * 4096) = BitVec.ofNat 64 (pc / 4096 * 4096) := by
    apply BitVec.eq_of_toNat_eq
    rw [BitVec.toNat_ofNat, BitVec.toNat_ofNat]
    omega
  rw [pageTarget, BitVec.signExtend, BitVec.toInt_append_zero, BitVec.ofInt_add,
    BitVec.ofInt_natCast, BitVec.toNat_ofNat, page]
  rfl

section Fields

variable {high low : Nat}

theorem word_split (word : BitVec (high + low)) :
    ∃ (left : BitVec high) (right : BitVec low), word = left ++ right :=
  ⟨_, _, BitVec.extractLsb'_append_extractLsb'.symm⟩

theorem append_eq_append_iff (left field : BitVec high) (right rest : BitVec low) :
    left ++ right = field ++ rest ↔ left = field ∧ right = rest := by
  constructor
  · intro same
    have leading := congrArg (BitVec.extractLsb' low high) same
    have trailing := congrArg (BitVec.extractLsb' 0 low) same
    rw [BitVec.extractLsb'_append_eq_left, BitVec.extractLsb'_append_eq_left] at leading
    rw [BitVec.extractLsb'_append_eq_right, BitVec.extractLsb'_append_eq_right] at trailing
    exact ⟨leading, trailing⟩
  · intro same
    rw [same.1, same.2]

theorem append_nat (left : BitVec high) (right : BitVec low) :
    (left ++ right).toNat = left.toNat * 2 ^ low + right.toNat := by
  rw [BitVec.toNat_append, ← Nat.shiftLeft_add_eq_or_of_lt right.isLt, Nat.shiftLeft_eq]

theorem leading_field_iff (word : BitVec (high + low)) (field : BitVec high) :
    word &&& (BitVec.allOnes high ++ 0#(low)) = field ++ 0#(low) ↔
      ∃ rest : BitVec low, word = field ++ rest := by
  rcases word_split word with ⟨left, right, rfl⟩
  rw [BitVec.and_append, BitVec.and_allOnes, BitVec.and_zero, BitVec.append_left_inj]
  constructor
  · intro same
    exact ⟨right, by rw [same]⟩
  · intro shape
    rcases shape with ⟨rest, same⟩
    exact ((append_eq_append_iff left field right rest).mp same).1

theorem gapped_fields_iff {gap next : Nat} (word : BitVec (high + gap + next + low))
    (field : BitVec high) (other : BitVec next) :
    word &&& (BitVec.allOnes high ++ 0#(gap) ++ BitVec.allOnes next ++ 0#(low)) =
        field ++ 0#(gap) ++ other ++ 0#(low) ↔
      ∃ (between : BitVec gap) (rest : BitVec low), word = field ++ between ++ other ++ rest := by
  rcases word_split word with ⟨leading, rest, rfl⟩
  rcases word_split leading with ⟨front, second, rfl⟩
  rcases word_split front with ⟨first, between, rfl⟩
  simp only [BitVec.and_append, BitVec.and_allOnes, BitVec.and_zero, append_eq_append_iff, and_true]
  constructor
  · intro same
    exact ⟨between, rest, ⟨⟨same.1, rfl⟩, same.2⟩, rfl⟩
  · intro shape
    rcases shape with ⟨_, _, ⟨⟨first_same, _⟩, second_same⟩, _⟩
    exact ⟨first_same, second_same⟩

theorem trailing_field (field : BitVec high) (rest : BitVec low) :
    (field ++ rest) &&& (0#(high) ++ BitVec.allOnes low) = 0#(high) ++ rest := by
  rw [BitVec.and_append, BitVec.and_allOnes, BitVec.and_zero]

/-- Where the mask has a one, the tested value fixes the bit. -/
theorem masked_bit {width : Nat} {word mask value : BitVec width} (tested : word &&& mask = value)
    (index : Nat) (selected : mask.getLsbD index = true) :
    word.getLsbD index = value.getLsbD index := by
  rw [← tested, BitVec.getLsbD_and, selected, Bool.and_true]

end Fields

theorem signed_field (pad width : Nat) (field : BitVec (width + 1)) :
    (if (0#(pad) ++ field) &&& BitVec.twoPow (pad + (width + 1)) width ≠ 0#(pad + (width + 1)) then
        ((0#(pad) ++ field).toNat : Int) - 2 ^ (width + 1)
      else (0#(pad) ++ field).toNat) = field.toInt := by
  have value : (0#(pad) ++ field).toNat = field.toNat := by
    rw [BitVec.toNat_append, BitVec.toNat_ofNat, Nat.zero_mod, Nat.zero_shiftLeft, Nat.zero_or]
  have sign : (0#(pad) ++ field).getLsbD width = field.msb := by
    rw [BitVec.getLsbD_append, if_pos (Nat.lt_succ_self width), BitVec.msb_eq_getLsbD_last,
      Nat.add_sub_cancel]
  rw [BitVec.and_twoPow, sign, value, BitVec.toInt_eq_msb_cond]
  have positive : BitVec.twoPow (pad + (width + 1)) width ≠ 0#(pad + (width + 1)) := by
    intro zero
    have inside : width < pad + (width + 1) := by omega
    have bit := congrArg (fun word => BitVec.getLsbD word width) zero
    simp [inside] at bit
  cases field.msb with
  | false => simp
  | true => simp [positive]

theorem bl_word_iff (word : BitVec 32) :
    word &&& 0xFC000000#32 = 0x94000000#32 ↔ ∃ imm26, word = encodeBl imm26 :=
  @leading_field_iff 6 26 word 0b100101#6

theorem b_word_iff (word : BitVec 32) :
    word &&& 0xFC000000#32 = 0x14000000#32 ↔ ∃ imm26, word = encodeB imm26 :=
  @leading_field_iff 6 26 word 0b000101#6

theorem adrp_word_iff (word : BitVec 32) :
    word &&& 0x9F000000#32 = 0x90000000#32 ↔ ∃ rd imm21, word = encodeAdrp rd imm21 := by
  have tested := @gapped_fields_iff 1 24 2 5 word 1#1 0b10000#5
  apply tested.trans
  constructor
  · intro shape
    rcases shape with ⟨immlo, rest, same⟩
    rcases @word_split 19 5 rest with ⟨immhi, rd, rfl⟩
    apply Exists.intro rd
    apply Exists.intro (immhi ++ immlo)
    rw [encodeAdrp, BitVec.extractLsb'_append_eq_right, BitVec.extractLsb'_append_eq_left, same]
    exact BitVec.append_assoc'
  · intro shape
    rcases shape with ⟨rd, imm21, same⟩
    apply Exists.intro (imm21.extractLsb' 0 2)
    apply Exists.intro (imm21.extractLsb' 2 19 ++ rd)
    rw [same, encodeAdrp]
    exact BitVec.append_assoc'.symm

theorem encode_adrp_nat (rd : BitVec 5) (imm21 : BitVec 21) :
    (encodeAdrp rd imm21).toNat =
      2 ^ 31 + imm21.toNat % 4 * 2 ^ 29 + 2 ^ 28 + imm21.toNat / 4 * 2 ^ 5 + rd.toNat := by
  have rdBound := rd.isLt
  have immBound := imm21.isLt
  have immlo : (imm21.extractLsb' 0 2).toNat = imm21.toNat % 4 := by
    rw [BitVec.extractLsb'_toNat]
    rfl
  have immhi : (imm21.extractLsb' 2 19).toNat = imm21.toNat / 4 := by
    rw [BitVec.extractLsb'_toNat, Nat.shiftRight_eq_div_pow]
    omega
  simp only [encodeAdrp, append_nat, immlo, immhi, BitVec.toNat_ofNat]
  omega

theorem adrp_displacement (rd : BitVec 5) (imm21 : BitVec 21) :
    ((encodeAdrp rd imm21 >>> 5) &&& 0x7FFFF#32) <<< 2 ||| ((encodeAdrp rd imm21 >>> 29) &&& 3#32) =
      0#11 ++ imm21 := by
  have word := encode_adrp_nat rd imm21
  have rdBound := rd.isLt
  have immBound := imm21.isLt
  have immhi : ((encodeAdrp rd imm21 >>> 5) &&& 0x7FFFF#32).toNat = imm21.toNat / 4 := by
    rw [BitVec.toNat_and, BitVec.toNat_ushiftRight, Nat.shiftRight_eq_div_pow]
    have mask : (0x7FFFF#32).toNat = 2 ^ 19 - 1 := rfl
    rw [mask, Nat.and_two_pow_sub_one_eq_mod, word]
    omega
  have immlo : ((encodeAdrp rd imm21 >>> 29) &&& 3#32).toNat = imm21.toNat % 4 := by
    rw [BitVec.toNat_and, BitVec.toNat_ushiftRight, Nat.shiftRight_eq_div_pow]
    have mask : (3#32).toNat = 2 ^ 2 - 1 := rfl
    have leading : (encodeAdrp rd imm21).toNat / 2 ^ 29 = 4 + imm21.toNat % 4 := by omega
    rw [mask, Nat.and_two_pow_sub_one_eq_mod, leading]
    omega
  have low : imm21.toNat % 4 < 2 ^ 2 := Nat.mod_lt _ (by decide)
  apply BitVec.eq_of_toNat_eq
  rw [BitVec.toNat_or, BitVec.toNat_shiftLeft, immhi, immlo, append_nat, BitVec.toNat_ofNat,
    Nat.mod_eq_of_lt (by omega), ← Nat.shiftLeft_add_eq_or_of_lt low]
  omega

theorem adrp_register (rd : BitVec 5) (imm21 : BitVec 21) :
    (encodeAdrp rd imm21 &&& 0x1F#32).toNat = rd.toNat := by
  have word := encode_adrp_nat rd imm21
  have rdBound := rd.isLt
  have mask : (0x1F#32).toNat = 2 ^ 5 - 1 := rfl
  rw [BitVec.toNat_and, mask, Nat.and_two_pow_sub_one_eq_mod, word]
  omega

/-- Clearing the low bits of an integer that has no last bit. -/
theorem page_of_nat (pc : Nat) : Int.land pc (Int.lnot 0xFFF) = (pc / 4096 * 4096 : Nat) := by
  have cleared : Nat.ldiff pc 0xFFF = pc / 2 ^ 12 * 2 ^ 12 := by
    apply Nat.eq_of_testBit_eq
    intro index
    have mask : 0xFFF = 2 ^ 12 - 1 := rfl
    rw [Nat.testBit_ldiff, mask, Nat.testBit_two_pow_sub_one, Nat.testBit_mul_two_pow,
      Nat.testBit_div_two_pow]
    by_cases low : index < 12
    · simp [low]
    · have high : 12 ≤ index := Nat.not_lt.mp low
      have kept : index - 12 + 12 = index := Nat.sub_add_cancel high
      simp [low, high, kept]
  exact congrArg Nat.cast cleared

end Verbifrost.A64Encoding
