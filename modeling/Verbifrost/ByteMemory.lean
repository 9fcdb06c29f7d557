import Mathlib.Tactic.Common

/-!
# Byte-addressed memory on a little-endian host

A region of memory is the function from byte offsets to bytes; whoever owns
the region knows its size. Words of any whole number of bytes are stored and
loaded least significant byte first, and `byteSwap` reverses the bytes of a
word. Storing a swapped word is therefore the big-endian encoding, and
`loadBE` is its decoder.
-/

namespace Verbifrost.ByteMemory

set_option autoImplicit false

abbrev Byte := BitVec 8

/-- The contents of memory from some base address on, by byte offset. -/
abbrev Bytes := Nat → Byte

def zeroBytes : Bytes := fun _ => 0

/-- The memory seen through the pointer `base + offset`. -/
def window (source : Bytes) (offset : Nat) : Bytes := fun index => source (offset + index)

def byteOf {w : Nat} (word : BitVec w) (index : Nat) : Byte :=
  word.extractLsb' (8 * index) 8

def joinBytes : (count : Nat) → Bytes → BitVec (8 * count)
  | 0, _ => 0
  | count + 1, bytes => joinBytes count (window bytes 1) ++ bytes 0

/-- The `w`-bit word whose byte `index` is `bytes index`. -/
def ofBytes (w : Nat) (bytes : Bytes) : BitVec w := (joinBytes (w / 8) bytes).setWidth w

theorem join_bytes_bit (count : Nat) (bytes : Bytes) (bit : Nat) (bound : bit < 8 * count) :
    (joinBytes count bytes).getLsbD bit = (bytes (bit / 8)).getLsbD (bit % 8) := by
  induction count generalizing bytes bit with
  | zero => omega
  | succ count induction =>
      change (joinBytes count (window bytes 1) ++ bytes 0).getLsbD bit = _
      rw [BitVec.getLsbD_append]
      by_cases low : bit < 8
      · rw [if_pos low, Nat.div_eq_of_lt low, Nat.mod_eq_of_lt low]
      · rw [if_neg low, induction _ _ (by omega)]
        have quotient : 1 + (bit - 8) / 8 = bit / 8 := by omega
        have remainder : (bit - 8) % 8 = bit % 8 := by omega
        rw [window, quotient, remainder]

theorem byte_of_of_bytes {w : Nat} (bytes : Bytes) (index : Nat) (inside : 8 * index + 8 ≤ w) :
    byteOf (ofBytes w bytes) index = bytes index := by
  apply BitVec.eq_of_getLsbD_eq
  intro bit bound
  have position : (8 * index + bit) / 8 = index := by omega
  have remainder : (8 * index + bit) % 8 = bit := by omega
  have covered : 8 * index + bit < w := by omega
  simp only [byteOf, ofBytes, BitVec.getLsbD_extractLsb', BitVec.getLsbD_setWidth, bound, covered,
    decide_true, Bool.true_and]
  rw [join_bytes_bit _ _ _ (by omega), position, remainder]

theorem word_ext {w : Nat} (whole : w / 8 * 8 = w) {left right : BitVec w}
    (same : ∀ index < w / 8, byteOf left index = byteOf right index) : left = right := by
  apply BitVec.eq_of_getLsbD_eq
  intro bit bound
  have equal := congrArg (fun byte : Byte => byte.getLsbD (bit % 8)) (same (bit / 8) (by omega))
  have position : 8 * (bit / 8) + bit % 8 = bit := by omega
  have inByte : bit % 8 < 8 := Nat.mod_lt _ (by decide)
  simpa [byteOf, inByte, position] using equal

theorem of_bytes_byte_of {w : Nat} (whole : w / 8 * 8 = w) (word : BitVec w) :
    ofBytes w (byteOf word) = word := by
  apply word_ext whole
  intro index bound
  exact byte_of_of_bytes _ _ (by omega)

theorem of_bytes_congr {w : Nat} (whole : w / 8 * 8 = w) {left right : Bytes}
    (same : ∀ index < w / 8, left index = right index) : ofBytes w left = ofBytes w right := by
  apply word_ext whole
  intro index bound
  rw [byte_of_of_bytes _ _ (by omega), byte_of_of_bytes _ _ (by omega), same index bound]

def byteSwap {w : Nat} (word : BitVec w) : BitVec w :=
  ofBytes w fun index => byteOf word (w / 8 - 1 - index)

theorem byte_of_byte_swap {w : Nat} (word : BitVec w) (index : Nat) (inside : 8 * index + 8 ≤ w) :
    byteOf (byteSwap word) index = byteOf word (w / 8 - 1 - index) :=
  byte_of_of_bytes _ _ inside

theorem byte_swap_byte_swap {w : Nat} (whole : w / 8 * 8 = w) (word : BitVec w) :
    byteSwap (byteSwap word) = word := by
  apply word_ext whole
  intro index bound
  rw [byte_of_byte_swap _ _ (by omega), byte_of_byte_swap _ _ (by omega)]
  congr 1
  omega

/-- `memcpy(target + offset, source, length)`. -/
def copyIn (target : Bytes) (offset : Nat) (source : Bytes) (length : Nat) : Bytes := fun index =>
  if offset ≤ index ∧ index < offset + length then source (index - offset) else target index

theorem copy_in_inside (target source : Bytes) (offset length index : Nat)
    (bound : index < length) : copyIn target offset source length (offset + index) = source index := by
  have covered : offset ≤ offset + index ∧ offset + index < offset + length := by omega
  rw [copyIn, if_pos covered, Nat.add_sub_cancel_left]

theorem copy_in_outside (target source : Bytes) (offset length index : Nat)
    (outside : index < offset ∨ offset + length ≤ index) :
    copyIn target offset source length index = target index := by
  have missed : ¬(offset ≤ index ∧ index < offset + length) := by omega
  rw [copyIn, if_neg missed]

theorem copy_in_congr {left right source : Bytes} {offset length index : Nat}
    (same : left index = right index) :
    copyIn left offset source length index = copyIn right offset source length index := by
  simp only [copyIn, same]

/-- `*(uintW_t *)(memory + offset) = word`. -/
def store {w : Nat} (memory : Bytes) (offset : Nat) (word : BitVec w) : Bytes :=
  copyIn memory offset (byteOf word) (w / 8)

theorem store_outside {w : Nat} (memory : Bytes) (offset : Nat) (word : BitVec w) (index : Nat)
    (outside : index < offset ∨ offset + w / 8 ≤ index) : store memory offset word index = memory index :=
  copy_in_outside _ _ _ _ _ outside

theorem store_commute {v w : Nat} (memory : Bytes) (first second : Nat) (one : BitVec v)
    (other : BitVec w) (disjoint : first + v / 8 ≤ second) :
    store (store memory first one) second other = store (store memory second other) first one := by
  funext index
  simp only [store, copyIn]
  split_ifs <;> first | rfl | omega

theorem store_byte (memory : Bytes) (offset : Nat) (value : Byte) :
    store memory offset value offset = value := by
  have first := copy_in_inside memory (byteOf value) offset 1 0 Nat.one_pos
  rw [Nat.add_zero] at first
  rw [store, first]
  simp [byteOf]

/-- `*(uintW_t *)(memory + offset)`. -/
def load (memory : Bytes) (offset w : Nat) : BitVec w := ofBytes w (window memory offset)

/-- The big-endian word at `offset`. -/
def loadBE (memory : Bytes) (offset w : Nat) : BitVec w := byteSwap (load memory offset w)

theorem load_be_byte {w index : Nat} (memory : Bytes) (offset : Nat) (inside : 8 * index + 8 ≤ w) :
    byteOf (loadBE memory offset w) index = memory (offset + (w / 8 - 1 - index)) := by
  rw [loadBE, byte_of_byte_swap _ _ inside, load, byte_of_of_bytes _ _ (by omega)]
  rfl

section Words

variable {w : Nat} (whole : w / 8 * 8 = w)

include whole

theorem load_congr {left right : Bytes} {offset : Nat}
    (same : ∀ index < w / 8, left (offset + index) = right (offset + index)) :
    load left offset w = load right offset w :=
  of_bytes_congr whole same

theorem load_be_congr {left right : Bytes} {offset : Nat}
    (same : ∀ index < w / 8, left (offset + index) = right (offset + index)) :
    loadBE left offset w = loadBE right offset w := by
  rw [loadBE, load_congr whole same, loadBE]

theorem load_be_eq_iff {left right : Bytes} {first second : Nat} :
    loadBE left first w = loadBE right second w ↔
      ∀ index < w / 8, left (first + index) = right (second + index) := by
  constructor
  · intro same index bound
    have swapped := congrArg byteSwap same
    rw [loadBE, loadBE, byte_swap_byte_swap whole, byte_swap_byte_swap whole] at swapped
    have bytes := congrArg (fun word => byteOf word index) swapped
    simpa only [load, window, byte_of_of_bytes _ _ (show 8 * index + 8 ≤ w by omega)] using bytes
  · intro same
    exact congrArg byteSwap (of_bytes_congr whole same)

theorem load_store (memory : Bytes) (offset : Nat) (word : BitVec w) :
    load (store memory offset word) offset w = word := by
  calc
    load (store memory offset word) offset w = ofBytes w (byteOf word) :=
      of_bytes_congr whole fun index bound => copy_in_inside _ _ _ _ _ bound
    _ = word := of_bytes_byte_of whole word

theorem load_be_store_swap (memory : Bytes) (offset : Nat) (word : BitVec w) :
    loadBE (store memory offset (byteSwap word)) offset w = word := by
  rw [loadBE, load_store whole, byte_swap_byte_swap whole]

theorem load_be_store_disjoint {v : Nat} (memory : Bytes) (offset other : Nat) (word : BitVec v)
    (disjoint : offset + w / 8 ≤ other ∨ other + v / 8 ≤ offset) :
    loadBE (store memory other word) offset w = loadBE memory offset w := by
  apply load_be_congr whole
  intro index bound
  exact copy_in_outside _ _ _ _ _ (by omega)

end Words

end Verbifrost.ByteMemory
