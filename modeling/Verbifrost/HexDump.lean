import Verbifrost.FileBytes

/-!
# Hex dumps of code

`dump_ops.c`, `dump_targets.c` and `dump_cmd.c` print code as hex digits, 16
bytes to a line. The lines are pasted into `analyze_ops.py` and `decode_plt.py`,
which read them back with `bytes.fromhex`.
-/

namespace Verbifrost.HexDump

open Verbifrost.ByteMemory Verbifrost.FileBytes

set_option autoImplicit false

def hexDigit (nibble : Nat) : Char :=
  if nibble < 10 then Char.ofNat (48 + nibble) else Char.ofNat (87 + nibble)

/-- `printf("%02x", code[k])`. -/
def printByte (byte : Byte) : Text := [hexDigit (byte.toNat / 16), hexDigit (byte.toNat % 16)]

/-- The loop from byte `k` on. -/
def dumpFrom : Nat → ByteString → Text
  | _, [] => []
  | k, byte :: rest =>
      printByte byte ++ ((if (k + 1) % 16 = 0 then ['\n'] else []) ++ dumpFrom (k + 1) rest)

def dumpCode (code : ByteString) : Text := dumpFrom 0 code

def isSpace (char : Char) : Bool := char.toNat = 32 ∨ (9 ≤ char.toNat ∧ char.toNat ≤ 13)

def digitValue (char : Char) : Option Nat :=
  if 48 ≤ char.toNat ∧ char.toNat ≤ 57 then some (char.toNat - 48)
  else if 97 ≤ char.toNat ∧ char.toNat ≤ 102 then some (char.toNat - 87)
  else if 65 ≤ char.toNat ∧ char.toNat ≤ 70 then some (char.toNat - 55)
  else none

def fromHex : Text → Option ByteString
  | [] => some []
  | [char] => if isSpace char then some [] else none
  | high :: low :: rest =>
      if isSpace high then fromHex (low :: rest)
      else do
        let upper ← digitValue high
        let lower ← digitValue low
        let bytes ← fromHex rest
        some (BitVec.ofNat 8 (upper * 16 + lower) :: bytes)

/-- The text consists of the bytes, two digits each, and of white space around them. -/
inductive Spells : Text → ByteString → Prop where
  | nothing : Spells [] []
  | space {char : Char} {text : Text} {bytes : ByteString} (blank : isSpace char = true)
      (later : Spells text bytes) : Spells (char :: text) bytes
  | byte {high low : Char} {upper lower : Nat} {text : Text} {bytes : ByteString}
      (first : digitValue high = some upper) (second : digitValue low = some lower)
      (later : Spells text bytes) :
      Spells (high :: low :: text) (BitVec.ofNat 8 (upper * 16 + lower) :: bytes)

theorem digit_not_space {char : Char} {value : Nat} (digit : digitValue char = some value) :
    isSpace char = false := by
  rw [isSpace, decide_eq_false_iff_not]
  intro blank
  rw [digitValue, if_neg (by omega), if_neg (by omega), if_neg (by omega)] at digit
  cases digit

theorem from_hex_sound (text : Text) :
    ∀ bytes, fromHex text = some bytes → Spells text bytes := by
  induction text using fromHex.induct with
  | case1 =>
      intro bytes read
      cases read
      exact .nothing
  | case2 char blank =>
      intro bytes read
      rw [fromHex, if_pos blank] at read
      cases read
      exact .space blank .nothing
  | case3 char other =>
      intro bytes read
      rw [fromHex, if_neg other] at read
      cases read
  | case4 high low rest blank induction =>
      intro bytes read
      rw [fromHex, if_pos blank] at read
      exact .space blank (induction bytes read)
  | case5 high low rest other induction =>
      intro bytes read
      rw [fromHex, if_neg other] at read
      rcases Option.bind_eq_some_iff.mp read with ⟨upper, first, read⟩
      rcases Option.bind_eq_some_iff.mp read with ⟨lower, second, read⟩
      rcases Option.bind_eq_some_iff.mp read with ⟨later, tail, read⟩
      cases read
      exact .byte first second (induction later tail)

theorem from_hex_complete {text : Text} {bytes : ByteString} (spells : Spells text bytes) :
    fromHex text = some bytes := by
  induction spells with
  | nothing => rfl
  | @space char text bytes blank _ induction =>
      cases text with
      | nil =>
          rw [fromHex, if_pos blank]
          exact induction
      | cons next rest =>
          rw [fromHex, if_pos blank]
          exact induction
  | byte first second _ induction =>
      have digit := digit_not_space first
      rw [fromHex, digit, first, second, induction]
      rfl

theorem from_hex_iff (text : Text) (bytes : ByteString) :
    fromHex text = some bytes ↔ Spells text bytes :=
  ⟨from_hex_sound text bytes, from_hex_complete⟩

theorem digit_read_back {nibble : Nat} (small : nibble < 16) :
    digitValue (hexDigit nibble) = some nibble := by
  have all : ∀ nibble < 16, digitValue (hexDigit nibble) = some nibble := by decide
  exact all nibble small

theorem printed_byte_spells (byte : Byte) {text : Text} {bytes : ByteString}
    (later : Spells text bytes) : Spells (printByte byte ++ text) (byte :: bytes) := by
  have bound := byte.isLt
  have first := digit_read_back (show byte.toNat / 16 < 16 by omega)
  have second := digit_read_back (show byte.toNat % 16 < 16 by omega)
  have value : BitVec.ofNat 8 (byte.toNat / 16 * 16 + byte.toNat % 16) = byte := by
    rw [Nat.div_add_mod', BitVec.ofNat_toNat, BitVec.setWidth_eq]
  have spells := Spells.byte first second later
  rwa [value] at spells

theorem dump_spells (k : Nat) (code : ByteString) : Spells (dumpFrom k code) code := by
  induction code generalizing k with
  | nil => exact .nothing
  | cons byte rest induction =>
      rw [dumpFrom]
      apply printed_byte_spells
      split_ifs
      · exact .space rfl (induction (k + 1))
      · exact induction (k + 1)

/-- The text without its white space: lines that are pasted one behind another. -/
def joined (text : Text) : Text := text.filter fun char => !isSpace char

theorem joined_spells {text : Text} {bytes : ByteString} (spells : Spells text bytes) :
    Spells (joined text) bytes := by
  induction spells with
  | nothing => exact .nothing
  | space blank _ induction =>
      rw [joined, List.filter_cons_of_neg (by simp [blank])]
      exact induction
  | byte first second _ induction =>
      have high := digit_not_space first
      have low := digit_not_space second
      rw [joined, List.filter_cons_of_pos (by simp [high]), List.filter_cons_of_pos (by simp [low])]
      exact .byte first second induction

/-- However the lines are broken when they are pasted, what is accepted is the code. -/
structure ReadBack (code : ByteString) : Prop where
  printed : fromHex (dumpCode code) = some code
  joined : fromHex (joined (dumpCode code)) = some code
  pasted : ∀ text bytes, HexDump.joined text = HexDump.joined (dumpCode code) →
    fromHex text = some bytes → bytes = code

theorem dump_read_back (code : ByteString) : ReadBack code := by
  have printed : Spells (dumpCode code) code := dump_spells 0 code
  have lines := (from_hex_iff _ _).mpr (joined_spells printed)
  constructor
  · exact (from_hex_iff _ _).mpr printed
  · exact lines
  · intro text bytes same read
    have pasted := (from_hex_iff _ _).mpr (joined_spells ((from_hex_iff text bytes).mp read))
    rw [same, lines] at pasted
    exact (Option.some.inj pasted).symm

end Verbifrost.HexDump
