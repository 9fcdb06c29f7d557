import Mathlib.Data.List.Basic
import Mathlib.Data.List.GetD
import Verbifrost.ByteMemory

/-!
# Finite byte strings

A file as the list of its bytes, read the way a script does: fixed-width words
at an offset, refused past the end, and slices, which are cut off at the end
instead. Text is decoded to a list of characters.
-/

namespace Verbifrost.FileBytes

open Verbifrost.ByteMemory

set_option autoImplicit false

abbrev ByteString := List Byte

def contents (data : ByteString) : Bytes := fun index => data.getD index 0

/-- `none` where the word would reach past the end. -/
def unpackLE (w : Nat) (data : ByteString) (offset : Nat) : Option (BitVec w) :=
  if offset + w / 8 ≤ data.length then some (load (contents data) offset w) else none

def unpackBE (w : Nat) (data : ByteString) (offset : Nat) : Option (BitVec w) :=
  (unpackLE w data offset).map byteSwap

theorem unpack_inside {w : Nat} {data : ByteString} {offset : Nat}
    (inside : offset + w / 8 ≤ data.length) :
    unpackLE w data offset = some (load (contents data) offset w) :=
  if_pos inside

theorem unpack_some_inside {w : Nat} {data : ByteString} {offset : Nat} {word : BitVec w}
    (unpacked : unpackLE w data offset = some word) : offset + w / 8 ≤ data.length := by
  by_contra outside
  rw [unpackLE, if_neg outside] at unpacked
  cases unpacked

theorem unpack_some_load {w : Nat} {data : ByteString} {offset : Nat} {word : BitVec w}
    (unpacked : unpackLE w data offset = some word) : load (contents data) offset w = word := by
  rw [unpack_inside (unpack_some_inside unpacked)] at unpacked
  exact Option.some.inj unpacked

/-- `data[start:stop]` for bounds that are not negative. -/
def slice (data : ByteString) (start stop : Nat) : ByteString := (data.drop start).take (stop - start)

theorem slice_length (data : ByteString) (start stop : Nat) :
    (slice data start stop).length = min stop data.length - start := by
  rw [slice, List.length_take, List.length_drop]
  omega

theorem slice_byte (data : ByteString) {start stop index : Nat} (inside : start + index < stop) :
    contents (slice data start stop) index = contents data (start + index) := by
  have short : index < stop - start := by omega
  simp only [contents, slice, List.getD_eq_getElem?_getD, List.getElem?_take, if_pos short,
    List.getElem?_drop]

theorem slice_slice (data : ByteString) {start stop left right : Nat} (inside : start + right ≤ stop) :
    slice (slice data start stop) left right = slice data (start + left) (start + right) := by
  rw [slice, slice, slice, List.drop_take, List.take_take, List.drop_drop]
  congr 1
  omega

theorem slice_eq_iff (data : ByteString) (start left right : Nat) :
    slice data start left = slice data start right ↔
      min left data.length - start = min right data.length - start := by
  constructor
  · intro same
    rw [← slice_length, ← slice_length, same]
  · intro same
    rw [slice, slice, List.take_eq_take_iff, List.length_drop]
    omega

theorem load_slice {w : Nat} (whole : w / 8 * 8 = w) (data : ByteString) {start stop offset : Nat}
    (inside : start + offset + w / 8 ≤ stop) :
    load (contents (slice data start stop)) offset w = load (contents data) (start + offset) w := by
  apply of_bytes_congr whole
  intro index bound
  rw [window, window, slice_byte data (by omega), Nat.add_assoc]

theorem unpack_slice {w : Nat} (whole : w / 8 * 8 = w) (data : ByteString) {start stop offset : Nat}
    (inside : start + offset + w / 8 ≤ stop) (fits : stop ≤ data.length) :
    unpackLE w (slice data start stop) offset = unpackLE w data (start + offset) := by
  have length := slice_length data start stop
  rw [unpack_inside (by omega), unpack_inside (by omega), load_slice whole data inside]

/-- A bound of a slice counts from the end where it is negative. -/
def sliceBound (data : ByteString) (bound : Int) : Nat :=
  if bound < 0 then (bound + data.length).toNat else bound.toNat

/-- `data[start:stop]` for any bounds. -/
def sliceInt (data : ByteString) (start stop : Int) : ByteString :=
  slice data (sliceBound data start) (sliceBound data stop)

theorem slice_int_nat (data : ByteString) (start stop : Nat) :
    sliceInt data start stop = slice data start stop := by
  have positive : ∀ bound : Nat, sliceBound data bound = bound := by
    intro bound
    rw [sliceBound, if_neg (by omega), Int.toNat_natCast]
  rw [sliceInt, positive, positive]

abbrev Text := List Char

/-- `data.split(b"\x00")[0]`. -/
def cString (data : ByteString) : ByteString := data.takeWhile fun byte => byte ≠ 0

def isContinuation (byte : Byte) : Bool := byte &&& 0xC0 = 0x80

/-- The value of a lead byte's bits followed by those of a continuation byte. -/
def extendScalar (value : Nat) (byte : Byte) : Nat := value * 64 + (byte &&& 0x3F).toNat

/-- Strict UTF-8: no overlong form, no surrogate, nothing above U+10FFFF. -/
def decodeUtf8 : ByteString → Option Text
  | [] => some []
  | first :: rest =>
      if first < 0x80 then (decodeUtf8 rest).map (Char.ofNat first.toNat :: ·)
      else
        match rest with
        | [] => none
        | second :: rest =>
            let value := extendScalar (first &&& 0x1F).toNat second
            if first &&& 0xE0 = 0xC0 then
              if isContinuation second ∧ 0x80 ≤ value then
                (decodeUtf8 rest).map (Char.ofNat value :: ·)
              else none
            else
              match rest with
              | [] => none
              | third :: rest =>
                  let value := extendScalar (extendScalar (first &&& 0x0F).toNat second) third
                  if first &&& 0xF0 = 0xE0 then
                    if isContinuation second ∧ isContinuation third ∧ 0x800 ≤ value ∧
                        ¬(0xD800 ≤ value ∧ value < 0xE000) then
                      (decodeUtf8 rest).map (Char.ofNat value :: ·)
                    else none
                  else
                    match rest with
                    | [] => none
                    | fourth :: rest =>
                        let value := extendScalar
                          (extendScalar (extendScalar (first &&& 0x07).toNat second) third) fourth
                        if first &&& 0xF8 = 0xF0 ∧ isContinuation second ∧ isContinuation third ∧
                            isContinuation fourth ∧ 0x10000 ≤ value ∧ value < 0x110000 then
                          (decodeUtf8 rest).map (Char.ofNat value :: ·)
                        else none

/-- `decode("ascii", errors="replace")`. -/
def decodeAscii (data : ByteString) : Text :=
  data.map fun byte => if byte < 0x80 then Char.ofNat byte.toNat else Char.ofNat 0xFFFD

/-- `pattern in text`. -/
def contains (pattern text : Text) : Bool := text.tails.any fun rest => pattern.isPrefixOf rest

/-- `text.replace(pattern, "")` for a pattern that is not empty, from left to
right; `skip` characters of a match are still to be passed over. -/
def removeFrom (pattern : Text) : Nat → Text → Text
  | _, [] => []
  | skip + 1, _ :: rest => removeFrom pattern skip rest
  | 0, char :: rest =>
      if pattern.isPrefixOf (char :: rest) then removeFrom pattern (pattern.length - 1) rest
      else char :: removeFrom pattern 0 rest

def removeAll (pattern text : Text) : Text := removeFrom pattern 0 text

example : decodeUtf8 [0x52, 0xC3, 0xA9, 0xE2, 0x82, 0xAC] = some ['R', 'é', '€'] := by decide

end Verbifrost.FileBytes
