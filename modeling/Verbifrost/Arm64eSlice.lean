import Verbifrost.MachO

/-!
# Finding the arm64e part of a kernelcache

`get_arm64e_slice` of `extract_kexts.py`. Its magic is the first word read
big-endian, as fat headers are; a thin image is little-endian, and
`extract_kexts` reads the same word the other way round.
-/

namespace Verbifrost.Arm64eSlice

open Verbifrost.ByteMemory Verbifrost.FileBytes Verbifrost.MachO

set_option autoImplicit false

def cpuTypeArm64 : BitVec 32 := 0x0100000C
def cpuSubtypeArm64e : BitVec 32 := 0x80000002

/-- The loop over the architectures from `index` on. The subtype and the
alignment are only printed. -/
def selectArch (data : ByteString) : Nat → Nat → Option (Option ByteString)
  | 0, _ => some none
  | remaining + 1, index => do
      let offset := 8 + index * 32
      let cputype ← unpackBE 32 data offset
      let _cpusubtype ← unpackBE 32 data (offset + 4)
      let offsetVal ← unpackBE 64 data (offset + 8)
      let size ← unpackBE 64 data (offset + 16)
      let _align ← unpackBE 32 data (offset + 24)
      if cputype = cpuTypeArm64 then
        some (some (slice data offsetVal.toNat (offsetVal.toNat + size.toNat)))
      else selectArch data remaining (index + 1)

/-- The outer `none` is an exception, the inner one is Python's `None`. -/
def getArm64eSlice (data : ByteString) : Option (Option ByteString) := do
  let magic ← unpackBE 32 data 0
  if magic = 0xCAFEBABF then
    let nfat ← unpackBE 32 data 4
    selectArch data nfat.toNat 0
  else if magic = 0xFEEDFACF then some (some data)
  else some none

/-- The form that `extract_kexts` accepts: the header and the load commands from byte 0 on. -/
def IsThinImage (data : ByteString) : Prop := ∃ commands, ImageAt data 0 commands

def isArm64 (arch : FatArch) : Bool := arch.cputype = cpuTypeArm64

def isArm64e (arch : FatArch) : Bool :=
  arch.cputype = cpuTypeArm64 ∧ arch.cpusubtype = cpuSubtypeArm64e

structure SelectsArm64e (data : ByteString) : Prop where
  thin : IsThinImage data → getArm64eSlice data = some (some data)
  fat : ∀ archs arch, FatImage data archs → archs.filter isArm64e = [arch] →
    getArm64eSlice data = some (some (arch.bytes data))

theorem thin_image_refused {data : ByteString} (thin : IsThinImage data) :
    getArm64eSlice data = some none := by
  have swapped : byteSwap mhMagic64 = 0xCFFAEDFE := by decide
  rcases thin with ⟨commands, image⟩
  have word : unpackBE 32 data 0 = some 0xCFFAEDFE := by
    rw [unpackBE, image.magic, Option.map_some, swapped]
  have notFat : ¬(0xCFFAEDFE : BitVec 32) = 0xCAFEBABF := by decide
  have notThin : ¬(0xCFFAEDFE : BitVec 32) = 0xFEEDFACF := by decide
  simp only [getArm64eSlice, word, Option.bind_eq_bind, Option.bind_some, if_neg notFat,
    if_neg notThin]

/-- By induction on the architectures that are left. -/
theorem select_arch_find {data : ByteString} (archs : List FatArch) (index : Nat)
    (table : ∀ position (inside : position < archs.length),
      FatArchAt data (index + position) archs[position]) :
    selectArch data archs.length index =
      some ((archs.find? isArm64).map fun arch => arch.bytes data) := by
  induction archs generalizing index with
  | nil => rfl
  | cons arch rest induction =>
      have first := table 0 (Nat.succ_pos _)
      rcases first with ⟨cputype, cpusubtype, offset, size, align⟩
      simp only [Nat.add_zero, List.getElem_cons_zero] at cputype cpusubtype offset size align
      have later := induction (index + 1) (by
        intro position inside
        have next := table (position + 1) (Nat.succ_lt_succ inside)
        rwa [List.getElem_cons_succ, Nat.add_comm position, ← Nat.add_assoc] at next)
      simp only [List.length_cons, selectArch, cputype, cpusubtype, offset, size, align,
        Option.bind_eq_bind, Option.bind_some]
      by_cases arm64 : arch.cputype = cpuTypeArm64
      · have found : isArm64 arch = true := decide_eq_true arm64
        rw [if_pos arm64, List.find?_cons_of_pos found]
        rfl
      · have missed : ¬isArm64 arch = true := fun found => arm64 (of_decide_eq_true found)
        rw [if_neg arm64, later, List.find?_cons_of_neg missed]

theorem fat_image_selects {data : ByteString} {archs : List FatArch} (fat : FatImage data archs) :
    getArm64eSlice data =
      some ((archs.find? isArm64).map fun arch => arch.bytes data) := by
  rcases fat.count with ⟨nfat, word, count⟩
  have found := select_arch_find archs 0 (by
    intro position inside
    rw [Nat.zero_add]
    exact fat.table position inside)
  have magic : fatMagic64 = 0xCAFEBABF := rfl
  simp only [getArm64eSlice, fat.magic, word, Option.bind_eq_bind, Option.bind_some, if_pos magic,
    count, found]

theorem arm64_found {archs : List FatArch} {arch : FatArch} (only : archs.filter isArm64e = [arch]) :
    ∃ first, archs.find? isArm64 = some first := by
  have listed : arch ∈ archs.filter isArm64e := by
    rw [only]
    exact List.mem_singleton_self arch
  rcases List.mem_filter.mp listed with ⟨member, arm64e⟩
  have cputype : arch.cputype = cpuTypeArm64 := (of_decide_eq_true arm64e).1
  apply Option.isSome_iff_exists.mp
  rw [List.find?_isSome]
  exact ⟨arch, member, decide_eq_true cputype⟩

/-- The first architecture of the type holds the bytes of the arm64e one. -/
def FirstArm64IsArm64e (data : ByteString) : Prop :=
  ∀ archs arch first, FatImage data archs → archs.filter isArm64e = [arch] →
    archs.find? isArm64 = some first →
      first.bytes data = arch.bytes data

theorem selects_arm64e_iff (data : ByteString) :
    SelectsArm64e data ↔ ¬IsThinImage data ∧ FirstArm64IsArm64e data := by
  constructor
  · intro selects
    constructor
    · intro thin
      have returned := selects.thin thin
      rw [thin_image_refused thin] at returned
      cases returned
    · intro archs arch first fat only found
      have returned := selects.fat archs arch fat only
      rw [fat_image_selects fat, found] at returned
      exact Option.some.inj (Option.some.inj returned)
  · intro condition
    rcases condition with ⟨notThin, first⟩
    constructor
    · intro thin
      exact absurd thin notThin
    · intro archs arch fat only
      rcases arm64_found only with ⟨found, search⟩
      rw [fat_image_selects fat, search, Option.map_some, first archs arch found fat only search]

/-- A thin image that is nothing but its magic, without load commands. -/
def thinSample : ByteString := [0xCF, 0xFA, 0xED, 0xFE] ++ List.replicate 28 0

def plainArch : FatArch := ⟨cpuTypeArm64, 0, 72, 1, 0⟩

def arm64eArch : FatArch := ⟨cpuTypeArm64, cpuSubtypeArm64e, 73, 1, 0⟩

/-- One byte for each of two architectures, arm64 before arm64e. -/
def fatSample : ByteString :=
  [0xCA, 0xFE, 0xBA, 0xBF, 0, 0, 0, 2] ++
    [0x01, 0, 0, 0x0C, 0, 0, 0, 0, 0, 0, 0, 0, 0, 0, 0, 72, 0, 0, 0, 0, 0, 0, 0, 1] ++
    List.replicate 8 0 ++
    [0x01, 0, 0, 0x0C, 0x80, 0, 0, 2, 0, 0, 0, 0, 0, 0, 0, 73, 0, 0, 0, 0, 0, 0, 0, 1] ++
    List.replicate 8 0 ++ [0xAA, 0xBB]

theorem fat_sample_image : FatImage fatSample [plainArch, arm64eArch] where
  magic := by decide
  count := ⟨2, by decide, rfl⟩
  table := by
    intro index inside
    have plain : FatArchAt fatSample 0 plainArch :=
      ⟨by decide, by decide, by decide, by decide, by decide⟩
    have arm64e : FatArchAt fatSample 1 arm64eArch :=
      ⟨by decide, by decide, by decide, by decide, by decide⟩
    match index, inside with
    | 0, _ => exact plain
    | 1, _ => exact arm64e
  ranges := by decide

/-- The thin image is refused, and of the fat one the wrong architecture is returned. -/
theorem samples_misread : ¬SelectsArm64e thinSample ∧ ¬SelectsArm64e fatSample := by
  constructor
  · intro selects
    have thin : IsThinImage thinSample := ⟨[], by decide, ⟨0, by decide, rfl⟩, trivial⟩
    have returned := selects.thin thin
    rw [thin_image_refused thin] at returned
    cases returned
  · intro selects
    have wanted : arm64eArch.bytes fatSample = [0xBB] := by decide
    have found : plainArch.bytes fatSample = [0xAA] := by decide
    have first : [plainArch, arm64eArch].find? isArm64 = some plainArch := rfl
    have returned := selects.fat _ arm64eArch fat_sample_image rfl
    rw [fat_image_selects fat_sample_image, first, Option.map_some, found, wanted] at returned
    exact absurd returned (by decide)

end Verbifrost.Arm64eSlice
