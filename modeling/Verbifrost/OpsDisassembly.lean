import Verbifrost.A64Encoding
import Verbifrost.FileBytes

/-!
# The instruction decoders of the tools

`disasm_bl` of `analyze_ops.py` and the two decoding loops of `decode_plt.py`.
An instruction is 32 bits wide; a displacement is an integer once its sign bit
has been dealt with, and the targets are unbounded integers, as they are in the
scripts. A printed line is the data that is formatted into it.
-/

namespace Verbifrost.OpsDisassembly

open Verbifrost.ByteMemory Verbifrost.FileBytes Verbifrost.A64Encoding

set_option autoImplicit false

/-- `imm26`, sign-extended. -/
def signedImm26 (insn : BitVec 32) : Int :=
  let imm26 := insn &&& 0x03FFFFFF#32
  if imm26 &&& 0x02000000#32 ≠ 0#32 then (imm26.toNat : Int) - 0x04000000 else imm26.toNat

/-- `immhi:immlo`, sign-extended. -/
def signedImm21 (insn : BitVec 32) : Int :=
  let immlo := (insn >>> 29) &&& 0x3#32
  let immhi := (insn >>> 5) &&& 0x7FFFF#32
  let imm := (immhi <<< 2) ||| immlo
  if imm &&& 0x100000#32 ≠ 0#32 then (imm.toNat : Int) - 0x200000 else imm.toNat

/-- `pc + (imm26 << 2)`. -/
def callTarget (pc : Nat) (insn : BitVec 32) : Int := pc + signedImm26 insn * 2 ^ 2

/-- `(pc & ~0xFFF) + (imm << 12)`. -/
def adrpPage (pc : Nat) (insn : BitVec 32) : Int :=
  Int.land pc (Int.lnot 0xFFF) + signedImm21 insn * 2 ^ 12

inductive Report where
  | bl (target : Int) (insn : BitVec 32)
  | blr (rn : Nat) (insn : BitVec 32)
  | b (target : Int) (insn : BitVec 32)
  | adrp (rd : Nat) (page : Int)
  | movz (rd imm16 : Nat)
  | svc (num : Nat)
deriving DecidableEq, Repr

/-- The tests in the order of the source: an earlier one hides the later ones. -/
def disasmInsn (pc : Nat) (insn : BitVec 32) : Option Report :=
  if insn &&& 0xFC000000#32 = 0x94000000#32 then some (.bl (callTarget pc insn) insn)
  else if insn &&& 0xFFFFFC1F#32 = 0xD63F0000#32 then
    some (.blr ((insn >>> 5) &&& 0x1F#32).toNat insn)
  else if insn &&& 0xFC000000#32 = 0x14000000#32 then some (.b (callTarget pc insn) insn)
  else if insn &&& 0x9F000000#32 = 0x90000000#32 then
    some (.adrp (insn &&& 0x1F#32).toNat (adrpPage pc insn))
  else if insn &&& 0xFF800000#32 = 0x52800000#32 then
    let imm16 := (insn >>> 5) &&& 0xFFFF#32
    if imm16 ≠ 0#32 then some (.movz (insn &&& 0x1F#32).toNat imm16.toNat) else none
  else if insn &&& 0xFFE0001F#32 = 0xD4000001#32 then
    some (.svc ((insn >>> 5) &&& 0xFFFF#32).toNat)
  else none

/-- What a run of a script has printed, line by line with the address of each,
and whether it ended without an exception. -/
structure Printed (Line : Type) where
  lines : List (Nat × Line)
  completed : Bool

/-- `for i in range(0, len(raw), 4)` with the word and the address of each
step: a last word that is cut short raises. -/
def eachInsn {Line : Type} (visit : Nat → BitVec 32 → Option Line) (raw : ByteString)
    (baseAddr : Nat) : List Nat → Printed Line
  | [] => ⟨[], true⟩
  | i :: rest =>
      match unpackLE 32 raw i with
      | none => ⟨[], false⟩
      | some insn =>
          let later := eachInsn visit raw baseAddr rest
          let pc := baseAddr + i
          ⟨((visit pc insn).map fun line => (pc, line)).toList ++ later.lines, later.completed⟩

/-- `range(0, length, 4)`. -/
def insnOffsets (length : Nat) : List Nat := List.range' 0 ((length + 3) / 4) 4

def disasmBl (raw : ByteString) (baseAddr : Nat) : Printed Report :=
  eachInsn disasmInsn raw baseAddr (insnOffsets raw.length)

/-- What is printed about a stub whose first word is an `ADRP`. -/
structure PltStub where
  page : Int
  addImm : Nat
  gotAddr : Int

/-- The first four words are unpacked before any is looked at: `none` where that raises. -/
def decodeStub (raw : ByteString) (base : Nat) : Option (Option PltStub) := do
  let insns ← (List.range' 0 4 4).mapM fun i => unpackLE 32 raw i
  let adrp := insns.getD 0 0
  if adrp &&& 0x9F000000#32 = 0x90000000#32 then
    let page := adrpPage base adrp
    let add := insns.getD 1 0
    let addImm := ((add >>> 10) &&& 0xFFF#32).toNat
    return some ⟨page, addImm, page + addImm⟩
  else return none

inductive HelperReport where
  | bl (target : Int)
  | movz (rd imm16 : Nat)
deriving DecidableEq, Repr

def helperInsn (pc : Nat) (insn : BitVec 32) : Option HelperReport :=
  if insn &&& 0xFC000000#32 = 0x94000000#32 then some (.bl (callTarget pc insn))
  else if insn &&& 0xFF800000#32 = 0x52800000#32 then
    let imm16 := (insn >>> 5) &&& 0xFFFF#32
    if imm16 ≠ 0#32 then some (.movz (insn &&& 0x1F#32).toNat imm16.toNat) else none
  else none

def decodeHelper (raw : ByteString) (base : Nat) : Printed HelperReport :=
  eachInsn helperInsn raw base (insnOffsets raw.length)

theorem signed_imm26_of {word : BitVec 32} (opcode : BitVec 6) (imm26 : BitVec 26)
    (shape : word = opcode ++ imm26) : signedImm26 word = imm26.toInt := by
  have field : word &&& 0x03FFFFFF#32 = 0#6 ++ imm26 := by
    rw [shape]
    exact trailing_field opcode imm26
  have signed := signed_field 6 25 imm26
  rw [signedImm26, field]
  exact signed

theorem call_target_of {word : BitVec 32} (opcode : BitVec 6) (imm26 : BitVec 26)
    (shape : word = opcode ++ imm26) (pc : Nat) : callTarget pc word = pc + 4 * imm26.toInt := by
  rw [callTarget, signed_imm26_of opcode imm26 shape]
  omega

theorem signed_imm21_adrp (rd : BitVec 5) (imm21 : BitVec 21) :
    signedImm21 (encodeAdrp rd imm21) = imm21.toInt := by
  have signed := signed_field 11 20 imm21
  rw [signedImm21, adrp_displacement]
  exact signed

theorem adrp_page_of (rd : BitVec 5) (imm21 : BitVec 21) (pc : Nat) :
    adrpPage pc (encodeAdrp rd imm21) = (pc / 4096 * 4096 : Nat) + 4096 * imm21.toInt := by
  rw [adrpPage, page_of_nat, signed_imm21_adrp]
  omega

theorem bl_reported_iff (pc : Nat) (insn : BitVec 32) (target : Int) (word : BitVec 32) :
    disasmInsn pc insn = some (.bl target word) ↔
      ∃ imm26, insn = encodeBl imm26 ∧ target = pc + 4 * imm26.toInt ∧ word = insn := by
  have encoded := bl_word_iff insn
  constructor
  · intro reported
    simp only [disasmInsn] at reported
    split_ifs at reported with bl <;> cases reported
    rcases encoded.mp bl with ⟨imm26, shape⟩
    exact ⟨imm26, shape, call_target_of _ imm26 shape pc, rfl⟩
  · intro shape
    rcases shape with ⟨imm26, shape, destination, same⟩
    rw [disasmInsn, if_pos (encoded.mpr ⟨imm26, shape⟩), call_target_of _ imm26 shape, destination, same]

/-- Bit 31 tells `B` from `BL` and `BLR`. -/
theorem b_reported_iff (pc : Nat) (insn : BitVec 32) (target : Int) (word : BitVec 32) :
    disasmInsn pc insn = some (.b target word) ↔
      ∃ imm26, insn = encodeB imm26 ∧ target = pc + 4 * imm26.toInt ∧ word = insn := by
  have encoded := b_word_iff insn
  constructor
  · intro reported
    simp only [disasmInsn] at reported
    split_ifs at reported with bl blr b <;> cases reported
    rcases encoded.mp b with ⟨imm26, shape⟩
    exact ⟨imm26, shape, call_target_of _ imm26 shape pc, rfl⟩
  · intro shape
    rcases shape with ⟨imm26, shape, destination, same⟩
    have b := encoded.mpr ⟨imm26, shape⟩
    have top := masked_bit b 31 rfl
    have notBl : ¬insn &&& 0xFC000000#32 = 0x94000000#32 := by
      intro bl
      exact absurd ((masked_bit bl 31 rfl).symm.trans top) (by decide)
    have notBlr : ¬insn &&& 0xFFFFFC1F#32 = 0xD63F0000#32 := by
      intro blr
      exact absurd ((masked_bit blr 31 rfl).symm.trans top) (by decide)
    rw [disasmInsn, if_neg notBl, if_neg notBlr, if_pos b, call_target_of _ imm26 shape, destination,
      same]

/-- Bit 26 tells `ADRP` from the branches. -/
theorem adrp_reported_iff (pc : Nat) (insn : BitVec 32) (rd : Nat) (page : Int) :
    disasmInsn pc insn = some (.adrp rd page) ↔
      ∃ register imm21, insn = encodeAdrp register imm21 ∧ rd = register.toNat ∧
        page = (pc / 4096 * 4096 : Nat) + 4096 * imm21.toInt := by
  have encoded := adrp_word_iff insn
  constructor
  · intro reported
    simp only [disasmInsn] at reported
    split_ifs at reported with bl blr b adrp <;> cases reported
    rcases encoded.mp adrp with ⟨register, imm21, shape⟩
    apply Exists.intro register
    apply Exists.intro imm21
    rw [shape, adrp_register, adrp_page_of]
    exact ⟨rfl, rfl, rfl⟩
  · intro shape
    rcases shape with ⟨register, imm21, shape, number, start⟩
    have adrp := encoded.mpr ⟨register, imm21, shape⟩
    have low := masked_bit adrp 26 rfl
    have notBl : ¬insn &&& 0xFC000000#32 = 0x94000000#32 := by
      intro bl
      exact absurd ((masked_bit bl 26 rfl).symm.trans low) (by decide)
    have notBlr : ¬insn &&& 0xFFFFFC1F#32 = 0xD63F0000#32 := by
      intro blr
      exact absurd ((masked_bit blr 26 rfl).symm.trans low) (by decide)
    have notB : ¬insn &&& 0xFC000000#32 = 0x14000000#32 := by
      intro b
      exact absurd ((masked_bit b 26 rfl).symm.trans low) (by decide)
    rw [disasmInsn, if_neg notBl, if_neg notBlr, if_neg notB, if_pos adrp, number, start,
      shape, adrp_register, adrp_page_of]

theorem unpack_later {raw : ByteString} {first later : Nat} (after : first ≤ later)
    (missing : unpackLE 32 raw first = none) : unpackLE 32 raw later = none := by
  cases unpacked : unpackLE 32 raw later with
  | none => rfl
  | some insn =>
      have inside := unpack_some_inside unpacked
      rw [unpack_inside (by omega)] at missing
      cases missing

/-- Only the last step can raise, so nothing that can be read is left out. -/
theorem each_insn_lines {Line : Type} (visit : Nat → BitVec 32 → Option Line) (raw : ByteString)
    (baseAddr start count : Nat) (pc : Nat) (line : Line) :
    (pc, line) ∈ (eachInsn visit raw baseAddr (List.range' start count 4)).lines ↔
      ∃ index < count, ∃ insn, unpackLE 32 raw (start + 4 * index) = some insn ∧
        pc = baseAddr + (start + 4 * index) ∧ visit pc insn = some line := by
  induction count generalizing start with
  | zero => simp [eachInsn]
  | succ count induction =>
      rw [List.range'_succ, eachInsn]
      cases unpacked : unpackLE 32 raw start with
      | none =>
          have never : ∀ index, unpackLE 32 raw (start + 4 * index) = none := by
            intro index
            exact unpack_later (Nat.le_add_right _ _) unpacked
          simp [never]
      | some insn =>
          dsimp only
          rw [List.mem_append, induction, Nat.exists_lt_succ_left]
          have shift : ∀ index, start + 4 + 4 * index = start + 4 * (index + 1) := by
            intro index
            omega
          have first : (pc, line) ∈ ((visit (baseAddr + start) insn).map
              fun line => (baseAddr + start, line)).toList ↔
              ∃ insn, unpackLE 32 raw (start + 4 * 0) = some insn ∧
                pc = baseAddr + (start + 4 * 0) ∧ visit pc insn = some line := by
            rw [Nat.mul_zero, Nat.add_zero, unpacked]
            constructor
            · intro printed
              rcases Option.map_eq_some_iff.mp (Option.mem_toList.mp printed) with ⟨found, visited, same⟩
              cases same
              exact ⟨insn, rfl, rfl, visited⟩
            · intro found
              rcases found with ⟨word, same, rfl, visited⟩
              cases same
              rw [visited]
              exact List.mem_singleton_self _
          simp only [first, shift]

theorem printed_iff {Line : Type} (visit : Nat → BitVec 32 → Option Line) (raw : ByteString)
    (baseAddr index : Nat) (line : Line) :
    (baseAddr + 4 * index, line) ∈ (eachInsn visit raw baseAddr (insnOffsets raw.length)).lines ↔
      ∃ insn, unpackLE 32 raw (4 * index) = some insn ∧
        visit (baseAddr + 4 * index) insn = some line := by
  rw [insnOffsets, each_insn_lines]
  simp only [Nat.zero_add]
  constructor
  · intro printed
    rcases printed with ⟨other, _, insn, unpacked, address, visited⟩
    have same : index = other := by omega
    subst same
    exact ⟨insn, unpacked, visited⟩
  · intro printed
    rcases printed with ⟨insn, unpacked, visited⟩
    have inside := unpack_some_inside unpacked
    exact ⟨index, by omega, insn, unpacked, rfl, visited⟩

/-- The integer is exact, and what is left of it in 64 bits is the address the
processor branches to. -/
def BranchesTo (pc : Nat) (imm26 : BitVec 26) (target : Int) : Prop :=
  target = pc + 4 * imm26.toInt ∧ BitVec.ofInt 64 target = branchTarget (BitVec.ofNat 64 pc) imm26

def PagesTo (pc : Nat) (imm21 : BitVec 21) (page : Int) : Prop :=
  page = (pc / 4096 * 4096 : Nat) + 4096 * imm21.toInt ∧
    BitVec.ofInt 64 page = pageTarget (BitVec.ofNat 64 pc) imm21

theorem branches_to_iff (pc : Nat) (imm26 : BitVec 26) (target : Int) :
    BranchesTo pc imm26 target ↔ target = pc + 4 * imm26.toInt := by
  constructor
  · intro branches
    exact branches.1
  · intro exact
    exact ⟨exact, by rw [branch_target_int, exact]⟩

theorem pages_to_iff (pc : Nat) (imm21 : BitVec 21) (page : Int) :
    PagesTo pc imm21 page ↔ page = (pc / 4096 * 4096 : Nat) + 4096 * imm21.toInt := by
  constructor
  · intro pages
    exact pages.1
  · intro exact
    exact ⟨exact, by rw [page_target_int, exact]⟩

structure DecodesA64 (raw : ByteString) (base : Nat) : Prop where
  bl : ∀ index target,
    (∃ insn, (base + 4 * index, Report.bl target insn) ∈ (disasmBl raw base).lines) ↔
      ∃ imm26, unpackLE 32 raw (4 * index) = some (encodeBl imm26) ∧
        BranchesTo (base + 4 * index) imm26 target
  b : ∀ index target,
    (∃ insn, (base + 4 * index, Report.b target insn) ∈ (disasmBl raw base).lines) ↔
      ∃ imm26, unpackLE 32 raw (4 * index) = some (encodeB imm26) ∧
        BranchesTo (base + 4 * index) imm26 target
  adrp : ∀ index rd page,
    (base + 4 * index, Report.adrp rd page) ∈ (disasmBl raw base).lines ↔
      ∃ register imm21, unpackLE 32 raw (4 * index) = some (encodeAdrp register imm21) ∧
        rd = register.toNat ∧ PagesTo (base + 4 * index) imm21 page
  helperBl : ∀ index target,
    (base + 4 * index, HelperReport.bl target) ∈ (decodeHelper raw base).lines ↔
      ∃ insn, (base + 4 * index, Report.bl target insn) ∈ (disasmBl raw base).lines
  stubAdrp : ∀ page,
    (∃ stub, decodeStub raw base = some (some stub) ∧ stub.page = page) ↔
      16 ≤ raw.length ∧ ∃ rd, (base, Report.adrp rd page) ∈ (disasmBl raw base).lines

theorem disasm_bl_target (raw : ByteString) (base index : Nat) (target : Int) :
    (∃ insn, (base + 4 * index, Report.bl target insn) ∈ (disasmBl raw base).lines) ↔
      ∃ imm26, unpackLE 32 raw (4 * index) = some (encodeBl imm26) ∧
        BranchesTo (base + 4 * index) imm26 target := by
  simp only [disasmBl, printed_iff, bl_reported_iff, branches_to_iff]
  constructor
  · intro reported
    rcases reported with ⟨_, insn, unpacked, imm26, rfl, exact, _⟩
    exact ⟨imm26, unpacked, exact⟩
  · intro encoded
    rcases encoded with ⟨imm26, unpacked, exact⟩
    exact ⟨_, _, unpacked, imm26, rfl, exact, rfl⟩

theorem disasm_b_target (raw : ByteString) (base index : Nat) (target : Int) :
    (∃ insn, (base + 4 * index, Report.b target insn) ∈ (disasmBl raw base).lines) ↔
      ∃ imm26, unpackLE 32 raw (4 * index) = some (encodeB imm26) ∧
        BranchesTo (base + 4 * index) imm26 target := by
  simp only [disasmBl, printed_iff, b_reported_iff, branches_to_iff]
  constructor
  · intro reported
    rcases reported with ⟨_, insn, unpacked, imm26, rfl, exact, _⟩
    exact ⟨imm26, unpacked, exact⟩
  · intro encoded
    rcases encoded with ⟨imm26, unpacked, exact⟩
    exact ⟨_, _, unpacked, imm26, rfl, exact, rfl⟩

theorem disasm_adrp_page (raw : ByteString) (base index rd : Nat) (page : Int) :
    (base + 4 * index, Report.adrp rd page) ∈ (disasmBl raw base).lines ↔
      ∃ register imm21, unpackLE 32 raw (4 * index) = some (encodeAdrp register imm21) ∧
        rd = register.toNat ∧ PagesTo (base + 4 * index) imm21 page := by
  simp only [disasmBl, printed_iff, adrp_reported_iff, pages_to_iff]
  constructor
  · intro reported
    rcases reported with ⟨insn, unpacked, register, imm21, rfl, exact⟩
    exact ⟨register, imm21, unpacked, exact⟩
  · intro encoded
    rcases encoded with ⟨register, imm21, unpacked, exact⟩
    exact ⟨_, unpacked, register, imm21, rfl, exact⟩

theorem helper_bl_iff (pc : Nat) (insn : BitVec 32) (target : Int) :
    helperInsn pc insn = some (.bl target) ↔ disasmInsn pc insn = some (.bl target insn) := by
  constructor
  · intro reported
    simp only [helperInsn] at reported
    split_ifs at reported with bl <;> cases reported
    rw [disasmInsn, if_pos bl]
  · intro reported
    simp only [disasmInsn] at reported
    split_ifs at reported with bl <;> cases reported
    rw [helperInsn, if_pos bl]

theorem stub_words (raw : ByteString) :
    (List.range' 0 4 4).mapM (fun i => unpackLE 32 raw i) =
      if 16 ≤ raw.length then
        some ([0, 4, 8, 12].map fun i => load (contents raw) i 32)
      else none := by
  by_cases long : 16 ≤ raw.length
  · have unpacked : ∀ i ≤ 12, unpackLE 32 raw i = some (load (contents raw) i 32) := by
      intro i bound
      exact unpack_inside (by omega)
    rw [if_pos long]
    simp only [List.range', List.mapM_cons, List.mapM_nil, unpacked 0 (by omega),
      unpacked (0 + 4) (by omega), unpacked (0 + 4 + 4) (by omega),
      unpacked (0 + 4 + 4 + 4) (by omega)]
    rfl
  · have missing : unpackLE 32 raw 12 = none := if_neg (by omega)
    rw [if_neg long]
    simp only [List.range', List.mapM_cons, List.mapM_nil, Nat.zero_add, Nat.reduceAdd, missing]
    cases unpackLE 32 raw 0 <;> cases unpackLE 32 raw 4 <;> cases unpackLE 32 raw 8 <;> rfl

theorem decode_stub_page (raw : ByteString) (base : Nat) (page : Int) :
    (∃ stub, decodeStub raw base = some (some stub) ∧ stub.page = page) ↔
      16 ≤ raw.length ∧ load (contents raw) 0 32 &&& 0x9F000000#32 = 0x90000000#32 ∧
        page = adrpPage base (load (contents raw) 0 32) := by
  rw [decodeStub, stub_words]
  by_cases long : 16 ≤ raw.length
  · by_cases adrp : load (contents raw) 0 32 &&& 0x9F000000#32 = 0x90000000#32
    · simp [long, adrp, eq_comm]
    · simp [long, adrp]
  · simp [long]

theorem decoders_architectural (raw : ByteString) (base : Nat) : DecodesA64 raw base := by
  constructor
  · exact disasm_bl_target raw base
  · exact disasm_b_target raw base
  · exact disasm_adrp_page raw base
  · intro index target
    simp only [decodeHelper, disasmBl, printed_iff, helper_bl_iff]
    constructor
    · intro reported
      rcases reported with ⟨insn, unpacked, visited⟩
      exact ⟨insn, insn, unpacked, visited⟩
    · intro reported
      rcases reported with ⟨word, insn, unpacked, visited⟩
      rcases (bl_reported_iff _ insn target word).mp visited with ⟨_, _, _, same⟩
      rw [same] at visited
      exact ⟨insn, unpacked, visited⟩
  · intro page
    have reported := fun rd => disasm_adrp_page raw base 0 rd page
    simp only [Nat.mul_zero, Nat.add_zero, pages_to_iff] at reported
    rw [decode_stub_page, adrp_word_iff]
    simp only [reported]
    constructor
    · intro stub
      rcases stub with ⟨long, ⟨rd, imm21, shape⟩, start⟩
      rw [shape, adrp_page_of] at start
      have unpacked : unpackLE 32 raw 0 = some (encodeAdrp rd imm21) := by
        rw [unpack_inside (by omega), shape]
      exact ⟨long, rd.toNat, rd, imm21, unpacked, rfl, start⟩
    · intro line
      rcases line with ⟨long, _, rd, imm21, unpacked, _, start⟩
      have shape := unpack_some_load unpacked
      rw [shape, adrp_page_of]
      exact ⟨long, ⟨rd, imm21, rfl⟩, start⟩

end Verbifrost.OpsDisassembly
