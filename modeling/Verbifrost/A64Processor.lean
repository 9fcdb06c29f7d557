import Verbifrost.A64Encoding
import Verbifrost.ByteMemory

/-!
# A processor for a few A64 instructions

The branches, the page address, `ADD` and `MOVZ` with an immediate, `LDR` with
an unsigned offset, `SVC` and the authenticated branch `BRAA`: their words, a
decoder that is exact on them, and what each does to the registers. Register
31 is the stack pointer or the zero register, as each operand says. How a
pointer is authenticated is a parameter.
-/

namespace Verbifrost.A64Processor

open Verbifrost.ByteMemory Verbifrost.A64Encoding

set_option autoImplicit false

inductive Instruction where
  | bl (imm26 : BitVec 26)
  | b (imm26 : BitVec 26)
  | blr (rn : BitVec 5)
  | adrp (rd : BitVec 5) (imm21 : BitVec 21)
  | addImm (sh : BitVec 1) (imm12 : BitVec 12) (rn rd : BitVec 5)
  | ldr (imm12 : BitVec 12) (rn rt : BitVec 5)
  | movz (hw : BitVec 2) (imm16 : BitVec 16) (rd : BitVec 5)
  | svc (imm16 : BitVec 16)
  | braa (rn rm : BitVec 5)
deriving DecidableEq

def encode : Instruction → BitVec 32
  | .bl imm26 => encodeBl imm26
  | .b imm26 => encodeB imm26
  | .blr rn => 0b1101011000111111000000#22 ++ rn ++ 0b00000#5
  | .adrp rd imm21 => encodeAdrp rd imm21
  | .addImm sh imm12 rn rd => 0b100100010#9 ++ (sh ++ imm12 ++ rn ++ rd)
  | .ldr imm12 rn rt => 0b1111100101#10 ++ (imm12 ++ rn ++ rt)
  | .movz hw imm16 rd => 0b010100101#9 ++ (hw ++ imm16 ++ rd)
  | .svc imm16 => 0b11010100000#11 ++ imm16 ++ 0b00001#5
  | .braa rn rm => 0b1101011100011111000010#22 ++ (rn ++ rm)

/-- A test under a mask, and the instruction that the fields of a tested word make up. -/
structure Pattern where
  mask : BitVec 32
  value : BitVec 32
  instruction : BitVec 32 → Instruction

def Pattern.accepts (pattern : Pattern) (word : BitVec 32) : Bool :=
  word &&& pattern.mask = pattern.value

def blPattern : Pattern := ⟨0xFC000000, 0x94000000, fun word => .bl (word.extractLsb' 0 26)⟩

def bPattern : Pattern := ⟨0xFC000000, 0x14000000, fun word => .b (word.extractLsb' 0 26)⟩

def blrPattern : Pattern := ⟨0xFFFFFC1F, 0xD63F0000, fun word => .blr (word.extractLsb' 5 5)⟩

def adrpPattern : Pattern where
  mask := 0x9F000000
  value := 0x90000000
  instruction := fun word =>
    .adrp (word.extractLsb' 0 5) (word.extractLsb' 5 19 ++ word.extractLsb' 29 2)

def addImmPattern : Pattern where
  mask := 0xFF800000
  value := 0x91000000
  instruction := fun word =>
    .addImm (word.extractLsb' 22 1) (word.extractLsb' 10 12) (word.extractLsb' 5 5)
      (word.extractLsb' 0 5)

def ldrPattern : Pattern where
  mask := 0xFFC00000
  value := 0xF9400000
  instruction := fun word =>
    .ldr (word.extractLsb' 10 12) (word.extractLsb' 5 5) (word.extractLsb' 0 5)

def movzPattern : Pattern where
  mask := 0xFF800000
  value := 0x52800000
  instruction := fun word =>
    .movz (word.extractLsb' 21 2) (word.extractLsb' 5 16) (word.extractLsb' 0 5)

def svcPattern : Pattern := ⟨0xFFE0001F, 0xD4000001, fun word => .svc (word.extractLsb' 5 16)⟩

def braaPattern : Pattern where
  mask := 0xFFFFFC00
  value := 0xD71F0800
  instruction := fun word => .braa (word.extractLsb' 5 5) (word.extractLsb' 0 5)

def patterns : List Pattern :=
  [blPattern, bPattern, blrPattern, adrpPattern, addImmPattern, ldrPattern, movzPattern,
    svcPattern, braaPattern]

def decode (word : BitVec 32) : Option Instruction :=
  (patterns.find? fun pattern => pattern.accepts word).map fun pattern => pattern.instruction word

def Pattern.Conflicts (first second : Pattern) : Prop :=
  first.mask &&& second.mask &&& (first.value ^^^ second.value) ≠ 0#32

instance (first second : Pattern) : Decidable (first.Conflicts second) :=
  inferInstanceAs (Decidable (_ ≠ _))

theorem conflicts_exclude {first second : Pattern} (conflicts : first.Conflicts second)
    {word : BitVec 32} (accepted : second.accepts word = true) : first.accepts word = false := by
  apply decide_eq_false
  intro both
  have other := of_decide_eq_true accepted
  apply conflicts
  apply BitVec.eq_of_getLsbD_eq
  intro index _
  have left := congrArg (fun word => BitVec.getLsbD word index) both
  have right := congrArg (fun word => BitVec.getLsbD word index) other
  simp only [BitVec.getLsbD_and] at left right
  simp only [BitVec.getLsbD_and, BitVec.getLsbD_xor, BitVec.getLsbD_zero, ← left, ← right]
  cases word.getLsbD index <;> cases first.mask.getLsbD index <;>
    cases second.mask.getLsbD index <;> rfl

/-- In a table without overlaps the first pattern that accepts is the only one. -/
theorem find_pattern {table : List Pattern} (apart : table.Pairwise Pattern.Conflicts)
    {pattern : Pattern} (listed : pattern ∈ table) {word : BitVec 32}
    (accepted : pattern.accepts word = true) :
    (table.find? fun pattern => pattern.accepts word) = some pattern := by
  induction table with
  | nil => cases listed
  | cons first rest induction =>
      rcases List.pairwise_cons.mp apart with ⟨conflicts, later⟩
      rcases List.mem_cons.mp listed with same | listed
      · rw [← same]
        exact List.find?_cons_of_pos accepted
      · have passed := conflicts_exclude (conflicts pattern listed) accepted
        rw [List.find?_cons_of_neg (by simp [passed])]
        exact induction later listed

theorem patterns_apart : patterns.Pairwise Pattern.Conflicts := by decide

theorem decode_accepted (pattern : Pattern) (listed : pattern ∈ patterns) {word : BitVec 32}
    {instruction : Instruction} (accepted : word &&& pattern.mask = pattern.value)
    (fields : pattern.instruction word = instruction) : decode word = some instruction := by
  rw [decode, find_pattern patterns_apart listed (decide_eq_true accepted), Option.map_some, fields]

section Fields

variable {high low : Nat}

theorem outer_fields_iff {gap : Nat} (word : BitVec (high + gap + low)) (field : BitVec high)
    (other : BitVec low) :
    word &&& (BitVec.allOnes high ++ 0#(gap) ++ BitVec.allOnes low) =
        field ++ 0#(gap) ++ other ↔
      ∃ between : BitVec gap, word = field ++ between ++ other := by
  rcases word_split word with ⟨front, right, rfl⟩
  rcases word_split front with ⟨left, between, rfl⟩
  simp only [BitVec.and_append, BitVec.and_allOnes, BitVec.and_zero, append_eq_append_iff, and_true]
  constructor
  · intro same
    exact ⟨between, ⟨same.1, rfl⟩, same.2⟩
  · intro shape
    rcases shape with ⟨_, ⟨left_same, _⟩, right_same⟩
    exact ⟨left_same, right_same⟩

theorem middle_field {width : Nat} (front : BitVec high) (field : BitVec width) (rest : BitVec low) :
    (front ++ field ++ rest).extractLsb' low width = field := by
  rw [BitVec.extractLsb'_append_eq_of_le (Nat.le_refl low), Nat.sub_self,
    BitVec.extractLsb'_append_eq_right]

theorem field_behind {start width : Nat} (opcode : BitVec high) (fields : BitVec low)
    (inside : start + width ≤ low) :
    (opcode ++ fields).extractLsb' start width = fields.extractLsb' start width :=
  BitVec.extractLsb'_append_eq_of_add_le inside

theorem field_before {start width : Nat} (fields : BitVec high) (last : BitVec low) :
    (fields ++ last).extractLsb' (low + start) width = fields.extractLsb' start width := by
  rw [BitVec.extractLsb'_append_eq_of_le (Nat.le_add_right _ _), Nat.add_sub_cancel_left]

end Fields

theorem blr_word_iff (word : BitVec 32) :
    word &&& 0xFFFFFC1F#32 = 0xD63F0000#32 ↔ ∃ rn, word = encode (.blr rn) :=
  @outer_fields_iff 22 5 5 word 0b1101011000111111000000#22 0b00000#5

theorem svc_word_iff (word : BitVec 32) :
    word &&& 0xFFE0001F#32 = 0xD4000001#32 ↔ ∃ imm16, word = encode (.svc imm16) :=
  @outer_fields_iff 11 5 16 word 0b11010100000#11 0b00001#5

theorem add_imm_word_iff (word : BitVec 32) :
    word &&& 0xFF800000#32 = 0x91000000#32 ↔
      ∃ sh imm12 rn rd, word = encode (.addImm sh imm12 rn rd) := by
  apply (@leading_field_iff 9 23 word 0b100100010#9).trans
  constructor
  · intro shape
    rcases shape with ⟨fields, rfl⟩
    rcases @word_split 18 5 fields with ⟨front, rd, rfl⟩
    rcases @word_split 13 5 front with ⟨immediate, rn, rfl⟩
    rcases @word_split 1 12 immediate with ⟨sh, imm12, rfl⟩
    exact ⟨sh, imm12, rn, rd, rfl⟩
  · intro shape
    rcases shape with ⟨sh, imm12, rn, rd, same⟩
    exact ⟨_, same⟩

theorem ldr_word_iff (word : BitVec 32) :
    word &&& 0xFFC00000#32 = 0xF9400000#32 ↔ ∃ imm12 rn rt, word = encode (.ldr imm12 rn rt) := by
  apply (@leading_field_iff 10 22 word 0b1111100101#10).trans
  constructor
  · intro shape
    rcases shape with ⟨fields, rfl⟩
    rcases @word_split 17 5 fields with ⟨front, rt, rfl⟩
    rcases @word_split 12 5 front with ⟨imm12, rn, rfl⟩
    exact ⟨imm12, rn, rt, rfl⟩
  · intro shape
    rcases shape with ⟨imm12, rn, rt, same⟩
    exact ⟨_, same⟩

theorem movz_word_iff (word : BitVec 32) :
    word &&& 0xFF800000#32 = 0x52800000#32 ↔ ∃ hw imm16 rd, word = encode (.movz hw imm16 rd) := by
  apply (@leading_field_iff 9 23 word 0b010100101#9).trans
  constructor
  · intro shape
    rcases shape with ⟨fields, rfl⟩
    rcases @word_split 18 5 fields with ⟨front, rd, rfl⟩
    rcases @word_split 2 16 front with ⟨hw, imm16, rfl⟩
    exact ⟨hw, imm16, rd, rfl⟩
  · intro shape
    rcases shape with ⟨hw, imm16, rd, same⟩
    exact ⟨_, same⟩

theorem braa_word_iff (word : BitVec 32) :
    word &&& 0xFFFFFC00#32 = 0xD71F0800#32 ↔ ∃ rn rm, word = encode (.braa rn rm) := by
  apply (@leading_field_iff 22 10 word 0b1101011100011111000010#22).trans
  constructor
  · intro shape
    rcases shape with ⟨fields, rfl⟩
    rcases @word_split 5 5 fields with ⟨rn, rm, rfl⟩
    exact ⟨rn, rm, rfl⟩
  · intro shape
    rcases shape with ⟨rn, rm, same⟩
    exact ⟨_, same⟩

theorem blr_fields (rn : BitVec 5) : (encode (.blr rn)).extractLsb' 5 5 = rn :=
  middle_field _ rn _

theorem svc_fields (imm16 : BitVec 16) : (encode (.svc imm16)).extractLsb' 5 16 = imm16 :=
  middle_field _ imm16 _

theorem braa_fields (rn rm : BitVec 5) :
    (encode (.braa rn rm)).extractLsb' 5 5 = rn ∧ (encode (.braa rn rm)).extractLsb' 0 5 = rm := by
  constructor
  · exact (field_behind _ (rn ++ rm) (by decide)).trans BitVec.extractLsb'_append_eq_left
  · exact (field_behind _ (rn ++ rm) (by decide)).trans BitVec.extractLsb'_append_eq_right

theorem ldr_fields (imm12 : BitVec 12) (rn rt : BitVec 5) :
    (encode (.ldr imm12 rn rt)).extractLsb' 10 12 = imm12 ∧
      (encode (.ldr imm12 rn rt)).extractLsb' 5 5 = rn ∧
        (encode (.ldr imm12 rn rt)).extractLsb' 0 5 = rt := by
  have behind := fun start width => @field_behind 10 22 start width 0b1111100101#10 (imm12 ++ rn ++ rt)
  constructor
  · exact (behind 10 12 (by decide)).trans
      ((@field_before 17 5 5 12 (imm12 ++ rn) rt).trans BitVec.extractLsb'_append_eq_left)
  constructor
  · exact (behind 5 5 (by decide)).trans (middle_field imm12 rn rt)
  · exact (behind 0 5 (by decide)).trans BitVec.extractLsb'_append_eq_right

theorem movz_fields (hw : BitVec 2) (imm16 : BitVec 16) (rd : BitVec 5) :
    (encode (.movz hw imm16 rd)).extractLsb' 21 2 = hw ∧
      (encode (.movz hw imm16 rd)).extractLsb' 5 16 = imm16 ∧
        (encode (.movz hw imm16 rd)).extractLsb' 0 5 = rd := by
  have behind := fun start width => @field_behind 9 23 start width 0b010100101#9 (hw ++ imm16 ++ rd)
  constructor
  · exact (behind 21 2 (by decide)).trans
      ((@field_before 18 5 16 2 (hw ++ imm16) rd).trans BitVec.extractLsb'_append_eq_left)
  constructor
  · exact (behind 5 16 (by decide)).trans (middle_field hw imm16 rd)
  · exact (behind 0 5 (by decide)).trans BitVec.extractLsb'_append_eq_right

theorem add_imm_fields (sh : BitVec 1) (imm12 : BitVec 12) (rn rd : BitVec 5) :
    (encode (.addImm sh imm12 rn rd)).extractLsb' 22 1 = sh ∧
      (encode (.addImm sh imm12 rn rd)).extractLsb' 10 12 = imm12 ∧
        (encode (.addImm sh imm12 rn rd)).extractLsb' 5 5 = rn ∧
          (encode (.addImm sh imm12 rn rd)).extractLsb' 0 5 = rd := by
  have behind := fun start width =>
    @field_behind 9 23 start width 0b100100010#9 (sh ++ imm12 ++ rn ++ rd)
  have before := fun start width => @field_before 18 5 start width (sh ++ imm12 ++ rn) rd
  constructor
  · have shift := @field_before 13 5 12 1 (sh ++ imm12) rn
    exact (behind 22 1 (by decide)).trans
      ((before 17 1).trans (shift.trans BitVec.extractLsb'_append_eq_left))
  constructor
  · exact (behind 10 12 (by decide)).trans ((before 5 12).trans (middle_field sh imm12 rn))
  constructor
  · exact (behind 5 5 (by decide)).trans (middle_field (sh ++ imm12) rn rd)
  · exact (behind 0 5 (by decide)).trans BitVec.extractLsb'_append_eq_right

theorem adrp_fields (rd : BitVec 5) (imm21 : BitVec 21) :
    (encode (.adrp rd imm21)).extractLsb' 0 5 = rd ∧
      (encode (.adrp rd imm21)).extractLsb' 5 19 ++ (encode (.adrp rd imm21)).extractLsb' 29 2 =
        imm21 := by
  have immhi : (encode (.adrp rd imm21)).extractLsb' 5 19 = imm21.extractLsb' 2 19 :=
    middle_field _ (imm21.extractLsb' 2 19) rd
  have immlo : (encode (.adrp rd imm21)).extractLsb' 29 2 = imm21.extractLsb' 0 2 := by
    have behindRegister := @field_before 27 5 24 2
      (1#1 ++ imm21.extractLsb' 0 2 ++ 0b10000#5 ++ imm21.extractLsb' 2 19) rd
    have behindHigh := @field_before 8 19 5 2 (1#1 ++ imm21.extractLsb' 0 2 ++ 0b10000#5)
      (imm21.extractLsb' 2 19)
    exact behindRegister.trans (behindHigh.trans (middle_field 1#1 (imm21.extractLsb' 0 2) _))
  constructor
  · exact BitVec.extractLsb'_append_eq_right
  · rw [immhi, immlo]
    exact BitVec.extractLsb'_append_extractLsb'

theorem decode_encode (instruction : Instruction) : decode (encode instruction) = some instruction := by
  cases instruction with
  | bl imm26 =>
      apply decode_accepted blPattern (by simp [patterns]) ((bl_word_iff _).mpr ⟨imm26, rfl⟩)
      exact congrArg Instruction.bl BitVec.extractLsb'_append_eq_right
  | b imm26 =>
      apply decode_accepted bPattern (by simp [patterns]) ((b_word_iff _).mpr ⟨imm26, rfl⟩)
      exact congrArg Instruction.b BitVec.extractLsb'_append_eq_right
  | blr rn =>
      apply decode_accepted blrPattern (by simp [patterns]) ((blr_word_iff _).mpr ⟨rn, rfl⟩)
      exact congrArg Instruction.blr (blr_fields rn)
  | adrp rd imm21 =>
      have fields := adrp_fields rd imm21
      apply decode_accepted adrpPattern (by simp [patterns]) ((adrp_word_iff _).mpr ⟨rd, imm21, rfl⟩)
      exact congrArg₂ Instruction.adrp fields.1 fields.2
  | addImm sh imm12 rn rd =>
      have fields := add_imm_fields sh imm12 rn rd
      apply decode_accepted addImmPattern (by simp [patterns])
        ((add_imm_word_iff _).mpr ⟨sh, imm12, rn, rd, rfl⟩)
      simp only [addImmPattern, fields.1, fields.2.1, fields.2.2.1, fields.2.2.2]
  | ldr imm12 rn rt =>
      have fields := ldr_fields imm12 rn rt
      apply decode_accepted ldrPattern (by simp [patterns])
        ((ldr_word_iff _).mpr ⟨imm12, rn, rt, rfl⟩)
      simp only [ldrPattern, fields.1, fields.2.1, fields.2.2]
  | movz hw imm16 rd =>
      have fields := movz_fields hw imm16 rd
      apply decode_accepted movzPattern (by simp [patterns])
        ((movz_word_iff _).mpr ⟨hw, imm16, rd, rfl⟩)
      simp only [movzPattern, fields.1, fields.2.1, fields.2.2]
  | svc imm16 =>
      apply decode_accepted svcPattern (by simp [patterns]) ((svc_word_iff _).mpr ⟨imm16, rfl⟩)
      exact congrArg Instruction.svc (svc_fields imm16)
  | braa rn rm =>
      have fields := braa_fields rn rm
      apply decode_accepted braaPattern (by simp [patterns]) ((braa_word_iff _).mpr ⟨rn, rm, rfl⟩)
      exact congrArg₂ Instruction.braa fields.1 fields.2

theorem accepted_encodes {pattern : Pattern} (listed : pattern ∈ patterns) {word : BitVec 32}
    (accepted : word &&& pattern.mask = pattern.value) : ∃ instruction, word = encode instruction := by
  simp only [patterns, List.mem_cons, List.not_mem_nil, or_false] at listed
  rcases listed with rfl | rfl | rfl | rfl | rfl | rfl | rfl | rfl | rfl
  · rcases (bl_word_iff word).mp accepted with ⟨imm26, same⟩
    exact ⟨.bl imm26, same⟩
  · rcases (b_word_iff word).mp accepted with ⟨imm26, same⟩
    exact ⟨.b imm26, same⟩
  · rcases (blr_word_iff word).mp accepted with ⟨rn, same⟩
    exact ⟨.blr rn, same⟩
  · rcases (adrp_word_iff word).mp accepted with ⟨rd, imm21, same⟩
    exact ⟨.adrp rd imm21, same⟩
  · rcases (add_imm_word_iff word).mp accepted with ⟨sh, imm12, rn, rd, same⟩
    exact ⟨.addImm sh imm12 rn rd, same⟩
  · rcases (ldr_word_iff word).mp accepted with ⟨imm12, rn, rt, same⟩
    exact ⟨.ldr imm12 rn rt, same⟩
  · rcases (movz_word_iff word).mp accepted with ⟨hw, imm16, rd, same⟩
    exact ⟨.movz hw imm16 rd, same⟩
  · rcases (svc_word_iff word).mp accepted with ⟨imm16, same⟩
    exact ⟨.svc imm16, same⟩
  · rcases (braa_word_iff word).mp accepted with ⟨rn, rm, same⟩
    exact ⟨.braa rn rm, same⟩

theorem decode_eq_some_iff (word : BitVec 32) (instruction : Instruction) :
    decode word = some instruction ↔ word = encode instruction := by
  constructor
  · intro decoded
    rcases Option.map_eq_some_iff.mp decoded with ⟨pattern, found, _⟩
    have listed := List.mem_of_find?_eq_some found
    have accepted := List.find?_some found
    rcases accepted_encodes listed (of_decide_eq_true accepted) with ⟨other, same⟩
    rw [same, decode_encode] at decoded
    rw [same, Option.some.inj decoded]
  · intro same
    rw [same, decode_encode]

/-- `x` holds the registers 0 to 30; its last value is never used. -/
structure Processor where
  x : BitVec 5 → BitVec 64
  sp : BitVec 64
  pc : BitVec 64
  memory : BitVec 64 → Byte

def Processor.readX (cpu : Processor) (number : BitVec 5) : BitVec 64 :=
  if number = 31 then 0 else cpu.x number

def Processor.readXsp (cpu : Processor) (number : BitVec 5) : BitVec 64 :=
  if number = 31 then cpu.sp else cpu.x number

def Processor.writeX (cpu : Processor) (number : BitVec 5) (value : BitVec 64) : Processor :=
  if number = 31 then cpu
  else { cpu with x := Function.update cpu.x number value }

def Processor.writeXsp (cpu : Processor) (number : BitVec 5) (value : BitVec 64) : Processor :=
  if number = 31 then { cpu with sp := value }
  else { cpu with x := Function.update cpu.x number value }

def Processor.jump (cpu : Processor) (target : BitVec 64) : Processor := { cpu with pc := target }

def Processor.advance (cpu : Processor) : Processor := cpu.jump (cpu.pc + 4)

/-- The link register, with the address of the next instruction. -/
def Processor.link (cpu : Processor) : Processor := cpu.writeX 30 (cpu.pc + 4)

/-- The `w` bits from an address on, least significant byte first. -/
def Processor.read (cpu : Processor) (w : Nat) (address : BitVec 64) : BitVec w :=
  ofBytes w fun index => cpu.memory (address + BitVec.ofNat 64 index)

/-- What a step comes to: the next state, the exception that `SVC` takes, or no
instruction of the ones above. -/
inductive Effect where
  | continues (after : Processor)
  | supervisor (number : BitVec 16) (preferredReturn : BitVec 64)
  | undefined

section Execution

variable (authenticate : BitVec 64 → BitVec 64 → BitVec 64)

/-- `MOVZ` of 32 bits is undefined for a shift past them. -/
def execute (instruction : Instruction) (cpu : Processor) : Effect :=
  match instruction with
  | .bl imm26 => .continues (cpu.link.jump (branchTarget cpu.pc imm26))
  | .b imm26 => .continues (cpu.jump (branchTarget cpu.pc imm26))
  | .blr rn => .continues (cpu.link.jump (cpu.readX rn))
  | .adrp rd imm21 => .continues (cpu.writeX rd (pageTarget cpu.pc imm21)).advance
  | .addImm sh imm12 rn rd =>
      let operand : BitVec 64 := imm12.setWidth 64 <<< (if sh = 1 then 12 else 0)
      .continues (cpu.writeXsp rd (cpu.readXsp rn + operand)).advance
  | .ldr imm12 rn rt =>
      let address := cpu.readXsp rn + imm12.setWidth 64 <<< 3
      .continues (cpu.writeX rt (cpu.read 64 address)).advance
  | .movz hw imm16 rd =>
      if 2 ≤ hw.toNat then .undefined
      else
        let value : BitVec 32 := imm16.setWidth 32 <<< (16 * hw.toNat)
        .continues (cpu.writeX rd (value.setWidth 64)).advance
  | .svc imm16 => .supervisor imm16 (cpu.pc + 4)
  | .braa rn rm => .continues (cpu.jump (authenticate (cpu.readX rn) (cpu.readXsp rm)))

def step (cpu : Processor) : Effect :=
  match decode (cpu.read 32 cpu.pc) with
  | none => .undefined
  | some instruction => execute authenticate instruction cpu

def run : Nat → Processor → Option Processor
  | 0, cpu => some cpu
  | count + 1, cpu =>
      match step authenticate cpu with
      | .continues after => run count after
      | _ => none

theorem run_continues {cpu after : Processor} (count : Nat)
    (stepped : step authenticate cpu = .continues after) :
    run authenticate (count + 1) cpu = run authenticate count after := by
  rw [run, stepped]

end Execution

def Holds (cpu : Processor) (base : Nat) (bytes : Bytes) (length : Nat) : Prop :=
  ∀ index < length, cpu.memory (BitVec.ofNat 64 (base + index)) = bytes index

theorem read_held {cpu : Processor} {base length offset w : Nat} {bytes : Bytes}
    (whole : w / 8 * 8 = w) (held : Holds cpu base bytes length) (inside : offset + w / 8 ≤ length) :
    cpu.read w (BitVec.ofNat 64 (base + offset)) = load bytes offset w := by
  apply of_bytes_congr whole
  intro index bound
  rw [← BitVec.ofNat_add, Nat.add_assoc, held _ (by omega), window]

theorem step_held {authenticate : BitVec 64 → BitVec 64 → BitVec 64} {cpu : Processor}
    {base length offset : Nat} {bytes : Bytes} {instruction : Instruction}
    (held : Holds cpu base bytes length) (inside : offset + 4 ≤ length)
    (located : cpu.pc = BitVec.ofNat 64 (base + offset))
    (encoded : load bytes offset 32 = encode instruction) :
    step authenticate cpu = execute authenticate instruction cpu := by
  rw [step, located, read_held rfl held inside, encoded, decode_encode]

@[simp] theorem write_x_memory (cpu : Processor) (number : BitVec 5) (value : BitVec 64) :
    (cpu.writeX number value).memory = cpu.memory := by
  unfold Processor.writeX
  split_ifs <;> rfl

@[simp] theorem write_x_pc (cpu : Processor) (number : BitVec 5) (value : BitVec 64) :
    (cpu.writeX number value).pc = cpu.pc := by
  unfold Processor.writeX
  split_ifs <;> rfl

@[simp] theorem advance_memory (cpu : Processor) : cpu.advance.memory = cpu.memory := rfl

@[simp] theorem advance_pc (cpu : Processor) : cpu.advance.pc = cpu.pc + 4 := rfl

@[simp] theorem read_x_advance (cpu : Processor) (number : BitVec 5) :
    cpu.advance.readX number = cpu.readX number := rfl

@[simp] theorem read_xsp_advance (cpu : Processor) (number : BitVec 5) :
    cpu.advance.readXsp number = cpu.readXsp number := rfl

section Registers

variable {number : BitVec 5} (general : number ≠ 31)

include general

theorem read_x_written (cpu : Processor) (value : BitVec 64) :
    (cpu.writeX number value).readX number = value := by
  rw [Processor.writeX, if_neg general, Processor.readX, if_neg general]
  exact Function.update_self number value cpu.x

theorem read_xsp_written_x (cpu : Processor) (value : BitVec 64) :
    (cpu.writeX number value).readXsp number = value := by
  rw [Processor.writeX, if_neg general, Processor.readXsp, if_neg general]
  exact Function.update_self number value cpu.x

theorem write_xsp_general (cpu : Processor) (value : BitVec 64) :
    cpu.writeXsp number value = cpu.writeX number value := by
  rw [Processor.writeXsp, Processor.writeX, if_neg general, if_neg general]

theorem read_xsp_other (cpu : Processor) {other : BitVec 5} (different : other ≠ number)
    (value : BitVec 64) : (cpu.writeX number value).readXsp other = cpu.readXsp other := by
  simp only [Processor.writeX, if_neg general, Processor.readXsp, Function.update_of_ne different]

end Registers

theorem read_congr {first second : Processor} (same : first.memory = second.memory) (w : Nat)
    (address : BitVec 64) : first.read w address = second.read w address := by
  rw [Processor.read, same, Processor.read]

end Verbifrost.A64Processor
