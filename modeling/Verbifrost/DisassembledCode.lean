import Verbifrost.A64Processor
import Verbifrost.OpsDisassembly

/-!
# What the printed lines say about the code

The listings of `disasm_bl` and of the helper loop as functions of the decoded
instructions, and each line against the step that the processor takes at its
address. For the stubs, the entry that `decode_plt.py` computes against the
address that the four instructions load from.
-/

namespace Verbifrost.DisassembledCode

open Verbifrost.ByteMemory Verbifrost.FileBytes Verbifrost.A64Encoding Verbifrost.A64Processor
  Verbifrost.OpsDisassembly

set_option autoImplicit false

/-- The line for an instruction, with the word it was decoded from. -/
def lineOf (pc : Nat) (insn : BitVec 32) : Instruction → Option Report
  | .bl imm26 => some (.bl (pc + 4 * imm26.toInt) insn)
  | .b imm26 => some (.b (pc + 4 * imm26.toInt) insn)
  | .blr rn => some (.blr rn.toNat insn)
  | .adrp rd imm21 => some (.adrp rd.toNat ((pc / 4096 * 4096 : Nat) + 4096 * imm21.toInt))
  | .movz _ imm16 rd => if imm16 = 0 then none else some (.movz rd.toNat imm16.toNat)
  | .svc imm16 => some (.svc imm16.toNat)
  | .addImm .. => none
  | .ldr .. => none
  | .braa .. => none

theorem masked_field (word : BitVec 32) (start width : Nat) (mask : BitVec 32)
    (ones : mask.toNat = 2 ^ width - 1) :
    ((word >>> start) &&& mask).toNat = (word.extractLsb' start width).toNat := by
  rw [BitVec.toNat_and, BitVec.toNat_ushiftRight, ones, Nat.and_two_pow_sub_one_eq_mod,
    BitVec.extractLsb'_toNat]

theorem movz_found (hw : BitVec 2) (imm16 : BitVec 16) (rd : BitVec 5) :
    ((encode (.movz hw imm16 rd) >>> 5) &&& 0xFFFF#32).toNat = imm16.toNat ∧
      (encode (.movz hw imm16 rd) &&& 0x1F#32).toNat = rd.toNat := by
  have fields := movz_fields hw imm16 rd
  have register := masked_field (encode (.movz hw imm16 rd)) 0 5 0x1F#32 rfl
  rw [BitVec.ushiftRight_zero] at register
  constructor
  · rw [masked_field _ 5 16 0xFFFF#32 rfl, fields.2.1]
  · rw [register, fields.2.2]

theorem movz_immediate_iff (hw : BitVec 2) (imm16 : BitVec 16) (rd : BitVec 5) :
    (encode (.movz hw imm16 rd) >>> 5) &&& 0xFFFF#32 ≠ 0#32 ↔ imm16 ≠ 0 := by
  have found := (movz_found hw imm16 rd).1
  rw [Ne, Ne, ← BitVec.toNat_inj, found, ← BitVec.toNat_inj (x := imm16)]
  rfl

theorem unlisted (pc : Nat) {insn : BitVec 32}
    (passed : ∀ pattern ∈ [blPattern, bPattern, blrPattern, adrpPattern, movzPattern, svcPattern],
      ¬insn &&& pattern.mask = pattern.value) : (decode insn).bind (lineOf pc insn) = none := by
  simp only [List.forall_mem_cons] at passed
  rcases passed with ⟨bl, b, blr, adrp, movz, svc, _⟩
  rcases decoded : decode insn with _ | instruction
  · rfl
  · have same := (decode_eq_some_iff insn instruction).mp decoded
    cases instruction with
    | bl imm26 => exact absurd ((bl_word_iff insn).mpr ⟨imm26, same⟩) bl
    | b imm26 => exact absurd ((b_word_iff insn).mpr ⟨imm26, same⟩) b
    | blr rn => exact absurd ((blr_word_iff insn).mpr ⟨rn, same⟩) blr
    | adrp rd imm21 => exact absurd ((adrp_word_iff insn).mpr ⟨rd, imm21, same⟩) adrp
    | movz hw imm16 rd => exact absurd ((movz_word_iff insn).mpr ⟨hw, imm16, rd, same⟩) movz
    | svc imm16 => exact absurd ((svc_word_iff insn).mpr ⟨imm16, same⟩) svc
    | addImm sh imm12 rn rd => rfl
    | ldr imm12 rn rt => rfl
    | braa rn rm => rfl

theorem disasm_insn_decoded (pc : Nat) (insn : BitVec 32) :
    disasmInsn pc insn = (decode insn).bind (lineOf pc insn) := by
  have decoded := fun instruction => (decode_eq_some_iff insn instruction).mpr
  rw [disasmInsn]
  by_cases bl : insn &&& 0xFC000000#32 = 0x94000000#32
  · rcases (bl_word_iff insn).mp bl with ⟨imm26, same⟩
    rw [if_pos bl, decoded (.bl imm26) same, call_target_of _ imm26 same]
    rfl
  rw [if_neg bl]
  by_cases blr : insn &&& 0xFFFFFC1F#32 = 0xD63F0000#32
  · rcases (blr_word_iff insn).mp blr with ⟨rn, same⟩
    rw [if_pos blr, decoded (.blr rn) same, masked_field insn 5 5 0x1F#32 rfl, same, blr_fields]
    rfl
  rw [if_neg blr]
  by_cases b : insn &&& 0xFC000000#32 = 0x14000000#32
  · rcases (b_word_iff insn).mp b with ⟨imm26, same⟩
    rw [if_pos b, decoded (.b imm26) same, call_target_of _ imm26 same]
    rfl
  rw [if_neg b]
  by_cases adrp : insn &&& 0x9F000000#32 = 0x90000000#32
  · rcases (adrp_word_iff insn).mp adrp with ⟨rd, imm21, same⟩
    rw [if_pos adrp, decoded (.adrp rd imm21) same, same, adrp_register, adrp_page_of]
    rfl
  rw [if_neg adrp]
  by_cases movz : insn &&& 0xFF800000#32 = 0x52800000#32
  · rcases (movz_word_iff insn).mp movz with ⟨hw, imm16, rd, same⟩
    have found := movz_found hw imm16 rd
    have tested := movz_immediate_iff hw imm16 rd
    rw [if_pos movz, decoded (.movz hw imm16 rd) same, same]
    dsimp only
    by_cases immediate : imm16 = 0
    · rw [if_neg (fun filled => tested.mp filled immediate), Option.bind_some, lineOf,
        if_pos immediate]
    · rw [if_pos (tested.mpr immediate), Option.bind_some, lineOf, if_neg immediate, found.1,
        found.2]
  rw [if_neg movz]
  by_cases svc : insn &&& 0xFFE0001F#32 = 0xD4000001#32
  · rcases (svc_word_iff insn).mp svc with ⟨imm16, same⟩
    rw [if_pos svc, decoded (.svc imm16) same, masked_field insn 5 16 0xFFFF#32 rfl, same, svc_fields]
    rfl
  rw [if_neg svc, unlisted]
  simp only [List.forall_mem_cons]
  exact ⟨bl, b, blr, adrp, movz, svc, fun _ none => absurd none (List.not_mem_nil)⟩

def helperReport : Report → Option HelperReport
  | .bl target _ => some (.bl target)
  | .movz rd imm16 => some (.movz rd imm16)
  | _ => none

theorem helper_insn_decoded (pc : Nat) (insn : BitVec 32) :
    helperInsn pc insn = (disasmInsn pc insn).bind helperReport := by
  have decoded := fun instruction => (decode_eq_some_iff insn instruction).mpr
  rw [disasm_insn_decoded, helperInsn]
  by_cases bl : insn &&& 0xFC000000#32 = 0x94000000#32
  · rcases (bl_word_iff insn).mp bl with ⟨imm26, same⟩
    rw [if_pos bl, decoded (.bl imm26) same, call_target_of _ imm26 same]
    rfl
  rw [if_neg bl]
  by_cases movz : insn &&& 0xFF800000#32 = 0x52800000#32
  · rcases (movz_word_iff insn).mp movz with ⟨hw, imm16, rd, same⟩
    have found := movz_found hw imm16 rd
    have tested := movz_immediate_iff hw imm16 rd
    rw [if_pos movz, decoded (.movz hw imm16 rd) same, same]
    dsimp only
    by_cases immediate : imm16 = 0
    · rw [if_neg (fun filled => tested.mp filled immediate), Option.bind_some, lineOf,
        if_pos immediate, Option.bind_none]
    · rw [if_pos (tested.mpr immediate), Option.bind_some, lineOf, if_neg immediate, found.1,
        found.2]
      rfl
  rw [if_neg movz]
  rcases other : decode insn with _ | instruction
  · rfl
  · have same := (decode_eq_some_iff insn instruction).mp other
    cases instruction with
    | bl imm26 => exact absurd ((bl_word_iff insn).mpr ⟨imm26, same⟩) bl
    | movz hw imm16 rd => exact absurd ((movz_word_iff insn).mpr ⟨hw, imm16, rd, same⟩) movz
    | _ => rfl

def listing {Line : Type} (visit : Nat → BitVec 32 → Option Line) (raw : ByteString)
    (base start count : Nat) : List (Nat × Line) :=
  (List.range' start count).filterMap fun index =>
    (visit (base + 4 * index) (load (contents raw) (4 * index) 32)).map fun line =>
      (base + 4 * index, line)

theorem listing_succ {Line : Type} (visit : Nat → BitVec 32 → Option Line) (raw : ByteString)
    (base start count : Nat) :
    listing visit raw base start (count + 1) =
      ((visit (base + 4 * start) (load (contents raw) (4 * start) 32)).map fun line =>
        (base + 4 * start, line)).toList ++ listing visit raw base (start + 1) count := by
  rw [listing, List.range'_succ, List.filterMap_cons]
  cases visit (base + 4 * start) (load (contents raw) (4 * start) 32) <;> rfl

theorem each_insn_whole {Line : Type} (visit : Nat → BitVec 32 → Option Line) (raw : ByteString)
    (base start count : Nat) (rest : List Nat) (inside : 4 * (start + count) ≤ raw.length) :
    eachInsn visit raw base (List.range' (4 * start) count 4 ++ rest) =
      ⟨listing visit raw base start count ++ (eachInsn visit raw base rest).lines,
        (eachInsn visit raw base rest).completed⟩ := by
  induction count generalizing start with
  | zero => rfl
  | succ count induction =>
      have unpacked : unpackLE 32 raw (4 * start) = some (load (contents raw) (4 * start) 32) :=
        unpack_inside (by omega)
      have later := induction (start + 1) (by omega)
      rw [Nat.mul_add, Nat.mul_one] at later
      rw [List.range'_succ, List.cons_append, eachInsn, unpacked]
      dsimp only
      rw [later, listing_succ, List.append_assoc]

theorem each_insn_listing {Line : Type} (visit : Nat → BitVec 32 → Option Line) (raw : ByteString)
    (base : Nat) :
    eachInsn visit raw base (insnOffsets raw.length) =
      ⟨listing visit raw base 0 (raw.length / 4), decide (raw.length % 4 = 0)⟩ := by
  have inside : 4 * (0 + raw.length / 4) ≤ raw.length := by omega
  have whole := fun rest => each_insn_whole visit raw base 0 (raw.length / 4) rest inside
  by_cases aligned : raw.length % 4 = 0
  · have offsets : insnOffsets raw.length = List.range' (4 * 0) (raw.length / 4) 4 ++ [] := by
      rw [insnOffsets, List.append_nil]
      congr 1
      omega
    rw [offsets, whole, decide_eq_true aligned, eachInsn, List.append_nil]
  · have offsets : insnOffsets raw.length =
        List.range' (4 * 0) (raw.length / 4) 4 ++ [4 * (raw.length / 4)] := by
      have count : (raw.length + 3) / 4 = raw.length / 4 + 1 := by omega
      rw [insnOffsets, count, List.range'_concat, Nat.zero_add]
    have cut : unpackLE 32 raw (4 * (raw.length / 4)) = none := if_neg (by omega)
    rw [offsets, whole, decide_eq_false aligned, eachInsn, cut, List.append_nil]

structure ListsDecoded (raw : ByteString) (base : Nat) : Prop where
  disasm : disasmBl raw base =
    ⟨listing (fun pc insn => (decode insn).bind (lineOf pc insn)) raw base 0 (raw.length / 4),
      decide (raw.length % 4 = 0)⟩
  helper : decodeHelper raw base =
    ⟨(disasmBl raw base).lines.filterMap fun (pc, line) =>
        (helperReport line).map fun report => (pc, report),
      (disasmBl raw base).completed⟩

theorem listings_decoded (raw : ByteString) (base : Nat) : ListsDecoded raw base where
  disasm := by
    rw [disasmBl, each_insn_listing]
    congr 2
    funext pc insn
    exact disasm_insn_decoded pc insn
  helper := by
    rw [decodeHelper, disasmBl, each_insn_listing, each_insn_listing]
    congr 1
    rw [listing, listing, List.filterMap_filterMap]
    congr 1
    funext index
    rw [helper_insn_decoded]
    cases disasmInsn (base + 4 * index) (load (contents raw) (4 * index) 32) with
    | none => rfl
    | some line => rfl

/-- What a line promises of the step at its address. -/
def Promises (line : Report) (cpu : Processor) (effect : Effect) : Prop :=
  match line with
  | .bl target _ => effect = .continues (cpu.link.jump (BitVec.ofInt 64 target))
  | .blr rn _ => effect = .continues (cpu.link.jump (cpu.readX (BitVec.ofNat 5 rn)))
  | .b target _ => effect = .continues (cpu.jump (BitVec.ofInt 64 target))
  | .adrp rd page =>
      effect = .continues (cpu.writeX (BitVec.ofNat 5 rd) (BitVec.ofInt 64 page)).advance
  | .movz rd imm16 =>
      effect = .continues (cpu.writeX (BitVec.ofNat 5 rd) (BitVec.ofNat 64 imm16)).advance
  | .svc number => effect = .supervisor (BitVec.ofNat 16 number) (cpu.pc + 4)

/-- A `MOVZ` with a shift. Into the zero register a shift makes no difference
as long as there is such an instruction. -/
def ShiftedMove (insn : BitVec 32) : Prop :=
  ∃ hw imm16 rd, insn = encode (.movz hw imm16 rd) ∧ hw ≠ 0 ∧ (rd = 31 → 2 ≤ hw.toNat)

theorem encode_injective {left right : Instruction} (same : encode left = encode right) :
    left = right := by
  have decoded := decode_encode left
  rw [same, decode_encode] at decoded
  exact (Option.some.inj decoded).symm

theorem shifted_move_iff (hw : BitVec 2) (imm16 : BitVec 16) (rd : BitVec 5) :
    ShiftedMove (encode (.movz hw imm16 rd)) ↔ hw ≠ 0 ∧ (rd = 31 → 2 ≤ hw.toNat) := by
  constructor
  · intro shifted
    rcases shifted with ⟨_, _, _, same, condition⟩
    cases encode_injective same
    exact condition
  · intro condition
    exact ⟨hw, imm16, rd, rfl, condition⟩

theorem shifted_value_differs {hw : BitVec 2} {imm16 : BitVec 16} (shifted : hw ≠ 0)
    (small : ¬2 ≤ hw.toNat) (filled : imm16 ≠ 0) :
    ((imm16.setWidth 32 <<< (16 * hw.toNat) : BitVec 32).setWidth 64) ≠
      BitVec.ofNat 64 imm16.toNat := by
  have one : hw.toNat = 1 := by
    have positive : hw.toNat ≠ 0 := fun none => shifted (BitVec.eq_of_toNat_eq none)
    omega
  have bound := imm16.isLt
  have positive : imm16.toNat ≠ 0 := fun none => filled (BitVec.eq_of_toNat_eq none)
  intro same
  have values := congrArg BitVec.toNat same
  rw [one, BitVec.toNat_setWidth, BitVec.toNat_shiftLeft, BitVec.toNat_setWidth, BitVec.toNat_ofNat,
    Nat.shiftLeft_eq] at values
  omega

section Steps

variable {authenticate : BitVec 64 → BitVec 64 → BitVec 64}

theorem movz_promised_iff (hw : BitVec 2) {imm16 : BitVec 16} (rd : BitVec 5) (cpu : Processor)
    (filled : imm16 ≠ 0) :
    Promises (.movz rd.toNat imm16.toNat) cpu (execute authenticate (.movz hw imm16 rd) cpu) ↔
      ¬ShiftedMove (encode (.movz hw imm16 rd)) := by
  have register : BitVec.ofNat 5 rd.toNat = rd := BitVec.eq_of_toNat_eq (Nat.mod_eq_of_lt rd.isLt)
  rw [shifted_move_iff, Promises, execute, register]
  by_cases large : 2 ≤ hw.toNat
  · have shifted : hw ≠ 0 := by
      intro none
      rw [none] at large
      exact absurd large (by decide)
    rw [if_pos large]
    exact iff_of_false Effect.noConfusion (not_not.mpr ⟨shifted, fun _ => large⟩)
  rw [if_neg large]
  dsimp only
  by_cases zero : rd = 31
  · have ignored : ∀ value, cpu.writeX rd value = cpu := fun value => if_pos zero
    rw [ignored, ignored]
    exact iff_of_true rfl fun shift => large (shift.2 zero)
  by_cases unshifted : hw = 0
  · have value : ((imm16.setWidth 32 <<< (16 * hw.toNat) : BitVec 32).setWidth 64) =
        BitVec.ofNat 64 imm16.toNat := by
      have bound := imm16.isLt
      rw [unshifted]
      apply BitVec.eq_of_toNat_eq
      simp
    rw [value]
    exact iff_of_true rfl fun shift => shift.1 unshifted
  · have differs := shifted_value_differs unshifted large filled
    have promised : Effect.continues (cpu.writeX rd
        ((imm16.setWidth 32 <<< (16 * hw.toNat) : BitVec 32).setWidth 64)).advance ≠
          .continues (cpu.writeX rd (BitVec.ofNat 64 imm16.toNat)).advance := by
      intro same
      injection same with same
      have registers := congrArg (fun cpu => cpu.readX rd) same
      simp only [read_x_advance, read_x_written zero] at registers
      exact differs registers
    exact iff_of_false promised (not_not.mpr ⟨unshifted, fun none => absurd none zero⟩)

theorem line_promised_iff {instruction : Instruction} {line : Report} (cpu : Processor) (pc : Nat)
    (located : cpu.pc = BitVec.ofNat 64 pc)
    (listed : lineOf pc (encode instruction) instruction = some line) :
    Promises line cpu (execute authenticate instruction cpu) ↔ ¬ShiftedMove (encode instruction) := by
  have plain : (∀ hw imm16 rd, instruction ≠ .movz hw imm16 rd) →
      ¬ShiftedMove (encode instruction) := by
    intro other shifted
    rcases shifted with ⟨hw, imm16, rd, same, _⟩
    exact other hw imm16 rd (encode_injective same)
  have register : ∀ number : BitVec 5, BitVec.ofNat 5 number.toNat = number := fun number =>
    BitVec.eq_of_toNat_eq (Nat.mod_eq_of_lt number.isLt)
  cases instruction with
  | bl imm26 =>
      cases listed
      refine iff_of_true ?_ (plain fun _ _ _ => Instruction.noConfusion)
      rw [Promises, execute, located, branch_target_int]
  | b imm26 =>
      cases listed
      refine iff_of_true ?_ (plain fun _ _ _ => Instruction.noConfusion)
      rw [Promises, execute, located, branch_target_int]
  | blr rn =>
      cases listed
      refine iff_of_true ?_ (plain fun _ _ _ => Instruction.noConfusion)
      rw [Promises, execute, register]
  | adrp rd imm21 =>
      cases listed
      refine iff_of_true ?_ (plain fun _ _ _ => Instruction.noConfusion)
      rw [Promises, execute, located, page_target_int, register]
  | movz hw imm16 rd =>
      by_cases filled : imm16 = 0
      · rw [lineOf, if_pos filled] at listed
        cases listed
      · rw [lineOf, if_neg filled] at listed
        cases listed
        exact movz_promised_iff hw rd cpu filled
  | svc imm16 =>
      cases listed
      refine iff_of_true ?_ (plain fun _ _ _ => Instruction.noConfusion)
      have number : BitVec.ofNat 16 imm16.toNat = imm16 :=
        BitVec.eq_of_toNat_eq (Nat.mod_eq_of_lt imm16.isLt)
      rw [Promises, execute, number]
  | addImm sh imm12 rn rd => cases listed
  | ldr imm12 rn rt => cases listed
  | braa rn rm => cases listed

/-- Every line, for code that lies in memory where the listing says. -/
theorem lines_promised_iff {raw : ByteString} {base index : Nat} {line : Report} {cpu : Processor}
    (printed : (base + 4 * index, line) ∈ (disasmBl raw base).lines)
    (held : Holds cpu base (contents raw) raw.length)
    (located : cpu.pc = BitVec.ofNat 64 (base + 4 * index)) :
    Promises line cpu (step authenticate cpu) ↔
      ¬ShiftedMove (load (contents raw) (4 * index) 32) := by
  rcases (printed_iff disasmInsn raw base index line).mp printed with ⟨insn, unpacked, visited⟩
  have inside := unpack_some_inside unpacked
  rw [disasm_insn_decoded] at visited
  rcases Option.bind_eq_some_iff.mp visited with ⟨instruction, decoded, listed⟩
  have same := (decode_eq_some_iff insn instruction).mp decoded
  have word := (unpack_some_load unpacked).trans same
  rw [same] at listed
  rw [step_held held inside located word, word]
  exact line_promised_iff cpu _ located listed

end Steps

/-- A processor about to run the code, the registers all zero. -/
def loadedAt (base : Nat) (raw : ByteString) : Processor where
  x := fun _ => 0
  sp := 0
  pc := BitVec.ofNat 64 base
  memory := fun address => contents raw (address.toNat - base)

theorem loaded_at_holds {base : Nat} {raw : ByteString} (inside : base + raw.length ≤ 2 ^ 64) :
    Holds (loadedAt base raw) base (contents raw) raw.length := by
  intro index bound
  have place : (BitVec.ofNat 64 (base + index)).toNat - base = index := by
    rw [BitVec.toNat_ofNat, Nat.mod_eq_of_lt (by omega), Nat.add_sub_cancel_left]
  exact congrArg (contents raw) place

/-- `MOVZ w0, #1, LSL #16` is printed without the shift. -/
theorem shifted_move_misprinted :
    (0x4000, Report.movz 0 1) ∈ (disasmBl [0x20, 0x00, 0xA0, 0x52] 0x4000).lines ∧
      ¬Promises (.movz 0 1) (loadedAt 0x4000 [0x20, 0x00, 0xA0, 0x52])
        (step (fun pointer _ => pointer) (loadedAt 0x4000 [0x20, 0x00, 0xA0, 0x52])) := by
  have printed : (0x4000 + 4 * 0, Report.movz 0 1) ∈
      (disasmBl [0x20, 0x00, 0xA0, 0x52] 0x4000).lines := by decide
  refine ⟨printed, ?_⟩
  rw [lines_promised_iff printed (loaded_at_holds (by decide)) rfl, not_not]
  exact ⟨1, 1, 0, by decide, by decide, by decide⟩

/-- The page of the pointer, the pointer, the function behind it, the branch. -/
def stubCode (pointer target : BitVec 5) (imm21 : BitVec 21) (sh : BitVec 1) (imm12 : BitVec 12) :
    List Instruction :=
  [.adrp pointer imm21, .addImm sh imm12 pointer pointer, .ldr 0 pointer target,
    .braa target pointer]

def stubEntry (base : Nat) (imm21 : BitVec 21) (sh : BitVec 1) (imm12 : BitVec 12) : BitVec 64 :=
  pageTarget (BitVec.ofNat 64 base) imm21 + imm12.setWidth 64 <<< (if sh = 1 then 12 else 0)

/-- The first words of the string are those of the instructions. -/
def CodeAt (raw : ByteString) (code : List Instruction) : Prop :=
  4 * code.length ≤ raw.length ∧
    ∀ index (inside : index < code.length), load (contents raw) (4 * index) 32 = encode code[index]

section Stub

variable (authenticate : BitVec 64 → BitVec 64 → BitVec 64) {raw : ByteString} {base : Nat}
  {pointer target : BitVec 5} {imm21 : BitVec 21} {sh : BitVec 1} {imm12 : BitVec 12}
  {cpu : Processor}

/-- After two steps the pointer register holds the entry, after four the
processor is where the entry sends it. -/
structure StubRuns (cpu : Processor) (pointer : BitVec 5) (entry : BitVec 64) : Prop where
  points : (run authenticate 2 cpu).map (fun after => after.readX pointer) = some entry
  branches : (run authenticate 4 cpu).map Processor.pc =
    some (authenticate (cpu.read 64 entry) entry)

theorem code_step {code : List Instruction} (placed : CodeAt raw code)
    (held : Holds cpu base (contents raw) raw.length) (now : Processor)
    (unwritten : now.memory = cpu.memory)
    (index : Nat) (inside : index < code.length)
    (located : now.pc = BitVec.ofNat 64 (base + 4 * index)) :
    step authenticate now = execute authenticate code[index] now := by
  have heldNow : Holds now base (contents raw) raw.length := by
    intro offset bound
    rw [unwritten, held offset bound]
  have room := placed.1
  exact step_held heldNow (by omega) located (placed.2 index inside)

/-- The processor after the first, the second and the third instruction. -/
def paged (cpu : Processor) (pointer : BitVec 5) (imm21 : BitVec 21) : Processor :=
  (cpu.writeX pointer (pageTarget cpu.pc imm21)).advance

def pointed (cpu : Processor) (pointer : BitVec 5) (imm21 : BitVec 21) (entry : BitVec 64) :
    Processor :=
  ((paged cpu pointer imm21).writeX pointer entry).advance

def loaded (cpu : Processor) (pointer target : BitVec 5) (imm21 : BitVec 21) (entry : BitVec 64) :
    Processor :=
  ((pointed cpu pointer imm21 entry).writeX target (cpu.read 64 entry)).advance

theorem stub_states_located (located : cpu.pc = BitVec.ofNat 64 base) (pointer target : BitVec 5)
    (imm21 : BitVec 21) (entry : BitVec 64) :
    (paged cpu pointer imm21).pc = BitVec.ofNat 64 (base + 4 * 1) ∧
      (pointed cpu pointer imm21 entry).pc = BitVec.ofNat 64 (base + 4 * 2) ∧
        (loaded cpu pointer target imm21 entry).pc = BitVec.ofNat 64 (base + 4 * 3) := by
  have next : ∀ address, BitVec.ofNat 64 address + 4 = BitVec.ofNat 64 (address + 4) := by
    intro address
    rw [BitVec.ofNat_add address 4]
    rfl
  simp only [loaded, pointed, paged, advance_pc, write_x_pc, located, next, Nat.add_assoc,
    Nat.reduceMul, Nat.reduceAdd, and_self]

theorem stub_states_memory (cpu : Processor) (pointer target : BitVec 5) (imm21 : BitVec 21)
    (entry : BitVec 64) :
    (paged cpu pointer imm21).memory = cpu.memory ∧
      (pointed cpu pointer imm21 entry).memory = cpu.memory ∧
        (loaded cpu pointer target imm21 entry).memory = cpu.memory := by
  simp only [loaded, pointed, paged, advance_memory, write_x_memory, and_self]

theorem paged_page (cpu : Processor) (usesPointer : pointer ≠ 31) (imm21 : BitVec 21) :
    (paged cpu pointer imm21).readXsp pointer = pageTarget cpu.pc imm21 := by
  simp only [paged, read_xsp_advance, read_xsp_written_x usesPointer]

theorem pointed_entry (cpu : Processor) (usesPointer : pointer ≠ 31) (imm21 : BitVec 21)
    (entry : BitVec 64) :
    (pointed cpu pointer imm21 entry).readXsp pointer = entry ∧
      (pointed cpu pointer imm21 entry).readX pointer = entry := by
  simp only [pointed, read_xsp_advance, read_x_advance, read_xsp_written_x usesPointer,
    read_x_written usesPointer, and_self]

theorem loaded_target (cpu : Processor) (usesPointer : pointer ≠ 31) (usesTarget : target ≠ 31)
    (different : pointer ≠ target) (imm21 : BitVec 21) (entry : BitVec 64) :
    (loaded cpu pointer target imm21 entry).readX target = cpu.read 64 entry ∧
      (loaded cpu pointer target imm21 entry).readXsp pointer = entry := by
  simp only [loaded, read_x_advance, read_xsp_advance, read_x_written usesTarget,
    read_xsp_other usesTarget _ different, (pointed_entry cpu usesPointer imm21 entry).1, and_self]

theorem stub_runs (code : CodeAt raw (stubCode pointer target imm21 sh imm12))
    (held : Holds cpu base (contents raw) raw.length) (located : cpu.pc = BitVec.ofNat 64 base)
    (usesPointer : pointer ≠ 31) (usesTarget : target ≠ 31) (different : pointer ≠ target) :
    StubRuns authenticate cpu pointer (stubEntry base imm21 sh imm12) := by
  have stepped := code_step authenticate code held
  have states := stub_states_located located pointer target imm21 (stubEntry base imm21 sh imm12)
  have memory := stub_states_memory cpu pointer target imm21 (stubEntry base imm21 sh imm12)
  have entry := pointed_entry cpu usesPointer imm21 (stubEntry base imm21 sh imm12)
  have first : step authenticate cpu = .continues (paged cpu pointer imm21) :=
    stepped cpu rfl 0 (by simp [stubCode]) located
  have second : step authenticate (paged cpu pointer imm21) =
      .continues (pointed cpu pointer imm21 (stubEntry base imm21 sh imm12)) := by
    have page := paged_page cpu usesPointer imm21
    rw [located] at page
    rw [stepped _ memory.1 1 (by simp [stubCode]) states.1]
    show Effect.continues ((paged cpu pointer imm21).writeXsp pointer
      ((paged cpu pointer imm21).readXsp pointer + _)).advance = _
    rw [page, write_xsp_general usesPointer]
    rfl
  have third : step authenticate (pointed cpu pointer imm21 (stubEntry base imm21 sh imm12)) =
      .continues (loaded cpu pointer target imm21 (stubEntry base imm21 sh imm12)) := by
    have offset : (0 : BitVec 12).setWidth 64 <<< 3 = 0#64 := rfl
    rw [stepped _ memory.2.1 2 (by simp [stubCode]) states.2.1]
    show Effect.continues (Processor.writeX _ target
      (Processor.read _ 64 (Processor.readXsp _ pointer + (0 : BitVec 12).setWidth 64 <<< 3))).advance = _
    rw [entry.1, read_congr memory.2.1, offset, BitVec.add_zero]
    rfl
  have fourth : step authenticate (loaded cpu pointer target imm21 (stubEntry base imm21 sh imm12)) =
      .continues ((loaded cpu pointer target imm21 (stubEntry base imm21 sh imm12)).jump
        (authenticate (cpu.read 64 (stubEntry base imm21 sh imm12)) (stubEntry base imm21 sh imm12))) := by
    have registers := loaded_target cpu usesPointer usesTarget different imm21
      (stubEntry base imm21 sh imm12)
    rw [stepped _ memory.2.2 3 (by simp [stubCode]) states.2.2]
    show Effect.continues (Processor.jump _ (authenticate (Processor.readX _ target)
      (Processor.readXsp _ pointer))) = _
    rw [registers.1, registers.2]
  constructor
  · rw [run_continues authenticate 1 first, run_continues authenticate 0 second, run,
      Option.map_some, entry.2]
  · rw [run_continues authenticate 3 first, run_continues authenticate 2 second,
      run_continues authenticate 1 third, run_continues authenticate 0 fourth, run]
    rfl

theorem decode_stub_code (code : CodeAt raw (stubCode pointer target imm21 sh imm12)) (base : Nat) :
    decodeStub raw base = some (some
      ⟨(base / 4096 * 4096 : Nat) + 4096 * imm21.toInt, imm12.toNat,
        (base / 4096 * 4096 : Nat) + 4096 * imm21.toInt + imm12.toNat⟩) := by
  have long : 16 ≤ raw.length := code.1
  have adrp : load (contents raw) 0 32 = encode (.adrp pointer imm21) :=
    code.2 0 (by simp [stubCode])
  have add : load (contents raw) 4 32 = encode (.addImm sh imm12 pointer pointer) :=
    code.2 1 (by simp [stubCode])
  have tested := (adrp_word_iff _).mpr ⟨pointer, imm21, adrp⟩
  have offset := masked_field (encode (.addImm sh imm12 pointer pointer)) 10 12 0xFFF#32 rfl
  have fields := add_imm_fields sh imm12 pointer pointer
  have page : adrpPage base (load (contents raw) 0 32) =
      (base / 4096 * 4096 : Nat) + 4096 * imm21.toInt := by
    rw [adrp]
    exact adrp_page_of pointer imm21 base
  rw [fields.2.1, ← add] at offset
  rw [decodeStub, stub_words, if_pos long]
  simp only [Option.bind_eq_bind, Option.bind_some, List.map_cons, List.getD_cons_zero,
    List.getD_cons_succ, if_pos tested, page, offset]
  rfl

theorem shifted_offset_iff (sh : BitVec 1) (imm12 : BitVec 12) :
    imm12.setWidth 64 = (imm12.setWidth 64 <<< (if sh = 1 then 12 else 0) : BitVec 64) ↔
      sh = 0 ∨ imm12 = 0 := by
  have bound := imm12.isLt
  have value : imm12 = 0 ↔ imm12.toNat = 0 := by
    rw [← BitVec.toNat_inj]
    rfl
  by_cases shifted : sh = 1
  · have other : sh ≠ 0 := by
      rw [shifted]
      decide
    rw [if_pos shifted, ← BitVec.toNat_inj, BitVec.toNat_shiftLeft, BitVec.toNat_setWidth,
      Nat.shiftLeft_eq, value]
    simp only [other, false_or]
    omega
  · have unshifted : sh = 0 := by
      have bit := sh.isLt
      have single : sh.toNat ≠ 1 := fun one => shifted (BitVec.eq_of_toNat_eq one)
      exact BitVec.eq_of_toNat_eq (show sh.toNat = 0 by omega)
    rw [if_neg shifted, BitVec.shiftLeft_zero]
    exact iff_of_true rfl (Or.inl unshifted)

theorem stub_address_iff (code : CodeAt raw (stubCode pointer target imm21 sh imm12)) (base : Nat) :
    ∃ stub, decodeStub raw base = some (some stub) ∧
      (BitVec.ofInt 64 stub.gotAddr = stubEntry base imm21 sh imm12 ↔ sh = 0 ∨ imm12 = 0) := by
  refine ⟨_, decode_stub_code code base, ?_⟩
  have offset : BitVec.ofNat 64 imm12.toNat = imm12.setWidth 64 := BitVec.ofNat_toNat 64 imm12
  rw [BitVec.ofInt_add, BitVec.ofInt_natCast, ← page_target_int, offset, stubEntry,
    BitVec.add_right_inj, shifted_offset_iff]

/-- The stub branches through its entry, and the address that is printed is that
of the entry unless the offset is shifted. -/
theorem stub_dispatches (code : CodeAt raw (stubCode pointer target imm21 sh imm12))
    (held : Holds cpu base (contents raw) raw.length) (located : cpu.pc = BitVec.ofNat 64 base)
    (usesPointer : pointer ≠ 31) (usesTarget : target ≠ 31) (different : pointer ≠ target) :
    StubRuns authenticate cpu pointer (stubEntry base imm21 sh imm12) ∧
      ∃ stub, decodeStub raw base = some (some stub) ∧
        (BitVec.ofInt 64 stub.gotAddr = stubEntry base imm21 sh imm12 ↔ sh = 0 ∨ imm12 = 0) :=
  ⟨stub_runs authenticate code held located usesPointer usesTarget different,
    stub_address_iff code base⟩

end Stub

/-- The stub of `target_0b0d8`, with the registers 17 and 16. -/
def targetStub : ByteString :=
  [0x51, 0xd5, 0x0a, 0xf0, 0x31, 0xc2, 0x1c, 0x91, 0x30, 0x02, 0x40, 0xf9, 0x11, 0x0a, 0x1f, 0xd7]

theorem target_stub_dispatches :
    StubRuns (fun pointer _ => pointer) (loadedAt 0x28af0b0d8 targetStub) 17 0x2a09b6730 ∧
      ∃ stub, decodeStub targetStub 0x28af0b0d8 = some (some stub) ∧
        BitVec.ofInt 64 stub.gotAddr = 0x2a09b6730#64 := by
  have code : CodeAt targetStub (stubCode 17 16 0x15AAB 0 0x730) := by
    refine ⟨by decide, ?_⟩
    decide
  have held := @loaded_at_holds 0x28af0b0d8 targetStub (by decide)
  have entry : stubEntry 0x28af0b0d8 0x15AAB 0 0x730 = 0x2a09b6730#64 := by decide
  have dispatches := stub_dispatches (fun pointer _ => pointer) code held rfl (by decide) (by decide)
    (by decide)
  rw [entry] at dispatches
  rcases dispatches with ⟨runs, stub, decoded, exact⟩
  exact ⟨runs, stub, decoded, exact.mpr (Or.inl rfl)⟩

end Verbifrost.DisassembledCode
