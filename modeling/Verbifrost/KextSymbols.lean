import Verbifrost.Dictionary
import Verbifrost.KextExtraction

/-!
# Two readers of one symbol table

`parse_macho_symbols` of `parse_kext_syms.py` reads an extracted kext, whose file
offsets still count from the start of the cache; `find_iordma` and
`parse_symbols` of `extract_iordma_syms.py` read the cache. `none` is an
exception. What is printed of the lists is left out.
-/

namespace Verbifrost.KextSymbols

open Verbifrost.ByteMemory Verbifrost.FileBytes Verbifrost.Dictionary Verbifrost.MachO
  Verbifrost.KextExtraction

set_option autoImplicit false

abbrev Symbol := Text × BitVec 64

structure SymtabInfo where
  symoff : BitVec 32
  nsyms : BitVec 32
  stroff : BitVec 32
  strsize : BitVec 32
deriving DecidableEq

def readSymtab (data : ByteString) (command : LoadCommand) : Option SymtabInfo := do
  let symoff ← unpackLE 32 data (command.offset + 8)
  let nsyms ← unpackLE 32 data (command.offset + 12)
  let stroff ← unpackLE 32 data (command.offset + 16)
  let strsize ← unpackLE 32 data (command.offset + 20)
  some ⟨symoff, nsyms, stroff, strsize⟩

/-- Both read `iextdefsym` and `nextdefsym`, and neither uses them. -/
def readDysymtab (data : ByteString) (command : LoadCommand) : Option Unit := do
  let _iextdefsym ← unpackLE 32 data (command.offset + 16)
  let _nextdefsym ← unpackLE 32 data (command.offset + 20)
  some ()

/-- `strtab.find(b"\x00", n_strx)` finds nothing where no zero follows. -/
def symbolName (strtab : ByteString) (nStrx : Nat) : Text :=
  if 0 ∈ strtab.drop nStrx then decodeAscii (cString (strtab.drop nStrx)) else []

/-- The loop from `index` on; `keeps` is what a reader asks of `n_sect`. -/
def collectSymbols (keeps : Byte → Bool) (data strtab : ByteString) (symoff : Nat) :
    Nat → Nat → List Symbol → Option (List Symbol)
  | 0, _, exported => some exported
  | remaining + 1, index, exported =>
      let so := symoff + index * 16
      if data.length < so + 16 then some exported
      else do
        let nStrx ← unpackLE 32 data so
        let nType := contents data (so + 4)
        let nValue ← unpackLE 64 data (so + 8)
        let name := symbolName strtab nStrx.toNat
        let isExternal := nType &&& 1 ≠ 0
        if isExternal ∧ name ≠ [] ∧ keeps (contents data (so + 5)) = true then
          collectSymbols keeps data strtab symoff remaining (index + 1) (exported ++ [(name, nValue)])
        else collectSymbols keeps data strtab symoff remaining (index + 1) exported

inductive Outcome where
  | returned
  | collected (exported : List Symbol)

structure SegmentInfo where
  vmaddr : BitVec 64
  fileoff : BitVec 64
  filesize : BitVec 64

structure ParseState where
  segments : Dict Text SegmentInfo
  symtabInfo : Option SymtabInfo

/-- `vmaddr`, `fileoff` and `filesize` are read sixteen bytes behind those fields. -/
def parseCommand (data : ByteString) (command : LoadCommand) (state : ParseState) :
    Option ParseState :=
  if command.cmd = lcSegment64 then do
    let segname ← decodeUtf8 (cString (slice data (command.offset + 8) (command.offset + 24)))
    let vmaddr ← unpackLE 64 data (command.offset + 40)
    let fileoff ← unpackLE 64 data (command.offset + 56)
    let filesize ← unpackLE 64 data (command.offset + 64)
    some { state with segments := state.segments.insert segname ⟨vmaddr, fileoff, filesize⟩ }
  else if command.cmd = lcSymtab then do
    let symtab ← readSymtab data command
    some { state with symtabInfo := some symtab }
  else if command.cmd = lcDysymtab then do
    readDysymtab data command
    some state
  else some state

def parseMachoSymbols (data : ByteString) : Option Outcome := do
  let magic ← unpackLE 32 data 0
  if magic ≠ 0xFEEDFACF then some .returned
  else
    let ncmds ← unpackLE 32 data 16
    let state ← forCommands ⟨false, false⟩ data (parseCommand data) ncmds.toNat 32 ⟨∅, none⟩
    match state.symtabInfo with
    | none => some .returned
    | some symtab =>
        let baseFileoff ← (state.segments.values.map fun segment => segment.fileoff.toNat).min?
        let adjSymoff : Int := symtab.symoff.toNat - baseFileoff
        let adjStroff : Int := symtab.stroff.toNat - baseFileoff
        if adjSymoff < 0 ∨ data.length ≤ adjSymoff then some .returned
        else
          let strtab := sliceInt data adjStroff (adjStroff + symtab.strsize.toNat)
          let exported ← collectSymbols (fun _ => true) data strtab adjSymoff.toNat
            symtab.nsyms.toNat 0 []
          some (.collected exported)

def iordmaFamily : Text :=
  iokitPrefix ++ ['I', 'O', 'R', 'D', 'M', 'A', 'F', 'a', 'm', 'i', 'l', 'y']

/-- `iordma_fileoff` and `iordma_ncmds` of the last entry of that name. -/
def findEntry (data : ByteString) (command : LoadCommand) (found : Option (Nat × Nat)) :
    Option (Option (Nat × Nat)) :=
  if command.cmd = lcFilesetEntry then do
    let fileoff ← unpackLE 64 data (command.offset + 16)
    let name ← entryName data command
    if name = iordmaFamily then
      let ncmds ← unpackLE 32 data (fileoff.toNat + 16)
      some (some (fileoff.toNat, ncmds.toNat))
    else some found
  else some found

def findSymtab (data : ByteString) (command : LoadCommand) (symtab : Option SymtabInfo) :
    Option (Option SymtabInfo) :=
  if command.cmd = lcSymtab then (readSymtab data command).map some
  else if command.cmd = lcDysymtab then (readDysymtab data command).map fun _ => symtab
  else some symtab

/-- Python's `None` is the inner `none`; the symbol table within a result may be missing too. -/
def findIordma (data : ByteString) : Option (Option (Option SymtabInfo)) := do
  let ncmds ← unpackLE 32 data 16
  let found ← forCommands ⟨false, true⟩ data (findEntry data) ncmds.toNat 32 none
  match found with
  | none => some none
  | some (iordmaFileoff, iordmaNcmds) =>
      let symtab ← forCommands ⟨false, true⟩ data (findSymtab data) iordmaNcmds
        (iordmaFileoff + 32) none
      some (some symtab)

/-- `n_sect` is zero for an undefined symbol. -/
def parseSymbols (data : ByteString) (symtab : SymtabInfo) : Option (List Symbol) :=
  let strtab := slice data symtab.stroff.toNat (symtab.stroff.toNat + symtab.strsize.toNat)
  collectSymbols (fun nSect => nSect ≠ 0) data strtab symtab.symoff.toNat symtab.nsyms.toNat 0 []

/-- The main program: without a symbol table `parse_symbols` raises. -/
def iordmaSymbols (data : ByteString) : Option Outcome := do
  let result ← findIordma data
  match result with
  | none => some .returned
  | some symtab =>
      let symtab ← symtab
      let exported ← parseSymbols data symtab
      some (.collected exported)

/-- `struct nlist_64`, without the description that neither looks at. -/
structure Nlist where
  nStrx : BitVec 32
  nType : Byte
  nSect : Byte
  nValue : BitVec 64

def nlistAt (data : ByteString) (so : Nat) : Nlist where
  nStrx := load (contents data) so 32
  nType := contents data (so + 4)
  nSect := contents data (so + 5)
  nValue := load (contents data) (so + 8) 64

def Nlist.name (strtab : ByteString) (entry : Nlist) : Text := symbolName strtab entry.nStrx.toNat

def Nlist.isExported (strtab : ByteString) (entry : Nlist) : Bool :=
  entry.nType &&& 1 ≠ 0 ∧ entry.name strtab ≠ []

/-- The symbol of an entry that is wanted and lies in the file. -/
def symbolAt (keeps : Byte → Bool) (data strtab : ByteString) (so : Nat) : Option Symbol :=
  let entry := nlistAt data so
  if so + 16 ≤ data.length ∧ entry.isExported strtab = true ∧ keeps entry.nSect = true then
    some (entry.name strtab, entry.nValue)
  else none

def tableSymbols (keeps : Byte → Bool) (data strtab : ByteString) (symoff nsyms : Nat) :
    List Symbol :=
  (List.range nsyms).filterMap fun index => symbolAt keeps data strtab (symoff + index * 16)

def symtabAt (data : ByteString) (command : LoadCommand) : SymtabInfo where
  symoff := command.field data 8 32
  nsyms := command.field data 12 32
  stroff := command.field data 16 32
  strsize := command.field data 20 32

def SymtabInfo.strings (data : ByteString) (symtab : SymtabInfo) : ByteString :=
  slice data symtab.stroff.toNat (symtab.stroff.toNat + symtab.strsize.toNat)

def segmentName (data : ByteString) (segment : LoadCommand) : Option Text :=
  decodeUtf8 (cString (slice data (segment.offset + 8) (segment.offset + 24)))

def isIordma (kext : Kext) : Bool := kext.entry.name = iordmaFamily

/-- A cache with one `IORDMAFamily`, whose lowest segment starts where its entry says. -/
structure IordmaCache (data : ByteString) (kexts : List Kext) (kext : Kext) (symtab : SymtabInfo) :
    Prop where
  fileset : FilesetImage data kexts
  only : kexts.filter isIordma = [kext]
  names : ∀ segment ∈ kext.segments, (segmentName data segment).isSome = true
  lowest : (kext.segments.map (segmentFileoff data)).min? = some kext.entry.fileoff.toNat
  table : ∃ command, kext.commands.filter (fun command => command.cmd = lcSymtab) = [command] ∧
    symtabCommandSize ≤ command.cmdsize.toNat ∧ symtabAt data command = symtab
  dysymtab : ∀ command ∈ kext.commands, command.cmd = lcDysymtab →
    dysymtabCommandSize ≤ command.cmdsize.toNat
  symbols : symtab.nsyms ≠ 0 → kext.entry.fileoff.toNat ≤ symtab.symoff.toNat
  strings : symtab.strsize ≠ 0 → kext.entry.fileoff.toNat ≤ symtab.stroff.toNat

/-- How far a copy of the kext reaches: its load commands and both tables are in it. -/
structure Covers (data : ByteString) (kext : Kext) (symtab : SymtabInfo) (stop : Nat) : Prop where
  commands : commandsEnd (kext.entry.fileoff.toNat + machHeader64Size) kext.commands ≤ stop
  symbols : symtab.symoff.toNat + symtab.nsyms.toNat * 16 ≤ stop
  strings : symtab.stroff.toNat + symtab.strsize.toNat ≤ stop
  fits : stop ≤ data.length

/-- The copy of the kext up to `stop`. -/
def kextCopy (data : ByteString) (kext : Kext) (stop : Nat) : ByteString :=
  slice data kext.entry.fileoff.toNat stop

def ParsersAgree (data : ByteString) (kext : Kext) (stop : Nat) : Prop :=
  ∃ exported, iordmaSymbols data = some (.collected exported) ∧
    parseMachoSymbols (kextCopy data kext stop) = some (.collected exported)

/-- By induction on the entries that are left; past the end none is a symbol. -/
theorem collect_symbols_from (keeps : Byte → Bool) (data strtab : ByteString)
    (symoff remaining index : Nat) (exported : List Symbol) :
    collectSymbols keeps data strtab symoff remaining index exported =
      some (exported ++ (List.range' index remaining).filterMap fun index =>
        symbolAt keeps data strtab (symoff + index * 16)) := by
  induction remaining generalizing index exported with
  | zero => simp [collectSymbols]
  | succ remaining induction =>
      by_cases inside : symoff + index * 16 + 16 ≤ data.length
      · have nStrx : unpackLE 32 data (symoff + index * 16) =
            some (load (contents data) (symoff + index * 16) 32) := unpack_inside (by omega)
        have nValue : unpackLE 64 data (symoff + index * 16 + 8) =
            some (load (contents data) (symoff + index * 16 + 8) 64) := unpack_inside (by omega)
        rw [List.range'_succ, List.filterMap_cons]
        simp only [collectSymbols, if_neg (Nat.not_lt.mpr inside), nStrx, nValue,
          Option.bind_eq_bind, Option.bind_some, induction]
        by_cases wanted : (nlistAt data (symoff + index * 16)).isExported strtab = true ∧
            keeps (nlistAt data (symoff + index * 16)).nSect = true
        · have found : symbolAt keeps data strtab (symoff + index * 16) =
              some ((nlistAt data (symoff + index * 16)).name strtab,
                (nlistAt data (symoff + index * 16)).nValue) := if_pos ⟨inside, wanted⟩
          have tests := of_decide_eq_true wanted.1
          rw [if_pos ⟨tests.1, tests.2, wanted.2⟩, found, List.append_assoc]
          rfl
        · have missed : symbolAt keeps data strtab (symoff + index * 16) = none :=
            if_neg fun kept => wanted kept.2
          rw [if_neg fun kept => wanted ⟨decide_eq_true ⟨kept.1, kept.2.1⟩, kept.2.2⟩, missed]
      · have nothing : (List.range' index (remaining + 1)).filterMap (fun index =>
            symbolAt keeps data strtab (symoff + index * 16)) = [] := by
          rw [List.filterMap_eq_nil_iff]
          intro later listed
          have after := (List.mem_range'_1.mp listed).1
          exact if_neg fun kept => inside (by omega)
        rw [collectSymbols, if_pos (Nat.not_le.mp inside), nothing, List.append_nil]

theorem collect_symbols_table (keeps : Byte → Bool) (data strtab : ByteString) (symoff nsyms : Nat) :
    collectSymbols keeps data strtab symoff nsyms 0 [] =
      some (tableSymbols keeps data strtab symoff nsyms) := by
  rw [collect_symbols_from, List.nil_append, tableSymbols, List.range_eq_range']

section Commands

variable {data : ByteString}

def ReadsAs (data : ByteString) (command : LoadCommand) (copy : ByteString) (moved : LoadCommand) :
    Prop :=
  ∀ position w, w / 8 * 8 = w → position + w / 8 ≤ command.cmdsize.toNat →
    unpackLE w copy (moved.offset + position) = some (command.field data position w)

theorem reads_in_place {command : LoadCommand}
    (inside : command.offset + command.cmdsize.toNat ≤ data.length) :
    ReadsAs data command data command :=
  fun _ _ _ within => unpack_field inside within

theorem reads_in_copy {command : LoadCommand} {base stop : Nat} (after : base ≤ command.offset)
    (before : command.offset + command.cmdsize.toNat ≤ stop) (fits : stop ≤ data.length) :
    ReadsAs data command (slice data base stop) (command.moved base) := by
  intro position w whole within
  rw [unpack_moved whole after before fits within]
  exact unpack_field (Nat.le_trans before fits) within

theorem read_symtab_fields {command moved : LoadCommand} {copy : ByteString}
    (reads : ReadsAs data command copy moved) (long : symtabCommandSize ≤ command.cmdsize.toNat) :
    readSymtab copy moved = some (symtabAt data command) := by
  have size : symtabCommandSize = 24 := rfl
  have field : ∀ position, position ≤ 20 →
      unpackLE 32 copy (moved.offset + position) = some (command.field data position 32) := by
    intro position bound
    exact reads position 32 rfl (by omega)
  simp only [readSymtab, field 8 (by decide), field 12 (by decide), field 16 (by decide),
    field 20 (by decide), Option.bind_eq_bind, Option.bind_some]
  rfl

theorem read_dysymtab_fields {command moved : LoadCommand} {copy : ByteString}
    (reads : ReadsAs data command copy moved)
    (long : dysymtabCommandSize ≤ command.cmdsize.toNat) : readDysymtab copy moved = some () := by
  have size : dysymtabCommandSize = 80 := rfl
  have iextdefsym := reads 16 32 rfl (by omega)
  have nextdefsym := reads 20 32 rfl (by omega)
  simp only [readDysymtab, iextdefsym, nextdefsym, Option.bind_eq_bind, Option.bind_some]

/-- The commands that are read are as long as the format has them. -/
structure Readable (data : ByteString) (command : LoadCommand) : Prop where
  segment : command.cmd = lcSegment64 → segmentCommand64Size ≤ command.cmdsize.toNat ∧
    (segmentName data command).isSome = true
  symtab : command.cmd = lcSymtab → symtabCommandSize ≤ command.cmdsize.toNat
  dysymtab : command.cmd = lcDysymtab → dysymtabCommandSize ≤ command.cmdsize.toNat

def segmentText (data : ByteString) (segment : LoadCommand) : Text :=
  (segmentName data segment).getD []

/-- What `parse_macho_symbols` takes for the three fields. -/
def segmentInfoAt (data : ByteString) (segment : LoadCommand) : SegmentInfo where
  vmaddr := segment.field data 40 64
  fileoff := segment.field data 56 64
  filesize := segment.field data 64 64

def parsedCommand (data : ByteString) (state : ParseState) (command : LoadCommand) : ParseState :=
  if command.cmd = lcSegment64 then
    { state with
      segments := state.segments.insert (segmentText data command) (segmentInfoAt data command) }
  else if command.cmd = lcSymtab then { state with symtabInfo := some (symtabAt data command) }
  else state

theorem parse_command_copy {command : LoadCommand} {base stop : Nat}
    (readable : Readable data command) (after : base ≤ command.offset)
    (before : command.offset + command.cmdsize.toNat ≤ stop) (fits : stop ≤ data.length)
    (state : ParseState) :
    parseCommand (slice data base stop) (command.moved base) state =
      some (parsedCommand data state command) := by
  have reads := reads_in_copy after before fits
  have cmd : (command.moved base).cmd = command.cmd := rfl
  rw [parseCommand, parsedCommand, cmd]
  by_cases segment : command.cmd = lcSegment64
  · rcases readable.segment segment with ⟨long, named⟩
    have size : segmentCommand64Size = 72 := rfl
    have vmaddr := reads 40 64 rfl (by omega)
    have fileoff := reads 56 64 rfl (by omega)
    have filesize := reads 64 64 rfl (by omega)
    have offset : base + (command.moved base).offset = command.offset := Nat.add_sub_cancel' after
    have segname : decodeUtf8 (cString (slice (slice data base stop) ((command.moved base).offset + 8)
        ((command.moved base).offset + 24))) = some (segmentText data command) := by
      rw [slice_slice data (by omega), ← Nat.add_assoc, ← Nat.add_assoc, offset]
      exact (Option.some_get named).symm.trans (by rw [segmentText, Option.get_eq_getD])
    simp only [if_pos segment, segname, vmaddr, fileoff, filesize, Option.bind_eq_bind,
      Option.bind_some]
    rfl
  rw [if_neg segment, if_neg segment]
  by_cases symtab : command.cmd = lcSymtab
  · rw [if_pos symtab, if_pos symtab, read_symtab_fields reads (readable.symtab symtab)]
    rfl
  rw [if_neg symtab, if_neg symtab]
  by_cases dysymtab : command.cmd = lcDysymtab
  · rw [if_pos dysymtab, read_dysymtab_fields reads (readable.dysymtab dysymtab)]
    rfl
  · rw [if_neg dysymtab]

theorem parse_commands_copy {commands : List LoadCommand} {base stop : Nat}
    (readable : ∀ command ∈ commands, Readable data command)
    (within : ∀ command ∈ commands, base ≤ command.offset ∧
      command.offset + command.cmdsize.toNat ≤ stop) (fits : stop ≤ data.length)
    (state : ParseState) :
    (commands.map (LoadCommand.moved base)).foldlM
        (fun state command => parseCommand (slice data base stop) command state) state =
      some (commands.foldl (parsedCommand data) state) := by
  induction commands generalizing state with
  | nil => rfl
  | cons command rest induction =>
      rcases List.forall_mem_cons.mp readable with ⟨first, others⟩
      rcases List.forall_mem_cons.mp within with ⟨⟨after, before⟩, othersWithin⟩
      rw [List.map_cons, List.foldlM_cons, parse_command_copy first after before fits,
        Option.bind_eq_bind, Option.bind_some]
      exact induction others othersWithin _

theorem parsed_segments (data : ByteString) (commands : List LoadCommand) (state : ParseState) :
    (commands.foldl (parsedCommand data) state).segments =
      fill (segmentText data) (segmentInfoAt data)
        (commands.filter fun command => command.cmd = lcSegment64) state.segments := by
  rw [fill, List.foldl_filter]
  apply (List.foldl_hom ParseState.segments _).symm
  intro before command
  rw [parsedCommand]
  by_cases segment : command.cmd = lcSegment64
  · rw [if_pos segment, if_pos (by simpa using segment)]
  · rw [if_neg segment, if_neg (by simpa using segment)]
    split <;> rfl

theorem parsed_symtab (data : ByteString) (commands : List LoadCommand) (state : ParseState) :
    (commands.foldl (parsedCommand data) state).symtabInfo =
      (commands.filter fun command => command.cmd = lcSymtab).foldl
        (fun _ command => some (symtabAt data command)) state.symtabInfo := by
  rw [List.foldl_filter]
  apply (List.foldl_hom ParseState.symtabInfo _).symm
  intro before command
  rw [parsedCommand]
  by_cases symtab : command.cmd = lcSymtab
  · have segment : ¬command.cmd = lcSegment64 := by
      rw [symtab]
      decide
    rw [if_neg segment, if_pos symtab, if_pos (by simpa using symtab)]
  · rw [if_neg symtab, if_neg (by simpa using symtab)]
    split <;> rfl

theorem find_symtab_step {command : LoadCommand} (readable : Readable data command)
    (inside : command.offset + command.cmdsize.toNat ≤ data.length) (symtab : Option SymtabInfo) :
    findSymtab data command symtab =
      some (if decide (command.cmd = lcSymtab) = true then some (symtabAt data command)
        else symtab) := by
  have reads := reads_in_place inside
  rw [findSymtab]
  by_cases found : command.cmd = lcSymtab
  · rw [if_pos found, if_pos (decide_eq_true found), read_symtab_fields reads (readable.symtab found)]
    rfl
  have other : ¬decide (command.cmd = lcSymtab) = true := by simpa using found
  rw [if_neg found, if_neg other]
  by_cases dysymtab : command.cmd = lcDysymtab
  · rw [if_pos dysymtab, read_dysymtab_fields reads (readable.dysymtab dysymtab)]
    rfl
  · rw [if_neg dysymtab]

end Commands

/-- The smallest pair of protections, over the last segment of each name. -/
def lowestWord (data : ByteString) (kext : Kext) : Nat :=
  ((lastOfEach (segmentText data) kext.segments).map (segmentProtection data)).min?.getD 0

section Cache

variable {data : ByteString} {kexts : List Kext} {kext : Kext} {symtab : SymtabInfo}

theorem iordma_listed (cache : IordmaCache data kexts kext symtab) :
    kext ∈ kexts ∧ isIordma kext = true := by
  have listed : kext ∈ kexts.filter isIordma := by
    rw [cache.only]
    exact List.mem_singleton_self kext
  exact List.mem_filter.mp listed

theorem iordma_located (cache : IordmaCache data kexts kext symtab) :
    ∃ command, KextAt data command kext := by
  rcases cache.fileset.image with ⟨commands, image, placed⟩
  exact kexts_at_placed placed kext (iordma_listed cache).1

theorem iordma_readable (cache : IordmaCache data kexts kext symtab) :
    ∀ command ∈ kext.commands, Readable data command := by
  rcases iordma_located cache with ⟨entry, located⟩
  rcases cache.table with ⟨table, only, long, _⟩
  intro command listed
  constructor
  · intro segment
    have segments : command ∈ kext.segments := List.mem_filter.mpr ⟨listed, by simpa using segment⟩
    exact ⟨(located.segments command segments).1, cache.names command segments⟩
  · intro isSymtab
    have tables : command ∈ [table] := by
      rw [← only]
      exact List.mem_filter.mpr ⟨listed, by simpa using isSymtab⟩
    rw [List.mem_singleton.mp tables]
    exact long
  · exact cache.dysymtab command listed

theorem iordma_table (cache : IordmaCache data kexts kext symtab) (before : Option SymtabInfo) :
    (kext.commands.filter fun command => command.cmd = lcSymtab).foldl
      (fun _ command => some (symtabAt data command)) before = some symtab := by
  rcases cache.table with ⟨table, only, _, same⟩
  rw [only, ← same]
  rfl

theorem iordma_segments_filled (cache : IordmaCache data kexts kext symtab) : kext.segments ≠ [] := by
  intro none
  have lowest := cache.lowest
  rw [none] at lowest
  cases lowest

theorem base_fileoff_lowest (cache : IordmaCache data kexts kext symtab) :
    ((fill (segmentText data) (segmentInfoAt data) kext.segments ∅).values.map
      fun segment => segment.fileoff.toNat).min? = some (lowestWord data kext) := by
  have members := mem_fill_values_iff (segmentText data) (segmentInfoAt data) kext.segments
  have same : ((fill (segmentText data) (segmentInfoAt data) kext.segments ∅).values.map
      fun segment => segment.fileoff.toNat).min? =
        ((lastOfEach (segmentText data) kext.segments).map (segmentProtection data)).min? := by
    apply min_of_members
    intro value
    simp only [List.mem_map, members, exists_exists_and_eq_and]
    rfl
  have filled : ((lastOfEach (segmentText data) kext.segments).map (segmentProtection data)) ≠ [] := by
    rw [Ne, List.map_eq_nil_iff]
    exact last_of_each_ne_nil _ (iordma_segments_filled cache)
  rw [same, lowestWord]
  rcases Option.isSome_iff_exists.mp (List.isSome_min?_of_ne_nil filled) with ⟨value, found⟩
  rw [found]
  rfl

/-- The strings in the copy, at the place the parser takes them from. -/
def rebasedStrings (data : ByteString) (kext : Kext) (symtab : SymtabInfo) (stop : Nat) : ByteString :=
  sliceInt (kextCopy data kext stop) (symtab.stroff.toNat - lowestWord data kext)
    (symtab.stroff.toNat - lowestWord data kext + symtab.strsize.toNat)

def rebasedSymbols (data : ByteString) (kext : Kext) (symtab : SymtabInfo) (stop : Nat) :
    List Symbol :=
  tableSymbols (fun _ => true) (kextCopy data kext stop) (rebasedStrings data kext symtab stop)
    (symtab.symoff.toNat - lowestWord data kext) symtab.nsyms.toNat

/-- The place the parser takes the symbols from lies in the copy. -/
def Reaches (data : ByteString) (kext : Kext) (symtab : SymtabInfo) (stop : Nat) : Prop :=
  lowestWord data kext ≤ symtab.symoff.toNat ∧
    symtab.symoff.toNat - lowestWord data kext < stop - kext.entry.fileoff.toNat

instance (data : ByteString) (kext : Kext) (symtab : SymtabInfo) (stop : Nat) :
    Decidable (Reaches data kext symtab stop) :=
  inferInstanceAs (Decidable (_ ∧ _))

theorem copy_commands_parsed (cache : IordmaCache data kexts kext symtab) {stop : Nat}
    (covers : Covers data kext symtab stop) :
    unpackLE 32 (kextCopy data kext stop) 0 = some 0xFEEDFACF ∧
      ∃ ncmds state, unpackLE 32 (kextCopy data kext stop) 16 = some ncmds ∧
        forCommands ⟨false, false⟩ (kextCopy data kext stop) (parseCommand (kextCopy data kext stop))
          ncmds.toNat 32 ⟨∅, none⟩ = some state ∧
        state.symtabInfo = some symtab ∧
          (state.segments.values.map fun segment => segment.fileoff.toNat).min? =
            some (lowestWord data kext) := by
  rcases iordma_located cache with ⟨entry, located⟩
  have image := located.image
  rcases image.count with ⟨ncmds, count, commandCount⟩
  have header : machHeader64Size = 32 := rfl
  have room := commands_end_le (kext.entry.fileoff.toNat + machHeader64Size) kext.commands
  have covered := covers.commands
  have placed := commands_at_slice image.commands covered covers.fits
  have walked := for_commands_fold ⟨false, false⟩ (parseCommand (kextCopy data kext stop)) placed
    ⟨∅, none⟩
  have within : ∀ command ∈ kext.commands, kext.entry.fileoff.toNat ≤ command.offset ∧
      command.offset + command.cmdsize.toNat ≤ stop := by
    intro command listed
    rcases commands_at_end image.commands command listed with ⟨after, before⟩
    omega
  rw [kextCopy, parse_commands_copy (iordma_readable cache) within covers.fits, List.length_map,
    ← commandCount, header] at walked
  constructor
  · rw [kextCopy, unpack_slice (by rfl) data (by omega) covers.fits]
    exact image.magic
  apply Exists.intro ncmds
  apply Exists.intro (kext.commands.foldl (parsedCommand data) ⟨∅, none⟩)
  constructor
  · rw [kextCopy, unpack_slice (by rfl) data (by omega) covers.fits]
    exact count
  constructor
  · exact walked
  constructor
  · rw [parsed_symtab, iordma_table cache]
  · rw [parsed_segments]
    exact base_fileoff_lowest cache

theorem parse_macho_symbols_copy (cache : IordmaCache data kexts kext symtab) {stop : Nat}
    (covers : Covers data kext symtab stop) :
    parseMachoSymbols (kextCopy data kext stop) =
      some (if Reaches data kext symtab stop then .collected (rebasedSymbols data kext symtab stop)
        else .returned) := by
  obtain ⟨magic, ncmds, state, count, walked, table, lowest⟩ := copy_commands_parsed cache covers
  have accepted : ¬(0xFEEDFACF : BitVec 32) ≠ 0xFEEDFACF := fun different => different rfl
  have length : (kextCopy data kext stop).length = stop - kext.entry.fileoff.toNat := by
    rw [kextCopy, slice_length, Nat.min_eq_left covers.fits]
  simp only [parseMachoSymbols, magic, count, walked, table, lowest, Option.bind_eq_bind,
    Option.bind_some, if_neg accepted, collect_symbols_table]
  by_cases reaches : Reaches data kext symtab stop
  · rcases reaches with ⟨positive, inside⟩
    have inRange : ¬((symtab.symoff.toNat : Int) - lowestWord data kext < 0 ∨
        ((kextCopy data kext stop).length : Int) ≤ symtab.symoff.toNat - lowestWord data kext) := by
      omega
    have adjusted : ((symtab.symoff.toNat : Int) - lowestWord data kext).toNat =
        symtab.symoff.toNat - lowestWord data kext := by omega
    rw [if_neg inRange, if_pos ⟨positive, inside⟩, adjusted]
    rfl
  · have outOfRange : (symtab.symoff.toNat : Int) - lowestWord data kext < 0 ∨
        ((kextCopy data kext stop).length : Int) ≤ symtab.symoff.toNat - lowestWord data kext := by
      rw [Reaches, not_and_or] at reaches
      omega
    rw [if_pos outOfRange, if_neg reaches]

theorem find_entry_step {command : LoadCommand} {other : Kext}
    (inside : command.offset + command.cmdsize.toNat ≤ data.length)
    (fileset : command.cmd = lcFilesetEntry) (placed : KextAt data command other)
    (found : Option (Nat × Nat)) :
    findEntry data command found =
      some (if isIordma other = true then some (other.entry.fileoff.toNat, other.commands.length)
        else found) := by
  rcases placed.image.count with ⟨ncmds, count, length⟩
  have long : 32 ≤ command.cmdsize.toNat := placed.long
  have fileoff : unpackLE 64 data (command.offset + 16) = some other.entry.fileoff := by
    rw [unpack_field inside (by omega), placed.fileoff]
  have name := entry_name_read inside placed
  simp only [findEntry, if_pos fileset, fileoff, name, Option.bind_eq_bind, Option.bind_some]
  by_cases iordma : other.entry.name = iordmaFamily
  · have selected : isIordma other = true := decide_eq_true iordma
    rw [if_pos iordma, if_pos selected, count, ← length]
    rfl
  · have passed : ¬isIordma other = true := fun selected => iordma (of_decide_eq_true selected)
    rw [if_neg iordma, if_neg passed]

theorem find_entries {commands : List LoadCommand} {others : List Kext}
    (inside : ∀ command ∈ commands, command.offset + command.cmdsize.toNat ≤ data.length)
    (placed : KextsAt data commands others) :
    commands.foldlM (fun found command => findEntry data command found) none =
      some ((others.filter isIordma).foldl
        (fun _ other => some (other.entry.fileoff.toNat, other.commands.length)) none) := by
  rw [List.foldl_filter]
  apply fileset_fold inside placed
  · intro command other first fileset at_ found
    exact find_entry_step first fileset at_ found
  · intro command found other
    exact if_neg other

def definedSymbols (data : ByteString) (symtab : SymtabInfo) : List Symbol :=
  tableSymbols (fun nSect => nSect ≠ 0) data (symtab.strings data) symtab.symoff.toNat
    symtab.nsyms.toNat

theorem find_iordma_table (cache : IordmaCache data kexts kext symtab) :
    findIordma data = some (some (some symtab)) := by
  rcases cache.fileset.image with ⟨commands, image, placed⟩
  rcases image.count with ⟨ncmds, count, length⟩
  rcases iordma_located cache with ⟨entry, located⟩
  have header : machHeader64Size = 32 := rfl
  have entries := for_commands_fold ⟨false, true⟩ (findEntry data) image.commands none
  rw [find_entries (commands_at_inside image.commands) placed, cache.only, header,
    Nat.zero_add] at entries
  have inside := commands_at_inside located.image.commands
  have tables := for_commands_steps ⟨false, true⟩ located.image.commands (fun command listed =>
    find_symtab_step (iordma_readable cache command listed) (inside command listed)) none
  rw [← List.foldl_filter, iordma_table cache, header] at tables
  rw [Nat.zero_add] at count
  simp only [findIordma, count, length, entries, Option.bind_eq_bind, Option.bind_some,
    List.foldl_cons, List.foldl_nil, tables]

theorem iordma_symbols_defined (cache : IordmaCache data kexts kext symtab) :
    iordmaSymbols data = some (.collected (definedSymbols data symtab)) := by
  have collected : parseSymbols data symtab = some (definedSymbols data symtab) :=
    collect_symbols_table ..
  simp only [iordmaSymbols, find_iordma_table cache, collected, Option.bind_eq_bind,
    Option.bind_some]

theorem parsers_agree_lists (cache : IordmaCache data kexts kext symtab) {stop : Nat}
    (covers : Covers data kext symtab stop) :
    ParsersAgree data kext stop ↔ Reaches data kext symtab stop ∧
      rebasedSymbols data kext symtab stop = definedSymbols data symtab := by
  rw [ParsersAgree, iordma_symbols_defined cache, parse_macho_symbols_copy cache covers]
  by_cases reaches : Reaches data kext symtab stop
  · rw [if_pos reaches]
    constructor
    · intro agree
      rcases agree with ⟨exported, defined, rebased⟩
      injection Option.some.inj defined with defined
      injection Option.some.inj rebased with rebased
      exact ⟨reaches, rebased.trans defined.symm⟩
    · intro condition
      exact ⟨definedSymbols data symtab, rfl, by rw [condition.2]⟩
  · rw [if_neg reaches]
    constructor
    · intro agree
      rcases agree with ⟨exported, _, rebased⟩
      cases Option.some.inj rebased
    · intro condition
      exact absurd condition.1 reaches

end Cache

section Agreement

variable {data : ByteString} {kexts : List Kext} {kext : Kext} {symtab : SymtabInfo}

theorem nlist_slice (data : ByteString) {base stop so : Nat} (inside : base + so + 16 ≤ stop) :
    nlistAt (slice data base stop) so = nlistAt data (base + so) := by
  have nStrx := load_slice (show 32 / 8 * 8 = 32 from rfl) data (show base + so + 32 / 8 ≤ stop by omega)
  have nValue := load_slice (show 64 / 8 * 8 = 64 from rfl) data
    (show base + (so + 8) + 64 / 8 ≤ stop by omega)
  rw [nlistAt, nlistAt, nStrx, nValue, slice_byte data (by omega), slice_byte data (by omega)]
  rfl

theorem rebased_strings_exact (cache : IordmaCache data kexts kext symtab) {stop : Nat}
    (covers : Covers data kext symtab stop)
    (based : lowestWord data kext = kext.entry.fileoff.toNat) :
    rebasedStrings data kext symtab stop = symtab.strings data := by
  rw [rebasedStrings, SymtabInfo.strings, based]
  by_cases empty : symtab.strsize = 0
  · have none : symtab.strsize.toNat = 0 := by
      rw [empty]
      rfl
    rw [none, Int.natCast_zero, Int.add_zero, Nat.add_zero, sliceInt, slice, slice, Nat.sub_self,
      Nat.sub_self, List.take_zero, List.take_zero]
  · have behind := cache.strings empty
    have inside := covers.strings
    have start : (symtab.stroff.toNat : Int) - kext.entry.fileoff.toNat =
        (symtab.stroff.toNat - kext.entry.fileoff.toNat : Nat) := by omega
    rw [start, ← Int.natCast_add, slice_int_nat, kextCopy, slice_slice data (by omega),
      Nat.add_sub_cancel' behind, ← Nat.add_assoc, Nat.add_sub_cancel' behind]

/-- Both tables of the copy are those of the cache where the right number is taken off. -/
theorem rebased_symbols_exact (cache : IordmaCache data kexts kext symtab) {stop : Nat}
    (covers : Covers data kext symtab stop)
    (based : lowestWord data kext = kext.entry.fileoff.toNat)
    (behind : kext.entry.fileoff.toNat ≤ symtab.symoff.toNat) :
    rebasedSymbols data kext symtab stop =
      tableSymbols (fun _ => true) data (symtab.strings data) symtab.symoff.toNat
        symtab.nsyms.toNat := by
  have length := slice_length data kext.entry.fileoff.toNat stop
  have fits := covers.fits
  rw [rebasedSymbols, rebased_strings_exact cache covers based, based, tableSymbols, tableSymbols]
  apply List.filterMap_congr
  intro index listed
  have counted := List.mem_range.mp listed
  have covered := covers.symbols
  have place : kext.entry.fileoff.toNat +
      (symtab.symoff.toNat - kext.entry.fileoff.toNat + index * 16) =
        symtab.symoff.toNat + index * 16 := by omega
  have entry : nlistAt (kextCopy data kext stop)
      (symtab.symoff.toNat - kext.entry.fileoff.toNat + index * 16) =
        nlistAt data (symtab.symoff.toNat + index * 16) := by
    rw [kextCopy, nlist_slice data (by omega), place]
  have inCopy : symtab.symoff.toNat - kext.entry.fileoff.toNat + index * 16 + 16 ≤
      (kextCopy data kext stop).length := by
    rw [kextCopy, length]
    omega
  have inData : symtab.symoff.toNat + index * 16 + 16 ≤ data.length := by omega
  simp only [symbolAt, entry, inCopy, inData, true_and]

theorem filter_map_length_le {Value Result : Type} {wide narrow : Value → Option Result}
    {values : List Value}
    (narrower : ∀ value ∈ values, narrow value = wide value ∨ narrow value = none) :
    (values.filterMap narrow).length ≤ (values.filterMap wide).length := by
  induction values with
  | nil => exact Nat.le_refl _
  | cons value rest induction =>
      rcases List.forall_mem_cons.mp narrower with ⟨first, others⟩
      have shorter := induction others
      rw [List.filterMap_cons, List.filterMap_cons]
      rcases first with same | none
      · rw [same]
        cases wide value with
        | none => exact shorter
        | some result => exact Nat.succ_le_succ shorter
      · rw [none]
        cases wide value with
        | none => exact shorter
        | some result => exact Nat.le_succ_of_le shorter

/-- A narrower test finds the same list only where it drops no value. -/
theorem filter_map_eq_iff {Value Result : Type} {wide narrow : Value → Option Result}
    {values : List Value}
    (narrower : ∀ value ∈ values, narrow value = wide value ∨ narrow value = none) :
    values.filterMap wide = values.filterMap narrow ↔
      ∀ value ∈ values, wide value = narrow value := by
  constructor
  · intro same
    induction values with
    | nil =>
        intro value listed
        cases listed
    | cons value rest induction =>
        rcases List.forall_mem_cons.mp narrower with ⟨first, others⟩
        have shorter := filter_map_length_le others
        rw [List.filterMap_cons, List.filterMap_cons] at same
        have head : wide value = narrow value := by
          rcases first with equal | none
          · exact equal.symm
          · rw [none] at same ⊢
            cases found : wide value with
            | none => rfl
            | some result =>
                rw [found] at same
                have longer := congrArg List.length same
                simp only [List.length_cons] at longer
                omega
        have tail : rest.filterMap wide = rest.filterMap narrow := by
          rw [← head] at same
          cases found : wide value with
          | none => rwa [found] at same
          | some result =>
              rw [found] at same
              exact (List.cons.inj same).2
        exact List.forall_mem_cons.mpr ⟨head, induction others tail⟩
  · exact List.filterMap_congr

def DefinedOnly (data : ByteString) (symtab : SymtabInfo) : Prop :=
  ∀ index < symtab.nsyms.toNat,
    (nlistAt data (symtab.symoff.toNat + index * 16)).isExported (symtab.strings data) = true →
      (nlistAt data (symtab.symoff.toNat + index * 16)).nSect ≠ 0

theorem symbol_defined (strtab : ByteString) (so : Nat) (defined : (nlistAt data so).nSect ≠ 0) :
    symbolAt (fun nSect => nSect ≠ 0) data strtab so = symbolAt (fun _ => true) data strtab so := by
  have kept : decide ((nlistAt data so).nSect ≠ 0) = true := decide_eq_true defined
  simp only [symbolAt, kept]

theorem symbol_undefined (strtab : ByteString) (so : Nat)
    (undefined : (nlistAt data so).nSect = 0) :
    symbolAt (fun nSect => nSect ≠ 0) data strtab so = none := by
  apply if_neg
  intro kept
  have defined : (nlistAt data so).nSect ≠ 0 := of_decide_eq_true kept.2.2
  exact defined undefined

theorem defined_only_iff {stop : Nat} (covers : Covers data kext symtab stop) :
    tableSymbols (fun _ => true) data (symtab.strings data) symtab.symoff.toNat
        symtab.nsyms.toNat = definedSymbols data symtab ↔ DefinedOnly data symtab := by
  have covered := covers.symbols
  have fits := covers.fits
  have inside : ∀ index < symtab.nsyms.toNat,
      symtab.symoff.toNat + index * 16 + 16 ≤ data.length := by
    intro index counted
    omega
  rw [definedSymbols, tableSymbols, tableSymbols, filter_map_eq_iff]
  · constructor
    · intro same index counted exported undefined
      have found := same index (List.mem_range.mpr counted)
      rw [symbol_undefined _ _ undefined, symbolAt,
        if_pos ⟨inside index counted, exported, rfl⟩] at found
      cases found
    · intro defined index listed
      have counted := List.mem_range.mp listed
      by_cases undefined : (nlistAt data (symtab.symoff.toNat + index * 16)).nSect = 0
      · have missed := fun kept => defined index counted kept undefined
        rw [symbol_undefined _ _ undefined, symbolAt, if_neg fun kept => missed kept.2.1]
      · rw [symbol_defined _ _ undefined]
  · intro index listed
    by_cases undefined : (nlistAt data (symtab.symoff.toNat + index * 16)).nSect = 0
    · exact Or.inr (symbol_undefined _ _ undefined)
    · exact Or.inl (symbol_defined _ _ undefined)

/-- The initial protection is the upper half of the word, and no table starts that far. -/
theorem protected_segments_disagree (cache : IordmaCache data kexts kext symtab) {stop : Nat}
    (covers : Covers data kext symtab stop)
    (guarded : ∀ segment ∈ kext.segments, 0x100000000 ≤ segmentProtection data segment) :
    ¬ParsersAgree data kext stop := by
  rw [parsers_agree_lists cache covers]
  intro agree
  have within : lowestWord data kext ≤ symtab.symoff.toNat := agree.1.1
  have bound := symtab.symoff.isLt
  have words : (lastOfEach (segmentText data) kext.segments).map (segmentProtection data) ≠ [] := by
    rw [Ne, List.map_eq_nil_iff]
    exact last_of_each_ne_nil _ (iordma_segments_filled cache)
  rcases Option.isSome_iff_exists.mp (List.isSome_min?_of_ne_nil words) with ⟨word, found⟩
  rcases List.mem_map.mp (List.min?_mem found) with ⟨segment, last, same⟩
  have large := guarded segment (List.pwFilter_subset _ last)
  rw [lowestWord, found, Option.getD_some] at within
  omega

/-- A word that is the file offset is taken off like one. -/
theorem parsers_agree_exact (cache : IordmaCache data kexts kext symtab) {stop : Nat}
    (covers : Covers data kext symtab stop) (reaches : Reaches data kext symtab stop)
    (based : lowestWord data kext = kext.entry.fileoff.toNat) (defined : DefinedOnly data symtab) :
    ParsersAgree data kext stop := by
  have behind : kext.entry.fileoff.toNat ≤ symtab.symoff.toNat := by
    rw [← based]
    exact reaches.1
  rw [parsers_agree_lists cache covers, rebased_symbols_exact cache covers based behind,
    defined_only_iff covers]
  exact ⟨reaches, defined⟩

theorem parsers_agree_iff (cache : IordmaCache data kexts kext symtab) {stop : Nat}
    (covers : Covers data kext symtab stop) :
    ParsersAgree data kext stop ↔ Reaches data kext symtab stop ∧
      if lowestWord data kext = kext.entry.fileoff.toNat then DefinedOnly data symtab
      else rebasedSymbols data kext symtab stop = definedSymbols data symtab := by
  rw [parsers_agree_lists cache covers]
  apply and_congr_right
  intro reaches
  by_cases based : lowestWord data kext = kext.entry.fileoff.toNat
  · have behind : kext.entry.fileoff.toNat ≤ symtab.symoff.toNat := by
      rw [← based]
      exact reaches.1
    rw [if_pos based, rebased_symbols_exact cache covers based behind, defined_only_iff covers]
  · rw [if_neg based]

end Agreement

/-- Two entries, `RDMA` and `IORDMAFamily`. The second has two segments, of which the
protections of the first spell its file offset, and the symbols `a`, which is
defined, `b`, which may be undefined, `c`, which is local, and one without a name. -/
def familySample (undefined : Bool) : ByteString := List.flatten
  [[0xCF, 0xFA, 0xED, 0xFE], List.replicate 12 0, [2, 0, 0, 0, 104, 0, 0, 0], List.replicate 8 0,
    [0x35, 0, 0, 0x80, 40, 0, 0, 0], List.replicate 8 0, [136, 0, 0, 0, 0, 0, 0, 0],
    [32, 0, 0, 0, 0, 0, 0, 0, 0x52, 0x44, 0x4D, 0x41, 0, 0, 0, 0],
    [0x35, 0, 0, 0x80, 64, 0, 0, 0], List.replicate 8 0, [240, 0, 0, 0, 0, 0, 0, 0],
    [32, 0, 0, 0, 0, 0, 0, 0], iordmaFamily.map fun letter => BitVec.ofNat 8 letter.toNat,
    List.replicate 4 0,
    [0xCF, 0xFA, 0xED, 0xFE], List.replicate 12 0, [1, 0, 0, 0, 72, 0, 0, 0], List.replicate 8 0,
    [0x19, 0, 0, 0, 72, 0, 0, 0], List.replicate 32 0, [136, 0, 0, 0, 0, 0, 0, 0],
    [104, 0, 0, 0, 0, 0, 0, 0, 5, 0, 0, 0, 5, 0, 0, 0], List.replicate 8 0,
    [0xCF, 0xFA, 0xED, 0xFE], List.replicate 12 0, [3, 0, 0, 0, 168, 0, 0, 0], List.replicate 8 0,
    [0x19, 0, 0, 0, 72, 0, 0, 0, 0x54], List.replicate 31 0, [240, 0, 0, 0, 0, 0, 0, 0],
    [200, 0, 0, 0, 0, 0, 0, 0, 240, 0, 0, 0, 0, 0, 0, 0], List.replicate 8 0,
    [0x19, 0, 0, 0, 72, 0, 0, 0, 0x4C], List.replicate 31 0, [0xB8, 1, 0, 0, 0, 0, 0, 0],
    [72, 0, 0, 0, 0, 0, 0, 0, 1, 0, 0, 0, 1, 0, 0, 0], List.replicate 8 0,
    [0x02, 0, 0, 0, 24, 0, 0, 0, 0xB8, 1, 0, 0, 4, 0, 0, 0, 0xF8, 1, 0, 0, 8, 0, 0, 0],
    [1, 0, 0, 0, 0x0F, 1, 0, 0, 0x10, 0, 0, 0, 0, 0, 0, 0],
    [3, 0, 0, 0], if undefined then [0x01, 0] else [0x0F, 1], List.replicate 10 0,
    [5, 0, 0, 0, 0x0E, 1, 0, 0, 0x20, 0, 0, 0, 0, 0, 0, 0],
    [7, 0, 0, 0, 0x0F, 1, 0, 0, 0x30, 0, 0, 0, 0, 0, 0, 0],
    [0, 0x61, 0, 0x62, 0, 0x63, 0, 0]]

def rdmaKext : Kext := ⟨⟨rdma, 0, 136⟩, [⟨168, lcSegment64, 72⟩]⟩

def familyTable : LoadCommand := ⟨416, lcSymtab, 24⟩

def familyKext : Kext :=
  ⟨⟨iordmaFamily, 0, 240⟩, [⟨272, lcSegment64, 72⟩, ⟨344, lcSegment64, 72⟩, familyTable]⟩

def familySymtab : SymtabInfo := ⟨440, 4, 504, 8⟩

theorem family_sample_cache (undefined : Bool) :
    IordmaCache (familySample undefined) [rdmaKext, familyKext] familyKext familySymtab := by
  have outer : ImageAt (familySample undefined) 0
      [⟨32, lcFilesetEntry, 40⟩, ⟨72, lcFilesetEntry, 64⟩] := by
    cases undefined <;> decide +kernel
  have first : KextAt (familySample undefined) ⟨32, lcFilesetEntry, 40⟩ rdmaKext := by
    cases undefined <;> constructor <;> decide +kernel
  have second : KextAt (familySample undefined) ⟨72, lcFilesetEntry, 64⟩ familyKext := by
    cases undefined <;> constructor <;> decide +kernel
  constructor
  · exact ⟨_, outer, rdmaKext, _, rfl, first, familyKext, [], rfl, second, rfl⟩
  · rfl
  · cases undefined <;> decide +kernel
  · cases undefined <;> decide +kernel
  · exact ⟨familyTable, rfl, by decide, by cases undefined <;> decide +kernel⟩
  · decide
  · decide
  · decide

theorem family_sample_covers (undefined : Bool) :
    Covers (familySample undefined) familyKext familySymtab 512 := by
  cases undefined <;> constructor <;> decide +kernel

/-- With `b` defined both collect `a` and `b`. -/
theorem family_sample_agrees : ParsersAgree (familySample false) familyKext 512 := by
  rw [parsers_agree_iff (family_sample_cache false) (family_sample_covers false)]
  constructor
  · decide +kernel
  · rw [if_pos (by decide +kernel)]
    unfold DefinedOnly
    decide +kernel

/-- One entry, `IORDMAFamily`, with one segment, whose protections are read and
execute, and one symbol, `a`. -/
def cacheSample : ByteString :=
  [0xCF, 0xFA, 0xED, 0xFE] ++ List.replicate 12 0 ++ [1, 0, 0, 0, 64, 0, 0, 0] ++
    List.replicate 8 0 ++
  [0x35, 0, 0, 0x80, 64, 0, 0, 0] ++ List.replicate 8 0 ++ [96, 0, 0, 0, 0, 0, 0, 0] ++
    [32, 0, 0, 0, 0, 0, 0, 0] ++ (iordmaFamily.map fun letter => BitVec.ofNat 8 letter.toNat) ++
    List.replicate 4 0 ++
  [0xCF, 0xFA, 0xED, 0xFE] ++ List.replicate 12 0 ++ [2, 0, 0, 0, 96, 0, 0, 0] ++
    List.replicate 8 0 ++
  [0x19, 0, 0, 0, 72, 0, 0, 0] ++ List.replicate 32 0 ++ [96, 0, 0, 0, 0, 0, 0, 0] ++
    [148, 0, 0, 0, 0, 0, 0, 0] ++ [5, 0, 0, 0, 5, 0, 0, 0] ++ List.replicate 8 0 ++
  [0x02, 0, 0, 0, 24, 0, 0, 0, 224, 0, 0, 0, 1, 0, 0, 0, 240, 0, 0, 0, 4, 0, 0, 0] ++
  [1, 0, 0, 0, 0x0F, 1, 0, 0, 0x10, 0, 0, 0, 0, 0, 0, 0] ++ [0, 0x61, 0, 0]

def sampleTable : LoadCommand := ⟨200, lcSymtab, 24⟩

def iordmaSample : Kext := ⟨⟨iordmaFamily, 0, 96⟩, [⟨128, lcSegment64, 72⟩, sampleTable]⟩

def sampleSymtab : SymtabInfo := ⟨224, 1, 240, 4⟩

theorem cache_sample_image : IordmaCache cacheSample [iordmaSample] iordmaSample sampleSymtab := by
  have outer : ImageAt cacheSample 0 [⟨32, lcFilesetEntry, 64⟩] := by decide +kernel
  have located : KextAt cacheSample ⟨32, lcFilesetEntry, 64⟩ iordmaSample := by
    constructor <;> decide +kernel
  constructor
  · exact ⟨_, outer, iordmaSample, [], rfl, located, rfl⟩
  · rfl
  · decide +kernel
  · decide +kernel
  · exact ⟨sampleTable, rfl, by decide, by decide +kernel⟩
  · decide
  · decide
  · decide

theorem cache_sample_covers : Covers cacheSample iordmaSample sampleSymtab 244 := by
  constructor <;> decide +kernel

theorem guarded_sample_disagrees :
    IordmaCache cacheSample [iordmaSample] iordmaSample sampleSymtab ∧
      Covers cacheSample iordmaSample sampleSymtab 244 ∧
        ¬ParsersAgree cacheSample iordmaSample 244 := by
  constructor
  · exact cache_sample_image
  constructor
  · exact cache_sample_covers
  · apply protected_segments_disagree cache_sample_image cache_sample_covers
    decide +kernel

end Verbifrost.KextSymbols
