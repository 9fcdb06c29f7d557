import Mathlib.Algebra.Group.Nat.Defs
import Verbifrost.KextSymbols

/-!
# Writing a symbol table and reading it back

A writer of the two tables that `LC_SYMTAB` points to: the names one after
another behind a first zero byte, and an `nlist_64` for each symbol. What the
readers collect from a file that holds both tables, wherever they lie in it,
are the symbols that were written, less those a reader leaves out.
-/

namespace Verbifrost.SymbolTables

open Verbifrost.ByteMemory Verbifrost.FileBytes Verbifrost.MachO Verbifrost.KextExtraction
  Verbifrost.KextSymbols

set_option autoImplicit false

/-- `struct.pack` of one little-endian word. -/
def packLE {w : Nat} (word : BitVec w) : ByteString := (List.range (w / 8)).map (byteOf word)

theorem pack_length {w : Nat} (word : BitVec w) : (packLE word).length = w / 8 := by
  rw [packLE, List.length_map, List.length_range]

def StartsAt (data : ByteString) (offset : Nat) (bytes : ByteString) : Prop :=
  bytes <+: data.drop offset

theorem starts_append {data left right : ByteString} {offset : Nat} :
    StartsAt data offset (left ++ right) ↔
      StartsAt data offset left ∧ StartsAt data (offset + left.length) right := by
  constructor
  · intro starts
    rcases starts with ⟨rest, same⟩
    constructor
    · exact ⟨right ++ rest, by rw [← same, List.append_assoc]⟩
    · refine ⟨rest, ?_⟩
      rw [← List.drop_drop, ← same, List.append_assoc, List.drop_left]
  · intro starts
    rcases starts with ⟨⟨first, left_same⟩, ⟨rest, right_same⟩⟩
    rw [← List.drop_drop, ← left_same, List.drop_left] at right_same
    exact ⟨rest, by rw [List.append_assoc, right_same, left_same]⟩

theorem starts_byte {data bytes : ByteString} {offset index : Nat} (starts : StartsAt data offset bytes)
    (inside : index < bytes.length) : contents data (offset + index) = contents bytes index := by
  rcases starts with ⟨rest, same⟩
  have found := congrArg (fun bytes => bytes[index]?) same
  rw [List.getElem?_append_left inside, List.getElem?_drop] at found
  rw [contents, contents, List.getD_eq_getElem?_getD, List.getD_eq_getElem?_getD, found]

theorem starts_inside {data bytes : ByteString} {offset : Nat} (starts : StartsAt data offset bytes)
    (filled : bytes ≠ []) : offset + bytes.length ≤ data.length := by
  have shorter := starts.length_le
  have positive := List.length_pos_iff.mpr filled
  rw [List.length_drop] at shorter
  omega

theorem load_packed {w : Nat} (whole : w / 8 * 8 = w) {data : ByteString} {offset : Nat}
    {word : BitVec w} (starts : StartsAt data offset (packLE word)) :
    load (contents data) offset w = word := by
  rw [← of_bytes_byte_of whole word, load]
  apply of_bytes_congr whole
  intro index bound
  have listed : (List.range (w / 8))[index]? = some index := by
    rw [List.getElem?_range bound]
  rw [window, starts_byte starts (by rwa [pack_length]), contents, packLE,
    List.getD_eq_getElem?_getD, List.getElem?_map, listed]
  rfl

/-- A name that a string table can hold: ASCII, without a zero. -/
structure SymbolName where
  text : Text
  ascii : ∀ char ∈ text, 0 < char.toNat ∧ char.toNat < 128

def SymbolName.letters (name : SymbolName) : ByteString :=
  name.text.map fun char => BitVec.ofNat 8 char.toNat

def SymbolName.bytes (name : SymbolName) : ByteString := name.letters ++ [0]

structure SymbolEntry where
  name : SymbolName
  nType : Byte
  nSect : Byte
  nDesc : BitVec 16
  nValue : BitVec 64

def stringTable (entries : List SymbolEntry) : ByteString :=
  0 :: entries.flatMap fun entry => entry.name.bytes

def packNlist (nStrx : Nat) (entry : SymbolEntry) : ByteString :=
  packLE (BitVec.ofNat 32 nStrx) ++
    ([entry.nType, entry.nSect] ++ (packLE entry.nDesc ++ packLE entry.nValue))

/-- The entries, the first name standing at `nStrx` of the string table. -/
def symbolTable : Nat → List SymbolEntry → ByteString
  | _, [] => []
  | nStrx, entry :: rest =>
      packNlist nStrx entry ++ symbolTable (nStrx + entry.name.bytes.length) rest

theorem pack_nlist_length (nStrx : Nat) (entry : SymbolEntry) :
    (packNlist nStrx entry).length = 16 := by
  simp [packNlist, pack_length]

theorem letters_filled (name : SymbolName) : ∀ letter ∈ name.letters, letter ≠ 0 := by
  intro letter listed zero
  rcases List.mem_map.mp listed with ⟨char, member, same⟩
  have bounds := name.ascii char member
  have value := congrArg BitVec.toNat (same.trans zero)
  rw [BitVec.toNat_ofNat, Nat.mod_eq_of_lt (by omega)] at value
  exact absurd value (Nat.ne_of_gt bounds.1)

theorem letters_text (name : SymbolName) : decodeAscii name.letters = name.text := by
  have same : ∀ char ∈ name.text, ((fun byte : Byte =>
      if byte < 0x80 then Char.ofNat byte.toNat else Char.ofNat 0xFFFD) ∘
        fun char : Char => BitVec.ofNat 8 char.toNat) char = char := by
    intro char listed
    have bounds := name.ascii char listed
    have value : (BitVec.ofNat 8 char.toNat).toNat = char.toNat := by
      rw [BitVec.toNat_ofNat, Nat.mod_eq_of_lt (by omega)]
    have small : BitVec.ofNat 8 char.toNat < 0x80 := by
      rw [BitVec.lt_def, value]
      exact bounds.2
    rw [Function.comp_apply, if_pos small, value, Char.ofNat_toNat]
  rw [decodeAscii, SymbolName.letters, List.map_map, List.map_congr_left same, List.map_id']

theorem c_string_bytes (name : SymbolName) (rest : ByteString) :
    cString (name.bytes ++ rest) = name.letters := by
  have kept : ∀ letter ∈ name.letters, decide (letter ≠ 0) = true := fun letter listed =>
    decide_eq_true (letters_filled name letter listed)
  rw [cString, SymbolName.bytes, List.append_assoc, List.takeWhile_append_of_pos kept]
  exact List.append_nil _

theorem symbol_name_read {strtab : ByteString} {nStrx : Nat} {name : SymbolName}
    (starts : StartsAt strtab nStrx name.bytes) : symbolName strtab nStrx = name.text := by
  rcases starts with ⟨rest, behind⟩
  have terminated : 0 ∈ name.bytes ++ rest := by simp [SymbolName.bytes]
  rw [symbolName, ← behind, if_pos terminated, c_string_bytes, letters_text]

theorem nlist_read {data : ByteString} {so nStrx : Nat} {entry : SymbolEntry}
    (starts : StartsAt data so (packNlist nStrx entry)) :
    nlistAt data so = ⟨BitVec.ofNat 32 nStrx, entry.nType, entry.nSect, entry.nValue⟩ := by
  rcases starts_append.mp starts with ⟨strx, fields⟩
  rcases starts_append.mp fields with ⟨bytes, words⟩
  rcases starts_append.mp words with ⟨_, value⟩
  rw [pack_length] at bytes value
  have nType := starts_byte bytes (show 0 < 2 by decide)
  have nSect := starts_byte bytes (show 1 < 2 by decide)
  have nValue := load_packed (by rfl) value
  rw [pack_length] at nValue
  rw [nlistAt, load_packed (by rfl) strx]
  congr 1

def SymbolEntry.symbol (entry : SymbolEntry) : Symbol := (entry.name.text, entry.nValue)

def SymbolEntry.collected (keeps : Byte → Bool) (entry : SymbolEntry) : Bool :=
  entry.nType &&& 1 ≠ 0 ∧ entry.name.text ≠ [] ∧ keeps entry.nSect = true

theorem symbol_at_written (keeps : Byte → Bool) {data strtab : ByteString} {so nStrx : Nat}
    {entry : SymbolEntry} (starts : StartsAt data so (packNlist nStrx entry))
    (named : StartsAt strtab nStrx entry.name.bytes) (addressable : nStrx < 2 ^ 32) :
    symbolAt keeps data strtab so =
      if entry.collected keeps = true then some entry.symbol else none := by
  have inside := starts_inside starts (List.ne_nil_of_length_eq_add_one (pack_nlist_length nStrx entry))
  have read := nlist_read starts
  have name : (nlistAt data so).name strtab = entry.name.text := by
    rw [read, Nlist.name, BitVec.toNat_ofNat, Nat.mod_eq_of_lt addressable, symbol_name_read named]
  rw [pack_nlist_length] at inside
  have tests : (so + 16 ≤ data.length ∧ (nlistAt data so).isExported strtab = true ∧
      keeps (nlistAt data so).nSect = true) ↔ entry.collected keeps = true := by
    simp only [Nlist.isExported, SymbolEntry.collected, name, inside, true_and, decide_eq_true_eq,
      and_assoc]
    rw [read]
  simp only [symbolAt, tests, name]
  rw [read]
  rfl

/-- By induction on the entries: each name starts where the ones before it end. -/
theorem symbols_from (keeps : Byte → Bool) {data strtab : ByteString} (symoff : Nat)
    {entries : List SymbolEntry} {start nStrx : Nat}
    (table : StartsAt data (symoff + start * 16) (symbolTable nStrx entries))
    (names : StartsAt strtab nStrx (entries.flatMap fun entry => entry.name.bytes))
    (addressable : nStrx + (entries.flatMap fun entry => entry.name.bytes).length ≤ 2 ^ 32) :
    ((List.range' start entries.length).filterMap fun index =>
        symbolAt keeps data strtab (symoff + index * 16)) =
      (entries.filter (SymbolEntry.collected keeps)).map SymbolEntry.symbol := by
  induction entries generalizing start nStrx with
  | nil => rfl
  | cons entry rest induction =>
      rw [List.flatMap_cons] at names addressable
      rw [List.length_append] at addressable
      rcases starts_append.mp table with ⟨nlist, laterTable⟩
      rcases starts_append.mp names with ⟨name, laterNames⟩
      have filled : 0 < entry.name.bytes.length := by simp [SymbolName.bytes]
      have first := symbol_at_written keeps nlist name (by omega)
      rw [pack_nlist_length, Nat.add_assoc, ← Nat.succ_mul] at laterTable
      have later := induction laterTable laterNames (by omega)
      rw [List.length_cons, List.range'_succ, List.filterMap_cons, first, List.filter_cons]
      by_cases collected : entry.collected keeps = true
      · rw [if_pos collected, if_pos collected, List.map_cons]
        dsimp only
        rw [later]
      · rw [if_neg collected, if_neg collected]
        exact later

/-- Both tables of the command lie in the file; the strings may be padded. -/
structure Holds (data : ByteString) (symtab : SymtabInfo) (entries : List SymbolEntry) : Prop where
  count : symtab.nsyms.toNat = entries.length
  table : StartsAt data symtab.symoff.toNat (symbolTable 1 entries)
  strings : StartsAt (symtab.strings data) 0 (stringTable entries)

instance (data : ByteString) (offset : Nat) (bytes : ByteString) :
    Decidable (StartsAt data offset bytes) :=
  inferInstanceAs (Decidable (_ <+: _))

theorem table_symbols_written (keeps : Byte → Bool) {data : ByteString} {symtab : SymtabInfo}
    {entries : List SymbolEntry} (holds : Holds data symtab entries) :
    tableSymbols keeps data (symtab.strings data) symtab.symoff.toNat symtab.nsyms.toNat =
      (entries.filter (SymbolEntry.collected keeps)).map SymbolEntry.symbol := by
  have length := starts_inside holds.strings (List.cons_ne_nil _ _)
  have bound := symtab.strsize.isLt
  rw [SymtabInfo.strings, slice_length, stringTable, List.length_cons] at length
  have names : StartsAt (symtab.strings data) 1 (entries.flatMap fun entry => entry.name.bytes) :=
    ((@starts_append _ [0] _ _).mp holds.strings).2
  have table : StartsAt data (symtab.symoff.toNat + 0 * 16) (symbolTable 1 entries) := by
    rw [Nat.zero_mul]
    exact holds.table
  rw [tableSymbols, holds.count, List.range_eq_range']
  exact symbols_from keeps _ table names (by omega)

section Readers

variable {data : ByteString} {kexts : List Kext} {kext : Kext} {symtab : SymtabInfo}
  {entries : List SymbolEntry}

/-- What each script makes of a cache whose kext holds the tables. -/
structure ReadBack (data : ByteString) (kext : Kext) (symtab : SymtabInfo)
    (entries : List SymbolEntry) : Prop where
  cache : iordmaSymbols data = some (.collected
    ((entries.filter (SymbolEntry.collected fun nSect => nSect ≠ 0)).map SymbolEntry.symbol))
  copy : ∀ stop, Covers data kext symtab stop → lowestWord data kext = kext.entry.fileoff.toNat →
    Reaches data kext symtab stop → parseMachoSymbols (kextCopy data kext stop) = some (.collected
      ((entries.filter (SymbolEntry.collected fun _ => true)).map SymbolEntry.symbol))

theorem tables_read_back (cache : IordmaCache data kexts kext symtab)
    (holds : Holds data symtab entries) : ReadBack data kext symtab entries := by
  constructor
  · rw [iordma_symbols_defined cache, definedSymbols, table_symbols_written _ holds]
  · intro stop covers based reaches
    have behind : kext.entry.fileoff.toNat ≤ symtab.symoff.toNat := by
      rw [← based]
      exact reaches.1
    rw [parse_macho_symbols_copy cache covers, if_pos reaches,
      rebased_symbols_exact cache covers based behind, table_symbols_written _ holds]

end Readers

/-- The symbols of the sample: `a` is defined, `b` undefined, `c` local and the last
one has no name. -/
def familyEntries : List SymbolEntry :=
  [⟨⟨['a'], by simp⟩, 0x0F, 1, 0, 0x10⟩, ⟨⟨['b'], by simp⟩, 0x01, 0, 0, 0⟩,
    ⟨⟨['c'], by simp⟩, 0x0E, 1, 0, 0x20⟩, ⟨⟨[], by simp⟩, 0x0F, 1, 0, 0x30⟩]

theorem family_sample_read_back :
    ReadBack (familySample true) familyKext familySymtab familyEntries :=
  tables_read_back (family_sample_cache true) ⟨rfl, by decide +kernel, by decide +kernel⟩

end Verbifrost.SymbolTables
