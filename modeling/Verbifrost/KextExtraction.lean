import Mathlib.Data.List.Sort
import Mathlib.Logic.Function.Basic
import Verbifrost.MachO

/-!
# Extracting kexts from a kernelcache

`extract_kexts` of `extract_kexts2.py`, and its first version in
`extract_kexts.py`, which differs in what it checks before a load command. The
output directory is the map from file names to contents. An exception is
`none`: the files written before it are not followed any further.
-/

namespace Verbifrost.KextExtraction

open Verbifrost.ByteMemory Verbifrost.FileBytes Verbifrost.MachO

set_option autoImplicit false

structure FilesetEntry where
  name : Text
  vmaddr : BitVec 64
  fileoff : BitVec 64
deriving DecidableEq

def rdma : Text := ['R', 'D', 'M', 'A']

def iokitPrefix : Text :=
  ['c', 'o', 'm', '.', 'a', 'p', 'p', 'l', 'e', '.', 'i', 'o', 'k', 'i', 't', '.']

def driverPrefix : Text :=
  ['c', 'o', 'm', '.', 'a', 'p', 'p', 'l', 'e', '.', 'd', 'r', 'i', 'v', 'e', 'r', '.']

def fileSuffix : Text := ['.', 'k', 'e', 'x', 't', '.', 'b', 'i', 'n']

/-- The name behind `entry_id_offset`. -/
def entryName (data : ByteString) (command : LoadCommand) : Option Text := do
  let entryIdOffset ← unpackLE 32 data (command.offset + 24)
  decodeUtf8 (cString (data.drop (command.offset + entryIdOffset.toNat)))

def collectEntry (data : ByteString) (command : LoadCommand) (entries : List FilesetEntry) :
    Option (List FilesetEntry) :=
  if command.cmd = lcFilesetEntry then do
    let vmaddr ← unpackLE 64 data (command.offset + 8)
    let fileoff ← unpackLE 64 data (command.offset + 16)
    let name ← entryName data command
    if contains rdma name then some (entries ++ [⟨name, vmaddr, fileoff⟩]) else some entries
  else some entries

/-- `seg_fileoff` and `seg_filesize` are read eight bytes behind those fields. -/
def segmentEnd (data : ByteString) (command : LoadCommand) (maxFileEnd : Nat) : Option Nat :=
  if command.cmd = lcSegment64 then do
    let segFileoff ← unpackLE 64 data (command.offset + 48)
    let segFilesize ← unpackLE 64 data (command.offset + 56)
    let fileEnd := segFileoff.toNat + segFilesize.toNat
    some (if maxFileEnd < fileEnd then fileEnd else maxFileEnd)
  else some maxFileEnd

def kextData (guards : LoopGuards) (data : ByteString) (entry : FilesetEntry) : Option ByteString := do
  let fileoff := entry.fileoff.toNat
  let subNcmds ← unpackLE 32 data (fileoff + 16)
  let maxFileEnd ← forCommands guards data (segmentEnd data) subNcmds.toNat (fileoff + 32) 0
  some (slice data fileoff maxFileEnd)

def shortName (name : Text) : Text := removeAll driverPrefix (removeAll iokitPrefix name)

def outpath (name : Text) : Text := shortName name ++ fileSuffix

abbrev Directory := Text → Option ByteString

def writeKext (guards : LoopGuards) (data : ByteString) (dir : Directory) (entry : FilesetEntry) :
    Option Directory :=
  (kextData guards data entry).map fun content =>
    Function.update dir (outpath entry.name) (some content)

def extractWith (outer inner : LoopGuards) (data : ByteString) (dir : Directory) :
    Option (List FilesetEntry × Directory) := do
  let ncmds ← unpackLE 32 data 16
  let entries ← forCommands outer data (collectEntry data) ncmds.toNat 32 []
  let entries := entries.insertionSort fun left right => left.fileoff.toNat ≤ right.fileoff.toNat
  let dir ← entries.foldlM (writeKext inner data) dir
  some (entries, dir)

/-- `extract_kexts2.py`. -/
def extractKexts (data : ByteString) (dir : Directory) : Option (List FilesetEntry × Directory) :=
  extractWith ⟨false, true⟩ ⟨true, true⟩ data dir

/-- `extract_kexts.py`: nothing but the magic is checked, and without it `None` is returned. -/
def extractKextsFirst (data : ByteString) (dir : Directory) :
    Option (Option (List FilesetEntry) × Directory) := do
  let magic ← unpackLE 32 data 0
  if magic ≠ 0xFEEDFACF then some (none, dir)
  else
    let (entries, dir) ← extractWith ⟨false, false⟩ ⟨false, false⟩ data dir
    some (some entries, dir)

structure Kext where
  entry : FilesetEntry
  commands : List LoadCommand

def Kext.segments (kext : Kext) : List LoadCommand :=
  kext.commands.filter fun command => command.cmd = lcSegment64

def segmentFileoff (data : ByteString) (segment : LoadCommand) : Nat := (segment.field data 40 64).toNat

def segmentFilesize (data : ByteString) (segment : LoadCommand) : Nat := (segment.field data 48 64).toNat

/-- `maxprot` and `initprot`, which follow the file size, as one number. -/
def segmentProtection (data : ByteString) (segment : LoadCommand) : Nat :=
  (segment.field data 56 64).toNat

def largest (values : List Nat) : Nat := values.foldl max 0

def Kext.fileEnd (data : ByteString) (kext : Kext) : Nat :=
  largest (kext.segments.map fun segment => segmentFileoff data segment + segmentFilesize data segment)

/-- The bytes of the image from the entry's file offset to the end of its last segment. -/
def Kext.bytes (data : ByteString) (kext : Kext) : ByteString :=
  slice data kext.entry.fileoff.toNat (kext.fileEnd data)

structure KextAt (data : ByteString) (command : LoadCommand) (kext : Kext) : Prop where
  long : filesetEntryCommandSize ≤ command.cmdsize.toNat
  vmaddr : command.field data 8 64 = kext.entry.vmaddr
  fileoff : command.field data 16 64 = kext.entry.fileoff
  name : decodeUtf8 (cString (data.drop (command.offset + (command.field data 24 32).toNat))) =
    some kext.entry.name
  plain : '/' ∉ kext.entry.name
  image : ImageAt data kext.entry.fileoff.toNat kext.commands
  segments : ∀ segment ∈ kext.segments, segmentCommand64Size ≤ segment.cmdsize.toNat ∧
    segmentFileoff data segment + segmentFilesize data segment ≤ data.length

/-- The kexts of the fileset entries among the commands, in their order. -/
def KextsAt (data : ByteString) : List LoadCommand → List Kext → Prop
  | [], kexts => kexts = []
  | command :: rest, kexts =>
      if command.cmd = lcFilesetEntry then
        ∃ kext later, kexts = kext :: later ∧ KextAt data command kext ∧ KextsAt data rest later
      else KextsAt data rest kexts

structure FilesetImage (data : ByteString) (kexts : List Kext) : Prop where
  image : ∃ commands, ImageAt data 0 commands ∧ KextsAt data commands kexts

def isRdma (kext : Kext) : Bool := contains rdma kext.entry.name

/-- What is asked of the output directory, whatever it held before. -/
structure Extracts (data : ByteString) (kexts : List Kext) (entries : List FilesetEntry)
    (dir : Directory) : Prop where
  holds : ∀ kext ∈ kexts, isRdma kext = true → dir (outpath kext.entry.name) = some (kext.bytes data)
  kept : (entries.map fun entry => outpath entry.name).Nodup

def ExtractsKexts (data : ByteString) (kexts : List Kext) : Prop :=
  ∀ dir, ∃ entries after, extractKexts data dir = some (entries, after) ∧
    Extracts data kexts entries after

section Image

variable {data : ByteString}

theorem entry_name_read {command : LoadCommand} {kext : Kext}
    (inside : command.offset + command.cmdsize.toNat ≤ data.length)
    (placed : KextAt data command kext) : entryName data command = some kext.entry.name := by
  have long : 32 ≤ command.cmdsize.toNat := placed.long
  have idOffset : unpackLE 32 data (command.offset + 24) = some (command.field data 24 32) :=
    unpack_field inside (by omega)
  simp only [entryName, idOffset, Option.bind_eq_bind, Option.bind_some]
  exact placed.name

theorem collect_fileset_entry {command : LoadCommand} {kext : Kext}
    (inside : command.offset + command.cmdsize.toNat ≤ data.length)
    (fileset : command.cmd = lcFilesetEntry) (placed : KextAt data command kext)
    (entries : List FilesetEntry) :
    collectEntry data command entries =
      some (if isRdma kext = true then entries ++ [kext.entry] else entries) := by
  have long : 32 ≤ command.cmdsize.toNat := placed.long
  have vmaddr : unpackLE 64 data (command.offset + 8) = some kext.entry.vmaddr := by
    rw [unpack_field inside (by omega), placed.vmaddr]
  have fileoff : unpackLE 64 data (command.offset + 16) = some kext.entry.fileoff := by
    rw [unpack_field inside (by omega), placed.fileoff]
  have name := entry_name_read inside placed
  simp only [collectEntry, if_pos fileset, vmaddr, fileoff, name, Option.bind_eq_bind,
    Option.bind_some]
  by_cases selected : contains rdma kext.entry.name = true
  · have rdmaKext : isRdma kext = true := selected
    rw [if_pos selected, if_pos rdmaKext]
  · have otherKext : ¬isRdma kext = true := selected
    rw [if_neg selected, if_neg otherKext]

/-- By induction on the load commands, of which only fileset entries count. -/
theorem fileset_fold {State : Type} {body : LoadCommand → State → Option State}
    {step : State → Kext → State} {commands : List LoadCommand} {kexts : List Kext}
    (inside : ∀ command ∈ commands, command.offset + command.cmdsize.toNat ≤ data.length)
    (placed : KextsAt data commands kexts)
    (entries : ∀ command kext, command.offset + command.cmdsize.toNat ≤ data.length →
      command.cmd = lcFilesetEntry → KextAt data command kext →
        ∀ state, body command state = some (step state kext))
    (others : ∀ command state, command.cmd ≠ lcFilesetEntry → body command state = some state)
    (state : State) :
    commands.foldlM (fun state command => body command state) state =
      some (kexts.foldl step state) := by
  induction commands generalizing kexts state with
  | nil =>
      have none : kexts = [] := placed
      rw [none]
      rfl
  | cons command rest induction =>
      rcases List.forall_mem_cons.mp inside with ⟨first, restInside⟩
      rw [KextsAt] at placed
      rw [List.foldlM_cons]
      by_cases fileset : command.cmd = lcFilesetEntry
      · rw [if_pos fileset] at placed
        rcases placed with ⟨kext, later, same, at_, placed⟩
        rw [entries command kext first fileset at_, same, Option.bind_eq_bind, Option.bind_some]
        exact induction restInside placed _
      · rw [if_neg fileset] at placed
        rw [others command state fileset, Option.bind_eq_bind, Option.bind_some]
        exact induction restInside placed state

theorem collect_entries {commands : List LoadCommand} {kexts : List Kext}
    (inside : ∀ command ∈ commands, command.offset + command.cmdsize.toNat ≤ data.length)
    (placed : KextsAt data commands kexts) :
    commands.foldlM (fun entries command => collectEntry data command entries) [] =
      some ((kexts.filter isRdma).map Kext.entry) := by
  have collected := fileset_fold inside placed
    (fun command kext first fileset at_ => collect_fileset_entry first fileset at_)
    (fun command entries other => if_neg other) []
  rw [← List.foldl_filter] at collected
  rw [collected, List.foldl_append_eq_append, List.nil_append, ← List.flatMap_def,
    List.map_eq_flatMap]

/-- What `extract_kexts` takes for the end: the largest sum of file size and protections. -/
def Kext.readEnd (data : ByteString) (kext : Kext) : Nat :=
  largest (kext.segments.map fun segment =>
    segmentFilesize data segment + segmentProtection data segment)

theorem segment_end_step {command : LoadCommand}
    (inside : command.offset + command.cmdsize.toNat ≤ data.length)
    (long : command.cmd = lcSegment64 → segmentCommand64Size ≤ command.cmdsize.toNat)
    (maxFileEnd : Nat) :
    segmentEnd data command maxFileEnd =
      some (if decide (command.cmd = lcSegment64) = true then
        max maxFileEnd (segmentFilesize data command + segmentProtection data command)
      else maxFileEnd) := by
  by_cases segment : command.cmd = lcSegment64
  · have size : segmentCommand64Size = 72 := rfl
    have enough := long segment
    have filesize : unpackLE 64 data (command.offset + 48) = some (command.field data 48 64) :=
      unpack_field inside (by omega)
    have protection : unpackLE 64 data (command.offset + 56) = some (command.field data 56 64) :=
      unpack_field inside (by omega)
    rw [if_pos (decide_eq_true segment)]
    simp only [segmentEnd, if_pos segment, filesize, protection, Option.bind_eq_bind,
      Option.bind_some, segmentFilesize, segmentProtection]
    congr 1
    split_ifs <;> omega
  · rw [segmentEnd, if_neg segment, if_neg (by simpa using segment)]

theorem kext_data_read (guards : LoopGuards) {command : LoadCommand} {kext : Kext}
    (placed : KextAt data command kext) :
    kextData guards data kext.entry =
      some (slice data kext.entry.fileoff.toNat (kext.readEnd data)) := by
  rcases placed.image.count with ⟨subNcmds, count, length⟩
  have inside := commands_at_inside placed.image.commands
  have walked := for_commands_steps guards placed.image.commands (fun command listed =>
    segment_end_step (inside command listed) fun segment =>
      (placed.segments command (List.mem_filter.mpr ⟨listed, by simpa using segment⟩)).1) 0
  rw [machHeader64Size, ← List.foldl_filter, ← length] at walked
  simp only [kextData, count, walked, Option.bind_eq_bind, Option.bind_some]
  rw [Kext.readEnd, largest, List.foldl_map]
  rfl

/-- A file that is written once keeps what was written; the others keep what they were. -/
theorem write_kexts (guards : LoopGuards) (entries : List FilesetEntry)
    (reads : ∀ entry ∈ entries, (kextData guards data entry).isSome = true) (dir : Directory) :
    ∃ after, entries.foldlM (writeKext guards data) dir = some after ∧
      (∀ name, name ∉ entries.map (fun entry => outpath entry.name) → after name = dir name) ∧
        ((entries.map fun entry => outpath entry.name).Nodup →
          ∀ entry ∈ entries, after (outpath entry.name) = kextData guards data entry) := by
  induction entries generalizing dir with
  | nil => exact ⟨dir, rfl, fun _ _ => rfl, fun _ entry listed => absurd listed (List.not_mem_nil)⟩
  | cons entry rest induction =>
      rcases List.forall_mem_cons.mp reads with ⟨first, others⟩
      rcases Option.isSome_iff_exists.mp first with ⟨content, read⟩
      obtain ⟨after, written, elsewhere, holds⟩ :=
        induction others (Function.update dir (outpath entry.name) (some content))
      apply Exists.intro after
      constructor
      · rw [List.foldlM_cons, writeKext, read]
        exact written
      constructor
      · intro name missing
        rw [List.map_cons, List.mem_cons, not_or] at missing
        rw [elsewhere name missing.2, Function.update_of_ne missing.1]
      · intro distinct other listed
        rw [List.map_cons, List.nodup_cons] at distinct
        rcases List.mem_cons.mp listed with same | listed
        · rw [same, elsewhere _ distinct.1, Function.update_self, read]
        · exact holds distinct.2 other listed

theorem write_kexts_guards {left right : LoopGuards} {entries : List FilesetEntry}
    (same : ∀ entry ∈ entries, kextData left data entry = kextData right data entry)
    (dir : Directory) :
    entries.foldlM (writeKext left data) dir = entries.foldlM (writeKext right data) dir := by
  induction entries generalizing dir with
  | nil => rfl
  | cons entry rest induction =>
      rcases List.forall_mem_cons.mp same with ⟨first, others⟩
      rw [List.foldlM_cons, List.foldlM_cons, writeKext, writeKext, first]
      congr 1
      funext next
      exact induction others next

/-- The entries in the order in which their files are written. -/
def sortedEntries (kexts : List Kext) : List FilesetEntry :=
  ((kexts.filter isRdma).map Kext.entry).insertionSort
    fun left right => left.fileoff.toNat ≤ right.fileoff.toNat

theorem sorted_entries_perm (kexts : List Kext) :
    (sortedEntries kexts).Perm ((kexts.filter isRdma).map Kext.entry) :=
  List.perm_insertionSort _ _

theorem kexts_at_placed {commands : List LoadCommand} {kexts : List Kext}
    (placed : KextsAt data commands kexts) :
    ∀ kext ∈ kexts, ∃ command, KextAt data command kext := by
  induction commands generalizing kexts with
  | nil =>
      have none : kexts = [] := placed
      intro kext listed
      rw [none] at listed
      cases listed
  | cons command rest induction =>
      rw [KextsAt] at placed
      by_cases fileset : command.cmd = lcFilesetEntry
      · rw [if_pos fileset] at placed
        rcases placed with ⟨first, later, same, at_, placed⟩
        intro kext listed
        rw [same] at listed
        rcases List.mem_cons.mp listed with same | listed
        · rw [same]
          exact ⟨command, at_⟩
        · exact induction placed kext listed
      · rw [if_neg fileset] at placed
        exact induction placed

theorem extract_with_writes (outer inner : LoopGuards) {kexts : List Kext}
    (fileset : FilesetImage data kexts) (dir : Directory) :
    extractWith outer inner data dir =
      ((sortedEntries kexts).foldlM (writeKext inner data) dir).map fun after =>
        (sortedEntries kexts, after) := by
  rcases fileset.image with ⟨commands, image, placed⟩
  rcases image.count with ⟨ncmds, count, length⟩
  have walked := for_commands_fold outer (collectEntry data) image.commands []
  rw [collect_entries (commands_at_inside image.commands) placed, machHeader64Size,
    Nat.zero_add] at walked
  rw [Nat.zero_add] at count
  simp only [extractWith, count, length, walked, Option.bind_eq_bind, Option.bind_some]
  exact (Option.map_eq_bind ..).symm

theorem sorted_entry_located {kexts : List Kext} (fileset : FilesetImage data kexts) :
    ∀ entry ∈ sortedEntries kexts, ∃ kext command, KextAt data command kext ∧ kext.entry = entry := by
  rcases fileset.image with ⟨commands, image, placed⟩
  intro entry listed
  rw [(sorted_entries_perm kexts).mem_iff, List.mem_map] at listed
  rcases listed with ⟨kext, selected, same⟩
  rcases kexts_at_placed placed kext (List.mem_filter.mp selected).1 with ⟨command, located⟩
  exact ⟨kext, command, located, same⟩

/-- Every entry's file holds what was read for it, unless another entry has a
file of the same name. -/
theorem extract_kexts_result {kexts : List Kext} (fileset : FilesetImage data kexts)
    (dir : Directory) :
    ∃ after, extractKexts data dir = some (sortedEntries kexts, after) ∧
      (((sortedEntries kexts).map fun entry => outpath entry.name).Nodup →
        ∀ kext ∈ kexts, isRdma kext = true → after (outpath kext.entry.name) =
          some (slice data kext.entry.fileoff.toNat (kext.readEnd data))) := by
  have reads : ∀ entry ∈ sortedEntries kexts, (kextData ⟨true, true⟩ data entry).isSome = true := by
    intro entry listed
    rcases sorted_entry_located fileset entry listed with ⟨kext, command, located, same⟩
    rw [← same, kext_data_read _ located]
    rfl
  obtain ⟨after, written, _, holds⟩ := write_kexts _ (sortedEntries kexts) reads dir
  apply Exists.intro after
  constructor
  · rw [extractKexts, extract_with_writes _ _ fileset, written, Option.map_some]
  · intro distinct kext member selected
    rcases fileset.image with ⟨commands, image, placed⟩
    rcases kexts_at_placed placed kext member with ⟨command, located⟩
    have listed : kext.entry ∈ sortedEntries kexts := by
      rw [(sorted_entries_perm kexts).mem_iff]
      exact List.mem_map_of_mem (List.mem_filter.mpr ⟨member, selected⟩)
    rw [holds distinct kext.entry listed, kext_data_read _ located]

/-- The first version does the same, although it checks less. -/
theorem extract_kexts_first_agrees {kexts : List Kext} (fileset : FilesetImage data kexts)
    (dir : Directory) :
    extractKextsFirst data dir =
      (extractKexts data dir).map fun result => (some result.1, result.2) := by
  have reads : ∀ entry ∈ sortedEntries kexts,
      kextData ⟨false, false⟩ data entry = kextData ⟨true, true⟩ data entry := by
    intro entry listed
    rcases sorted_entry_located fileset entry listed with ⟨kext, command, located, same⟩
    rw [← same, kext_data_read _ located, kext_data_read _ located]
  have magic : unpackLE 32 data 0 = some 0xFEEDFACF := by
    rcases fileset.image with ⟨commands, image, placed⟩
    exact image.magic
  have accepted : ¬(0xFEEDFACF : BitVec 32) ≠ 0xFEEDFACF := fun different => different rfl
  simp only [extractKextsFirst, magic, Option.bind_eq_bind, Option.bind_some, if_neg accepted]
  rw [extractKexts, extract_with_writes _ _ fileset, extract_with_writes _ _ fileset,
    write_kexts_guards reads]
  cases List.foldlM (writeKext ⟨true, true⟩ data) dir (sortedEntries kexts) with
  | none => rfl
  | some after => rfl

/-- No two of the names come down to one without the prefixes. -/
def NamesApart (kexts : List Kext) : Prop :=
  ((kexts.filter isRdma).map fun kext => shortName kext.entry.name).Nodup

instance (kexts : List Kext) : Decidable (NamesApart kexts) :=
  inferInstanceAs (Decidable (List.Nodup _))

/-- The sum of file size and protections cuts the image where its last segment ends. -/
def ExtentsMatch (data : ByteString) (kexts : List Kext) : Prop :=
  ∀ kext ∈ kexts, isRdma kext = true →
    min (kext.readEnd data) data.length - kext.entry.fileoff.toNat =
      min (kext.fileEnd data) data.length - kext.entry.fileoff.toNat

theorem names_apart_iff (kexts : List Kext) :
    ((sortedEntries kexts).map fun entry => outpath entry.name).Nodup ↔ NamesApart kexts := by
  have suffixed : Function.Injective fun name : Text => name ++ fileSuffix :=
    fun _ _ same => List.append_cancel_right same
  have sorted := (sorted_entries_perm kexts).map fun entry => outpath entry.name
  have names : ((kexts.filter isRdma).map Kext.entry).map (fun entry => outpath entry.name) =
      ((kexts.filter isRdma).map fun kext => shortName kext.entry.name).map
        fun name => name ++ fileSuffix := by
    rw [List.map_map, List.map_map]
    rfl
  rw [sorted.nodup_iff, names, List.nodup_map_iff suffixed, NamesApart]

theorem extents_match_iff {kexts : List Kext} (fileset : FilesetImage data kexts)
    (apart : NamesApart kexts) (dir : Directory) :
    ∃ after, extractKexts data dir = some (sortedEntries kexts, after) ∧
      ((∀ kext ∈ kexts, isRdma kext = true →
        after (outpath kext.entry.name) = some (kext.bytes data)) ↔ ExtentsMatch data kexts) := by
  rcases extract_kexts_result fileset dir with ⟨after, written, holds⟩
  have files := holds ((names_apart_iff kexts).mpr apart)
  apply Exists.intro after
  constructor
  · exact written
  constructor
  · intro right kext member selected
    have content := right kext member selected
    rw [files kext member selected] at content
    exact (slice_eq_iff ..).mp (Option.some.inj content)
  · intro extents kext member selected
    rw [files kext member selected, Kext.bytes,
      (slice_eq_iff ..).mpr (extents kext member selected)]

theorem extracts_kexts_iff {kexts : List Kext} (fileset : FilesetImage data kexts) :
    ExtractsKexts data kexts ↔ NamesApart kexts ∧ ExtentsMatch data kexts := by
  constructor
  · intro extracts
    rcases extracts (fun _ => none) with ⟨entries, after, returned, right⟩
    rcases extract_kexts_result fileset (fun _ => none) with ⟨_, written, _⟩
    have sorted : entries = sortedEntries kexts := by
      rw [written] at returned
      exact (congrArg Prod.fst (Option.some.inj returned)).symm
    have apart : NamesApart kexts := by
      rw [← names_apart_iff, ← sorted]
      exact right.kept
    rcases extents_match_iff fileset apart (fun _ => none) with ⟨found, same, extents⟩
    rw [returned] at same
    have ended : after = found := congrArg Prod.snd (Option.some.inj same)
    rw [ended] at right
    exact ⟨apart, extents.mp right.holds⟩
  · intro condition dir
    rcases condition with ⟨apart, extents⟩
    rcases extents_match_iff fileset apart dir with ⟨after, written, holds⟩
    exact ⟨sortedEntries kexts, after, written, holds.mpr extents, (names_apart_iff kexts).mpr apart⟩

end Image

/-- Two entries, `RDMA` and `RDMAX`. The image of each has a segment of its own and
one at the end of the file that they share, all with protections. -/
def sharedSample : ByteString := List.flatten
  [[0xCF, 0xFA, 0xED, 0xFE], List.replicate 12 0, [2, 0, 0, 0, 80, 0, 0, 0], List.replicate 8 0,
    [0x35, 0, 0, 0x80, 40, 0, 0, 0], List.replicate 8 0, [112, 0, 0, 0, 0, 0, 0, 0],
    [32, 0, 0, 0, 0, 0, 0, 0, 0x52, 0x44, 0x4D, 0x41, 0, 0, 0, 0],
    [0x35, 0, 0, 0x80, 40, 0, 0, 0], List.replicate 8 0, [0x20, 1, 0, 0, 0, 0, 0, 0],
    [32, 0, 0, 0, 0, 0, 0, 0, 0x52, 0x44, 0x4D, 0x41, 0x58, 0, 0, 0],
    [0xCF, 0xFA, 0xED, 0xFE], List.replicate 12 0, [2, 0, 0, 0, 144, 0, 0, 0], List.replicate 8 0,
    [0x19, 0, 0, 0, 72, 0, 0, 0], List.replicate 32 0, [112, 0, 0, 0, 0, 0, 0, 0],
    [176, 0, 0, 0, 0, 0, 0, 0, 5, 0, 0, 0, 5, 0, 0, 0], List.replicate 8 0,
    [0x19, 0, 0, 0, 72, 0, 0, 0], List.replicate 32 0, [0xD0, 1, 0, 0, 0, 0, 0, 0],
    [4, 0, 0, 0, 0, 0, 0, 0, 1, 0, 0, 0, 1, 0, 0, 0], List.replicate 8 0,
    [0xCF, 0xFA, 0xED, 0xFE], List.replicate 12 0, [2, 0, 0, 0, 144, 0, 0, 0], List.replicate 8 0,
    [0x19, 0, 0, 0, 72, 0, 0, 0], List.replicate 32 0, [0x20, 1, 0, 0, 0, 0, 0, 0],
    [176, 0, 0, 0, 0, 0, 0, 0, 5, 0, 0, 0, 5, 0, 0, 0], List.replicate 8 0,
    [0x19, 0, 0, 0, 72, 0, 0, 0], List.replicate 32 0, [0xD0, 1, 0, 0, 0, 0, 0, 0],
    [4, 0, 0, 0, 0, 0, 0, 0, 1, 0, 0, 0, 1, 0, 0, 0], List.replicate 8 0,
    [0xAA, 0xBB, 0xCC, 0xDD]]

def firstKext : Kext := ⟨⟨rdma, 0, 112⟩, [⟨144, lcSegment64, 72⟩, ⟨216, lcSegment64, 72⟩]⟩

def secondKext : Kext :=
  ⟨⟨rdma ++ ['X'], 0, 288⟩, [⟨320, lcSegment64, 72⟩, ⟨392, lcSegment64, 72⟩]⟩

theorem shared_sample_image : FilesetImage sharedSample [firstKext, secondKext] := by
  have outer : ImageAt sharedSample 0 [⟨32, lcFilesetEntry, 40⟩, ⟨72, lcFilesetEntry, 40⟩] := by
    decide +kernel
  have first : KextAt sharedSample ⟨32, lcFilesetEntry, 40⟩ firstKext := by
    constructor <;> decide +kernel
  have second : KextAt sharedSample ⟨72, lcFilesetEntry, 40⟩ secondKext := by
    constructor <;> decide +kernel
  constructor
  exact ⟨_, outer, firstKext, _, rfl, first, secondKext, [], rfl, second, rfl⟩

/-- Where the last segment ends with the file, the protections do no harm. -/
theorem extracts_shared_sample : ExtractsKexts sharedSample [firstKext, secondKext] := by
  rw [extracts_kexts_iff shared_sample_image]
  constructor
  · decide
  · intro kext listed selected
    rcases List.mem_cons.mp listed with first | second
    · rw [first]
      decide +kernel
    · rw [List.mem_singleton.mp second]
      decide +kernel

/-- One entry, `RDMA`, whose image has one segment, and a byte behind it. -/
def paddedSample : ByteString :=
  [0xCF, 0xFA, 0xED, 0xFE] ++ List.replicate 12 0 ++ [1, 0, 0, 0, 40, 0, 0, 0] ++
    List.replicate 8 0 ++
  [0x35, 0, 0, 0x80, 40, 0, 0, 0] ++ List.replicate 8 0 ++ [72, 0, 0, 0, 0, 0, 0, 0] ++
    [32, 0, 0, 0, 0, 0, 0, 0] ++ [0x52, 0x44, 0x4D, 0x41, 0, 0, 0, 0] ++
  [0xCF, 0xFA, 0xED, 0xFE] ++ List.replicate 12 0 ++ [1, 0, 0, 0, 72, 0, 0, 0] ++
    List.replicate 8 0 ++
  [0x19, 0, 0, 0, 72, 0, 0, 0] ++ List.replicate 32 0 ++ [72, 0, 0, 0, 0, 0, 0, 0] ++
    [104, 0, 0, 0, 0, 0, 0, 0] ++ [5, 0, 0, 0, 5, 0, 0, 0] ++ List.replicate 8 0 ++ [0xAA]

def paddedKext : Kext := ⟨⟨rdma, 0, 72⟩, [⟨104, lcSegment64, 72⟩]⟩

theorem padded_sample_image : FilesetImage paddedSample [paddedKext] := by
  have outer : ImageAt paddedSample 0 [⟨32, lcFilesetEntry, 40⟩] := by decide +kernel
  have located : KextAt paddedSample ⟨32, lcFilesetEntry, 40⟩ paddedKext := by
    constructor <;> decide +kernel
  constructor
  exact ⟨_, outer, paddedKext, [], rfl, located, rfl⟩

/-- The byte behind the segment is written with it. -/
theorem padded_sample_overrun :
    FilesetImage paddedSample [paddedKext] ∧ ¬ExtractsKexts paddedSample [paddedKext] := by
  constructor
  · exact padded_sample_image
  · intro extracts
    rcases extracts (fun _ => none) with ⟨entries, after, returned, right⟩
    have apart : NamesApart [paddedKext] := by decide
    rcases extents_match_iff padded_sample_image apart (fun _ => none) with ⟨found, same, extents⟩
    rw [returned] at same
    have ended : after = found := congrArg Prod.snd (Option.some.inj same)
    rw [ended] at right
    have equal := extents.mp right.holds paddedKext (List.mem_singleton_self _) (by decide)
    exact absurd equal (by decide +kernel)

end Verbifrost.KextExtraction
