import Mathlib.Algebra.Group.Nat.Defs
import Verbifrost.IordmaScripts

/-!
# From the cache to the symbols

The two versions of `extract_kexts` on any bytes whatever, and the way from a
cache through the extracted file to its symbols: `extract_kexts` writes the file
that `parse_kext_syms.py` reads, and `extract_iordma_syms.py` reads the cache
itself.
-/

namespace Verbifrost.KextPipeline

open Verbifrost.ByteMemory Verbifrost.Dictionary Verbifrost.FileBytes Verbifrost.MachO
  Verbifrost.KextExtraction Verbifrost.KextSymbols Verbifrost.IordmaScripts

set_option autoImplicit false

/-- The entries of which `extract_kexts` writes the files. -/
def rdmaEntries (data : ByteString) : Option (List FilesetEntry) := do
  let ncmds ← unpackLE 32 data 16
  forCommands ⟨false, true⟩ data (collectEntry data) ncmds.toNat 32 []

def entryWalk (data : ByteString) (entry : FilesetEntry) : Walk :=
  walk data (commandCount data entry.fileoff.toNat) (entry.fileoff.toNat + 32)

/-- The walks stall at commands that `extract_kexts` makes nothing of. -/
structure SteadyWalks (data : ByteString) : Prop where
  entries : ∀ ncmds, unpackLE 32 data 16 = some ncmds →
    ∀ command, (walk data ncmds.toNat 32).ending = .stalled command → command.cmd ≠ lcFilesetEntry
  segments : ∀ entries, rdmaEntries data = some entries → ∀ entry ∈ entries,
    ∀ command, (entryWalk data entry).ending = .stalled command → command.cmd ≠ lcSegment64

/-- The largest segment end among the commands that the walk passes. -/
def walkedEnd (data : ByteString) (entry : FilesetEntry) : Option Nat :=
  (entryWalk data entry).commands.foldlM
    (fun maxFileEnd command => segmentEnd data command maxFileEnd) 0

/-- What the second version makes of an entry whose load commands leave the
file: the commands before that point are all it has, and its file is written
like every other. -/
structure TakenForEnd (data : ByteString) (entries : List FilesetEntry) (entry : FilesetEntry)
    (dir : Directory) : Prop where
  content : kextData ⟨true, true⟩ data entry =
    (walkedEnd data entry).map fun maxFileEnd => slice data entry.fileoff.toNat maxFileEnd
  written : (∀ other ∈ entries, (kextData ⟨true, true⟩ data other).isSome = true) →
    (entries.map fun other => outpath other.name).Nodup →
      ∃ sorted after, extractKexts data dir = some (sorted, after) ∧ sorted.Perm entries ∧
        after (outpath entry.name) = kextData ⟨true, true⟩ data entry

/-- The first version raises where an image's load commands leave the file, which
the second takes for their end; otherwise they do the same. -/
structure VersionsRelated (data : ByteString) : Prop where
  whole : (∀ entries, rdmaEntries data = some entries → ∀ entry ∈ entries,
      (entryWalk data entry).ending ≠ .cut) →
    ∀ dir, extractKextsFirst data dir =
      (extractKexts data dir).map fun result => (some result.1, result.2)
  cut : ∀ entries, rdmaEntries data = some entries → ∀ entry ∈ entries,
    (entryWalk data entry).ending = .cut → ∀ dir,
      extractKextsFirst data dir = none ∧ TakenForEnd data entries entry dir

theorem entry_walk_counted {data : ByteString} {entry : FilesetEntry} {subNcmds : BitVec 32}
    (count : unpackLE 32 data (entry.fileoff.toNat + 16) = some subNcmds) :
    walk data subNcmds.toNat (entry.fileoff.toNat + 32) = entryWalk data entry := by
  rw [entryWalk, commandCount, count]
  rfl

/-- The second version takes whatever the walk passes. -/
theorem kext_data_lenient {data : ByteString} {entry : FilesetEntry} {subNcmds : BitVec 32}
    (count : unpackLE 32 data (entry.fileoff.toNat + 16) = some subNcmds) :
    kextData ⟨true, true⟩ data entry =
      (walkedEnd data entry).map fun maxFileEnd => slice data entry.fileoff.toNat maxFileEnd := by
  simp only [kextData, walkedEnd, count, for_commands_lenient, Option.bind_eq_bind, Option.bind_some,
    entry_walk_counted count]
  exact (Option.map_eq_bind ..).symm

theorem kext_data_unguarded {data : ByteString} {entry : FilesetEntry}
    (harmless : ∀ command, (entryWalk data entry).ending = .stalled command →
      command.cmd ≠ lcSegment64) :
    kextData ⟨false, false⟩ data entry =
      (kextData ⟨true, true⟩ data entry).bind (entryWalk data entry).ending.guarded := by
  cases count : unpackLE 32 data (entry.fileoff.toNat + 16) with
  | none => simp only [kextData, count, Option.bind_eq_bind, Option.bind_none]
  | some subNcmds =>
      rw [← entry_walk_counted count] at harmless
      have loop := @for_commands_harmless _ data (segmentEnd data) _ _
        (fun command stalled maxFileEnd => if_neg (harmless command stalled)) 0
      rw [entry_walk_counted count] at loop
      rw [kext_data_lenient count, walkedEnd]
      simp only [kextData, count, loop, Option.bind_eq_bind, Option.bind_some]
      cases (entryWalk data entry).commands.foldlM
          (fun maxFileEnd command => segmentEnd data command maxFileEnd) 0 with
      | none => rfl
      | some maxFileEnd => cases (entryWalk data entry).ending <;> rfl

theorem writes_raise {guards : LoopGuards} {data : ByteString} {entries : List FilesetEntry}
    {entry : FilesetEntry} (listed : entry ∈ entries) (raises : kextData guards data entry = none)
    (dir : Directory) : entries.foldlM (writeKext guards data) dir = none := by
  induction entries generalizing dir with
  | nil => cases listed
  | cons first rest induction =>
      rw [List.foldlM_cons]
      rcases List.mem_cons.mp listed with same | later
      · rw [← same, writeKext, raises]
        rfl
      · cases writeKext guards data dir first with
        | none => rfl
        | some next => exact induction later next

section Versions

variable {data : ByteString}

/-- Once the entries are collected they are sorted and written. -/
theorem extract_with_entries {outer inner : LoopGuards} {ncmds : BitVec 32}
    (count : unpackLE 32 data 16 = some ncmds) {found : Option (List FilesetEntry)}
    (loop : forCommands outer data (collectEntry data) ncmds.toNat 32 [] = found) (dir : Directory) :
    extractWith outer inner data dir = found.bind fun entries =>
      ((entries.insertionSort fun left right => left.fileoff.toNat ≤ right.fileoff.toNat).foldlM
        (writeKext inner data) dir).map fun after =>
          (entries.insertionSort fun left right => left.fileoff.toNat ≤ right.fileoff.toNat, after) := by
  simp only [extractWith, count, loop, Option.bind_eq_bind, Option.bind_some]
  cases found with
  | none => rfl
  | some entries =>
      simp only [Option.bind_some]
      exact (Option.map_eq_bind ..).symm

theorem first_version_extracts (magic : unpackLE 32 data 0 = some mhMagic64) (dir : Directory) :
    extractKextsFirst data dir =
      (extractWith ⟨false, false⟩ ⟨false, false⟩ data dir).map fun result =>
        (some result.1, result.2) := by
  have accepted : ¬mhMagic64 ≠ 0xFEEDFACF := fun different => different rfl
  simp only [extractKextsFirst, magic, Option.bind_eq_bind, Option.bind_some, if_neg accepted]
  exact (Option.map_eq_bind ..).symm

theorem entries_collected {ncmds : BitVec 32} (count : unpackLE 32 data 16 = some ncmds) :
    forCommands ⟨false, true⟩ data (collectEntry data) ncmds.toNat 32 [] = rdmaEntries data := by
  rw [rdmaEntries, count]
  rfl

theorem entries_collected_unguarded (steady : SteadyWalks data) {ncmds : BitVec 32}
    (count : unpackLE 32 data 16 = some ncmds) :
    forCommands ⟨false, false⟩ data (collectEntry data) ncmds.toNat 32 [] = rdmaEntries data := by
  rw [← entries_collected count, for_commands_guarded]
  apply for_commands_harmless
  intro command stalled entries
  exact if_neg (steady.entries ncmds count command stalled)

theorem versions_agree (magic : unpackLE 32 data 0 = some mhMagic64) (steady : SteadyWalks data)
    (uncut : ∀ entries, rdmaEntries data = some entries → ∀ entry ∈ entries,
      (entryWalk data entry).ending ≠ .cut) (dir : Directory) :
    extractKextsFirst data dir =
      (extractKexts data dir).map fun result => (some result.1, result.2) := by
  rw [first_version_extracts magic, extractKexts]
  cases count : unpackLE 32 data 16 with
  | none => simp only [extractWith, count, Option.bind_eq_bind, Option.bind_none]
  | some ncmds =>
      rw [extract_with_entries count (entries_collected_unguarded steady count),
        extract_with_entries count (entries_collected count)]
      cases collected : rdmaEntries data with
      | none => rfl
      | some entries =>
          have same : ∀ entry ∈ entries.insertionSort fun left right =>
              left.fileoff.toNat ≤ right.fileoff.toNat,
                kextData ⟨false, false⟩ data entry = kextData ⟨true, true⟩ data entry := by
            intro entry sorted
            have listed := (List.perm_insertionSort _ _).mem_iff.mp sorted
            rw [kext_data_unguarded (steady.segments entries collected entry listed)]
            have ended := uncut entries collected entry listed
            cases ending : (entryWalk data entry).ending with
            | cut => exact absurd ending ended
            | done => cases kextData ⟨true, true⟩ data entry <;> rfl
            | stalled command => cases kextData ⟨true, true⟩ data entry <;> rfl
          rw [Option.bind_some, Option.bind_some, write_kexts_guards same]

theorem cut_image_raises (magic : unpackLE 32 data 0 = some mhMagic64) (steady : SteadyWalks data)
    {entries : List FilesetEntry} (collected : rdmaEntries data = some entries)
    {entry : FilesetEntry} (listed : entry ∈ entries)
    (cut : (entryWalk data entry).ending = .cut) (dir : Directory) :
    extractKextsFirst data dir = none := by
  rw [first_version_extracts magic]
  cases count : unpackLE 32 data 16 with
  | none => simp only [extractWith, count, Option.bind_eq_bind, Option.bind_none, Option.map_none]
  | some ncmds =>
      have raises : kextData ⟨false, false⟩ data entry = none := by
        rw [kext_data_unguarded (steady.segments entries collected entry listed), cut]
        cases kextData ⟨true, true⟩ data entry <;> rfl
      have sorted := (List.perm_insertionSort (fun left right : FilesetEntry =>
        left.fileoff.toNat ≤ right.fileoff.toNat) entries).mem_iff.mpr listed
      rw [extract_with_entries count (entries_collected_unguarded steady count), collected,
        Option.bind_some, writes_raise sorted raises]
      rfl

theorem cut_walk_counted {entry : FilesetEntry} (cut : (entryWalk data entry).ending = .cut) :
    ∃ subNcmds, unpackLE 32 data (entry.fileoff.toNat + 16) = some subNcmds := by
  cases count : unpackLE 32 data (entry.fileoff.toNat + 16) with
  | some subNcmds => exact ⟨subNcmds, rfl⟩
  | none =>
      rw [entryWalk, commandCount, count] at cut
      cases cut

theorem cut_image_taken {entries : List FilesetEntry} (collected : rdmaEntries data = some entries)
    {entry : FilesetEntry} (listed : entry ∈ entries)
    (cut : (entryWalk data entry).ending = .cut) (dir : Directory) :
    TakenForEnd data entries entry dir := by
  rcases cut_walk_counted cut with ⟨subNcmds, count⟩
  constructor
  · exact kext_data_lenient count
  · intro reads distinct
    have sorted := List.perm_insertionSort (fun left right : FilesetEntry =>
      left.fileoff.toNat ≤ right.fileoff.toNat) entries
    obtain ⟨after, written, _, holds⟩ := write_kexts ⟨true, true⟩ _
      (fun other member => reads other (sorted.mem_iff.mp member)) dir
    have apart := ((sorted.map fun other => outpath other.name).nodup_iff).mpr distinct
    refine ⟨_, after, ?_, sorted, holds apart entry (sorted.mem_iff.mpr listed)⟩
    cases outer : unpackLE 32 data 16 with
    | none =>
        rw [rdmaEntries, outer] at collected
        cases collected
    | some ncmds =>
        rw [extractKexts, extract_with_entries outer (entries_collected outer), collected,
          Option.bind_some, written]
        rfl

theorem versions_related (magic : unpackLE 32 data 0 = some mhMagic64)
    (steady : SteadyWalks data) : VersionsRelated data where
  whole := versions_agree magic steady
  cut := fun _ collected _ listed cut dir =>
    ⟨cut_image_raises magic steady collected listed cut dir,
      cut_image_taken collected listed cut dir⟩

/-- On a cache in order no walk stalls. -/
theorem fileset_walks_steady {kexts : List Kext} (fileset : FilesetImage data kexts) :
    SteadyWalks data := by
  rcases fileset.image with ⟨commands, image, placed⟩
  rcases image.count with ⟨ncmds, count, length⟩
  have outer : walk data ncmds.toNat 32 = ⟨commands, .done⟩ := by
    have walked := walk_placed image.commands
    rwa [← length, machHeader64Size] at walked
  rw [Nat.zero_add] at count
  constructor
  · intro word counted command stalled
    cases counted.symm.trans count
    rw [outer] at stalled
    cases stalled
  · intro entries collected entry listed command stalled
    rw [← entries_collected count, for_commands_guarded, outer,
      collect_entries (commands_at_inside image.commands) placed] at collected
    rw [← Option.some.inj collected] at listed
    rcases List.mem_map.mp listed with ⟨kext, selected, same⟩
    rcases kexts_at_placed placed kext (List.mem_filter.mp selected).1 with ⟨_, located⟩
    rcases located.image.count with ⟨subNcmds, subCount, subLength⟩
    have walked := walk_placed located.image.commands
    rw [← subLength, machHeader64Size, entry_walk_counted subCount] at walked
    rw [← same, walked] at stalled
    cases stalled

end Versions

/-- Two entries, `RDMA` and `RDMAX`, each with one segment. The first image then
has a command of size zero that no reader looks for; the second announces
another command, which lies behind the end of the file where `cut` is set. -/
def versionsSample (cut : Bool) : ByteString :=
  [0xCF, 0xFA, 0xED, 0xFE] ++ List.replicate 12 0 ++ [2, 0, 0, 0, 80, 0, 0, 0] ++
    List.replicate 8 0 ++
  [0x35, 0, 0, 0x80, 40, 0, 0, 0] ++ List.replicate 8 0 ++ [112, 0, 0, 0, 0, 0, 0, 0] ++
    [32, 0, 0, 0, 0, 0, 0, 0] ++ [0x52, 0x44, 0x4D, 0x41, 0, 0, 0, 0] ++
  [0x35, 0, 0, 0x80, 40, 0, 0, 0] ++ List.replicate 8 0 ++ [224, 0, 0, 0, 0, 0, 0, 0] ++
    [32, 0, 0, 0, 0, 0, 0, 0] ++ [0x52, 0x44, 0x4D, 0x41, 0x58, 0, 0, 0] ++
  [0xCF, 0xFA, 0xED, 0xFE] ++ List.replicate 12 0 ++ [2, 0, 0, 0, 80, 0, 0, 0] ++
    List.replicate 8 0 ++
  [0x19, 0, 0, 0, 72, 0, 0, 0] ++ List.replicate 32 0 ++ [112, 0, 0, 0, 0, 0, 0, 0] ++
    [112, 0, 0, 0, 0, 0, 0, 0] ++ List.replicate 16 0 ++
  [0x1B, 0, 0, 0, 0, 0, 0, 0] ++
  [0xCF, 0xFA, 0xED, 0xFE] ++ List.replicate 12 0 ++ [2, 0, 0, 0, 80, 0, 0, 0] ++
    List.replicate 8 0 ++
  [0x19, 0, 0, 0, 72, 0, 0, 0] ++ List.replicate 32 0 ++ [224, 0, 0, 0, 0, 0, 0, 0] ++
    [80, 0, 0, 0, 0, 0, 0, 0] ++ [0, 1, 0, 0, 0, 0, 0, 0] ++ List.replicate 8 0 ++
  if cut then [] else [0x1B, 0, 0, 0, 8, 0, 0, 0]

def stalledEntry : FilesetEntry := ⟨rdma, 0, 112⟩

def lastEntry : FilesetEntry := ⟨rdma ++ ['X'], 0, 224⟩

theorem versions_sample_entries (cut : Bool) :
    rdmaEntries (versionsSample cut) = some [stalledEntry, lastEntry] := by
  cases cut <;> decide +kernel

theorem stalled_entry_walk (cut : Bool) :
    (entryWalk (versionsSample cut) stalledEntry).ending = .stalled ⟨216, 0x1B, 0⟩ := by
  cases cut <;> decide +kernel

theorem last_entry_walk (cut : Bool) :
    (entryWalk (versionsSample cut) lastEntry).ending = if cut then .cut else .done := by
  cases cut <;> decide +kernel

theorem versions_sample_steady (cut : Bool) : SteadyWalks (versionsSample cut) := by
  constructor
  · intro ncmds counted command stalled
    have count : unpackLE 32 (versionsSample cut) 16 = some 2#32 := by
      cases cut <;> decide +kernel
    cases counted.symm.trans count
    have ended : (walk (versionsSample cut) (2#32).toNat 32).ending = .done := by
      cases cut <;> decide +kernel
    rw [ended] at stalled
    cases stalled
  · intro entries collected entry listed command stalled
    rw [versions_sample_entries] at collected
    cases collected
    rcases List.mem_cons.mp listed with rfl | later
    · rw [stalled_entry_walk] at stalled
      cases stalled
      decide
    · rw [List.mem_singleton.mp later, last_entry_walk] at stalled
      cases cut <;> cases stalled

/-- The command of size zero makes no difference; without the last command one
version raises and the other writes the file. -/
theorem sample_versions_related :
    (∀ dir, extractKextsFirst (versionsSample false) dir =
        (extractKexts (versionsSample false) dir).map fun result => (some result.1, result.2)) ∧
      extractKextsFirst (versionsSample true) (fun _ => none) = none ∧
      ∃ sorted after, extractKexts (versionsSample true) (fun _ => none) = some (sorted, after) ∧
        after (outpath lastEntry.name) = some ((versionsSample true).drop 224) := by
  have whole := (@versions_related (versionsSample false) (by decide +kernel)
    (versions_sample_steady false)).whole
  have cut := (@versions_related (versionsSample true) (by decide +kernel)
    (versions_sample_steady true)).cut _ (versions_sample_entries true) lastEntry (by simp)
      (last_entry_walk true) fun _ => none
  refine ⟨whole ?_, cut.1, ?_⟩
  · intro entries collected entry listed
    rw [versions_sample_entries] at collected
    cases collected
    rcases List.mem_cons.mp listed with rfl | later
    · rw [stalled_entry_walk]
      exact nofun
    · rw [List.mem_singleton.mp later, last_entry_walk]
      exact nofun
  · rcases cut.2.written (by decide +kernel) (by decide) with ⟨sorted, after, ran, _, file⟩
    refine ⟨sorted, after, ran, ?_⟩
    rw [file]
    decide +kernel

section Routes

variable {data : ByteString} {kexts : List Kext} {kext : Kext} {symtab : SymtabInfo}

/-- How far the file reaches that `extract_kexts` writes. -/
def copyEnd (data : ByteString) (kext : Kext) : Nat := min (kext.readEnd data) data.length

theorem iordma_file_written (cache : IordmaCache data kexts kext symtab) (apart : NamesApart kexts)
    (dir : Directory) :
    ∃ after, extractKexts data dir = some (sortedEntries kexts, after) ∧
      after (outpath iordmaFamily) = some (kextCopy data kext (copyEnd data kext)) := by
  rcases iordma_listed cache with ⟨member, named⟩
  have name : kext.entry.name = iordmaFamily := of_decide_eq_true named
  have selected : isRdma kext = true := by
    rw [isRdma, name]
    decide
  rcases extract_kexts_result cache.fileset dir with ⟨after, written, holds⟩
  have content := holds ((names_apart_iff kexts).mpr apart) kext member selected
  apply Exists.intro after
  constructor
  · exact written
  · rw [← name, content, kextCopy, copyEnd, (slice_eq_iff ..).mpr]
    omega

theorem commands_end_inside {offset : Nat} {commands : List LoadCommand}
    (placed : CommandsAt data offset commands) :
    commandsEnd offset commands ≤ max offset data.length := by
  induction commands generalizing offset with
  | nil => exact Nat.le_max_left _ _
  | cons command rest induction =>
      rcases placed with ⟨_, _, _, _, inside, later⟩
      have ends := induction later
      rw [commandsEnd]
      omega

theorem commands_in_cache (cache : IordmaCache data kexts kext symtab) :
    commandsEnd (kext.entry.fileoff.toNat + machHeader64Size) kext.commands ≤ data.length := by
  rcases iordma_located cache with ⟨_, located⟩
  rcases List.exists_mem_of_ne_nil _ (iordma_segments_filled cache) with ⟨segment, listed⟩
  have member := (List.mem_filter.mp listed).1
  have first := (commands_at_end located.image.commands segment member).1
  have inside := commands_at_inside located.image.commands segment member
  have ends := commands_end_inside located.image.commands
  omega

def Protected (data : ByteString) (kext : Kext) : Prop :=
  ∀ segment ∈ kext.segments, 2 ^ 32 ≤ segmentProtection data segment

instance (data : ByteString) (kext : Kext) : Decidable (Protected data kext) :=
  inferInstanceAs (Decidable (∀ _ ∈ _, _))

theorem le_largest {values : List Nat} {value : Nat} (listed : value ∈ values) :
    value ≤ largest values := by
  have found : (0 :: values).max? = some (largest values) := List.max?_cons'
  exact (List.max?_eq_some_iff.mp found).2 value (List.mem_cons_of_mem _ listed)

theorem protected_end (cache : IordmaCache data kexts kext symtab) (guarded : Protected data kext)
    (small : data.length ≤ 2 ^ 32) : copyEnd data kext = data.length := by
  rcases List.exists_mem_of_ne_nil _ (iordma_segments_filled cache) with ⟨segment, listed⟩
  have large := guarded segment listed
  have sum := le_largest (List.mem_map_of_mem (f := fun segment =>
    segmentFilesize data segment + segmentProtection data segment) listed)
  rw [copyEnd, Kext.readEnd]
  omega

theorem protected_word (cache : IordmaCache data kexts kext symtab)
    (guarded : Protected data kext) : 2 ^ 32 ≤ lowestWord data kext := by
  have words : (lastOfEach (segmentText data) kext.segments).map (segmentProtection data) ≠ [] := by
    rw [Ne, List.map_eq_nil_iff]
    exact last_of_each_ne_nil _ (iordma_segments_filled cache)
  rcases Option.isSome_iff_exists.mp (List.isSome_min?_of_ne_nil words) with ⟨word, found⟩
  rcases List.mem_map.mp (List.min?_mem found) with ⟨segment, last, same⟩
  rw [lowestWord, found, Option.getD_some, ← same]
  exact guarded segment (List.pwFilter_subset _ last)

/-- Where every segment has an initial protection, the file is the cache from the
kext on, and nothing is found in it of the symbols that the cache yields. -/
theorem protected_route_silent (cache : IordmaCache data kexts kext symtab)
    (apart : NamesApart kexts) (guarded : Protected data kext) (small : data.length ≤ 2 ^ 32)
    (symbols : symtab.symoff.toNat + symtab.nsyms.toNat * 16 ≤ data.length)
    (strings : symtab.stroff.toNat + symtab.strsize.toNat ≤ data.length) (dir : Directory) :
    ∃ after, extractKexts data dir = some (sortedEntries kexts, after) ∧
      after (outpath iordmaFamily) = some (data.drop kext.entry.fileoff.toNat) ∧
        parseMachoSymbols (data.drop kext.entry.fileoff.toNat) = some .returned ∧
          iordmaSymbols data = some (.collected (definedSymbols data symtab)) := by
  have whole : kextCopy data kext data.length = data.drop kext.entry.fileoff.toNat := by
    rw [kextCopy, slice, List.take_of_length_le]
    rw [List.length_drop]
  have covers : Covers data kext symtab data.length :=
    ⟨commands_in_cache cache, symbols, strings, Nat.le_refl _⟩
  have word := protected_word cache guarded
  have bound := symtab.symoff.isLt
  have missed : ¬Reaches data kext symtab data.length := by
    intro reaches
    have within := reaches.1
    omega
  have parsed := parse_macho_symbols_copy cache covers
  rw [if_neg missed, whole] at parsed
  rcases iordma_file_written cache apart dir with ⟨after, written, content⟩
  rw [protected_end cache guarded small, whole] at content
  exact ⟨after, written, content, parsed, iordma_symbols_defined cache⟩
end Routes

theorem sample_route_silent : ∃ after, extractKexts cacheSample (fun _ => none) =
      some (sortedEntries [iordmaSample], after) ∧
    after (outpath iordmaFamily) = some (cacheSample.drop 96) ∧
      parseMachoSymbols (cacheSample.drop 96) = some .returned ∧
        iordmaSymbols cacheSample =
          some (.collected (definedSymbols cacheSample sampleSymtab)) :=
  protected_route_silent cache_sample_image (by decide) (by decide +kernel)
    (by decide +kernel) (by decide +kernel) (by decide +kernel) fun _ => none

end Verbifrost.KextPipeline
