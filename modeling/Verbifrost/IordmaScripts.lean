import Verbifrost.KextSymbols

/-!
# Two scripts for one kext

`parse_iordma_syms.py` does what `extract_iordma_syms.py` does, without the
check for load commands of size zero, with the header of the kext read once the
entry is found, and with an exit where a part is missing. The two are compared
on any bytes whatever.
-/

namespace Verbifrost.IordmaScripts

open Verbifrost.ByteMemory Verbifrost.FileBytes Verbifrost.MachO Verbifrost.KextExtraction
  Verbifrost.KextSymbols

set_option autoImplicit false

/-- How the script ends that raises no exception: twice with `sys.exit(1)`. -/
inductive Exit where
  | notFound
  | noSymtab
  | collected (exported : List Symbol)

/-- `iordma_fileoff` of the last entry of that name. -/
def findFileoff (data : ByteString) (command : LoadCommand) (found : Option Nat) :
    Option (Option Nat) :=
  if command.cmd = lcFilesetEntry then do
    let fileoff ← unpackLE 64 data (command.offset + 16)
    let name ← entryName data command
    if name = iordmaFamily then some (some fileoff.toNat) else some found
  else some found

/-- The name is looked up only for an external symbol with a section. -/
def collectDefined (data strtab : ByteString) (symoff : Nat) :
    Nat → Nat → List Symbol → Option (List Symbol)
  | 0, _, exported => some exported
  | remaining + 1, index, exported =>
      let so := symoff + index * 16
      if data.length < so + 16 then some exported
      else do
        let nStrx ← unpackLE 32 data so
        let nType := contents data (so + 4)
        let nSect := contents data (so + 5)
        let nValue ← unpackLE 64 data (so + 8)
        let exported :=
          if nType &&& 1 ≠ 0 ∧ nSect ≠ 0 then
            let name := symbolName strtab nStrx.toNat
            if name ≠ [] then exported ++ [(name, nValue)] else exported
          else exported
        collectDefined data strtab symoff remaining (index + 1) exported

def parseIordmaSyms (data : ByteString) : Option Exit := do
  let ncmds ← unpackLE 32 data 16
  let found ← forCommands ⟨false, false⟩ data (findFileoff data) ncmds.toNat 32 none
  match found with
  | none => some .notFound
  | some iordmaFileoff =>
      let subNcmds ← unpackLE 32 data (iordmaFileoff + 16)
      let symtab ← forCommands ⟨false, false⟩ data (findSymtab data) subNcmds.toNat
        (iordmaFileoff + 32) none
      match symtab with
      | none => some .noSymtab
      | some symtab =>
          let exported ← collectDefined data (symtab.strings data) symtab.symoff.toNat
            symtab.nsyms.toNat 0 []
          some (.collected exported)

theorem collect_defined_same (data strtab : ByteString) (symoff remaining index : Nat)
    (exported : List Symbol) :
    collectDefined data strtab symoff remaining index exported =
      collectSymbols (fun nSect => nSect ≠ 0) data strtab symoff remaining index exported := by
  induction remaining generalizing index exported with
  | zero => rfl
  | succ remaining induction =>
      rw [collectDefined, collectSymbols]
      dsimp only
      by_cases short : data.length < symoff + index * 16 + 16
      · rw [if_pos short, if_pos short]
      rw [if_neg short, if_neg short]
      congr 1
      funext nStrx
      congr 1
      funext nValue
      rw [induction]
      by_cases external : contents data (symoff + index * 16 + 4) &&& 1 ≠ 0
      · by_cases defined : contents data (symoff + index * 16 + 5) ≠ 0
        · rw [if_pos ⟨external, defined⟩]
          by_cases named : symbolName strtab nStrx.toNat ≠ []
          · rw [if_pos named, if_pos ⟨external, named, decide_eq_true defined⟩]
          · rw [if_neg named, if_neg fun kept => named kept.2.1]
        · rw [if_neg fun kept => defined kept.2,
            if_neg fun kept => defined (of_decide_eq_true kept.2.2)]
      · rw [if_neg fun kept => external kept.1, if_neg fun kept => external kept.1]

theorem collect_defined_symbols (data : ByteString) (symtab : SymtabInfo) :
    collectDefined data (symtab.strings data) symtab.symoff.toNat symtab.nsyms.toNat 0 [] =
      parseSymbols data symtab :=
  collect_defined_same ..

/-- Where the entry says that `IORDMAFamily` lies, if it is one of that name. -/
def iordmaFileoff (data : ByteString) (command : LoadCommand) : Option Nat :=
  if command.cmd = lcFilesetEntry ∧ entryName data command = some iordmaFamily then
    (unpackLE 64 data (command.offset + 16)).map BitVec.toNat
  else none

/-- Both steps read the entry and its name before anything else. -/
def EntryUnreadable (data : ByteString) (command : LoadCommand) : Prop :=
  command.cmd = lcFilesetEntry ∧
    (unpackLE 64 data (command.offset + 16) = none ∨ entryName data command = none)

theorem unreadable_raises {data : ByteString} {command : LoadCommand}
    (unreadable : EntryUnreadable data command) (found : Option Nat)
    (foundWith : Option (Nat × Nat)) :
    findFileoff data command found = none ∧ findEntry data command foundWith = none := by
  rcases unreadable with ⟨fileset, missing⟩
  rw [findFileoff, findEntry, if_pos fileset, if_pos fileset]
  rcases missing with missing | missing
  · rw [missing]
    exact ⟨rfl, rfl⟩
  · rw [missing]
    cases unpackLE 64 data (command.offset + 16) <;> exact ⟨rfl, rfl⟩

theorem find_fileoff_step {data : ByteString} {command : LoadCommand}
    (readable : ¬EntryUnreadable data command) (found : Option Nat) :
    findFileoff data command found = some ((iordmaFileoff data command).orElse fun _ => found) := by
  rw [findFileoff, iordmaFileoff]
  by_cases fileset : command.cmd = lcFilesetEntry
  · rw [if_pos fileset]
    rcases offset : unpackLE 64 data (command.offset + 16) with _ | fileoff
    · exact absurd ⟨fileset, Or.inl offset⟩ readable
    rcases named : entryName data command with _ | name
    · exact absurd ⟨fileset, Or.inr named⟩ readable
    by_cases iordma : name = iordmaFamily
    · simp [fileset, iordma]
    · simp [fileset, iordma]
  · simp [fileset]

def commandCount (data : ByteString) (fileoff : Nat) : Nat :=
  ((unpackLE 32 data (fileoff + 16)).map BitVec.toNat).getD 0

def HeaderInside (data : ByteString) (command : LoadCommand) : Prop :=
  ∀ fileoff, iordmaFileoff data command = some fileoff → fileoff + 20 ≤ data.length

theorem iordma_entry {data : ByteString} {command : LoadCommand} {fileoff : Nat}
    (entry : iordmaFileoff data command = some fileoff) (found : Option (Nat × Nat)) :
    ¬EntryUnreadable data command ∧ findEntry data command found =
      (unpackLE 32 data (fileoff + 16)).map fun ncmds => some (fileoff, ncmds.toNat) := by
  rw [iordmaFileoff] at entry
  by_cases named : command.cmd = lcFilesetEntry ∧ entryName data command = some iordmaFamily
  · rw [if_pos named] at entry
    rcases Option.map_eq_some_iff.mp entry with ⟨word, offset, rfl⟩
    constructor
    · intro unreadable
      rcases unreadable.2 with missing | missing
      · rw [missing] at offset
        cases offset
      · rw [missing] at named
        cases named.2
    · simp only [findEntry, if_pos named.1, offset, named.2, Option.bind_eq_bind, Option.bind_some,
        if_true]
      cases unpackLE 32 data (word.toNat + 16) <;> rfl
  · rw [if_neg named] at entry
    cases entry

theorem other_entry {data : ByteString} {command : LoadCommand}
    (readable : ¬EntryUnreadable data command) (other : iordmaFileoff data command = none)
    (found : Option (Nat × Nat)) : findEntry data command found = some found := by
  rw [findEntry]
  by_cases fileset : command.cmd = lcFilesetEntry
  · rw [if_pos fileset]
    rcases offset : unpackLE 64 data (command.offset + 16) with _ | fileoff
    · exact absurd ⟨fileset, Or.inl offset⟩ readable
    rcases named : entryName data command with _ | name
    · exact absurd ⟨fileset, Or.inr named⟩ readable
    have different : name ≠ iordmaFamily := by
      intro same
      rw [iordmaFileoff, named, same, if_pos ⟨fileset, rfl⟩, offset] at other
      cases other
    simp only [Option.bind_eq_bind, Option.bind_some, if_neg different]
  · rw [if_neg fileset]

theorem find_entry_related {data : ByteString} {command : LoadCommand}
    (inside : HeaderInside data command) (found : Option Nat) :
    findEntry data command (found.map fun fileoff => (fileoff, commandCount data fileoff)) =
      (findFileoff data command found).map
        (Option.map fun fileoff => (fileoff, commandCount data fileoff)) := by
  by_cases readable : EntryUnreadable data command
  · rw [(unreadable_raises readable found none).1, (unreadable_raises readable found _).2]
    rfl
  rw [find_fileoff_step readable]
  cases entry : iordmaFileoff data command with
  | none =>
      rw [other_entry readable entry]
      rfl
  | some fileoff =>
      have header := inside fileoff entry
      have count : unpackLE 32 data (fileoff + 16) = some (load (contents data) (fileoff + 16) 32) :=
        unpack_inside header
      rw [(iordma_entry entry _).2, count]
      simp only [commandCount, count, Option.map_some, Option.getD_some, Option.orElse_some]

theorem find_entry_outside {data : ByteString} {command : LoadCommand}
    (outside : ¬HeaderInside data command) (found : Option (Nat × Nat)) :
    findEntry data command found = none := by
  simp only [HeaderInside, not_forall, not_le] at outside
  rcases outside with ⟨fileoff, entry, short⟩
  have missing : unpackLE 32 data (fileoff + 16) = none := if_neg (by omega)
  rw [(iordma_entry entry found).2, missing]
  rfl

theorem find_entries_related {data : ByteString} {commands : List LoadCommand}
    (inside : ∀ command ∈ commands, HeaderInside data command) (found : Option Nat) :
    (commands.foldlM (fun found command => findEntry data command found)
        (found.map fun fileoff => (fileoff, commandCount data fileoff))) =
      (commands.foldlM (fun found command => findFileoff data command found) found).map
        (Option.map fun fileoff => (fileoff, commandCount data fileoff)) := by
  induction commands generalizing found with
  | nil => rfl
  | cons command rest induction =>
      rcases List.forall_mem_cons.mp inside with ⟨first, others⟩
      rw [List.foldlM_cons, List.foldlM_cons, find_entry_related first]
      cases findFileoff data command found with
      | none => rfl
      | some next => exact induction others next

theorem find_entries_outside {data : ByteString} {commands : List LoadCommand}
    {command : LoadCommand} (listed : command ∈ commands) (outside : ¬HeaderInside data command)
    (found : Option (Nat × Nat)) :
    commands.foldlM (fun found command => findEntry data command found) found = none := by
  induction commands generalizing found with
  | nil => cases listed
  | cons first rest induction =>
      rw [List.foldlM_cons]
      rcases List.mem_cons.mp listed with same | listed
      · rw [← same, find_entry_outside outside]
        rfl
      · cases findEntry data first found with
        | none => rfl
        | some next => exact induction listed next

theorem found_listed {data : ByteString} {commands : List LoadCommand} {found : Option Nat}
    {fileoff : Nat}
    (collected : commands.foldlM (fun found command => findFileoff data command found) found =
      some (some fileoff)) :
    found = some fileoff ∨ ∃ command ∈ commands, iordmaFileoff data command = some fileoff := by
  induction commands generalizing found with
  | nil => exact Or.inl (Option.some.inj collected)
  | cons command rest induction =>
      rw [List.foldlM_cons] at collected
      by_cases readable : EntryUnreadable data command
      · rw [(unreadable_raises readable found none).1] at collected
        cases collected
      rw [find_fileoff_step readable] at collected
      rcases induction collected with before | ⟨later, listed, entry⟩
      · cases entry : iordmaFileoff data command with
        | none =>
            rw [entry] at before
            exact Or.inl before
        | some place =>
            rw [entry] at before
            exact Or.inr ⟨command, List.mem_cons_self, entry.trans before⟩
      · exact Or.inr ⟨later, List.mem_cons_of_mem _ listed, entry⟩

/-- No reader makes anything of the commands that the walks stall at. -/
structure Harmless (data : ByteString) : Prop where
  entries : ∀ ncmds, unpackLE 32 data 16 = some ncmds →
    ∀ command, (walk data ncmds.toNat 32).ending = .stalled command → command.cmd ≠ lcFilesetEntry
  tables : ∀ ncmds, unpackLE 32 data 16 = some ncmds →
    ∀ entry ∈ (walk data ncmds.toNat 32).commands, ∀ fileoff, iordmaFileoff data entry = some fileoff →
      ∀ command, (walk data (commandCount data fileoff) (fileoff + 32)).ending = .stalled command →
        command.cmd ≠ lcSymtab ∧ command.cmd ≠ lcDysymtab

def HeadersInside (data : ByteString) : Prop :=
  ∀ ncmds, unpackLE 32 data 16 = some ncmds →
    ∀ command ∈ (walk data ncmds.toNat 32).commands, HeaderInside data command

/-- How `extract_iordma_syms.py` ends in the same case: without a symbol table it raises. -/
def Exit.outcome : Exit → Option Outcome
  | .notFound => some .returned
  | .noSymtab => none
  | .collected exported => some (.collected exported)

structure ScriptsRelated (data : ByteString) : Prop where
  inside : HeadersInside data → iordmaSymbols data = (parseIordmaSyms data).bind Exit.outcome
  outside : ¬HeadersInside data → iordmaSymbols data = none

theorem entries_harmless {data : ByteString} {command : LoadCommand}
    (other : command.cmd ≠ lcFilesetEntry) (found : Option Nat) :
    findFileoff data command found = some found :=
  if_neg other

theorem tables_harmless {data : ByteString} {command : LoadCommand}
    (other : command.cmd ≠ lcSymtab ∧ command.cmd ≠ lcDysymtab) (symtab : Option SymtabInfo) :
    findSymtab data command symtab = some symtab := by
  rw [findSymtab, if_neg other.1, if_neg other.2]

section Scripts

variable {data : ByteString} (harmless : Harmless data) {ncmds : BitVec 32}
  (count : unpackLE 32 data 16 = some ncmds)

include harmless count

theorem fileoff_loop :
    forCommands ⟨false, false⟩ data (findFileoff data) ncmds.toNat 32 none =
      ((walk data ncmds.toNat 32).commands.foldlM
        (fun found command => findFileoff data command found) none).bind
          (walk data ncmds.toNat 32).ending.guarded := by
  apply for_commands_harmless
  intro command stalled
  exact entries_harmless (harmless.entries ncmds count command stalled)

theorem entry_loops_related (inside : HeadersInside data) :
    forCommands ⟨false, true⟩ data (findEntry data) ncmds.toNat 32 none =
      (forCommands ⟨false, false⟩ data (findFileoff data) ncmds.toNat 32 none).map
        (Option.map fun fileoff => (fileoff, commandCount data fileoff)) := by
  have related := find_entries_related (inside ncmds count) none
  rw [Option.map_none] at related
  rw [fileoff_loop harmless count, for_commands_guarded, related]
  cases (walk data ncmds.toNat 32).commands.foldlM
      (fun found command => findFileoff data command found) none with
  | none => rfl
  | some found => cases (walk data ncmds.toNat 32).ending <;> rfl

theorem found_header (inside : HeadersInside data) {fileoff : Nat}
    (found : forCommands ⟨false, false⟩ data (findFileoff data) ncmds.toNat 32 none =
      some (some fileoff)) :
    (∃ entry ∈ (walk data ncmds.toNat 32).commands, iordmaFileoff data entry = some fileoff) ∧
      ∃ subNcmds, unpackLE 32 data (fileoff + 16) = some subNcmds := by
  rw [fileoff_loop harmless count] at found
  rcases Option.bind_eq_some_iff.mp found with ⟨collected, entries, ended⟩
  have same : collected = some fileoff := by
    cases ending : (walk data ncmds.toNat 32).ending <;> rw [ending] at ended <;> cases ended <;> rfl
  rw [same] at entries
  rcases found_listed entries with before | ⟨entry, listed, place⟩
  · cases before
  · have header := inside ncmds count entry listed fileoff place
    exact ⟨⟨entry, listed, place⟩, _, unpack_inside header⟩

theorem symtab_loops {entry : LoadCommand} (listed : entry ∈ (walk data ncmds.toNat 32).commands)
    {fileoff : Nat} (place : iordmaFileoff data entry = some fileoff) :
    forCommands ⟨false, false⟩ data (findSymtab data) (commandCount data fileoff) (fileoff + 32) none =
      forCommands ⟨false, true⟩ data (findSymtab data) (commandCount data fileoff) (fileoff + 32)
        none := by
  rw [for_commands_guarded]
  apply for_commands_harmless
  intro command stalled
  exact tables_harmless (harmless.tables ncmds count entry listed fileoff place command stalled)

theorem scripts_related_inside (inside : HeadersInside data) :
    iordmaSymbols data = (parseIordmaSyms data).bind Exit.outcome := by
  have loops := entry_loops_related harmless count inside
  simp only [iordmaSymbols, findIordma, parseIordmaSyms, count, Option.bind_eq_bind,
    Option.bind_some, loops]
  cases entries : forCommands ⟨false, false⟩ data (findFileoff data) ncmds.toNat 32 none with
  | none => rfl
  | some found =>
      cases found with
      | none => rfl
      | some fileoff =>
          rcases found_header harmless count inside entries with ⟨⟨entry, listed, place⟩, word, header⟩
          have tables := symtab_loops harmless count listed place
          have number : commandCount data fileoff = word.toNat := by
            rw [commandCount, header]
            rfl
          rw [number] at tables
          simp only [Option.map_some, Option.bind_some, number, header, tables]
          cases forCommands ⟨false, true⟩ data (findSymtab data) word.toNat (fileoff + 32) none with
          | none => rfl
          | some symtab =>
              cases symtab with
              | none => rfl
              | some symtab =>
                  simp only [Option.bind_some, collect_defined_symbols]
                  cases parseSymbols data symtab <;> rfl

end Scripts

theorem scripts_raise_outside {data : ByteString} (outside : ¬HeadersInside data) :
    iordmaSymbols data = none := by
  simp only [HeadersInside, not_forall] at outside
  rcases outside with ⟨ncmds, count, command, listed, header⟩
  have raises := find_entries_outside listed header none
  have loop := @for_commands_guarded _ data (findEntry data) ncmds.toNat 32 none
  rw [raises] at loop
  simp only [iordmaSymbols, findIordma, count, loop, Option.bind_eq_bind, Option.bind_some,
    Option.bind_none]

/-- For any bytes, be they a cache or not. -/
theorem iordma_scripts_related {data : ByteString} (harmless : Harmless data) :
    ScriptsRelated data where
  inside := by
    intro inside
    cases count : unpackLE 32 data 16 with
    | none =>
        simp only [iordmaSymbols, findIordma, parseIordmaSyms, count, Option.bind_eq_bind,
          Option.bind_none]
    | some ncmds => exact scripts_related_inside harmless count inside
  outside := scripts_raise_outside

/-- An entry `IORDMAFamily` whose image has a symbol table and the symbol `a`. A command of
size zero that no reader looks for follows the entry, another one the table. -/
def stalledSample : ByteString :=
  [0xCF, 0xFA, 0xED, 0xFE] ++ List.replicate 12 0 ++ [2, 0, 0, 0, 72, 0, 0, 0] ++
    List.replicate 8 0 ++
  [0x35, 0, 0, 0x80, 64, 0, 0, 0] ++ List.replicate 8 0 ++ [104, 0, 0, 0, 0, 0, 0, 0] ++
    [32, 0, 0, 0, 0, 0, 0, 0] ++ (iordmaFamily.map fun letter => BitVec.ofNat 8 letter.toNat) ++
    List.replicate 4 0 ++
  [0x1B, 0, 0, 0, 0, 0, 0, 0] ++
  [0xCF, 0xFA, 0xED, 0xFE] ++ List.replicate 12 0 ++ [3, 0, 0, 0, 32, 0, 0, 0] ++
    List.replicate 8 0 ++
  [0x02, 0, 0, 0, 24, 0, 0, 0, 168, 0, 0, 0, 1, 0, 0, 0, 184, 0, 0, 0, 4, 0, 0, 0] ++
  [0x1B, 0, 0, 0, 0, 0, 0, 0] ++
  [1, 0, 0, 0, 0x0F, 1, 0, 0, 0x10, 0, 0, 0, 0, 0, 0, 0] ++ [0, 0x61, 0, 0]

theorem stalled_sample_entries :
    walk stalledSample 2 32 = ⟨[⟨32, lcFilesetEntry, 64⟩], .stalled ⟨96, 0x1B, 0⟩⟩ := by
  decide +kernel

theorem stalled_sample_tables :
    walk stalledSample 3 136 = ⟨[⟨136, lcSymtab, 24⟩], .stalled ⟨160, 0x1B, 0⟩⟩ := by
  decide +kernel

theorem stalled_sample_harmless : Harmless stalledSample where
  entries := by
    intro ncmds count command stalled
    have two : unpackLE 32 stalledSample 16 = some 2#32 := by decide +kernel
    cases count.symm.trans two
    cases stalled.symm.trans (congrArg Walk.ending stalled_sample_entries)
    decide
  tables := by
    intro ncmds count entry listed fileoff place command stalled
    have two : unpackLE 32 stalledSample 16 = some 2#32 := by decide +kernel
    cases count.symm.trans two
    have commands : (walk stalledSample (2#32).toNat 32).commands = [⟨32, lcFilesetEntry, 64⟩] :=
      congrArg Walk.commands stalled_sample_entries
    rw [commands, List.mem_singleton] at listed
    have found : iordmaFileoff stalledSample ⟨32, lcFilesetEntry, 64⟩ = some 104 := by
      decide +kernel
    have three : commandCount stalledSample 104 = 3 := by decide +kernel
    rw [listed] at place
    cases place.symm.trans found
    rw [three] at stalled
    cases stalled.symm.trans (congrArg Walk.ending stalled_sample_tables)
    decide

theorem stalled_sample_related : ScriptsRelated stalledSample :=
  iordma_scripts_related stalled_sample_harmless

end Verbifrost.IordmaScripts
