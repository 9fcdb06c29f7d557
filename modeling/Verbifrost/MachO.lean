import Verbifrost.FileBytes

/-!
# The Mach-O file format

Three parts of the format: the thin 64-bit header with its load commands, the
segment, symbol table and fileset entry commands by their fields, and the
64-bit fat header, which is big-endian. `forCommands` is the loop that reads
load commands one after another, with the guards a reader may put before a
step; over well-formed commands it is a fold.
-/

namespace Verbifrost.MachO

open Verbifrost.ByteMemory Verbifrost.FileBytes

set_option autoImplicit false

def mhMagic64 : BitVec 32 := 0xFEEDFACF
def fatMagic64 : BitVec 32 := 0xCAFEBABF

def lcSymtab : BitVec 32 := 0x2
def lcDysymtab : BitVec 32 := 0xB
def lcSegment64 : BitVec 32 := 0x19
def lcFilesetEntry : BitVec 32 := 0x80000035

def machHeader64Size : Nat := 32
def segmentCommand64Size : Nat := 72
def symtabCommandSize : Nat := 24
def dysymtabCommandSize : Nat := 80
def filesetEntryCommandSize : Nat := 32

structure LoadCommand where
  offset : Nat
  cmd : BitVec 32
  cmdsize : BitVec 32
deriving DecidableEq

def LoadCommand.field (command : LoadCommand) (data : ByteString) (position w : Nat) : BitVec w :=
  load (contents data) (command.offset + position) w

/-- Commands that lie in the file one after another from an offset on, each at
least as long as its two first fields. -/
def CommandsAt (data : ByteString) : Nat → List LoadCommand → Prop
  | _, [] => True
  | offset, command :: rest =>
      command.offset = offset ∧ unpackLE 32 data offset = some command.cmd ∧
        unpackLE 32 data (offset + 4) = some command.cmdsize ∧ 8 ≤ command.cmdsize.toNat ∧
          offset + command.cmdsize.toNat ≤ data.length ∧
            CommandsAt data (offset + command.cmdsize.toNat) rest

/-- A thin image at an offset of the file: its header and its load commands. -/
structure ImageAt (data : ByteString) (base : Nat) (commands : List LoadCommand) : Prop where
  magic : unpackLE 32 data base = some mhMagic64
  count : ∃ ncmds, unpackLE 32 data (base + 16) = some ncmds ∧ ncmds.toNat = commands.length
  commands : CommandsAt data (base + machHeader64Size) commands

instance decidableCommandsAt (data : ByteString) :
    ∀ offset commands, Decidable (CommandsAt data offset commands)
  | _, [] => inferInstanceAs (Decidable True)
  | offset, command :: rest =>
      have := decidableCommandsAt data (offset + command.cmdsize.toNat) rest
      inferInstanceAs (Decidable (_ ∧ _ ∧ _ ∧ _ ∧ _ ∧ _))

theorem image_at_iff {data : ByteString} {base : Nat} {commands : List LoadCommand} :
    (unpackLE 32 data base = some mhMagic64 ∧
      (unpackLE 32 data (base + 16)).map BitVec.toNat = some commands.length ∧
        CommandsAt data (base + machHeader64Size) commands) ↔ ImageAt data base commands := by
  rw [Option.map_eq_some_iff]
  constructor
  · intro parts
    exact ⟨parts.1, parts.2.1, parts.2.2⟩
  · intro image
    exact ⟨image.magic, image.count, image.commands⟩

instance (data : ByteString) (base : Nat) (commands : List LoadCommand) :
    Decidable (ImageAt data base commands) :=
  decidable_of_iff _ image_at_iff

theorem commands_at_inside {data : ByteString} {offset : Nat} {commands : List LoadCommand}
    (placed : CommandsAt data offset commands) :
    ∀ command ∈ commands, command.offset + command.cmdsize.toNat ≤ data.length := by
  induction commands generalizing offset with
  | nil =>
      intro command listed
      cases listed
  | cons first rest induction =>
      rcases placed with ⟨start, _, _, _, inside, later⟩
      intro command listed
      rcases List.mem_cons.mp listed with same | listed
      · rw [same, start]
        exact inside
      · exact induction later command listed

theorem unpack_field {data : ByteString} {command : LoadCommand} {position w : Nat}
    (inside : command.offset + command.cmdsize.toNat ≤ data.length)
    (within : position + w / 8 ≤ command.cmdsize.toNat) :
    unpackLE w data (command.offset + position) = some (command.field data position w) :=
  unpack_inside (by omega)

def commandsEnd : Nat → List LoadCommand → Nat
  | offset, [] => offset
  | offset, command :: rest => commandsEnd (offset + command.cmdsize.toNat) rest

/-- The command in a copy of the file from `base` on. -/
def LoadCommand.moved (base : Nat) (command : LoadCommand) : LoadCommand :=
  { command with offset := command.offset - base }

theorem commands_end_le (offset : Nat) (commands : List LoadCommand) :
    offset ≤ commandsEnd offset commands := by
  induction commands generalizing offset with
  | nil => exact Nat.le_refl _
  | cons command rest induction => exact Nat.le_trans (Nat.le_add_right _ _) (induction _)

theorem commands_at_end {data : ByteString} {offset : Nat} {commands : List LoadCommand}
    (placed : CommandsAt data offset commands) :
    ∀ command ∈ commands, offset ≤ command.offset ∧
      command.offset + command.cmdsize.toNat ≤ commandsEnd offset commands := by
  induction commands generalizing offset with
  | nil =>
      intro command listed
      cases listed
  | cons first rest induction =>
      rcases placed with ⟨start, _, _, _, _, later⟩
      intro command listed
      rcases List.mem_cons.mp listed with same | listed
      · rw [same, start]
        exact ⟨Nat.le_refl _, commands_end_le _ rest⟩
      · rcases induction later command listed with ⟨after, before⟩
        exact ⟨Nat.le_trans (Nat.le_add_right _ _) after, before⟩

theorem commands_at_slice {data : ByteString} {base stop offset : Nat} {commands : List LoadCommand}
    (placed : CommandsAt data (base + offset) commands)
    (covered : commandsEnd (base + offset) commands ≤ stop) (fits : stop ≤ data.length) :
    CommandsAt (slice data base stop) offset (commands.map (LoadCommand.moved base)) := by
  induction commands generalizing offset with
  | nil => trivial
  | cons command rest induction =>
      rcases placed with ⟨start, cmd, cmdsize, long, inside, later⟩
      have ends := commands_end_le (base + offset + command.cmdsize.toNat) rest
      rw [commandsEnd] at covered
      have length := slice_length data base stop
      constructor
      · show command.offset - base = offset
        omega
      constructor
      · rw [unpack_slice (by rfl) data (by omega) fits, cmd]
        rfl
      constructor
      · rw [unpack_slice (by rfl) data (by omega) fits, ← Nat.add_assoc, cmdsize]
        rfl
      constructor
      · exact long
      constructor
      · show offset + command.cmdsize.toNat ≤ _
        omega
      · rw [Nat.add_assoc] at later covered
        exact induction later covered

theorem unpack_moved {data : ByteString} {base stop position w : Nat} {command : LoadCommand}
    (whole : w / 8 * 8 = w) (after : base ≤ command.offset)
    (before : command.offset + command.cmdsize.toNat ≤ stop) (fits : stop ≤ data.length)
    (within : position + w / 8 ≤ command.cmdsize.toNat) :
    unpackLE w (slice data base stop) ((command.moved base).offset + position) =
      unpackLE w data (command.offset + position) := by
  have offset : base + ((command.moved base).offset + position) = command.offset + position := by
    show base + (command.offset - base + position) = _
    omega
  rw [unpack_slice whole data (by omega) fits, offset]

structure LoopGuards where
  stopsPastEnd : Bool
  stopsAtZero : Bool

/-- The loop over `ncmds` commands. The body sees each command; `none` is an exception. -/
def forCommands {State : Type} (guards : LoopGuards) (data : ByteString)
    (body : LoadCommand → State → Option State) : Nat → Nat → State → Option State
  | 0, _, state => some state
  | count + 1, offset, state =>
      if guards.stopsPastEnd = true ∧ data.length < offset + 8 then some state
      else
        (unpackLE 32 data offset).bind fun cmd =>
          (unpackLE 32 data (offset + 4)).bind fun cmdsize =>
            if guards.stopsAtZero = true ∧ cmdsize = 0 then some state
            else
              (body ⟨offset, cmd, cmdsize⟩ state).bind
                (forCommands guards data body count (offset + cmdsize.toNat))

theorem for_commands_fold {State : Type} (guards : LoopGuards) {data : ByteString}
    (body : LoadCommand → State → Option State) {commands : List LoadCommand} {offset : Nat}
    (placed : CommandsAt data offset commands) (state : State) :
    forCommands guards data body commands.length offset state =
      commands.foldlM (fun state command => body command state) state := by
  induction commands generalizing offset state with
  | nil => rfl
  | cons command rest induction =>
      rcases placed with ⟨start, cmd, cmdsize, long, inside, later⟩
      have within : ¬(guards.stopsPastEnd = true ∧ data.length < offset + 8) := by omega
      have nonzero : ¬(guards.stopsAtZero = true ∧ command.cmdsize = 0) := by
        intro stopped
        rw [stopped.2] at long
        exact absurd long (by decide)
      have same : (⟨offset, command.cmd, command.cmdsize⟩ : LoadCommand) = command := by
        rw [← start]
      rw [List.length_cons, forCommands, if_neg within, cmd, Option.bind_some, cmdsize,
        Option.bind_some, if_neg nonzero, same, List.foldlM_cons]
      cases body command state with
      | none => rfl
      | some next => exact induction later next

theorem for_commands_steps {State : Type} (guards : LoopGuards) {data : ByteString}
    {body : LoadCommand → State → Option State} {step : State → LoadCommand → State}
    {commands : List LoadCommand} {offset : Nat} (placed : CommandsAt data offset commands)
    (steps : ∀ command ∈ commands, ∀ state, body command state = some (step state command))
    (state : State) :
    forCommands guards data body commands.length offset state = some (commands.foldl step state) := by
  rw [for_commands_fold guards body placed]
  clear placed
  induction commands generalizing state with
  | nil => rfl
  | cons command rest induction =>
      rcases List.forall_mem_cons.mp steps with ⟨first, others⟩
      rw [List.foldlM_cons, first, Option.bind_eq_bind, Option.bind_some]
      exact induction others _

/-- How a walk over load commands ends: after `ncmds` of them, at one that does
not lie in the file, or at one of size zero, behind which nothing is found. -/
inductive WalkEnd where
  | done
  | cut
  | stalled (command : LoadCommand)
deriving DecidableEq

structure Walk where
  commands : List LoadCommand
  ending : WalkEnd
deriving DecidableEq

/-- The offsets depend on the sizes alone, not on what a reader makes of a command. -/
def walk (data : ByteString) : Nat → Nat → Walk
  | 0, _ => ⟨[], .done⟩
  | count + 1, offset =>
      match unpackLE 32 data offset, unpackLE 32 data (offset + 4) with
      | some cmd, some cmdsize =>
          if cmdsize = 0 then ⟨[], .stalled ⟨offset, cmd, cmdsize⟩⟩
          else
            let later := walk data count (offset + cmdsize.toNat)
            ⟨⟨offset, cmd, cmdsize⟩ :: later.commands, later.ending⟩
      | _, _ => ⟨[], .cut⟩

/-- Where the walk ends a reader that checks for size zero returns, or raises. -/
def WalkEnd.guarded {State : Type} (ending : WalkEnd) (state : State) : Option State :=
  match ending with
  | .cut => none
  | _ => some state

section Walks

variable {State : Type} {data : ByteString}

theorem for_commands_guarded (body : LoadCommand → State → Option State) (count offset : Nat)
    (state : State) :
    forCommands ⟨false, true⟩ data body count offset state =
      ((walk data count offset).commands.foldlM (fun state command => body command state) state).bind
        (walk data count offset).ending.guarded := by
  induction count generalizing offset state with
  | zero => rfl
  | succ count induction =>
      rw [forCommands, walk, if_neg (fun stops => Bool.noConfusion stops.1)]
      rcases unpackLE 32 data offset with _ | cmd
      · rfl
      rcases unpackLE 32 data (offset + 4) with _ | cmdsize
      · rfl
      by_cases zero : cmdsize = 0
      · simp only [Option.bind_some, zero, and_self, if_true]
        rfl
      · simp only [Option.bind_some, zero, and_false, if_false, List.foldlM_cons]
        cases body ⟨offset, cmd, cmdsize⟩ state with
        | none => rfl
        | some next => exact induction _ next

/-- Once a command of size zero changes nothing more the loop stays there. -/
theorem for_commands_stuck {body : LoadCommand → State → Option State} {offset : Nat}
    {cmd : BitVec 32} {state : State} (command : unpackLE 32 data offset = some cmd)
    (size : unpackLE 32 data (offset + 4) = some 0)
    (settled : body ⟨offset, cmd, 0⟩ state = some state) (count : Nat) :
    forCommands ⟨false, false⟩ data body count offset state = some state := by
  induction count with
  | zero => rfl
  | succ count induction =>
      rw [forCommands, if_neg (fun stops => Bool.noConfusion stops.1), command, Option.bind_some,
        size, Option.bind_some, if_neg (fun stops => Bool.noConfusion stops.1), settled,
        Option.bind_some]
      exact induction

/-- A reader that checks nothing comes to the same, unless it makes something of
the command it is stalled at. -/
theorem for_commands_harmless {body : LoadCommand → State → Option State} (count offset : Nat)
    (harmless : ∀ command, (walk data count offset).ending = .stalled command →
      ∀ state, body command state = some state)
    (state : State) :
    forCommands ⟨false, false⟩ data body count offset state =
      ((walk data count offset).commands.foldlM (fun state command => body command state) state).bind
        (walk data count offset).ending.guarded := by
  induction count generalizing offset state with
  | zero => rfl
  | succ count induction =>
      rw [forCommands, if_neg (fun stops => Bool.noConfusion stops.1)]
      rw [walk] at harmless ⊢
      cases command : unpackLE 32 data offset with
      | none => rfl
      | some cmd =>
          cases size : unpackLE 32 data (offset + 4) with
          | none => rfl
          | some cmdsize =>
              rw [command, size] at harmless
              by_cases zero : cmdsize = 0
              · rw [zero] at size
                simp only [zero, if_true] at harmless
                simp only [Option.bind_some, Bool.false_eq_true, false_and, if_false, zero, if_true]
                have settled := harmless _ rfl state
                rw [settled]
                exact for_commands_stuck command size settled count
              · simp only [zero, if_false] at harmless
                simp only [Option.bind_some, Bool.false_eq_true, false_and, if_false, zero,
                  List.foldlM_cons]
                cases body ⟨offset, cmd, cmdsize⟩ state with
                | none => rfl
                | some next => exact induction _ harmless next

/-- A reader that also checks for the end of the file returns wherever the walk ends. -/
theorem for_commands_lenient (body : LoadCommand → State → Option State) (count offset : Nat)
    (state : State) :
    forCommands ⟨true, true⟩ data body count offset state =
      (walk data count offset).commands.foldlM (fun state command => body command state) state := by
  induction count generalizing offset state with
  | zero => rfl
  | succ count induction =>
      rw [forCommands, walk]
      by_cases past : data.length < offset + 8
      · rw [if_pos ⟨rfl, past⟩]
        cases size : unpackLE 32 data (offset + 4) with
        | none => cases unpackLE 32 data offset <;> rfl
        | some cmdsize =>
            have inside := unpack_some_inside size
            omega
      · rw [if_neg (fun stops => past stops.2), unpack_inside (by omega), unpack_inside (by omega)]
        by_cases zero : load (contents data) (offset + 4) 32 = 0
        · simp only [Option.bind_some, zero, and_self, if_true]
          rfl
        · simp only [Option.bind_some, zero, and_false, if_false, List.foldlM_cons]
          cases body ⟨offset, load (contents data) offset 32, load (contents data) (offset + 4) 32⟩
              state with
          | none => rfl
          | some next => exact induction _ next

theorem walk_placed {commands : List LoadCommand} {offset : Nat}
    (placed : CommandsAt data offset commands) :
    walk data commands.length offset = ⟨commands, .done⟩ := by
  induction commands generalizing offset with
  | nil => rfl
  | cons command rest induction =>
      rcases placed with ⟨start, cmd, cmdsize, long, inside, later⟩
      have nonzero : command.cmdsize ≠ 0 := by
        intro zero
        rw [zero] at long
        exact absurd long (by decide)
      have same : (⟨offset, command.cmd, command.cmdsize⟩ : LoadCommand) = command := by
        rw [← start]
      simp only [List.length_cons, walk, cmd, cmdsize, if_neg nonzero, induction later, same]

end Walks

structure FatArch where
  cputype : BitVec 32
  cpusubtype : BitVec 32
  offset : BitVec 64
  size : BitVec 64
  align : BitVec 32

/-- `struct fat_arch_64` number `index`, after the eight bytes of the header. -/
def FatArchAt (data : ByteString) (index : Nat) (arch : FatArch) : Prop :=
  unpackBE 32 data (8 + index * 32) = some arch.cputype ∧
    unpackBE 32 data (8 + index * 32 + 4) = some arch.cpusubtype ∧
      unpackBE 64 data (8 + index * 32 + 8) = some arch.offset ∧
        unpackBE 64 data (8 + index * 32 + 16) = some arch.size ∧
          unpackBE 32 data (8 + index * 32 + 24) = some arch.align

def FatArch.bytes (arch : FatArch) (data : ByteString) : ByteString :=
  slice data arch.offset.toNat (arch.offset.toNat + arch.size.toNat)

structure FatImage (data : ByteString) (archs : List FatArch) : Prop where
  magic : unpackBE 32 data 0 = some fatMagic64
  count : ∃ nfat, unpackBE 32 data 4 = some nfat ∧ nfat.toNat = archs.length
  table : ∀ index (inside : index < archs.length), FatArchAt data index archs[index]
  ranges : ∀ arch ∈ archs, arch.offset.toNat + arch.size.toNat ≤ data.length

end Verbifrost.MachO
