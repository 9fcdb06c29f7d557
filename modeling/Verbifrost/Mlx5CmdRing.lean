import Verbifrost.Mlx5CmdAddresses

/-!
# The command ring and its memory

The ring is laid out by two five-bit fields of the firmware's parameter word.
The number of entries is clamped, the distance between them is taken as it is,
and their product is the size in 32 bits. An entry is 64 bytes long whatever the
distance.
-/

namespace Verbifrost.Mlx5CmdRing

open Verbifrost.ByteMemory Verbifrost.Mlx5Registers Verbifrost.ReferenceHeap
open Verbifrost.Mlx5CmdExec Verbifrost.Mlx5CmdInit Verbifrost.Mlx5CmdAddresses

set_option autoImplicit false

def Apart (first second : Nat) : Prop :=
  first + mlx5CmdEntrySize ≤ second ∨ second + mlx5CmdEntrySize ≤ first

def afterCommands (queue : CmdQueue) (commands : List (DeviceAct × CmdCall)) : CmdQueue :=
  commands.foldl (fun queue command => (mlx5CmdExec command.1 command.2 queue).2) queue

def usedEntry (call : CmdCall) (queue : CmdQueue) : Nat :=
  entryOffset queue.ctx (submission call queue).slot

structure EntriesInRing (queue : CmdQueue) : Prop where
  inside : ∀ slot, slot < queue.ctx.numEntries →
    entryOffset queue.ctx slot + mlx5CmdEntrySize ≤ (ringSize queue.ctx).toNat
  apart : ∀ left right, left < queue.ctx.numEntries → right < queue.ctx.numEntries →
    left ≠ right → Apart (entryOffset queue.ctx left) (entryOffset queue.ctx right)
  usedInside : ∀ commands call,
    usedEntry call (afterCommands queue commands) + mlx5CmdEntrySize ≤ (ringSize queue.ctx).toNat
  usedApart : ∀ commands call slot, slot < queue.ctx.numEntries →
    slot ≠ (submission call (afterCommands queue commands)).slot →
      Apart (usedEntry call (afterCommands queue commands)) (entryOffset queue.ctx slot)

/-- Asked only where the function gets as far as initialising the ring. -/
def RingLaidOut (outcomes : CmdInitOutcomes) (state : CmdInitState) : Prop :=
  RingMapped outcomes → EntriesInRing state.queue

def clampedLog (cmdqParams : BitVec 32) : Nat := min (logSize cmdqParams).toNat 5

structure SizedBy (cmdqParams : BitVec 32) (ctx : Mlx5CmdContext) : Prop where
  entries : ctx.numEntries.toNat = 2 ^ clampedLog cmdqParams
  stride : ctx.entryStride.toNat = 2 ^ (logStride cmdqParams).toNat

theorem clamp_entries_nat (cmdqParams : BitVec 32) :
    (clampEntries (1#32 <<< logSize cmdqParams)).toNat = 2 ^ clampedLog cmdqParams := by
  have limit : mlx5MaxCmdEntries.toNat = 2 ^ 5 := rfl
  have shifted := one_shifted_nat (log_size_lt cmdqParams)
  unfold clampEntries clampedLog
  by_cases large : mlx5MaxCmdEntries < 1#32 <<< logSize cmdqParams
  · have above : 5 < (logSize cmdqParams).toNat := by
      rw [BitVec.lt_def, limit, shifted] at large
      exact (Nat.pow_lt_pow_iff_right Nat.one_lt_two).mp large
    rw [if_pos large, limit, Nat.min_eq_right (Nat.le_of_lt above)]
  · have below : (logSize cmdqParams).toNat ≤ 5 := by
      rw [BitVec.lt_def, limit, shifted, Nat.not_lt] at large
      exact (Nat.pow_le_pow_iff_right Nat.one_lt_two).mp large
    rw [if_neg large, shifted, Nat.min_eq_left below]

theorem cmd_init_geometry (outcomes : CmdInitOutcomes) (bar0 : BitVec 64) (bar0Size : BitVec 32)
    (iseg : Bytes) (heap : Heap) :
    (mlx5CmdInit outcomes bar0 bar0Size iseg heap).queue.ctx.numEntries =
        (geometry bar0 bar0Size iseg).numEntries ∧
      (mlx5CmdInit outcomes bar0 bar0Size iseg heap).queue.ctx.entryStride =
        (geometry bar0 bar0Size iseg).entryStride := by
  unfold mlx5CmdInit
  cases outcomes.ringBuffer with
  | none => exact ⟨rfl, rfl⟩
  | some buffer =>
      dsimp only
      unfold initRingDma
      cases outcomes.dmaCmd with
      | none => exact ⟨rfl, rfl⟩
      | some dma =>
          dsimp only
          split_ifs
          · exact ⟨rfl, rfl⟩
          · exact ⟨rfl, rfl⟩
          · exact ⟨rfl, rfl⟩
          · unfold initMailboxes
            cases outcomes.mboxBuffer <;> exact ⟨rfl, rfl⟩

theorem cmd_init_sized (outcomes : CmdInitOutcomes) (bar0 : BitVec 64) (bar0Size : BitVec 32)
    (iseg : Bytes) (heap : Heap) :
    SizedBy (isegRead32 iseg mlx5IsegCmdqParams)
      (mlx5CmdInit outcomes bar0 bar0Size iseg heap).queue.ctx := by
  obtain ⟨entries, stride⟩ := cmd_init_geometry outcomes bar0 bar0Size iseg heap
  constructor
  · rw [entries]
    exact clamp_entries_nat _
  · rw [stride]
    exact one_shifted_nat (log_stride_lt _)

/-- Slot 0, in a context that may have changed by the commands before. -/
theorem used_entry_zero (call : CmdCall) (queue : CmdQueue) : usedEntry call queue = 0 :=
  entry_offset_zero _

section Layout

variable {cmdqParams : BitVec 32} {ctx : Mlx5CmdContext} (sized : SizedBy cmdqParams ctx)

include sized

theorem ring_size_nat :
    (ringSize ctx).toNat = 2 ^ (clampedLog cmdqParams + (logStride cmdqParams).toNat) % 2 ^ 32 := by
  rw [ringSize, BitVec.toNat_mul, sized.entries, sized.stride, Nat.pow_add]

/-- A product of 32 bits or more leaves nothing of the size. -/
theorem ring_size_positive (positive : 0 < (ringSize ctx).toNat) :
    clampedLog cmdqParams + (logStride cmdqParams).toNat ≤ 31 := by
  by_contra large
  have multiple : 2 ^ 32 ∣ 2 ^ (clampedLog cmdqParams + (logStride cmdqParams).toNat) :=
    Nat.pow_dvd_pow 2 (by omega)
  rw [ring_size_nat sized, Nat.mod_eq_zero_of_dvd multiple] at positive
  omega

section Unwrapped

variable (unwrapped : clampedLog cmdqParams + (logStride cmdqParams).toNat ≤ 31)

include unwrapped

theorem ring_size_unwrapped :
    (ringSize ctx).toNat = ctx.numEntries.toNat * 2 ^ (logStride cmdqParams).toNat := by
  have bound : 2 ^ (clampedLog cmdqParams + (logStride cmdqParams).toNat) < 2 ^ 32 :=
    Nat.pow_lt_pow_right Nat.one_lt_two (by omega)
  rw [ring_size_nat sized, Nat.mod_eq_of_lt bound, sized.entries, Nat.pow_add]

theorem entry_offset_nat {slot : BitVec 32} (small : slot < ctx.numEntries) :
    entryOffset ctx slot = slot.toNat * 2 ^ (logStride cmdqParams).toNat := by
  have size := ring_size_unwrapped sized unwrapped
  have below := Nat.mul_le_mul_right (2 ^ (logStride cmdqParams).toNat)
    (Nat.le_of_lt (BitVec.lt_def.mp small))
  rw [entryOffset, BitVec.toNat_mul, sized.stride]
  apply Nat.mod_eq_of_lt
  have width := (ringSize ctx).isLt
  omega

theorem entry_end_le (wide : 6 ≤ (logStride cmdqParams).toNat) {slot : BitVec 32}
    (small : slot < ctx.numEntries) {next : Nat} (later : slot.toNat < next) :
    entryOffset ctx slot + mlx5CmdEntrySize ≤ next * 2 ^ (logStride cmdqParams).toNat := by
  have room : mlx5CmdEntrySize ≤ 2 ^ (logStride cmdqParams).toNat :=
    Nat.pow_le_pow_right (show 0 < 2 by decide) wide
  calc
    entryOffset ctx slot + mlx5CmdEntrySize
      ≤ slot.toNat * 2 ^ (logStride cmdqParams).toNat + 2 ^ (logStride cmdqParams).toNat := by
        rw [entry_offset_nat sized unwrapped small]
        exact Nat.add_le_add_left room _
    _ = (slot.toNat + 1) * 2 ^ (logStride cmdqParams).toNat := (Nat.succ_mul _ _).symm
    _ ≤ next * 2 ^ (logStride cmdqParams).toNat := Nat.mul_le_mul_right _ later

theorem entries_inside (wide : 6 ≤ (logStride cmdqParams).toNat) {slot : BitVec 32}
    (small : slot < ctx.numEntries) :
    entryOffset ctx slot + mlx5CmdEntrySize ≤ (ringSize ctx).toNat := by
  rw [ring_size_unwrapped sized unwrapped]
  exact entry_end_le sized unwrapped wide small (BitVec.lt_def.mp small)

theorem entries_apart (wide : 6 ≤ (logStride cmdqParams).toNat) {left right : BitVec 32}
    (leftSmall : left < ctx.numEntries) (rightSmall : right < ctx.numEntries)
    (different : left ≠ right) : Apart (entryOffset ctx left) (entryOffset ctx right) := by
  rcases Nat.lt_or_gt_of_ne (fun same => different (BitVec.eq_of_toNat_eq same)) with before | after
  · left
    rw [entry_offset_nat sized unwrapped rightSmall]
    exact entry_end_le sized unwrapped wide leftSmall before
  · right
    rw [entry_offset_nat sized unwrapped leftSmall]
    exact entry_end_le sized unwrapped wide rightSmall after

end Unwrapped

theorem inside_stride_wide
    (inside : ∀ slot, slot < ctx.numEntries →
      entryOffset ctx slot + mlx5CmdEntrySize ≤ (ringSize ctx).toNat) :
    6 ≤ (logStride cmdqParams).toNat ∧
      clampedLog cmdqParams + (logStride cmdqParams).toNat ≤ 31 := by
  have entries : 0 < ctx.numEntries.toNat := by
    rw [sized.entries]
    exact Nat.two_pow_pos _
  have first := inside 0#32 (BitVec.lt_def.mpr entries)
  have unwrapped := ring_size_positive sized
    (Nat.lt_of_lt_of_le (by decide) (Nat.le_trans (Nat.le_add_left _ _) first))
  have position : (ctx.numEntries - 1).toNat = ctx.numEntries.toNat - 1 := by
    have one : 1 ≤ ctx.numEntries := BitVec.le_def.mpr entries
    rw [BitVec.toNat_sub_of_le one]
    rfl
  have small : ctx.numEntries - 1 < ctx.numEntries := by
    rw [BitVec.lt_def, position]
    omega
  have last := inside (ctx.numEntries - 1) small
  rw [entry_offset_nat sized unwrapped small, ring_size_unwrapped sized unwrapped, position] at last
  obtain ⟨count, succ⟩ := Nat.exists_eq_add_one_of_ne_zero (Nat.ne_of_gt entries)
  rw [succ, Nat.add_sub_cancel, Nat.succ_mul] at last
  have wide : 2 ^ 6 ≤ 2 ^ (logStride cmdqParams).toNat := Nat.le_of_add_le_add_left last
  exact ⟨(Nat.pow_le_pow_iff_right Nat.one_lt_two).mp wide, unwrapped⟩

end Layout

/-- For every parameter word the firmware can report and every outcome. -/
theorem ring_laid_out_iff (outcomes : CmdInitOutcomes) (bar0 : BitVec 64) (bar0Size : BitVec 32)
    (iseg : Bytes) (heap : Heap) :
    RingLaidOut outcomes (mlx5CmdInit outcomes bar0 bar0Size iseg heap) ↔
      (RingMapped outcomes →
        6 ≤ (logStride (isegRead32 iseg mlx5IsegCmdqParams)).toNat ∧
          min (logSize (isegRead32 iseg mlx5IsegCmdqParams)).toNat 5 +
            (logStride (isegRead32 iseg mlx5IsegCmdqParams)).toNat ≤ 31) := by
  have sized := cmd_init_sized outcomes bar0 bar0Size iseg heap
  constructor
  · intro laidOut mapped
    exact inside_stride_wide sized (laidOut mapped).inside
  · intro fits mapped
    rcases fits mapped with ⟨wide, unwrapped⟩
    have entries : 0#32 < (mlx5CmdInit outcomes bar0 bar0Size iseg heap).queue.ctx.numEntries := by
      rw [BitVec.lt_def, sized.entries]
      exact Nat.two_pow_pos _
    constructor
    · intro slot small
      exact entries_inside sized unwrapped wide small
    · intro left right leftSmall rightSmall different
      exact entries_apart sized unwrapped wide leftSmall rightSmall different
    · intro commands call
      have first := entries_inside sized unwrapped wide entries
      rw [used_entry_zero]
      rwa [entry_offset_zero] at first
    · intro commands call slot small other
      have first := entries_apart sized unwrapped wide entries small other.symm
      rw [used_entry_zero]
      rwa [entry_offset_zero] at first

/-- 32 entries of one byte each: the ring has 32 bytes, and the entries overlap. -/
def narrowParams : Bytes := isegWrite32 zeroBytes mlx5IsegCmdqParams 0x00050000

def ringAllocated : CmdInitOutcomes :=
  ⟨some zeroBytes, some (sampleMapping 0x10000), some zeroBytes, some (sampleMapping 0x20000)⟩

theorem narrow_ring_overrun :
    (mlx5CmdInit ringAllocated 0 0 narrowParams emptyHeap).ret = .success ∧
      (mlx5CmdInit ringAllocated 0 0 narrowParams emptyHeap).queue.ctx.numEntries = 32 ∧
      ringSize (mlx5CmdInit ringAllocated 0 0 narrowParams emptyHeap).queue.ctx = 32 ∧
      ¬RingLaidOut ringAllocated (mlx5CmdInit ringAllocated 0 0 narrowParams emptyHeap) := by
  have params : isegRead32 narrowParams mlx5IsegCmdqParams = 0x00050000 := iseg_read_write _ _ _
  have mapped : RingMapped ringAllocated := ⟨rfl, _, rfl, rfl, rfl, by decide⟩
  obtain ⟨entries, stride⟩ := cmd_init_geometry ringAllocated 0 0 narrowParams emptyHeap
  have count : (mlx5CmdInit ringAllocated 0 0 narrowParams emptyHeap).queue.ctx.numEntries = 32 := by
    rw [entries, geometry, params]
    rfl
  refine ⟨rfl, count, ?_, ?_⟩
  · rw [ringSize, count, stride, geometry, params]
    rfl
  · intro laidOut
    have wide := ((ring_laid_out_iff _ _ _ _ _).mp laidOut mapped).1
    rw [params] at wide
    exact absurd wide (by decide)

end Verbifrost.Mlx5CmdRing
