import Mathlib.Data.Nat.ModEq
import Mathlib.Tactic.Common

/-!
# Slots of a bounded ring

Entry number `n` of a queue lives in slot `n % capacity`. `ringSlots` lists the
slots of `count` entries in a row. The slot of the next entry is free exactly
while fewer than `capacity` entries are queued. Two positions that are published
modulo the capacity tell how far apart they are, except that an empty and a full
ring look the same.
-/

namespace Verbifrost.RingQueue

set_option autoImplicit false

def ringSlots (capacity first count : Nat) : List Nat :=
  (List.range' first count).map (· % capacity)

@[simp] theorem ring_slots_length (capacity first count : Nat) :
    (ringSlots capacity first count).length = count := by
  simp [ringSlots]

theorem mem_ring_slots (capacity first count slot : Nat) :
    slot ∈ ringSlots capacity first count ↔
      ∃ entry, first ≤ entry ∧ entry < first + count ∧ entry % capacity = slot := by
  simp only [ringSlots, List.mem_map, List.mem_range'_1, and_assoc]

theorem ring_slots_push (capacity first count : Nat) :
    ringSlots capacity first count ++ [(first + count) % capacity] =
      ringSlots capacity first (count + 1) := by
  simp [ringSlots, List.range'_1_concat]

theorem ring_slots_pop (capacity first count : Nat) :
    ringSlots capacity first (count + 1) =
      first % capacity :: ringSlots capacity (first + 1) count := by
  simp [ringSlots, List.range'_succ]

theorem next_slot_free (capacity first count : Nat) (room : count < capacity) :
    (first + count) % capacity ∉ ringSlots capacity first count := by
  rw [mem_ring_slots]
  rintro ⟨entry, low, high, same⟩
  have apart : (first + count - entry) % capacity = 0 :=
    Nat.sub_mod_eq_zero_of_mod_eq same.symm
  rw [Nat.mod_eq_of_lt (by omega)] at apart
  omega

theorem next_slot_taken (capacity first count : Nat) (full : capacity ≤ count)
    (positive : 0 < capacity) : (first + count) % capacity ∈ ringSlots capacity first count := by
  rw [mem_ring_slots]
  refine ⟨first + count - capacity, by omega, by omega, ?_⟩
  have wrapped := Nat.add_mod_right (first + count - capacity) capacity
  rw [Nat.sub_add_cancel (by omega)] at wrapped
  exact wrapped.symm

theorem slots_determine_distance_iff (capacity first count : Nat) (bound : count ≤ capacity)
    (positive : 0 < capacity) :
    (∀ otherFirst other, other ≤ capacity → otherFirst % capacity = first % capacity →
        (otherFirst + other) % capacity = (first + count) % capacity → other = count) ↔
      count ≠ 0 ∧ count ≠ capacity := by
  have turn : (first + capacity) % capacity = first % capacity := Nat.add_mod_right first capacity
  constructor
  · intro determined
    constructor
    · rintro rfl
      exact absurd (determined first capacity (Nat.le_refl _) rfl turn) (Nat.ne_of_gt positive)
    · rintro rfl
      exact absurd (determined first 0 (Nat.zero_le _) rfl turn.symm) (Nat.ne_of_lt positive)
  · rintro ⟨nonempty, notFull⟩ otherFirst other otherBound sameFirst sameLast
    have congruent : other % capacity = count % capacity :=
      Nat.ModEq.add_left_cancel sameFirst sameLast
    have below : count < capacity := Nat.lt_of_le_of_ne bound notFull
    rw [Nat.mod_eq_of_lt below] at congruent
    rcases Nat.lt_or_eq_of_le otherBound with short | full
    · rwa [Nat.mod_eq_of_lt short] at congruent
    · rw [full, Nat.mod_self] at congruent
      exact absurd congruent.symm nonempty

theorem slot_distance (capacity first count : Nat) (positive : 0 < capacity) :
    ((first + count) % capacity + capacity - first % capacity) % capacity = count % capacity := by
  have behind : first % capacity < capacity := Nat.mod_lt _ positive
  have apart : (first + count) % capacity + capacity - first % capacity + first % capacity ≡
      count + first % capacity [MOD capacity] := by
    calc
      (first + count) % capacity + capacity - first % capacity + first % capacity =
          (first + count) % capacity + capacity := Nat.sub_add_cancel (by omega)
      _ ≡ (first + count) % capacity [MOD capacity] := Nat.add_mod_right _ _
      _ ≡ first + count [MOD capacity] := Nat.mod_modEq _ _
      _ ≡ count + first % capacity [MOD capacity] := by
        rw [Nat.add_comm first count]
        exact (Nat.mod_modEq first capacity).symm.add_left count
  exact Nat.ModEq.add_right_cancel' _ apart

theorem ring_slots_first_slot (capacity first count : Nat) :
    ringSlots capacity (first % capacity) count = ringSlots capacity first count := by
  simp only [ringSlots, List.range'_eq_map_range, List.map_map]
  apply List.map_congr_left
  intro step _
  exact Nat.mod_add_mod first capacity step

end Verbifrost.RingQueue
