import Mathlib.Data.List.AList
import Mathlib.Data.List.Pairwise

/-!
# Dictionaries filled by a loop

A loop that stores a value for each item under the item's key, over association
lists without duplicate keys. What is left is the last item of each key.
-/

namespace Verbifrost.Dictionary

set_option autoImplicit false

abbrev Dict (Key Value : Type) := AList fun _ : Key => Value

section Fill

variable {Item Key Value : Type} [DecidableEq Key] (keyOf : Item → Key) (valueOf : Item → Value)

def Dict.values (dict : Dict Key Value) : List Value := dict.entries.map Sigma.snd

def fill (items : List Item) (dict : Dict Key Value) : Dict Key Value :=
  items.foldl (fun dict item => dict.insert (keyOf item) (valueOf item)) dict

def lastOfEach (items : List Item) : List Item :=
  items.pwFilter fun item later => keyOf item ≠ keyOf later

theorem key_free_iff (item : Item) (items : List Item) :
    (∀ later ∈ lastOfEach keyOf items, keyOf item ≠ keyOf later) ↔
      ∀ later ∈ items, keyOf item ≠ keyOf later := by
  apply List.forall_mem_pwFilter
  intro first second third different
  by_cases same : keyOf first = keyOf second
  · rw [← same]
    exact Or.inr different
  · exact Or.inl same

/-- By induction on the items: the first one stays only where no later one has its key. -/
theorem lookup_fill (items : List Item) (dict : Dict Key Value) (key : Key) (value : Value) :
    (fill keyOf valueOf items dict).lookup key = some value ↔
      (∃ item ∈ lastOfEach keyOf items, keyOf item = key ∧ valueOf item = value) ∨
        ((∀ item ∈ items, keyOf item ≠ key) ∧ dict.lookup key = some value) := by
  induction items generalizing dict with
  | nil => simp [fill, lastOfEach]
  | cons item rest induction =>
      have later := key_free_iff keyOf item rest
      have rest' : fill keyOf valueOf (item :: rest) dict =
          fill keyOf valueOf rest (dict.insert (keyOf item) (valueOf item)) := rfl
      rw [rest', induction]
      by_cases free : ∀ other ∈ rest, keyOf item ≠ keyOf other
      · have kept : lastOfEach keyOf (item :: rest) = item :: lastOfEach keyOf rest :=
          List.pwFilter_cons_of_pos (later.mpr free)
        rw [kept, List.exists_mem_cons_iff, List.forall_mem_cons]
        by_cases same : keyOf item = key
        · have missing : ∀ other ∈ rest, keyOf other ≠ key := by
            intro other listed equal
            exact free other listed (same.trans equal.symm)
          rw [← same] at missing ⊢
          rw [AList.lookup_insert, Option.some.injEq]
          tauto
        · rw [AList.lookup_insert_ne (Ne.symm same)]
          simp only [same, ne_eq, not_false_eq_true, false_and, false_or, true_and]
      · have dropped : lastOfEach keyOf (item :: rest) = lastOfEach keyOf rest :=
          List.pwFilter_cons_of_neg fun kept => free (later.mp kept)
        rw [dropped, List.forall_mem_cons]
        by_cases same : keyOf item = key
        · have found : ¬∀ other ∈ rest, keyOf other ≠ key := by
            intro missing
            exact free fun other listed equal => missing other listed (equal.symm.trans same)
          simp only [found, and_false, false_and, or_false]
        · rw [AList.lookup_insert_ne (Ne.symm same)]
          simp only [same, ne_eq, not_false_eq_true, true_and]

theorem mem_values_iff (dict : Dict Key Value) (value : Value) :
    value ∈ dict.values ↔ ∃ key, dict.lookup key = some value := by
  rw [Dict.values, List.mem_map]
  constructor
  · intro held
    rcases held with ⟨entry, listed, same⟩
    exact ⟨entry.1, AList.mem_lookup_iff.mpr (by rwa [← same])⟩
  · intro found
    rcases found with ⟨key, lookup⟩
    exact ⟨⟨key, value⟩, AList.mem_lookup_iff.mp lookup, rfl⟩

theorem mem_fill_values_iff (items : List Item) (value : Value) :
    value ∈ (fill keyOf valueOf items ∅).values ↔ value ∈ (lastOfEach keyOf items).map valueOf := by
  rw [mem_values_iff, List.mem_map]
  constructor
  · intro found
    rcases found with ⟨key, lookup⟩
    rcases (lookup_fill keyOf valueOf items ∅ key value).mp lookup with stored | empty
    · rcases stored with ⟨item, last, _, same⟩
      exact ⟨item, last, same⟩
    · cases empty.2
  · intro stored
    rcases stored with ⟨item, last, same⟩
    exact ⟨keyOf item, (lookup_fill keyOf valueOf items ∅ _ value).mpr (Or.inl ⟨item, last, rfl, same⟩)⟩

theorem last_of_each_ne_nil {items : List Item} (filled : items ≠ []) :
    lastOfEach keyOf items ≠ [] := by
  intro none
  rcases List.exists_mem_of_ne_nil items filled with ⟨item, listed⟩
  have free := (key_free_iff keyOf item items).mp (by simp [none])
  exact free item listed rfl

end Fill

/-- A smallest value depends on the members only. -/
theorem min_of_members {left right : List Nat} (same : ∀ value, value ∈ left ↔ value ∈ right) :
    left.min? = right.min? := by
  ext value
  rw [List.min?_eq_some_iff, List.min?_eq_some_iff, same]
  apply and_congr_right
  intro _
  constructor
  · intro lowest other listed
    exact lowest other ((same other).mpr listed)
  · intro lowest other listed
    exact lowest other ((same other).mp listed)

end Verbifrost.Dictionary
