import Mathlib.Data.Set.Insert
import Mathlib.Logic.Function.Basic
import Mathlib.Tactic.Common

/-!
# Names that a server hands out

A server keeps the set of names that are live. It makes a name live when it
hands it out and ends it when it is handed back; its clients keep each name
under a holder of theirs. The two sides mirror each other when every live name
is either foreign to the clients or kept by exactly one holder. The rules say
what becomes of that when a name is handed out, handed back, or handed out and
lost on the way.
-/

namespace Verbifrost.NameDirectory

set_option autoImplicit false

variable {Holder Name : Type*}

/-- `foreign` are the live names that no holder has. -/
structure Mirrors (foreign live : Set Name) (held : Holder → Option Name) : Prop where
  live_iff : ∀ name, name ∈ live ↔ name ∈ foreign ∨ ∃ holder, held holder = some name
  own : ∀ holder name, held holder = some name → name ∉ foreign
  apart : ∀ first second name, held first = some name → held second = some name → first = second

theorem mirrors_start (live : Set Name) : Mirrors live live (fun _ : Holder => none) where
  live_iff := by
    intro name
    constructor
    · exact Or.inl
    · rintro (foreign | ⟨holder, kept⟩)
      · exact foreign
      · cases kept
  own := by
    intro holder name kept
    cases kept
  apart := by
    intro first second name kept
    cases kept

theorem updated_iff [DecidableEq Holder] {held : Holder → Option Name} {holder keeper : Holder}
    {entry : Option Name} {name : Name} :
    Function.update held holder entry keeper = some name ↔
      keeper = holder ∧ entry = some name ∨ keeper ≠ holder ∧ held keeper = some name := by
  by_cases same : keeper = holder
  · rw [same, Function.update_self]
    simp only [true_and, ne_eq, not_true, false_and, or_false]
  · rw [Function.update_of_ne same]
    simp only [same, false_and, ne_eq, not_false_eq_true, true_and, false_or]

section Rules

variable {foreign live : Set Name} {held : Holder → Option Name}
  (mirrors : Mirrors foreign live held)

include mirrors

theorem held_live {holder : Holder} {name : Name} (kept : held holder = some name) : name ∈ live :=
  (mirrors.live_iff name).mpr (Or.inr ⟨holder, kept⟩)

theorem mirrors_lost {name : Name} (fresh : name ∉ live) :
    Mirrors (insert name foreign) (insert name live) held where
  live_iff := by
    intro other
    rw [Set.mem_insert_iff, Set.mem_insert_iff, mirrors.live_iff, or_assoc]
  own := by
    intro holder other kept gone
    rcases Set.mem_insert_iff.mp gone with same | old
    · rw [same] at kept
      exact fresh (held_live mirrors kept)
    · exact mirrors.own holder other kept old
  apart := mirrors.apart

variable [DecidableEq Holder]

theorem mirrors_taken {holder : Holder} {name : Name} (free : held holder = none)
    (fresh : name ∉ live) :
    Mirrors foreign (insert name live) (Function.update held holder (some name)) where
  live_iff := by
    intro other
    rw [Set.mem_insert_iff, mirrors.live_iff]
    constructor
    · rintro (same | old | ⟨keeper, kept⟩)
      · exact Or.inr ⟨holder, updated_iff.mpr (Or.inl ⟨rfl, congrArg some same.symm⟩)⟩
      · exact Or.inl old
      · have different : keeper ≠ holder := by
          rintro rfl
          rw [free] at kept
          cases kept
        exact Or.inr ⟨keeper, updated_iff.mpr (Or.inr ⟨different, kept⟩)⟩
    · rintro (old | ⟨keeper, kept⟩)
      · exact Or.inr (Or.inl old)
      · rcases updated_iff.mp kept with ⟨_, same⟩ | ⟨_, before⟩
        · exact Or.inl (Option.some.inj same).symm
        · exact Or.inr (Or.inr ⟨keeper, before⟩)
  own := by
    intro keeper other kept old
    rcases updated_iff.mp kept with ⟨_, same⟩ | ⟨_, before⟩
    · rw [← Option.some.inj same] at old
      exact fresh ((mirrors.live_iff name).mpr (Or.inl old))
    · exact mirrors.own keeper other before old
  apart := by
    intro first second other firstKept secondKept
    rcases updated_iff.mp firstKept with ⟨atFirst, same⟩ | ⟨_, firstBefore⟩ <;>
      rcases updated_iff.mp secondKept with ⟨atSecond, again⟩ | ⟨_, secondBefore⟩
    · exact atFirst.trans atSecond.symm
    · rw [← Option.some.inj same] at secondBefore
      exact absurd (held_live mirrors secondBefore) fresh
    · rw [← Option.some.inj again] at firstBefore
      exact absurd (held_live mirrors firstBefore) fresh
    · exact mirrors.apart first second other firstBefore secondBefore

theorem mirrors_dropped {holder : Holder} {name : Name} (kept : held holder = some name) :
    Mirrors foreign (live \ {name}) (Function.update held holder none) := by
  have before : ∀ {keeper other}, Function.update held holder none keeper = some other →
      keeper ≠ holder ∧ held keeper = some other := by
    intro keeper other after
    rcases updated_iff.mp after with ⟨_, none⟩ | still
    · cases none
    · exact still
  constructor
  · intro other
    rw [Set.mem_sdiff, Set.mem_singleton_iff, mirrors.live_iff]
    constructor
    · rintro ⟨old | ⟨keeper, found⟩, different⟩
      · exact Or.inl old
      · have elsewhere : keeper ≠ holder := by
          rintro rfl
          rw [kept] at found
          exact different (Option.some.inj found).symm
        exact Or.inr ⟨keeper, updated_iff.mpr (Or.inr ⟨elsewhere, found⟩)⟩
    · rintro (old | ⟨keeper, found⟩)
      · refine ⟨Or.inl old, ?_⟩
        rintro rfl
        exact mirrors.own holder other kept old
      · rcases before found with ⟨elsewhere, found⟩
        refine ⟨Or.inr ⟨keeper, found⟩, ?_⟩
        rintro rfl
        exact elsewhere (mirrors.apart keeper holder other found kept)
  · intro keeper other found
    exact mirrors.own keeper other (before found).2
  · intro first second other firstFound secondFound
    exact mirrors.apart first second other (before firstFound).2 (before secondFound).2

end Rules

end Verbifrost.NameDirectory
