import Mathlib.Logic.Function.Basic
import Verbifrost.ReferenceHeap

/-!
# Tables of live objects

A table maps a key to the object that is live under it. Objects come and go
under their keys by `Function.update`; a property of every live object has to be
shown only for the one that is entered. Holders of heap references are the same
kind of table, with the list of references in place of the object.
-/

namespace Verbifrost.ObjectTable

open Verbifrost.ReferenceHeap

set_option autoImplicit false

variable {Key Object : Type*} [DecidableEq Key]

def Holds (property : Object → Prop) (table : Key → Option Object) : Prop :=
  ∀ key object, table key = some object → property object

theorem holds_update {property : Object → Prop} {table : Key → Option Object}
    (holds : Holds property table) (key : Key) (entry : Option Object)
    (entered : ∀ object, entry = some object → property object) :
    Holds property (Function.update table key entry) := by
  intro other object live
  by_cases same : other = key
  · subst same
    rw [Function.update_self] at live
    exact entered object live
  · rw [Function.update_of_ne same] at live
    exact holds other object live

theorem holds_insert {property : Object → Prop} {table : Key → Option Object}
    (holds : Holds property table) (key : Key) {object : Object} (entered : property object) :
    Holds property (Function.update table key (some object)) := by
  apply holds_update holds
  intro other same
  cases same
  exact entered

theorem holds_erase {property : Object → Prop} {table : Key → Option Object}
    (holds : Holds property table) (key : Key) :
    Holds property (Function.update table key none) := by
  apply holds_update holds
  intro other same
  cases same

def enterOn (ret : Int) (table : Key → Option Object) (key : Key) (object : Object) :
    Key → Option Object :=
  if ret = 0 then Function.update table key (some object) else table

def leaveOn (ret : Int) (table : Key → Option Object) (key : Key) : Key → Option Object :=
  if ret = 0 then Function.update table key none else table

theorem enter_on_zero {ret : Int} (returned : ret = 0) (table : Key → Option Object) (key : Key)
    (object : Object) : enterOn ret table key object = Function.update table key (some object) :=
  if_pos returned

theorem enter_on_nonzero {ret : Int} (refused : ret ≠ 0) (table : Key → Option Object) (key : Key)
    (object : Object) : enterOn ret table key object = table :=
  if_neg refused

theorem holds_enter_on {property : Object → Prop} {table : Key → Option Object}
    (holds : Holds property table) {ret : Int} (key : Key) {object : Object}
    (entered : ret = 0 → property object) : Holds property (enterOn ret table key object) := by
  unfold enterOn
  split_ifs with returned
  · exact holds_insert holds key (entered returned)
  · exact holds

theorem holds_leave_on {property : Object → Prop} {table : Key → Option Object}
    (holds : Holds property table) (ret : Int) (key : Key) :
    Holds property (leaveOn ret table key) := by
  unfold leaveOn
  split_ifs
  · exact holds_erase holds key
  · exact holds

/-- What a possibly null argument refers to; `none` when its object is not live. -/
def resolve (table : Key → Option Object) : Option Key → Option (Option Object)
  | none => some none
  | some key => (table key).map some

omit [DecidableEq Key] in
theorem holds_resolve {property : Object → Prop} {table : Key → Option Object}
    (holds : Holds property table) {argument : Option Key} {object : Object}
    (resolved : resolve table argument = some (some object)) : property object := by
  cases argument with
  | none => cases resolved
  | some key =>
      rcases Option.map_eq_some_iff.mp resolved with ⟨live, found, same⟩
      cases same
      exact holds key object found

section Holders

variable {Holder : Type*} [DecidableEq Holder]

def Held (references : Holder → List Nat) (handle : Nat) : Prop :=
  ∃ holder, handle ∈ references holder

/-- What is allocated is what is held, and nothing has two holders. -/
structure Ledger (heap : Heap) (references : Holder → List Nat) : Prop where
  held : ∀ handle, Allocated heap handle ↔ Held references handle
  exclusive : ∀ first second handle, handle ∈ references first → handle ∈ references second →
    first = second

omit [DecidableEq Holder] in
theorem ledger_empty : Ledger emptyHeap (fun _ : Holder => []) where
  held := by
    intro handle
    constructor
    · intro allocated
      exact absurd allocated.1 (Nat.not_lt_zero handle)
    · rintro ⟨holder, member⟩
      cases member
  exclusive := by
    intro first second handle member
    cases member

omit [DecidableEq Holder] in
theorem ledger_congr {before after : Heap} {references : Holder → List Nat}
    (ledger : Ledger before references)
    (same : ∀ handle, Allocated after handle ↔ Allocated before handle) :
    Ledger after references where
  held := by
    intro handle
    rw [same, ledger.held]
  exclusive := ledger.exclusive

theorem ledger_take {before after : Heap} {references : Holder → List Nat} {holder : Holder}
    {fresh : List Nat} (ledger : Ledger before references) (idle : references holder = [])
    (unallocated : ∀ handle ∈ fresh, ¬Allocated before handle)
    (grown : ∀ handle, Allocated after handle ↔ handle ∈ fresh ∨ Allocated before handle) :
    Ledger after (Function.update references holder fresh) := by
  have otherHolder : ∀ other handle, handle ∈ references other → other ≠ holder := by
    intro other handle member same
    rw [same, idle] at member
    cases member
  have unheld : ∀ other, ∀ handle ∈ fresh, handle ∉ references other := by
    intro other handle taken member
    exact unallocated handle taken ((ledger.held handle).mpr ⟨other, member⟩)
  constructor
  · intro handle
    rw [grown, ledger.held]
    constructor
    · rintro (taken | ⟨other, member⟩)
      · exact ⟨holder, by rwa [Function.update_self]⟩
      · exact ⟨other, by rwa [Function.update_of_ne (otherHolder other handle member)]⟩
    · rintro ⟨other, member⟩
      by_cases same : other = holder
      · rw [same, Function.update_self] at member
        exact Or.inl member
      · rw [Function.update_of_ne same] at member
        exact Or.inr ⟨other, member⟩
  · intro first second handle firstHolds secondHolds
    simp only [Function.update_apply] at firstHolds secondHolds
    split_ifs at firstHolds secondHolds with firstSame secondSame secondSame
    · exact firstSame.trans secondSame.symm
    · exact absurd secondHolds (unheld second handle firstHolds)
    · exact absurd firstHolds (unheld first handle secondHolds)
    · exact ledger.exclusive first second handle firstHolds secondHolds

theorem ledger_dropped {heap : Heap} {references : Holder → List Nat} {holder : Holder}
    {handle : Nat} (ledger : Ledger heap references) (member : handle ∈ references holder) :
    Allocated heap handle ∧ ¬Held (Function.update references holder []) handle := by
  refine ⟨(ledger.held handle).mpr ⟨holder, member⟩, ?_⟩
  rintro ⟨other, still⟩
  by_cases same : other = holder
  · rw [same, Function.update_self] at still
    cases still
  · rw [Function.update_of_ne same] at still
    exact same (ledger.exclusive other holder handle still member)

end Holders

end Verbifrost.ObjectTable
