import Mathlib.Tactic.Common

/-!
# Resources handed out and given back

A program asks for resources, some of them made from others, uses them and
gives them back. `replay` follows what it holds and stops at an action that is
not allowed: to use or to give back what is not held, and to give back something
that a held resource was made from. The rules are those for programs that give
back what they took, and for loops over such programs.
-/

namespace Verbifrost.ResourceReplay

set_option autoImplicit false

variable {Resource : Type}

structure Holding (Resource : Type) where
  resource : Resource
  origins : List Resource

inductive Action (Resource : Type) where
  | acquire (resource : Resource) (origins : List Resource)
  | use (resource : Resource)
  | release (resource : Resource)

/-- No held resource was made from this one. -/
def Unneeded (held : List (Holding Resource)) (resource : Resource) : Prop :=
  ∀ holding ∈ held, resource ∉ holding.origins

variable [DecidableEq Resource]

instance (held : List (Holding Resource)) (resource : Resource) :
    Decidable (Unneeded held resource) :=
  inferInstanceAs (Decidable (∀ _ ∈ _, _))

def perform (held : List (Holding Resource)) : Action Resource → Option (List (Holding Resource))
  | .acquire resource origins =>
      if ∀ origin ∈ origins, origin ∈ held.map Holding.resource then
        some (⟨resource, origins⟩ :: held)
      else none
  | .use resource => if resource ∈ held.map Holding.resource then some held else none
  | .release resource =>
      if resource ∈ held.map Holding.resource ∧ Unneeded held resource then
        some (held.eraseP fun holding => holding.resource = resource)
      else none

def replay (held : List (Holding Resource)) (actions : List (Action Resource)) :
    Option (List (Holding Resource)) :=
  actions.foldlM perform held

theorem replay_nil (held : List (Holding Resource)) : replay held [] = some held := rfl

theorem replay_append (held : List (Holding Resource)) (first later : List (Action Resource)) :
    replay held (first ++ later) = (replay held first).bind fun held => replay held later :=
  List.foldlM_append

theorem replay_acquire {held : List (Holding Resource)} {origins : List Resource}
    (made : ∀ origin ∈ origins, origin ∈ held.map Holding.resource) (resource : Resource)
    (later : List (Action Resource)) :
    replay held (.acquire resource origins :: later) =
      replay (⟨resource, origins⟩ :: held) later := by
  rw [replay, List.foldlM_cons, perform, if_pos made]
  rfl

theorem replay_use {held : List (Holding Resource)} {resource : Resource}
    (listed : resource ∈ held.map Holding.resource) (later : List (Action Resource)) :
    replay held (.use resource :: later) = replay held later := by
  rw [replay, List.foldlM_cons, perform, if_pos listed]
  rfl

theorem replay_use_missing {held : List (Holding Resource)} {resource : Resource}
    (missing : resource ∉ held.map Holding.resource) (later : List (Action Resource)) :
    replay held (.use resource :: later) = none := by
  rw [replay, List.foldlM_cons, perform, if_neg missing]
  rfl

theorem replay_release_missing {held : List (Holding Resource)} {resource : Resource}
    (missing : resource ∉ held.map Holding.resource) (later : List (Action Resource)) :
    replay held (.release resource :: later) = none := by
  rw [replay, List.foldlM_cons, perform, if_neg fun claimed => missing claimed.1]
  rfl

theorem replay_release {above below : List (Holding Resource)} {resource : Resource}
    {origins : List Resource}
    (other : ∀ holding ∈ above, holding.resource ≠ resource)
    (unneeded : Unneeded (above ++ ⟨resource, origins⟩ :: below) resource)
    (later : List (Action Resource)) :
    replay (above ++ ⟨resource, origins⟩ :: below) (.release resource :: later) =
      replay (above ++ below) later := by
  have listed : resource ∈ (above ++ ⟨resource, origins⟩ :: below).map Holding.resource := by
    simp
  have erased : (above ++ ⟨resource, origins⟩ :: below).eraseP
      (fun holding => holding.resource = resource) = above ++ below := by
    rw [List.eraseP_append_right _ (by simpa using other),
      List.eraseP_cons_of_pos (by simp)]
  rw [replay, List.foldlM_cons, perform, if_pos ⟨listed, unneeded⟩, erased]
  rfl

def GivesBack (held : List (Holding Resource)) (actions : List (Action Resource)) : Prop :=
  replay held actions = some held

theorem gives_back_append {held : List (Holding Resource)} {first later : List (Action Resource)}
    (one : GivesBack held first) (two : GivesBack held later) :
    GivesBack held (first ++ later) := by
  rw [GivesBack, replay_append, one, Option.bind_some]
  exact two

theorem gives_back_use {held : List (Holding Resource)} {resource : Resource}
    (listed : resource ∈ held.map Holding.resource) : GivesBack held [.use resource] :=
  replay_use listed []

/-- A resource around a program that gives back all it takes besides. -/
theorem gives_back_bracket {held : List (Holding Resource)} {resource : Resource}
    {origins : List Resource} {body : List (Action Resource)}
    (made : ∀ origin ∈ origins, origin ∈ held.map Holding.resource)
    (unneeded : Unneeded held resource) (fresh : resource ∉ origins)
    (inner : GivesBack (⟨resource, origins⟩ :: held) body) :
    GivesBack held (.acquire resource origins :: (body ++ [.release resource])) := by
  have top : Unneeded (⟨resource, origins⟩ :: held) resource :=
    List.forall_mem_cons.mpr ⟨fresh, unneeded⟩
  have released := @replay_release _ _ [] held resource origins (by simp) top []
  rw [GivesBack, replay_acquire made, replay_append, inner, Option.bind_some]
  exact released

/-- A loop whose rounds keep an invariant and hold on to what the function says. -/
theorem replay_rounds {Round : Type} {invariant : List (Holding Resource) → Prop}
    {actions : Round → List (Action Resource)} {kept : Round → List (Holding Resource)}
    (round : ∀ current held, invariant held →
      replay held (actions current) = some (kept current ++ held) ∧
        invariant (kept current ++ held))
    (rounds : List Round) {held : List (Holding Resource)} (initial : invariant held) :
    replay held (rounds.flatMap actions) =
        some ((rounds.reverse.flatMap kept) ++ held) ∧
      invariant ((rounds.reverse.flatMap kept) ++ held) := by
  induction rounds generalizing held with
  | nil => exact ⟨rfl, initial⟩
  | cons first rest induction =>
      rcases round first held initial with ⟨now, still⟩
      rcases induction still with ⟨later, ended⟩
      rw [List.reverse_cons, List.flatMap_append, List.flatMap_singleton, List.append_assoc]
      constructor
      · rw [List.flatMap_cons, replay_append, now, Option.bind_some, later]
      · exact ended

end Verbifrost.ResourceReplay
