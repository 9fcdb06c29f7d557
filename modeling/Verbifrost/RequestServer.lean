import Mathlib.Tactic.Common

/-!
# Servers that take one request after another

A server maps its state and a request to its next state and a reply. Two
servers on different states that are related step by step give the same replies
to every run of requests. Requests that a server may refuse without looking at
its state leave no trace in it: the state is that of a run of the others.
-/

namespace Verbifrost.RequestServer

set_option autoImplicit false

variable {State Other Request Reply : Type*}

abbrev Server (State Request Reply : Type*) := State → Request → State × Reply

def serveAll (server : Server State Request Reply) : State → List Request → State × List Reply
  | state, [] => (state, [])
  | state, request :: rest =>
      let next := server state request
      let later := serveAll server next.1 rest
      (later.1, next.2 :: later.2)

/-- Requests the test fails on are refused, whatever the state. -/
def refusing (taken : Request → Bool) (refused : Request → Reply)
    (server : Server State Request Reply) : Server State Request Reply := fun state request =>
  if taken request then server state request else (state, refused request)

/-- The same server behind a translation of requests and replies. -/
def adapted {Call Result : Type*} (request : Call → Request) (result : Call → Reply → Result)
    (server : Server State Request Reply) : Server State Call Result := fun state call =>
  let next := server state (request call)
  (next.1, result call next.2)

def logging (server : Server State Request Reply) :
    Server (State × List Request) Request Reply := fun state request =>
  let next := server state.1 request
  ((next.1, state.2 ++ [request]), next.2)

/-- The simulation rule: related states stay related and give equal replies. -/
theorem serve_all_refines {concrete : Server State Request Reply}
    {abstract : Server Other Request Reply} {related : State → Other → Prop}
    (simulates : ∀ state other request, related state other →
      related (concrete state request).1 (abstract other request).1 ∧
        (concrete state request).2 = (abstract other request).2)
    (requests : List Request) {state : State} {other : Other} (start : related state other) :
    related (serveAll concrete state requests).1 (serveAll abstract other requests).1 ∧
      (serveAll concrete state requests).2 = (serveAll abstract other requests).2 := by
  induction requests generalizing state other with
  | nil => exact ⟨start, rfl⟩
  | cons request rest induction =>
      rcases simulates state other request start with ⟨next, reply⟩
      rcases induction next with ⟨final, replies⟩
      constructor
      · exact final
      · simp only [serveAll]
        rw [reply, replies]

theorem serve_all_refusing (taken : Request → Bool) (refused : Request → Reply)
    (server : Server State Request Reply) (state : State) (requests : List Request) :
    (serveAll (refusing taken refused server) state requests).1 =
      (serveAll server state (requests.filter taken)).1 := by
  induction requests generalizing state with
  | nil => rfl
  | cons request rest induction =>
      cases accepted : taken request with
      | true =>
          rw [List.filter_cons_of_pos accepted]
          simp only [serveAll]
          rw [induction, refusing, if_pos accepted]
      | false =>
          have left : ¬taken request = true := by
            rw [accepted]
            exact Bool.false_ne_true
          rw [List.filter_cons_of_neg left]
          simp only [serveAll]
          rw [induction, refusing, if_neg left]

theorem serve_all_adapted {Call Result : Type*} (request : Call → Request)
    (result : Call → Reply → Result) (server : Server State Request Reply) (state : State)
    (calls : List Call) :
    (serveAll (adapted request result server) state calls).1 =
      (serveAll server state (calls.map request)).1 := by
  induction calls generalizing state with
  | nil => rfl
  | cons call rest induction =>
      simp only [serveAll, List.map_cons]
      rw [induction]
      rfl

theorem serve_all_logging (server : Server State Request Reply) (state : State)
    (before requests : List Request) :
    (serveAll (logging server) (state, before) requests).1 =
      ((serveAll server state requests).1, before ++ requests) := by
  induction requests generalizing state before with
  | nil => simp [serveAll]
  | cons request rest induction =>
      simp only [serveAll, logging]
      rw [induction, List.append_assoc, List.singleton_append]

end Verbifrost.RequestServer
