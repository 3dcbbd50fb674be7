import Mathlib

/-!
# Trails of requests

A system that serves one request after the other, seen at every state it goes
through.

## Main Definitions

* `trail` — the states of a run, the first one included
* `EachStep` — a condition on every request of a run and the state it finds
* `replay` — the answers of a run, and the state it ends in
* `answersTo` — the answers to some of the requests

## Main Results

* `trail_of_step` — what every step keeps holds in every state of a run
* `view_constant_iff` — an observer sees no change in a run exactly when each of its steps
  keeps what the observer sees
* `replay_of_step`, `replay_simulates` — an invariant and a simulation, from one step to a run
* `answersTo_replay` — a simulation of some of the requests, which the others do not disturb

## Design Notes

An observer is a function of the state.  Where the steps that keep its value are
known exactly, so are the runs that do: a change may not even be undone later.
-/

namespace Transactional

variable {State Request View : Type}

/-- The states that a run of requests goes through, the first one included. -/
def trail (step : State → Request → State) : List Request → State → List State
  | [], state => [state]
  | request :: rest, state => state :: trail step rest (step state request)

/-- `holds state request` of every request of a run and the state it finds. -/
def EachStep (step : State → Request → State) (holds : State → Request → Prop) :
    List Request → State → Prop
  | [], _ => True
  | request :: rest, state => holds state request ∧ EachStep step holds rest (step state request)

variable {step : State → Request → State}

theorem mem_trail_self (requests : List Request) (state : State) :
    state ∈ trail step requests state := by
  cases requests with
  | nil => exact List.mem_singleton_self _
  | cons request rest => exact List.mem_cons_self

/-- **Conditional run rule.**  What the steps that meet a condition keep holds throughout a
run whose steps all meet it. -/
theorem trail_of_eachStep (keeps : State → Prop) {holds : State → Request → Prop}
    (kept : ∀ state request, holds state request → keeps state → keeps (step state request))
    (requests : List Request) {state : State} (start : keeps state)
    (each : EachStep step holds requests state) :
    ∀ later ∈ trail step requests state, keeps later := by
  induction requests generalizing state with
  | nil =>
      intro later inside
      rw [List.mem_singleton.mp inside]
      exact start
  | cons request rest ih =>
      intro later inside
      rcases List.mem_cons.mp inside with rfl | inside
      · exact start
      · exact ih (kept state request each.1 start) each.2 later inside

theorem eachStep_of_forall {holds : State → Request → Prop}
    (always : ∀ state request, holds state request) (requests : List Request) (state : State) :
    EachStep step holds requests state := by
  induction requests generalizing state with
  | nil => trivial
  | cons request rest ih => exact ⟨always state request, ih _⟩

/-- **Run rule.**  What holds at the start and is kept by every step holds throughout. -/
theorem trail_of_step (keeps : State → Prop)
    (kept : ∀ state request, keeps state → keeps (step state request)) (requests : List Request)
    {state : State} (start : keeps state) : ∀ later ∈ trail step requests state, keeps later := by
  have each : EachStep step (fun _ _ => True) requests state :=
    eachStep_of_forall (fun _ _ => trivial) requests state
  exact trail_of_eachStep keeps (fun state request _ => kept state request) requests start each

/-- Conditions that agree at every step agree on every run. -/
theorem eachStep_congr {holds holds' : State → Request → Prop}
    (agree : ∀ state request, holds state request ↔ holds' state request)
    (requests : List Request) (state : State) :
    EachStep step holds requests state ↔ EachStep step holds' requests state := by
  induction requests generalizing state with
  | nil => exact Iff.rfl
  | cons request rest ih => exact and_congr (agree state request) (ih _)

/-- **Unwinding.**  A view keeps its value throughout a run exactly when every step
of the run keeps it. -/
theorem view_constant_iff (view : State → View) {keeps : State → Request → Prop}
    (exact : ∀ state request, view (step state request) = view state ↔ keeps state request)
    (requests : List Request) (state : State) :
    (∀ later ∈ trail step requests state, view later = view state) ↔
      EachStep step keeps requests state := by
  induction requests generalizing state with
  | nil =>
      constructor
      · intro _
        trivial
      · intro _ later inside
        rw [List.mem_singleton.mp inside]
  | cons request rest ih =>
      constructor
      · intro constant
        have next : view (step state request) = view state :=
          constant _ (List.mem_cons_of_mem _ (mem_trail_self rest _))
        refine ⟨(exact state request).mp next, (ih _).mp fun later inside => ?_⟩
        rw [next]
        exact constant later (List.mem_cons_of_mem _ inside)
      · rintro ⟨first, later⟩ state' inside
        have next := (exact state request).mpr first
        rcases List.mem_cons.mp inside with rfl | inside
        · rfl
        · rw [← next]
          exact (ih _).mpr later state' inside

/-! ## Answers -/

section Replay

variable {Other Answer OtherAnswer : Type}

/-- The answers of a run, and the state it ends in. -/
def replay (step : State → Request → Answer × State) :
    List Request → State → List Answer × State
  | [], state => ([], state)
  | request :: rest, state =>
      let (answer, next) := step state request
      let (answers, final) := replay step rest next
      (answer :: answers, final)

variable {step : State → Request → Answer × State} {step' : Other → Request → OtherAnswer × Other}

/-- What every step keeps holds at the end of a run. -/
theorem replay_of_step (keeps : State → Prop)
    (kept : ∀ state request, keeps state → keeps (step state request).2)
    (requests : List Request) {state : State} (start : keeps state) :
    keeps (replay step requests state).2 := by
  induction requests generalizing state with
  | nil => exact start
  | cons request rest ih => exact ih (kept state request start)

/-- **Simulation.**  Two systems whose steps answer alike and stay related answer alike
throughout a run. -/
theorem replay_simulates (related : State → Other → Prop) (agree : Answer → OtherAnswer → Prop)
    (simulates : ∀ state other request, related state other →
      agree (step state request).1 (step' other request).1 ∧
        related (step state request).2 (step' other request).2)
    (requests : List Request) {state : State} {other : Other} (start : related state other) :
    List.Forall₂ agree (replay step requests state).1 (replay step' requests other).1 ∧
      related (replay step requests state).2 (replay step' requests other).2 := by
  induction requests generalizing state other with
  | nil => exact ⟨.nil, start⟩
  | cons request rest ih =>
      obtain ⟨alike, next⟩ := simulates state other request start
      obtain ⟨answers, final⟩ := ih next
      exact ⟨.cons alike answers, final⟩

/-- The answers of a run to the requests that `mine` picks. -/
def answersTo (mine : Request → Bool) (requests : List Request) (answers : List Answer) :
    List Answer :=
  ((requests.zip answers).filter fun entry => mine entry.1).map Prod.snd

/-- **Projection.**  Where another system answers some of the requests alike, and the other
requests leave the two systems related, the answers to these requests are those that the
other system gives to them alone. -/
theorem answersTo_replay {step' : Other → Request → Answer × Other} {mine : Request → Bool}
    (related : State → Other → Prop)
    (serves : ∀ state other request, related state other → mine request = true →
      (step state request).1 = (step' other request).1 ∧
        related (step state request).2 (step' other request).2)
    (ignores : ∀ state other request, related state other → mine request = false →
      related (step state request).2 other)
    (requests : List Request) {state : State} {other : Other} (start : related state other) :
    answersTo mine requests (replay step requests state).1
      = (replay step' (requests.filter mine) other).1 := by
  induction requests generalizing state other with
  | nil => rfl
  | cons request rest ih =>
      unfold answersTo at ih ⊢
      cases picked : mine request with
      | true =>
          obtain ⟨alike, next⟩ := serves state other request start picked
          simp only [replay, List.zip_cons_cons, List.filter_cons, picked, if_true, List.map_cons]
          rw [ih next, alike]
      | false =>
          simp only [replay, List.zip_cons_cons, List.filter_cons, picked, Bool.false_eq_true,
            if_false]
          exact ih (ignores state other request start picked)

/-- One more request at the end of a run. -/
theorem replay_concat (requests : List Request) (request : Request) (state : State) :
    replay step (requests ++ [request]) state
      = ((replay step requests state).1 ++ [(step (replay step requests state).2 request).1],
          (step (replay step requests state).2 request).2) := by
  induction requests generalizing state with
  | nil => rfl
  | cons first rest ih =>
      have later := ih (step state first).2
      exact congrArg (fun result => ((step state first).1 :: result.1, result.2)) later

theorem length_replay (requests : List Request) (state : State) :
    (replay step requests state).1.length = requests.length := by
  induction requests generalizing state with
  | nil => rfl
  | cons first rest ih => exact congrArg (· + 1) (ih _)

/-- The answers to one more request. -/
theorem answersTo_concat (mine : Request → Bool) {requests : List Request} {answers : List Answer}
    (same : answers.length = requests.length) (request : Request) (answer : Answer) :
    answersTo mine (requests ++ [request]) (answers ++ [answer])
      = answersTo mine requests answers ++ if mine request then [answer] else [] := by
  unfold answersTo
  rw [List.zip_append same.symm, List.filter_append, List.map_append]
  cases picked : mine request <;> simp [picked]

end Replay

end Transactional
