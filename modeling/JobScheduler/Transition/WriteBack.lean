import JobScheduler.Transition.Run
import Mathlib.Data.List.Pairwise
import Mathlib.Order.Defs.PartialOrder
import JobScheduler.Relational.Table

/-!
# Requests that read and write back

A service answers a request in two calls on a shared state: it reads, and later it writes what
it computed from the reading. Other requests come in between. The calls are atomic.

A request executed alone reads and writes at once. When every write of a run does what the
request would do alone in the state it finds (`Current`), the state is the one reached by
executing the requests that succeeded one after another, in the order of their writes and at
their times (`serialized_of_current`).
-/

set_option autoImplicit false

namespace Transition

open Relational

/-- The two calls of a request. The reading may be refused, and the write too. -/
structure Service (State Request Reading Instant : Type) where
  read : Request → State → Option Reading
  write : Request → Reading → Instant → State → Option State

variable {State Request Reading Instant : Type}

namespace Service

variable (service : Service State Request Reading Instant)

/-- A request executed alone. -/
def alone (request : Request) (now : Instant) (state : State) : Option State :=
  (service.read request state).bind fun reading => service.write request reading now state

/-- Requests executed one after another, each at its time. -/
def serially : List (Request × Instant) → State → Option State
  | [], state => some state
  | (request, now) :: rest, state => (service.alone request now state).bind (serially rest)

theorem serially_append (first second : List (Request × Instant)) (state : State) :
    service.serially (first ++ second) state =
      (service.serially first state).bind (service.serially second) := by
  induction first generalizing state with
  | nil => rfl
  | cons entry rest ih =>
      obtain ⟨request, now⟩ := entry
      simp only [List.cons_append, serially, Option.bind_assoc]
      exact congrArg _ (funext ih)

end Service

/-- Where a request is. -/
inductive Progress (Reading : Type) where
  | arrived
  | holding (reading : Reading)
  | succeeded
  | failed
deriving DecidableEq

/-- The shared state, the clock and the requests in the order of their arrival. -/
structure Serving (State Request Reading Instant : Type) where
  now : Instant
  state : State
  requests : List (Request × Progress Reading)

inductive ServingAction (Request Instant : Type) where
  | wait (later : Instant)
  | arrive (request : Request)
  | read (index : Nat)
  | write (index : Nat)

namespace Serving

variable (s : Serving State Request Reading Instant)

/-- Move a request. -/
def put (index : Nat) (request : Request) (progress : Progress Reading) :
    Serving State Request Reading Instant :=
  { s with requests := s.requests.set index (request, progress) }

/-- The first call of a request. -/
def read (service : Service State Request Reading Instant) (index : Nat) :
    Option (Serving State Request Reading Instant) :=
  match s.requests[index]? with
  | some (request, .arrived) =>
      match service.read request s.state with
      | some reading => some (s.put index request (.holding reading))
      | none => some (s.put index request .failed)
  | _ => none

/-- The second call. -/
def write (service : Service State Request Reading Instant) (index : Nat) :
    Option (Serving State Request Reading Instant) :=
  match s.requests[index]? with
  | some (request, .holding reading) =>
      match service.write request reading s.now s.state with
      | some state => some { s.put index request .succeeded with state := state }
      | none => some (s.put index request .failed)
  | _ => none

/-- The requests that have succeeded. -/
def answered : Request × Progress Reading → List Request
  | (request, .succeeded) => [request]
  | _ => []

/-- Every request has succeeded. -/
def AllSucceed : Prop := ∀ entry ∈ s.requests, entry.2 = .succeeded

end Serving

variable [Preorder Instant] [DecidableLE Instant]

/-- The requests of a service, interleaved at its calls. -/
def Service.serving (service : Service State Request Reading Instant) :
    System (Serving State Request Reading Instant) (ServingAction Request Instant) where
  initial s := s.requests = []
  step s a :=
    match a with
    | .wait later => if s.now ≤ later then some { s with now := later } else none
    | .arrive request => some { s with requests := s.requests ++ [(request, .arrived)] }
    | .read index => s.read service index
    | .write index => s.write service index

namespace Serving

variable {service : Service State Request Reading Instant}
  {s s' : Serving State Request Reading Instant} {a : ServingAction Request Instant}

/-- The outcomes of a step. -/
inductive Moves (service : Service State Request Reading Instant)
    (s : Serving State Request Reading Instant) :
    ServingAction Request Instant → Serving State Request Reading Instant → Prop where
  | waited (later : Instant) (after : s.now ≤ later) :
      Moves service s (.wait later) { s with now := later }
  | arrived (request : Request) :
      Moves service s (.arrive request) { s with requests := s.requests ++ [(request, .arrived)] }
  | read (index : Nat) (request : Request) (reading : Reading)
      (found : s.requests[index]? = some (request, .arrived))
      (reads : service.read request s.state = some reading) :
      Moves service s (.read index) (s.put index request (.holding reading))
  | failed {a : ServingAction Request Instant} (index : Nat) (request : Request)
      (before : Progress Reading) (found : s.requests[index]? = some (request, before))
      (running : answered (request, before) = []) :
      Moves service s a (s.put index request .failed)
  | wrote (index : Nat) (request : Request) (reading : Reading) (state : State)
      (found : s.requests[index]? = some (request, .holding reading))
      (written : service.write request reading s.now s.state = some state) :
      Moves service s (.write index) { s.put index request .succeeded with state := state }

theorem step_moves (taken : service.serving.step s a = some s') : Moves service s a s' := by
  cases a with
  | wait later =>
      obtain ⟨after, done⟩ := Option.ite_none_right_eq_some.mp taken
      cases done
      exact .waited later after
  | arrive request =>
      cases taken
      exact .arrived request
  | read index =>
      simp only [Service.serving, read] at taken
      split at taken
      next request found =>
        split at taken
        next reading reads =>
          cases taken
          exact .read index request reading found reads
        · cases taken
          exact .failed index request _ found rfl
      · cases taken
  | write index =>
      simp only [Service.serving, write] at taken
      split at taken
      next request reading found =>
        split at taken
        next state written =>
          cases taken
          exact .wrote index request reading state found written
        · cases taken
          exact .failed index request _ found rfl
      · cases taken

omit [DecidableLE Instant] in
/-- What is known of everything the service reads is known of every reading that is held. -/
theorem holding_step {known : Request → Reading → Prop}
    (reads : ∀ request state reading, service.read request state = some reading →
      known request reading)
    (moves : Moves service s a s')
    (held : ∀ request reading, (request, .holding reading) ∈ s.requests → known request reading) :
    ∀ request reading, (request, .holding reading) ∈ s'.requests → known request reading := by
  intro request reading member
  have kept : ∀ index other progress, (request, .holding reading) ∈
      (s.put index other progress).requests → (other, progress) = (request, .holding reading) ∨
        known request reading := by
    intro index other progress listed
    rcases List.mem_or_eq_of_mem_set listed with old | new
    · exact .inr (held request reading old)
    · exact .inl new.symm
  cases moves with
  | waited => exact held request reading member
  | arrived other =>
      rcases List.mem_append.mp member with old | new
      · exact held request reading old
      · cases List.mem_singleton.mp new
  | read index other found arrived answer =>
      rcases kept _ _ _ member with new | known
      · cases new
        exact reads _ _ _ answer
      · exact known
  | failed =>
      rcases kept _ _ _ member with new | known
      · cases new
      · exact known
  | wrote =>
      rcases kept _ _ _ member with new | known
      · cases new
      · exact known

theorem holding_throughout (known : Request → Reading → Prop)
    {s₀ : Serving State Request Reading Instant}
    {trace : List (Serving State Request Reading Instant × ServingAction Request Instant)}
    (reads : ∀ request state reading, service.read request state = some reading →
      known request reading)
    (path : Path service.serving s₀ trace s) (start : s₀.requests = []) :
    Throughout (fun state => ∀ request reading, (request, .holding reading) ∈ state.requests →
      known request reading) trace s := by
  have anyway : Meets (fun _ _ => True) trace := fun _ _ => trivial
  refine path.throughout anyway ?_ ?_
  · rw [start]
    intro _ _ member
    cases member
  · intro s a s' taken _ held
    exact holding_step reads (step_moves taken) held

omit [Preorder Instant] [DecidableLE Instant] in
theorem flatMap_answered (succeed : s.AllSucceed) :
    s.requests.flatMap answered = s.requests.map Prod.fst := by
  rw [List.map_eq_flatMap]
  refine List.flatMap_congr fun entry member => ?_
  obtain ⟨request, progress⟩ := entry
  have done := succeed _ member
  simp only at done
  rw [done]
  rfl

/-- A write does what its request would do alone in the state it finds. -/
def Current (service : Service State Request Reading Instant)
    (s : Serving State Request Reading Instant) : ServingAction Request Instant → Prop
  | .write index => ∀ request reading, s.requests[index]? = some (request, .holding reading) →
      service.write request reading s.now s.state = service.alone request s.now s.state
  | _ => True

/-- The state is reached by executing the requests that have succeeded one after another, at
times that do not go back. -/
structure Serialized (service : Service State Request Reading Instant) (start : State)
    (s : Serving State Request Reading Instant) (schedule : List (Request × Instant)) : Prop where
  requests : (schedule.map Prod.fst).Perm (s.requests.flatMap answered)
  ordered : schedule.Pairwise fun first second => first.2 ≤ second.2
  past : ∀ entry ∈ schedule, entry.2 ≤ s.now
  reached : service.serially schedule start = some s.state

omit [DecidableLE Instant] in
theorem serialized_step {start : State} {schedule : List (Request × Instant)}
    (moves : Moves service s a s') (current : Current service s a)
    (serialized : Serialized service start s schedule) :
    ∃ schedule', Serialized service start s' schedule' := by
  cases moves with
  | waited later after =>
      exact ⟨schedule, { serialized with
        past := fun entry member => le_trans (serialized.past entry member) after }⟩
  | arrived request =>
      refine ⟨schedule, { serialized with requests := ?_ }⟩
      rw [List.flatMap_append]
      simpa [answered] using serialized.requests
  | read index request reading found reads =>
      refine ⟨schedule, { serialized with requests := ?_ }⟩
      have same := flatMap_set_perm (request, .holding reading) found (f := answered) rfl
      rw [show answered (request, .holding reading) = [] from rfl, List.append_nil] at same
      exact serialized.requests.trans same.symm
  | failed index request before found running =>
      refine ⟨schedule, { serialized with requests := ?_ }⟩
      have same := flatMap_set_perm (request, .failed) found running
      rw [show answered (request, .failed) = [] from rfl, List.append_nil] at same
      exact serialized.requests.trans same.symm
  | wrote index request reading state found written =>
      rw [current request reading found] at written
      refine ⟨schedule ++ [(request, s.now)], ?_, ?_, ?_, ?_⟩
      · rw [List.map_append]
        have more := flatMap_set_perm (request, Progress.succeeded) found (f := answered) rfl
        exact (serialized.requests.append_right _).trans more.symm
      · refine List.pairwise_append.mpr ⟨serialized.ordered, List.pairwise_singleton _ _, ?_⟩
        intro first member second last
        rw [List.mem_singleton.mp last]
        exact serialized.past first member
      · intro entry member
        rcases List.mem_append.mp member with old | last
        · exact serialized.past entry old
        · rw [List.mem_singleton.mp last]
          exact le_refl s.now
      · rw [service.serially_append, serialized.reached]
        simp only [Option.bind_some, Service.serially, written]

/-- **Current writes serialize.** -/
theorem serialized_of_current {s₀ : Serving State Request Reading Instant}
    {trace : List (Serving State Request Reading Instant × ServingAction Request Instant)}
    (path : Path service.serving s₀ trace s) (start : s₀.requests = [])
    (current : Meets (Current service) trace) :
    ∃ schedule, Serialized service s₀.state s schedule := by
  induction path with
  | refl =>
      refine ⟨[], ?_, List.Pairwise.nil, by simp, rfl⟩
      rw [start]
      exact List.Perm.nil
  | next a _ taken ih =>
      rw [meets_cons] at current
      obtain ⟨schedule, serialized⟩ := ih current.2
      exact serialized_step (step_moves taken) current.1 serialized

end Serving

end Transition
