import BulkTransfer.Pool.Planner

/-!
# Runs

A run is a planner and its workers around their shared state. Any of them may take the next step
that it can take, so a run is a list of moves, each naming who moves and what comes from outside
meanwhile; a run has ended when the planner has. Whatever is true of every list of moves is true
of every timing of the threads and every behaviour of stores and policies.
-/

namespace BulkTransfer

open Pool

/-- A run: what is shared, what every worker does, and what the planner does. -/
structure Run where
  plan : Plan
  shared : Shared
  workers : List Activity
  planner : PlannerStage

namespace Pool

/-- Who takes a step. -/
inductive Actor where
  | planner
  | worker (index : Nat)
  deriving DecidableEq, Repr

/-- A step of a run: who takes it, and what comes from outside. -/
structure Move where
  actor : Actor
  surroundings : Surroundings

end Pool

namespace Run

/-- A run that has not begun, with idle workers. -/
def start (plan : Plan) (shared : Shared) (workers : Nat) (records : List Record) : Run :=
  ⟨plan, shared, List.replicate workers .idle, .planning records⟩

/-- The run after a move, if the actor can move. -/
def step (run : Run) (move : Move) : Option Run :=
  match move.actor with
  | .planner =>
      (run.shared.advance run.plan run.workers move.surroundings run.planner).map fun result =>
        { run with shared := result.1, planner := result.2 }
  | .worker index =>
      match run.workers[index]? with
      | none => none
      | some activity =>
          (run.shared.work move.surroundings activity).map fun result =>
            { run with shared := result.1, workers := run.workers.set index result.2 }

/-- The run after a list of moves, if each of them is possible. -/
def steps (run : Run) : List Move → Option Run
  | [] => some run
  | move :: moves => (run.step move).bind fun next => next.steps moves

/-- Whether the run has ended. -/
def hasEnded (run : Run) : Bool :=
  run.planner = .ended

/-- The entry about which an actor asks the admission policy in its next step, if it does. -/
def asks? (run : Run) : Actor → Option (Entry Job)
  | .planner =>
      match run.planner with
      | .proposing _ entry _ => some entry
      | .dismissing (_ + 1) => some dismissal
      | _ => none
  | .worker index =>
      match run.workers[index]? with
      | some (.offering id side index) | some (.forcing id side index) =>
          some (Activity.partEntry (run.shared.operation id) id side index)
      | some (.following id followUp) =>
          some ((run.shared.operation id).followUpEntry id followUp.chore)
      | _ => none

/-- The call that an actor's next step brings the answer to, if it waits for one. -/
def awaits? (run : Run) : Actor → Option (StoreName × Call)
  | .planner => none
  | .worker index =>
      match run.workers[index]? with
      | some (.awaiting _ _ store call) => some (store, call)
      | _ => none

end Run
end BulkTransfer
