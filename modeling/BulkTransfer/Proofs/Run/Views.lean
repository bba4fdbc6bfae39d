import BulkTransfer.Pool.Step
import BulkTransfer.Proofs.Queue.Items
import Mathlib.Data.Multiset.Filter

/-!
# What a run holds of one operation

A run mixes the steps of many operations. Seen from one of them it is small: the state of the
operation, whether the planner still proposes its first task, its *hands*, and what has happened
to it so far. A hand is a worker that works on the operation, or a task of it in the queue, which
is the beginning of a worker's work. Which of several workers a hand belongs to makes no
difference to the operation, so hands are a multiset.
-/

namespace BulkTransfer

namespace Pool

/-- The operation that an event is about. What happens to the queue is about none. -/
def Event.operation? : Event → Option OperationId
  | .accepted _ | .taken _ => none
  | .called _ operation _ => some operation
  | .answered _ operation _ _ => some operation
  | .opened operation _ _ => some operation
  | .wrote operation _ _ _ _ => some operation
  | .discarded operation _ => some operation
  | .removedSource operation _ => some operation
  | .settled operation _ => some operation

/-- What has happened to an operation, latest first. -/
def Shared.history (shared : Shared) (id : OperationId) : List Event :=
  shared.events.filter (·.operation? = some id)

/-- What the worker that takes a job begins with. -/
def Job.hand? : Job → Option Activity
  | .run task => some (.starting task.operation task.chore)
  | .dismissal => none

/-- The task that the planner has proposed and that is not in the queue yet. -/
def PlannerStage.proposed? : PlannerStage → Option Task
  | .proposing _ entry _ | .entering entry _ =>
      match entry.item with
      | .run task => some task
      | .dismissal => none
  | _ => none

/-- What there is of one operation in a run. -/
structure View where
  operation : Operation
  proposed : Option Chore
  hands : Multiset Activity
  history : List Event

section

variable {property : Activity → Prop}

lemma no_hand : ∀ hand ∈ (0 : Multiset Activity), property hand :=
  fun hand present => absurd present (Multiset.notMem_zero hand)

lemma only_hand {hand : Activity} (holds : property hand) :
    ∀ other ∈ ({hand} : Multiset Activity), property other := by
  intro other present
  rwa [Multiset.mem_singleton.1 present]

end

end Pool

open Pool

namespace Run

/-- The hands of an operation: its workers, and its tasks in the queue. -/
def hands (run : Run) (id : OperationId) : Multiset Activity :=
  ((run.shared.queue.items.filterMap Job.hand? ++ run.workers : List Activity) :
    Multiset Activity).filter (·.operation? = some id)

/-- What the proposed first task of an operation does, while it is proposed. -/
def proposed (run : Run) (id : OperationId) : Option Chore :=
  (run.planner.proposed?.filter (·.operation = id)).map (·.chore)

/-- What there is of an operation in a run. -/
def view (run : Run) (id : OperationId) : View :=
  ⟨run.shared.operation id, run.proposed id, run.hands id, run.shared.history id⟩

/-- The operation that an actor works on. -/
def operationOf? (run : Run) : Actor → Option OperationId
  | .planner => none
  | .worker index => run.workers[index]?.bind Activity.operation?

/-- Something that holds of every move of a run and the state in which it is made. -/
def Throughout (condition : Run → Move → Prop) (run : Run) (moves : List Move) : Prop :=
  ∀ before move after, moves = before ++ move :: after →
    ∀ state, run.steps before = some state → condition state move

lemma Throughout.tail {condition : Run → Move → Prop} {run next : Run} {move : Move}
    {moves : List Move} (h : run.Throughout condition (move :: moves))
    (step : run.step move = some next) : next.Throughout condition moves := by
  intro before later after split state reached
  refine h (move :: before) later after (by rw [split]; rfl) state ?_
  rw [steps, step]
  exact reached

lemma Throughout.head {condition : Run → Move → Prop} {run : Run} {move : Move}
    {moves : List Move} (h : run.Throughout condition (move :: moves)) : condition run move :=
  h [] move moves rfl run rfl

lemma steps_append (run : Run) (moves more : List Move) :
    run.steps (moves ++ more) = (run.steps moves).bind (·.steps more) := by
  induction moves generalizing run with
  | nil => rfl
  | cons first moves ih =>
      simp only [List.cons_append, steps]
      cases run.step first with
      | none => rfl
      | some next => exact ih next

lemma steps_concat (run : Run) (moves : List Move) (move : Move) :
    run.steps (moves ++ [move]) = (run.steps moves).bind (·.step move) := by
  have single (mid : Run) : mid.steps [move] = mid.step move := Option.bind_fun_some _
  simp only [steps_append, single]

/-- What holds at the start of a run and is kept by each of its steps holds at its end. -/
lemma steps_induction {condition : Run → Move → Prop} {holds : Run → Prop}
    (kept : ∀ run move next, holds run → condition run move → run.step move = some next →
      holds next)
    {moves : List Move} {run last : Run} (start : holds run)
    (throughout : run.Throughout condition moves) (reached : run.steps moves = some last) :
    holds last := by
  induction moves generalizing run with
  | nil =>
      obtain rfl := Option.some.inj reached
      exact start
  | cons move moves ih =>
      obtain ⟨next, step, rest⟩ := Option.bind_eq_some_iff.1 reached
      exact ih (kept run move next start throughout.head step) (throughout.tail step) rest

end Run
end BulkTransfer
