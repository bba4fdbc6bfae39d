import BulkTransfer.Pool.Step
import BulkTransfer.Remote.Service

/-!
# A deterministic schedule

One way to carry a run to its end: the planner moves whenever it can, and otherwise the first
worker that can. Calls are answered by stores with a state of their own, and the admission policy
may depend on what it has admitted before.
-/

namespace BulkTransfer.Pool

/-- What surrounds a run: the stores by name, and the entries that the policy has admitted,
latest first. -/
structure World (σ : Type) where
  stores : List (StoreName × σ)
  admitted : List (Entry Job) := []

/-- How a task is brought to the queue: by the planner, as a follow-up, or as an offer. -/
inductive Manner where
  | submit
  | followUp
  | offer
  deriving DecidableEq, Repr

/-- The entries that have been admitted once the policy was asked about one more. -/
def admittedWith (admission : Admission) (admitted : List (Entry Job)) (entry : Entry Job) :
    List (Entry Job) :=
  if (admission admitted entry).isNone then entry :: admitted else admitted

/-- Brings a task to the queue before a run begins. The policy is not asked about a submission
that would have to wait. -/
def bring (admission : Admission) (shared : Shared) (admitted : List (Entry Job))
    (id : OperationId) (chore : Chore) (manner : Manner) :
    Insertion Job × Shared × List (Entry Job) :=
  let operation := shared.operation id
  let entry := match manner with
    | .submit => operation.firstEntry id chore
    | _ => operation.followUpEntry id chore
  let verdict := admission admitted entry
  if manner = .submit ∧ shared.queue.isFull then (.full, shared, admitted)
  else
    let insertion := match manner with
      | .followUp => shared.queue.insertAnyway entry verdict
      | _ => shared.queue.insert entry verdict
    let after := match insertion with
      | .accepted queue => shared.accept entry queue
      | _ => shared
    (insertion, after, admittedWith admission admitted entry)

variable {σ : Type}

/-- The answer of a named store, and the stores afterwards. A store that is not there answers
with an error. -/
def ask (service : Service σ) (store : StoreName) (call : Call) :
    List (StoreName × σ) → Answer × List (StoreName × σ)
  | [] => (.failed (.remote call.name "unknown store"), [])
  | entry :: rest =>
      if entry.1 = store then
        let result := service.answer entry.2 call
        (result.1, (entry.1, result.2) :: rest)
      else
        let result := ask service store call rest
        (result.1, entry :: result.2)

/-- One step of an actor in a world, if the actor can take it. -/
def stepIn (service : Service σ) (admission : Admission) (run : Run) (world : World σ)
    (actor : Actor) : Option (Run × World σ) :=
  let policy := admission world.admitted
  let answered := match run.awaits? actor with
    | some (store, call) => ask service store call world.stores
    | none => (.reply .done, world.stores)
  let admitted := match run.asks? actor with
    | some entry => admittedWith admission world.admitted entry
    | none => world.admitted
  (run.step ⟨actor, ⟨policy, answered.1⟩⟩).map fun next => (next, ⟨answered.2, admitted⟩)

/-- The actors of a run in the order in which they are asked to move. -/
def actors (run : Run) : List Actor :=
  .planner :: (List.range run.workers.length).map .worker

/-- The run after at most `fuel` steps of the schedule, and the world with it. -/
def carry (service : Service σ) (admission : Admission) (run : Run) (world : World σ) :
    Nat → Run × World σ
  | 0 => (run, world)
  | fuel + 1 =>
      match (actors run).findSome? (stepIn service admission run world) with
      | some (next, world) => carry service admission next world fuel
      | none => (run, world)

/-- Numbers added up. -/
def total (numbers : List Nat) : Nat :=
  numbers.foldr Nat.add 0

/-- How many steps an operation of so many parts may take, however its parts are deferred. -/
def operationSteps (parts : Nat) : Nat :=
  64 * (parts + 1)

/-- More steps than the schedule takes for a run that has not begun: every record becomes an
operation of at most as many parts as it has bytes. -/
def stepBound (run : Run) (records : List Record) : Nat :=
  let planned := total (records.map fun record => operationSteps record.size)
  let present := total (run.shared.operations.map fun operation =>
    operationSteps (((operation.upload.map (·.progress.total)).getD 0) +
      ((operation.download.map (·.progress.total)).getD 0)))
  planned + present + operationSteps (run.shared.queue.length + run.workers.length)

end BulkTransfer.Pool
