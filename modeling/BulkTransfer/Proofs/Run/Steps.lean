import BulkTransfer.Proofs.Run.Views

/-!
# What a step can be

A step of a run is one of the planner or of a worker. Each is said once, with all that it does: a
step of the planner goes from one of its stages to another (`Pool.Shared.advances_of_advance`), and
a step of a worker is a turn of its operation, or takes a job, or leaves (`Run.works_of_step`).
-/

namespace BulkTransfer

open Pool

namespace Pool

/-- The entry that the planner has yet to bring to the queue, if it has one of a record. -/
def PlannerStage.entry? : PlannerStage → Option (Entry Job)
  | .proposing _ entry _ | .entering entry _ => some entry
  | _ => none

/-- Whether the planner has admitted all records. -/
def PlannerStage.isLate : PlannerStage → Bool
  | .dismissing _ | .enteringDismissal _ | .joining | .ended => true
  | _ => false

/-- The records that have not been planned yet. -/
def PlannerStage.records : PlannerStage → List Record
  | .planning records | .proposing _ _ records | .entering _ records => records
  | _ => []

lemma PlannerStage.nothing_left (stage : PlannerStage) (late : stage.isLate = true) :
    stage.records = [] ∧ stage.entry? = none := by
  cases stage <;> simp_all [isLate, records, entry?]

lemma PlannerStage.proposed?_of_entry? {stage : PlannerStage} (none : stage.entry? = none) :
    stage.proposed? = .none := by
  cases stage <;> first | rfl | cases none

/-- How the planner goes on without touching anything, once all records are planned: to the next
dismissal, or to wait for the workers when there is none left or one is not admitted. -/
inductive PlannerStage.Wanes (queue : Queue Job) (workers : List Activity)
    (surroundings : Surroundings) : PlannerStage → PlannerStage → Prop where
  | planned : Wanes queue workers surroundings (.planning []) (.dismissing workers.length)
  | sent : Wanes queue workers surroundings (.dismissing 0) .joining
  | passed {left : Nat} :
      Wanes queue workers surroundings (.dismissing (left + 1)) (.enteringDismissal left)
  | barred {left : Nat} {reason : String} (bar : surroundings.policy dismissal = some reason) :
      Wanes queue workers surroundings (.dismissing (left + 1)) .joining
  | turnedAway {left : Nat} {error : Failure}
      (refused : queue.insert dismissal none = .refused error) :
      Wanes queue workers surroundings (.enteringDismissal left) .joining

lemma PlannerStage.Wanes.late {queue : Queue Job} {workers : List Activity}
    {surroundings : Surroundings} {stage later : PlannerStage}
    (wanes : stage.Wanes queue workers surroundings later) :
    stage.records = [] ∧ stage.entry? = none ∧ stage ≠ .ended ∧ later.isLate = true ∧
      later ≠ .ended := by
  cases wanes <;> exact ⟨rfl, rfl, nofun, rfl, nofun⟩

namespace Shared

/-- What a step of the planner does. -/
inductive Advances (shared : Shared) (plan : Plan) (workers : List Activity)
    (surroundings : Surroundings) : PlannerStage → Shared → PlannerStage → Prop where
  | unplannable {record : Record} {rest : List Record} {error : Failure}
      (resolved : plan.resolve record = .error error) :
      Advances shared plan workers surroundings (.planning (record :: rest))
        ((shared.addOperation (plan.operationFor record)).refuse shared.operations.length error)
          (.planning rest)
  | planned {record : Record} {rest : List Record} {operation : Operation} {chore : Chore}
      (resolved : plan.resolve record = .ok (operation, chore)) :
      Advances shared plan workers surroundings (.planning (record :: rest))
        (shared.addOperation operation)
        (.proposing shared.operations.length
          (operation.firstEntry shared.operations.length chore) rest)
  | barred {id : OperationId} {entry : Entry Job} {rest : List Record} {reason : String}
      (bar : surroundings.policy entry = some reason) :
      Advances shared plan workers surroundings (.proposing id entry rest)
        (shared.refuse id (.rejected entry.label reason)) (.planning rest)
  | passed {id : OperationId} {entry : Entry Job} {rest : List Record} :
      Advances shared plan workers surroundings (.proposing id entry rest) shared
        (.entering entry rest)
  | admitted {entry : Entry Job} {rest : List Record} {queue : Queue Job}
      (accepted : shared.queue.insert entry none = .accepted queue) :
      Advances shared plan workers surroundings (.entering entry rest) (shared.accept entry queue)
        (.planning rest)
  | turnedAway {entry : Entry Job} {rest : List Record} {error : Failure} {after : Shared}
      (refused : shared.queue.insert entry none = .refused error)
      (ends : after = shared ∨
        ∃ task : Task, after = shared.refuse task.operation error) :
      Advances shared plan workers surroundings (.entering entry rest) after (.planning rest)
  | dismissed {left : Nat} {queue : Queue Job}
      (accepted : shared.queue.insert dismissal none = .accepted queue) :
      Advances shared plan workers surroundings (.enteringDismissal left)
        (shared.accept dismissal queue) (.dismissing left)
  | waned {stage later : PlannerStage}
      (wanes : stage.Wanes shared.queue workers surroundings later) :
      Advances shared plan workers surroundings stage shared later
  | joined (all : ∀ worker ∈ workers, worker = .dismissed) :
      Advances shared plan workers surroundings .joining
        { shared with queue := shared.queue.close } .ended

/-- A step of the planner is one of those. -/
theorem advances_of_advance {shared after : Shared} {plan : Plan} {workers : List Activity}
    {surroundings : Surroundings} {stage later : PlannerStage}
    (moved : shared.advance plan workers surroundings stage = some (after, later)) :
    shared.Advances plan workers surroundings stage after later := by
  cases stage with
  | planning records =>
      cases records with
      | nil =>
          obtain ⟨rfl, rfl⟩ := Prod.mk.inj (Option.some.inj moved)
          exact .waned .planned
      | cons record rest =>
          have planned := Option.some.inj moved
          simp only [Shared.plan] at planned
          cases resolved : plan.resolve record with
          | error error =>
              rw [resolved] at planned
              obtain ⟨rfl, rfl⟩ := Prod.mk.inj planned
              exact .unplannable resolved
          | ok result =>
              rw [resolved] at planned
              obtain ⟨rfl, rfl⟩ := Prod.mk.inj planned
              exact .planned resolved
  | proposing id entry rest =>
      simp only [advance] at moved
      split at moved
      · next reason bar =>
          obtain ⟨rfl, rfl⟩ := Prod.mk.inj (Option.some.inj moved)
          exact .barred bar
      · obtain ⟨rfl, rfl⟩ := Prod.mk.inj (Option.some.inj moved)
        exact .passed
  | entering entry rest =>
      simp only [advance] at moved
      split at moved
      · next queue accepted =>
          obtain ⟨rfl, rfl⟩ := Prod.mk.inj (Option.some.inj moved)
          exact .admitted accepted
      · cases moved
      · next error refused =>
          split at moved
          · next task _ =>
              obtain ⟨rfl, rfl⟩ := Prod.mk.inj (Option.some.inj moved)
              exact .turnedAway refused (.inr ⟨task, rfl⟩)
          · obtain ⟨rfl, rfl⟩ := Prod.mk.inj (Option.some.inj moved)
            exact .turnedAway refused (.inl rfl)
  | dismissing left =>
      cases left with
      | zero =>
          obtain ⟨rfl, rfl⟩ := Prod.mk.inj (Option.some.inj moved)
          exact .waned .sent
      | succ left =>
          simp only [advance] at moved
          split at moved
          · next reason bar =>
              obtain ⟨rfl, rfl⟩ := Prod.mk.inj (Option.some.inj moved)
              exact .waned (.barred bar)
          · obtain ⟨rfl, rfl⟩ := Prod.mk.inj (Option.some.inj moved)
            exact .waned .passed
  | enteringDismissal left =>
      simp only [advance] at moved
      split at moved
      · next queue accepted =>
          obtain ⟨rfl, rfl⟩ := Prod.mk.inj (Option.some.inj moved)
          exact .dismissed accepted
      · cases moved
      · next error refused =>
          obtain ⟨rfl, rfl⟩ := Prod.mk.inj (Option.some.inj moved)
          exact .waned (.turnedAway refused)
  | joining =>
      simp only [advance] at moved
      split at moved
      · next all =>
          obtain ⟨rfl, rfl⟩ := Prod.mk.inj (Option.some.inj moved)
          refine .joined fun worker present => ?_
          exact of_decide_eq_true (List.all_eq_true.1 all worker present)
      · cases moved
  | ended => cases moved

end Shared
end Pool

/-- An idle worker takes a job if there is one, and leaves if there will be none. -/
lemma Pool.Shared.of_work_idle {shared after : Shared} {surroundings : Surroundings}
    {later : Activity} (work : shared.work surroundings .idle = some (after, later)) :
    (∃ job rest, shared.queue.take? = some (job, rest) ∧
        after = { shared with queue := rest }.note (.taken job) ∧
          later = job.hand?.getD .dismissed) ∨
      (shared.queue.take? = none ∧ shared.queue.closed = true ∧ after = shared ∧
        later = .dismissed) := by
  simp only [Shared.work] at work
  split at work
  · next job rest taken =>
      obtain ⟨rfl, rfl⟩ := Prod.mk.inj (Option.some.inj work)
      refine .inl ⟨job, rest, taken, rfl, ?_⟩
      cases job <;> rfl
  · next nothing =>
      split at work
      · next closed =>
          obtain ⟨rfl, rfl⟩ := Prod.mk.inj (Option.some.inj work)
          exact .inr ⟨nothing, closed, rfl, rfl⟩
      · cases work

namespace Run

variable {run next : Run} {surroundings : Surroundings} {index : Nat}

lemma step_planner (h : run.step ⟨.planner, surroundings⟩ = some next) :
    ∃ shared stage,
      run.shared.Advances run.plan run.workers surroundings run.planner shared stage ∧
        next = { run with shared := shared, planner := stage } := by
  obtain ⟨⟨shared, stage⟩, moved, rfl⟩ := Option.map_eq_some_iff.1 h
  exact ⟨shared, stage, Shared.advances_of_advance moved, rfl⟩

lemma step_worker (h : run.step ⟨.worker index, surroundings⟩ = some next) :
    ∃ activity shared later, run.workers[index]? = some activity ∧
      run.shared.work surroundings activity = some (shared, later) ∧
        next = { run with shared := shared, workers := run.workers.set index later } := by
  unfold step at h
  dsimp only at h
  split at h
  · cases h
  · next activity working =>
      obtain ⟨⟨shared, later⟩, moved, rfl⟩ := Option.map_eq_some_iff.1 h
      exact ⟨activity, shared, later, working, moved, rfl⟩

/-- What a step of a worker does. -/
inductive Works (run : Run) (surroundings : Surroundings) (index : Nat) : Run → Prop where
  | turn {activity later : Activity} {own : OperationId} {shared : Shared}
      (working : run.workers[index]? = some activity) (owns : activity.operation? = some own)
      (work : run.shared.work surroundings activity = some (shared, later)) :
      Works run surroundings index
        { run with shared := shared, workers := run.workers.set index later }
  | take {job : Job} {rest : Queue Job} (working : run.workers[index]? = some .idle)
      (taken : run.shared.queue.take? = some (job, rest)) :
      Works run surroundings index
        { run with
          shared := { run.shared with queue := rest }.note (.taken job)
          workers := run.workers.set index (job.hand?.getD .dismissed) }
  | leave (working : run.workers[index]? = some .idle) (closed : run.shared.queue.closed = true) :
      Works run surroundings index { run with workers := run.workers.set index .dismissed }

/-- A step of a worker is one of those. -/
theorem works_of_step (h : run.step ⟨.worker index, surroundings⟩ = some next) :
    run.Works surroundings index next := by
  obtain ⟨activity, shared, later, working, work, rfl⟩ := step_worker h
  cases owner : activity.operation? with
  | some own => exact .turn working owner work
  | none =>
      cases activity
      case dismissed => cases work
      case idle =>
        obtain ⟨job, rest, taken, rfl, rfl⟩ | ⟨-, closed, rfl, rfl⟩ := Shared.of_work_idle work
        · exact .take working taken
        · exact .leave working closed
      all_goals cases owner

end Run
end BulkTransfer
