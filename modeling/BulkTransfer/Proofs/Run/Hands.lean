import BulkTransfer.Proofs.Run.Frame
import Mathlib.Algebra.Order.Group.Multiset

/-!
# The hands of the operations

How the hands of every operation change with a step: a turn of a worker takes one hand from the
hands of its own operation and leaves others there (`Run.hands_of_turn`), and taking a job from
the queue only moves a hand from the queue to a worker (`Run.hands_of_take`).
-/

namespace BulkTransfer

open Pool

namespace Pool

/-- The hands that a turn leaves: the worker, if it goes on with the operation, and the task that
it has queued. -/
def Activity.leaves (activity : Activity) (id : OperationId) (queued : Option Chore) :
    Multiset Activity :=
  (if activity.operation? = some id then {activity} else 0) +
    (queued.map (Activity.starting id)).elim 0 fun hand => {hand}

lemma Activity.mem_leaves {later hand : Activity} {id : OperationId} {queued : Option Chore}
    (present : hand ∈ later.leaves id queued) :
    hand = later ∧ later.operation? = some id ∨
      ∃ chore, queued = some chore ∧ hand = .starting id chore := by
  unfold Activity.leaves at present
  rcases Multiset.mem_add.1 present with goesOn | queues
  · split at goesOn
    · next own => exact .inl ⟨Multiset.mem_singleton.1 goesOn, own⟩
    · exact absurd goesOn (Multiset.notMem_zero hand)
  · cases queued with
    | none => exact absurd queues (Multiset.notMem_zero hand)
    | some chore => exact .inr ⟨chore, rfl, Multiset.mem_singleton.1 queues⟩

end Pool

/-- The hands among jobs and workers. -/
def Run.handsAmong (jobs : List Job) (workers : List Activity) (id : OperationId) :
    Multiset Activity :=
  ((jobs.filterMap Job.hand? : List Activity) : Multiset Activity).filter
      (·.operation? = some id) +
    (workers : Multiset Activity).filter (·.operation? = some id)

namespace Run

variable {run next : Run} {move : Move} {id : OperationId}

lemma hands_eq (run : Run) (id : OperationId) :
    run.hands id = handsAmong run.shared.queue.items run.workers id := by
  rw [hands, handsAmong, ← Multiset.coe_add, Multiset.filter_add]

/-- What a worker does for an operation is one of its hands. -/
lemma mem_hands_of_worker {index : Nat} {activity : Activity}
    (working : run.workers[index]? = some activity) (owns : activity.operation? = some id) :
    activity ∈ run.hands id := by
  rw [hands, Multiset.mem_filter]
  exact ⟨List.mem_append_right _ (List.mem_of_getElem? working), owns⟩

lemma handsAmong_congr {jobs others : List Job} (h : jobs.Perm others)
    (workers : List Activity) : handsAmong jobs workers id = handsAmong others workers id := by
  rw [handsAmong, handsAmong, Multiset.coe_eq_coe.2 (h.filterMap _)]

lemma handsAmong_cons (job : Job) (jobs : List Job) (workers : List Activity) :
    handsAmong (job :: jobs) workers id =
      (job.hand?.elim 0 fun hand => if hand.operation? = some id then {hand} else 0) +
        handsAmong jobs workers id := by
  rw [handsAmong, handsAmong, List.filterMap_cons, ← add_assoc]
  congr 1
  cases job.hand? with
  | none => simp
  | some hand =>
      simp only [Option.elim_some, ← Multiset.cons_coe, Multiset.filter_cons]

/-- What the hands are before and after one worker has changed over to another activity. -/
lemma handsAmong_set {workers : List Activity} {index : Nat} {activity : Activity}
    (h : workers[index]? = some activity) (jobs : List Job) (id : OperationId) :
    ∃ rest : Multiset Activity,
      handsAmong jobs workers id =
          (if activity.operation? = some id then {activity} else 0) + rest ∧
        ∀ other, handsAmong jobs (workers.set index other) id =
          (if other.operation? = some id then {other} else 0) + rest := by
  obtain ⟨inside, rfl⟩ := List.getElem?_eq_some_iff.1 h
  refine ⟨handsAmong jobs (workers.eraseIdx index) id, ?_, fun other => ?_⟩
  · have perm := (List.getElem_cons_eraseIdx_perm inside).symm
    rw [handsAmong, Multiset.coe_eq_coe.2 perm, ← Multiset.cons_coe, Multiset.filter_cons,
      handsAmong, add_left_comm]
  · have perm := List.set_perm_cons_eraseIdx inside other
    rw [handsAmong, Multiset.coe_eq_coe.2 perm, ← Multiset.cons_coe, Multiset.filter_cons,
      handsAmong, add_left_comm]

lemma handsAmong_push (queue : Queue Job) (priority : Priority) (job : Job)
    (workers : List Activity) :
    handsAmong (queue.push priority job).items workers id =
      (job.hand?.elim 0 fun hand => if hand.operation? = some id then {hand} else 0) +
        handsAmong queue.items workers id := by
  rw [handsAmong_congr (queue.items_push_perm priority job), handsAmong_cons]

/-- A turn of a worker takes its hand from the hands of its operation and leaves others. -/
theorem hands_of_turn {index : Nat} {activity later : Activity} {own : OperationId}
    {after : Shared} {queued : Option Chore} (working : run.workers[index]? = some activity)
    (owns : activity.operation? = some own)
    (later_owns : later.operation? = some own ∨ later = .idle)
    (queue : after.queue = match queued with
      | none => run.shared.queue
      | some chore => run.shared.queue.push .immediate (.run ⟨own, chore⟩)) :
    (∃ rest, run.hands own = activity ::ₘ rest ∧
      handsAmong after.queue.items (run.workers.set index later) own =
        later.leaves own queued + rest) ∧
    ∀ other, other ≠ own →
      handsAmong after.queue.items (run.workers.set index later) other = run.hands other := by
  have pushed (id : OperationId) (workers : List Activity) :
      handsAmong after.queue.items workers id =
        (if id = own then (queued.map (Activity.starting own)).elim 0 fun hand => {hand} else 0) +
          handsAmong run.shared.queue.items workers id := by
    cases queued with
    | none => simp [queue]
    | some chore =>
        rw [queue, handsAmong_push]
        simp [Job.hand?, Activity.operation?, eq_comm]
  constructor
  · obtain ⟨rest, before, changed⟩ :=
      handsAmong_set working run.shared.queue.items own
    refine ⟨rest, ?_, ?_⟩
    · rw [hands_eq, before, if_pos owns, Multiset.singleton_add]
    · rw [pushed, changed, if_pos rfl, Activity.leaves, add_left_comm, add_assoc]
  · intro other apart
    obtain ⟨rest, before, changed⟩ :=
      handsAmong_set working run.shared.queue.items other
    have idle : later.operation? ≠ some other := by
      rcases later_owns with same | rfl
      · rw [same]
        exact fun h => apart (Option.some.inj h).symm
      · exact (Option.some_ne_none other).symm
    have busy : activity.operation? ≠ some other := by
      rw [owns]
      exact fun h => apart (Option.some.inj h).symm
    rw [pushed, changed, if_neg apart, if_neg idle, hands_eq, before, if_neg busy, zero_add]

/-- A worker that takes a job only moves a hand. -/
theorem hands_of_take {index : Nat} {job : Job} {rest : Queue Job}
    (working : run.workers[index]? = some .idle)
    (taken : run.shared.queue.take? = some (job, rest)) (id : OperationId) :
    handsAmong rest.items (run.workers.set index (job.hand?.getD .dismissed)) id =
      run.hands id := by
  obtain ⟨others, before, changed⟩ := handsAmong_set working rest.items id
  rw [hands_eq, Queue.items_of_take? taken, handsAmong_cons, before, changed]
  cases job with
  | run task => simp [Job.hand?, Activity.operation?]
  | dismissal => simp [Job.hand?, Activity.operation?]

end Run
end BulkTransfer
