import BulkTransfer.Proofs.Run.Batches
import Mathlib.Data.List.Induction

/-!
# The turns of an operation

A run is many workers at many operations. What was done for one of them is the list of the turns
that its workers have taken (`Run.turns`), each with what the worker was doing. What holds of an
operation and its turns when it begins, and is kept by every step, holds whenever it is there
(`Run.each_turn`).
-/

namespace BulkTransfer

open Pool

namespace Run

/-- What an actor does when it is its turn. -/
def activityOf? (run : Run) : Actor → Option Activity
  | .planner => none
  | .worker index => run.workers[index]?

/-- The turn that a move is, if it is one of an operation. -/
def turn? (run : Run) (id : OperationId) (move : Move) : Option Activity :=
  (run.activityOf? move.actor).filter (·.operation? = some id)

/-- What is seen along the moves of a run, first to last. -/
def along {α : Type} (look : Run → Move → Option α) (run : Run) : List Move → List α
  | [] => []
  | move :: moves =>
      (look run move).toList ++ ((run.step move).map fun next => next.along look moves).getD []

/-- The turns of an operation in a run, first to last. -/
def turns (run : Run) (id : OperationId) (moves : List Move) : List Activity :=
  run.along (fun run move => run.turn? id move) moves

variable {batch : Batch} {disk : Disk} {records : List Record} {run mid : Run} {moves : List Move}
  {move : Move} {id : OperationId}

lemma along_concat {α : Type} (look : Run → Move → Option α)
    (reached : run.steps moves = some mid) (move : Move) :
    run.along look (moves ++ [move]) = run.along look moves ++ (look mid move).toList := by
  induction moves generalizing run with
  | nil =>
      obtain rfl := Option.some.inj reached
      simp only [List.nil_append, along]
      cases run.step move <;> simp
  | cons first moves ih =>
      obtain ⟨next, step, rest⟩ := Option.bind_eq_some_iff.1 reached
      simp only [List.cons_append, along, step, Option.map_some, Option.getD_some]
      rw [ih rest, List.append_assoc]

lemma turns_concat (reached : run.steps moves = some mid) (id : OperationId) (move : Move) :
    run.turns id (moves ++ [move]) = run.turns id moves ++ (mid.turn? id move).toList :=
  along_concat _ reached move

lemma turn?_of_other (other : run.operationOf? move.actor ≠ some id) :
    run.turn? id move = none := by
  unfold turn?
  cases actor : move.actor with
  | planner => rfl
  | worker index =>
      rw [actor, operationOf?] at other
      rw [activityOf?]
      cases working : run.workers[index]? with
      | none => rfl
      | some activity =>
          rw [working, Option.bind_some] at other
          simp [Option.filter, other]

lemma turn?_of_worker {index : Nat} {activity : Activity} (actor : move.actor = .worker index)
    (working : run.workers[index]? = some activity) (own : activity.operation? = some id) :
    run.turn? id move = some activity := by
  simp [turn?, activityOf?, actor, working, Option.filter, own]

lemma mem_hands_of_turn? {activity : Activity} (turn : run.turn? id move = some activity) :
    activity ∈ run.hands id := by
  obtain ⟨acts, own⟩ := Option.filter_eq_some_iff.1 turn
  have own : activity.operation? = some id := of_decide_eq_true own
  cases actor : move.actor with
  | planner =>
      rw [actor, activityOf?] at acts
      cases acts
  | worker index =>
      rw [actor, activityOf?] at acts
      exact mem_hands_of_worker acts own

/-- An operation that is not there has no turns. -/
lemma turn?_of_absent (sound : run.Sound records) (absent : run.shared.operations.length ≤ id)
    (move : Move) : run.turn? id move = none :=
  turn?_of_other (sound.operationOf?_of_absent absent move.actor)

lemma inside_of_turn? (sound : run.Sound records) {activity : Activity}
    (turn : run.turn? id move = some activity) : id < run.shared.operations.length := by
  refine Nat.lt_of_not_le fun absent => ?_
  rw [turn?_of_absent sound absent] at turn
  cases turn

lemma turns_of_absent (reached : (batch.start disk records).steps moves = some run)
    (absent : run.shared.operations.length ≤ id) :
    (batch.start disk records).turns id moves = [] := by
  induction moves using List.reverseRecOn generalizing run with
  | nil => rfl
  | append_singleton moves move ih =>
      rw [steps_concat] at reached
      obtain ⟨mid, before, step⟩ := Option.bind_eq_some_iff.1 reached
      have sound := (sound_of_steps before).1
      have missing : mid.shared.operations.length ≤ id := by
        rcases length_of_step sound step with same | ⟨longer, -⟩
        · rwa [same] at absent
        · rw [longer] at absent
          exact Nat.le_of_succ_le absent
      rw [turns_concat before, ih before missing, turn?_of_absent sound missing]
      rfl

/-- What holds of the operation of a record and its turns once it has been planned, and is kept by
each step of a run as the operation sees it, holds in every state in which the operation is
there. -/
theorem each_turn (holds : List Activity → View → Prop) {record : Record}
    (listed : records[id]? = some record)
    (begun : ∀ view, Begins batch.plan record id view → holds [] view)
    (kept : ∀ done run move next, id < run.shared.operations.length →
      (batch.start disk records).steps done = some run →
      holds ((batch.start disk records).turns id done) (run.view id) → Seen run next move id →
      holds ((batch.start disk records).turns id done ++ (run.turn? id move).toList)
        (next.view id))
    (reached : (batch.start disk records).steps moves = some run)
    (inside : id < run.shared.operations.length) :
    holds ((batch.start disk records).turns id moves) (run.view id) := by
  induction moves using List.reverseRecOn generalizing run with
  | nil =>
      obtain rfl := Option.some.inj reached
      exact absurd inside (Nat.not_lt_zero id)
  | append_singleton moves move ih =>
      rw [steps_concat] at reached
      obtain ⟨mid, before, step⟩ := Option.bind_eq_some_iff.1 reached
      obtain ⟨sound, samePlan, -⟩ := sound_of_steps before
      rw [turns_concat before]
      by_cases old : id < mid.shared.operations.length
      · exact kept moves mid move run old before (ih before old) (seen_of_step sound step old)
      · have absent := not_lt.1 old
        rcases length_of_step sound step with same | ⟨longer, other, planned, begins⟩
        · exact absurd (same ▸ inside) old
        · rw [longer] at inside
          obtain rfl := Nat.eq_of_lt_succ_of_not_lt inside old
          obtain rfl := Option.some.inj (listed.symm.trans planned)
          rw [turns_of_absent before absent, turn?_of_absent sound absent]
          exact begun (run.view mid.shared.operations.length) (samePlan ▸ begins)

end Run
end BulkTransfer
