import BulkTransfer.Proofs.Solo.Flowing

/-!
# What the worker of a lone operation leads to

Where the tasks in the queue, the worker, and what is done next for a lone operation stand together
(`Pool.Stance`). A turn at the operation itself comes to such a place again: a hand that goes on
alone opens the parts, leads to a follow-up or rests (`Pool.leads_of_alone`), and a part that is
moved leads to the next one or closes the parts (`Pool.leads_of_moving`).
-/

namespace BulkTransfer

open Pool Multipart

namespace Pool

/-- Whether no part has been handed out on the side that is being opened. -/
def Operation.Opens (operation : Operation) (activity : Activity) : Prop :=
  ∀ side, activity.opens? = some side →
    ∃ total, 0 < total ∧ operation.progress? side = some { total := total }

/-- How the tasks in the queue, the worker, and what is done next belong together for a lone
operation: one activity goes on alone; or a part is moved, with others in the queue; or the next
part is about to be moved, as soon as others are queued; or the operation is to be ended, as soon as
the parts in the queue have been skipped; or it is over. -/
inductive Stance (operation : Operation) : List Chore → Activity → Option Activity → Prop where
  | alone {hand : Activity} (effective : hand.isEffective = true) (lead : hand.role? = none)
      (opens : operation.Opens hand) : Stance operation [] hand (some hand.gist)
  | moving {hand : Activity} {side : Side} {progress : Progress} {queued : List Nat}
      (moves : hand.moves? = some side) (flows : operation.Flows progress side)
      (orderly : progress.Orderly 1 queued []) :
      Stance operation (queued.map (operation.moving side)) hand (some hand.gist)
  | resting {side : Side} {progress : Progress} {queued : List Nat}
      (flows : operation.Flows progress side) (orderly : progress.Orderly 0 queued [])
      (waiting : queued ≠ []) :
      Stance operation (queued.map (operation.moving side)) .idle
        (some (.starting 0 (operation.following side)))
  | entering {side : Side} {progress : Progress} {index : Nat} {queued : List Nat}
      (flows : operation.Flows progress side) (orderly : progress.Orderly 0 (index :: queued) []) :
      Stance operation (queued.map (operation.moving side))
        (.starting 0 (operation.moving side index))
        (some (.starting 0 (operation.following side)))
  | feeding {side : Side} {progress : Progress} {queued : List Nat}
      (flows : operation.Flows progress side) (orderly : progress.Orderly 0 queued []) :
      Stance operation (queued.map (operation.moving side)) (.feeding 0 side)
        (some (.starting 0 (operation.following side)))
  | holding {side : Side} {progress : Progress} {index : Nat} {queued : List Nat}
      {worker : Activity} (flows : operation.Flows progress side)
      (orderly : progress.Orderly 0 queued [index])
      (holds : worker = .offering 0 side index ∨ worker = .deferring 0 side index ∨
        worker = .forcing 0 side index) :
      Stance operation (queued.map (operation.moving side)) worker
        (some (.starting 0 (operation.following side)))
  | leaving {followUp : FollowUp} {skipped : List Chore}
      (skips : ∀ chore ∈ skipped, operation.Skips chore) :
      Stance operation skipped (.following 0 followUp) (some (.starting 0 followUp.chore))
  | draining {followUp : FollowUp} {skipped : List Chore}
      (skips : ∀ chore ∈ skipped, operation.Skips chore) :
      Stance operation (skipped ++ [followUp.chore]) .idle (some (.starting 0 followUp.chore))
  | skipping {followUp : FollowUp} {chore : Chore} {skipped : List Chore}
      (skip : operation.Skips chore) (skips : ∀ chore ∈ skipped, operation.Skips chore) :
      Stance operation (skipped ++ [followUp.chore]) (.starting 0 chore)
        (some (.starting 0 followUp.chore))
  | ended {worker : Activity} (left : worker = .idle ∨ worker = .dismissed) :
      Stance operation [] worker none

namespace Activity

/-- An activity at the operation is done next as it is. -/
lemma onward_of_isEffective {activity : Activity} (operation : Operation)
    (effective : activity.isEffective = true) : activity.onward operation = some activity := by
  cases activity <;> first | rfl | cases effective

lemma isEffective_of_moves? {activity : Activity} {side : Side}
    (moves : activity.moves? = some side) : activity.isEffective = true := by
  cases activity <;> first | rfl | cases moves

end Activity

section

variable {shared after : Shared} {surroundings : Surroundings} {activity later : Activity}
  (inside : 0 < shared.operations.length)

/-- Where the hands of a lone operation stand once an activity has led to another. -/
abbrev Shared.LeadsTo (after : Shared) (queued : List Chore) (later : Activity) : Prop :=
  Stance (after.operation 0) queued later
    ((later.onward (after.operation 0)).map Activity.gist)

lemma leads_of_ends (ends : later.Ends 0) : after.LeadsTo [] later := by
  cases ends with
  | rests => exact .ended (.inl rfl)
  | follows followUp => exact .leaving (List.forall_mem_nil _)
  | leads effective lead opens =>
      rw [Shared.LeadsTo, later.onward_of_isEffective _ effective]
      refine .alone effective lead fun side opened => ?_
      rw [opens] at opened
      cases opened

lemma leads_of_opens (effective : later.isEffective = true) (lead : later.role? = none)
    (opens : (after.operation 0).Opens later) : after.LeadsTo [] later := by
  rw [Shared.LeadsTo, later.onward_of_isEffective _ effective]
  exact .alone effective lead opens

include inside in
/-- A hand that goes on alone leads on alone, to the parts, to a follow-up or to the end. -/
theorem leads_of_alone (own : activity.operation? = some 0)
    (effective : activity.isEffective = true) (lead : activity.role? = none)
    (opens : (shared.operation 0).Opens activity)
    (work : shared.work surroundings activity = some (after, later)) : after.LeadsTo [] later := by
  -- Only what opens the parts needs a look at the state; the rest follows from the graph.
  cases plain : activity.opens? with
  | none => exact leads_of_ends ((Shared.follows_of_work own work).ends effective lead plain)
  | some side =>
      obtain ⟨total, several, fresh⟩ := opens side plain
      cases opened_of_work inside own plain fresh work with
      | opens goes fresh same =>
          obtain ⟨effective, lead⟩ := Activity.lead_of_opens? goes
          refine leads_of_opens effective lead fun other opened => ?_
          obtain rfl := Option.some.inj (goes.symm.trans opened)
          exact ⟨total, several, fresh⟩
      | fails ends => exact leads_of_ends ends
      | feeds goes flows same =>
          rw [goes]
          exact .feeding flows (.fresh several)

/-- The parts in the queue are skipped once the end of the operation has been claimed. -/
lemma leads_of_claimed {side : Side} {progress : Progress} {queued : List Nat}
    {operation : Operation} {followUp : FollowUp}
    (found : (after.operation 0).progress? side = some progress)
    (claimed : progress.endClaimed = true) :
    after.LeadsTo (queued.map (operation.moving side)) (.following 0 followUp) := by
  refine .leaving fun chore present => ?_
  obtain ⟨index, -, rfl⟩ := List.mem_map.1 present
  exact Operation.skips_of_endClaimed found claimed (Chore.side?_partChore ..)

section

variable {side : Side} {progress : Progress} {queued : List Nat}
  (flows : (shared.operation 0).Flows progress side) (orderly : progress.Orderly 1 queued [])
include inside flows orderly

lemma leads_of_finished {report : Report} (moved : report.moved? = some side)
    (work : shared.work surroundings (.reporting 0 report) = some (after, later)) :
    after.LeadsTo (queued.map ((shared.operation 0).moving side)) later := by
  rcases finished_of_work inside flows moved work with
    ⟨pending, rfl, flowing, same⟩ | ⟨closed, followUp, last, -, rfl⟩
  · rw [← same]
    exact .feeding flowing (orderly.finish pending)
  · obtain ⟨rfl, -⟩ := orderly.finishLast last
    exact leads_of_ends (.follows _)

lemma leads_of_lost {error : Failure}
    (work : shared.work surroundings (.reporting 0 (.partLost side error true)) =
      some (after, later)) :
    after.LeadsTo (queued.map ((shared.operation 0).moving side)) later := by
  obtain ⟨closed, last, -, claimed⟩ := @orderly.lose _ _ error.message
  obtain ⟨found, followUp, rfl⟩ := lost_of_work inside flows last work
  exact leads_of_claimed found claimed

end

include inside in
/-- A part that is moved leads to its report, and that to the next part or to a follow-up. -/
theorem leads_of_moving {side : Side} {progress : Progress} {queued : List Nat}
    (own : activity.operation? = some 0) (moves : activity.moves? = some side)
    (flows : (shared.operation 0).Flows progress side) (orderly : progress.Orderly 1 queued [])
    (work : shared.work surroundings activity = some (after, later)) :
    after.LeadsTo (queued.map ((shared.operation 0).moving side)) later := by
  -- Until its report a part is moved without a change to the operation.
  have goesOn (unreported : ∀ report, activity ≠ .reporting 0 report)
      (frame : activity.revises = false) :
      after.LeadsTo (queued.map ((shared.operation 0).moving side)) later := by
    have goes := (Shared.follows_of_work own work).moves moves unreported
    have operations : after.operations = shared.operations :=
      Shared.operations_of_work frame work
    have same : after.operation 0 = shared.operation 0 := by
      rw [Shared.operation, operations, Shared.operation]
    rw [Shared.LeadsTo, later.onward_of_isEffective _ (Activity.isEffective_of_moves? goes), same]
    exact .moving goes flows orderly
  cases activity
  case reading | sending | awaiting | writing => exact goesOn (fun _ => by simp) rfl
  case reporting id report =>
    obtain rfl := Option.some.inj own
    cases report
    case partDone | partWritten =>
      refine leads_of_finished inside flows orderly ?_ work
      exact moves
    case partLost at_ error began =>
      cases began
      · cases moves
      · obtain rfl := Option.some.inj moves
        exact leads_of_lost inside flows orderly work
    all_goals cases moves
  all_goals cases moves

end

end Pool
end BulkTransfer
