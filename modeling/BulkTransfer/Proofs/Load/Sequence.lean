import BulkTransfer.Proofs.Run.Batches
import BulkTransfer.Proofs.Run.ScheduledMoves
import BulkTransfer.Proofs.Solo.Pace

/-!
# The calls of one worker in sequence

With one worker the calls for the parts of an operation are those for its first parts, one for each
and in their order (`Pool.Row.Paced`). So it is when the operation begins, and every step keeps it
so (`Pool.Row.Paced.shift`), whatever is planned meanwhile, whatever the queue has room for or
refuses, and whatever the stores answer. The calls of different operations do not mix either
(`Run.calls_in_sequence`).
-/

namespace BulkTransfer

open Pool Multipart

namespace Pool

variable {spans : Nat → PartSpan} {side : Side} {total count : Nat} {id : OperationId}
  {calls : List Call}

/-- Whether calls are those for the first parts, one for each in their order. -/
def InTurn (spans : Nat → PartSpan) (side : Side) (count : Nat) (calls : List Call) : Prop :=
  List.Forall₂ (fun index call => call.IsFor side (spans index)) (List.range count) calls

/-- The call for the next part may follow. -/
lemma InTurn.concat {call : Call} (inTurn : InTurn spans side count calls)
    (next : call.IsFor side (spans count)) : InTurn spans side (count + 1) (calls ++ [call]) := by
  rw [InTurn, List.range_succ]
  exact List.rel_append inTurn (.cons next .nil)

/-- What the call for a part shows of it, the calls show in turn. -/
lemma InTurn.map_eq {α : Type} {mark : Call → α} {shown : Nat → α}
    (inTurn : InTurn spans side count calls)
    (shows : ∀ index call, call.IsFor side (spans index) → mark call = shown index) :
    calls.map mark = (List.range count).map shown := by
  have same : List.Forall₂ (· = ·) ((List.range count).map shown) (calls.map mark) := by
    rw [List.forall₂_map_left_iff, List.forall₂_map_right_iff]
    exact inTurn.imp fun index call one => (shows index call one).symm
  rw [List.forall₂_eq_eq_eq] at same
  exact same.symm

lemma Pace.count_le {operation : Operation} {first lane : List Chore} {worker : Activity}
    (pace : Pace spans side total id operation first lane worker count) : count ≤ total := by
  cases pace with
  | early waits opens none idle fresh cut uncalled => exact uncalled ▸ Nat.zero_le total
  | opening taken none opens quiet fresh cut uncalled => exact uncalled ▸ Nat.zero_le total
  | ceased taken tasks ceases quiet few => exact few
  | flowing taken tasks flows all cut serving =>
      rw [← all]
      cases serving with
      | free orderly | holding orderly | entering orderly | calling orderly =>
          next made => exact made ▸ Nat.le_of_lt orderly.left
      | called orderly called made => exact made ▸ orderly.left
      | losing orderly loses few => exact few

/-- Whether the calls for the parts of an operation are those for the first `count` of them, in
their order, and the next one that is made, if any, will be for the part after these. -/
structure Row.Paced (row : Row) (spans : Nat → PartSpan) (side : Side) (total : Nat)
    (id : OperationId) (count : Nat) : Prop where
  calls : InTurn spans side count row.calls
  pace : Pace spans side total id row.operation row.first row.lane row.place count

namespace Row.Paced

variable {row next : Row}

/-- While the first task waits, it may be refused; then no part is moved. -/
lemma wait {first : List Chore} (paced : row.Paced spans side total id count)
    (fewer : first.Sublist row.first) :
    Paced { row with first := first } spans side total id count := by
  obtain ⟨calls, pace⟩ := paced
  refine ⟨calls, ?_⟩
  cases pace with
  | @early chore waits opens none idle fresh cut uncalled =>
      rw [waits] at fewer
      rcases List.sublist_singleton.1 fewer with gone | same
      · exact .ceased gone (none ▸ List.forall_mem_nil _) (.inl (idle ▸ .rests))
          (idle ▸ .of_silent rfl) (uncalled ▸ Nat.zero_le total)
      · exact .early same opens none idle fresh cut uncalled
  | opening taken none opens quiet fresh cut uncalled =>
      exact .opening (List.sublist_nil.1 (taken ▸ fewer)) none opens quiet fresh cut uncalled
  | flowing taken tasks flows all cut serving =>
      exact .flowing (List.sublist_nil.1 (taken ▸ fewer)) tasks flows all cut serving
  | ceased taken tasks ceases quiet few =>
      exact .ceased (List.sublist_nil.1 (taken ▸ fewer)) tasks ceases quiet few

/-- The worker takes the first task, and opens the parts. -/
lemma begin {chore : Chore} {rest : List Chore} (paced : row.Paced spans side total id count)
    (first : row.first = chore :: rest) :
    Paced { row with first := rest, place := .starting id chore } spans side total id count := by
  obtain ⟨calls, pace⟩ := paced
  refine ⟨calls, ?_⟩
  cases pace with
  | early waits opens none idle fresh cut uncalled =>
      obtain ⟨rfl, rfl⟩ := List.cons.inj (waits.symm.trans first)
      exact .opening rfl none opens (.of_silent rfl) fresh cut uncalled
  | opening taken | flowing taken | ceased taken =>
      rw [taken] at first
      cases first

/-- The worker takes the first follow-up: it enters the next part, or no part is moved any more. -/
lemma take {chore : Chore} {rest : List Chore} (paced : row.Paced spans side total id count)
    (queued : row.lane = chore :: rest) (idle : row.place = .idle) :
    Paced { row with lane := rest, place := .starting id chore } spans side total id count := by
  obtain ⟨calls, pace⟩ := paced
  refine ⟨calls, ?_⟩
  cases pace with
  | early waits opens none | opening taken none =>
      rw [none] at queued
      cases queued
  | @flowing progress parts taken tasks flows all cut serving =>
      rw [tasks] at queued
      obtain ⟨index, parts, rfl, rfl, rfl⟩ := List.map_eq_cons_iff.1 queued
      rw [idle] at serving
      refine .flowing taken rfl flows all cut ?_
      cases serving with
      | free orderly free made => exact .entering orderly rfl made
      | holding orderly holds =>
          rcases holds with holds | holds | holds | ⟨error, holds⟩ <;> cases holds
      | entering orderly enters => cases enters
      | calling orderly calls => cases calls
      | called orderly called => cases called
      | losing orderly loses =>
          obtain ⟨error, loses⟩ := loses
          cases loses
  | ceased taken tasks ceases quiet few =>
      rw [queued] at tasks
      obtain ⟨ceases, tasks⟩ := List.forall_mem_cons.1 tasks
      refine .ceased taken tasks ?_ (.of_silent rfl) few
      rcases ceases with plain | ⟨part, claimed⟩
      · exact .inl (.leads rfl (plain id).1 (plain id).2)
      · exact .inr ⟨chore, rfl, part, claimed⟩

/-- Every step keeps the pace. -/
theorem shift (paced : row.Paced spans side total id count) (several : 0 < total)
    (shifts : row.Shifts id next) : ∃ count, next.Paced spans side total id count := by
  cases shifts with
  | waits fewer => exact ⟨count, paced.wait fewer⟩
  | begins first => exact ⟨count, paced.begin first⟩
  | takes queued idle => exact ⟨count, paced.take queued idle⟩
  | turns inside same own work queues =>
      obtain ⟨inTurn, pace⟩ := paced
      obtain ⟨taken, tasks, made, queued, issues, pace⟩ :=
        (same ▸ pace).turn inside several own work
      obtain rfl := queues.unique queued
      rw [← taken] at pace
      refine ⟨made, ?_, pace⟩
      unfold Activity.Issues at issues
      cases call : row.place.issue?.filter Call.isPart with
      | none =>
          rw [call] at issues
          rw [issues, Option.toList_none, List.append_nil]
          exact inTurn
      | some call =>
          rw [call] at issues
          obtain ⟨next, rfl⟩ := issues
          exact inTurn.concat next

end Row.Paced

/-- No call was made for a part of an operation to which nothing has happened. -/
lemma Shared.partCalls_of_history {shared : Shared} (none : shared.history id = []) :
    shared.partCalls id = [] := by
  refine List.filterMap_eq_nil_iff.2 fun (own, call) issued => ?_
  rw [ite_eq_right_iff]
  rintro ⟨rfl, -⟩
  obtain ⟨event, present, issues⟩ := List.mem_filterMap.1 issued
  have known : event ∈ shared.history own := by
    refine List.mem_filter.2 ⟨List.mem_reverse.1 present, ?_⟩
    cases event <;> cases issues
    exact decide_eq_true rfl
  rw [none] at known
  cases known

end Pool

namespace Run

variable {batch : Batch} {disk : Disk} {records : List Record} {moves : List Move} {run : Run}
  {id : OperationId} {record : Record}

/-- Nobody is at work on an operation that is only proposed. -/
lemma row_of_proposed {operation : Operation} {chore : Chore}
    (begun : run.view id = ⟨operation, some chore, 0, []⟩) :
    run.row id = ⟨operation, [chore], [], .idle, []⟩ := by
  obtain ⟨same, proposed, unheld, silent⟩ := View.mk.inj begun
  have nobody : ∀ hand ∈ run.shared.queue.items.filterMap Job.hand? ++ run.workers,
      hand.operation? ≠ some id := Multiset.filter_eq_nil.1 unheld
  -- A task of the operation in the queue would be a hand as well.
  have unqueued : ∀ job ∈ run.shared.queue.items, job.choreOf? id = none := by
    intro job present
    cases job with
    | dismissal => rfl
    | run task =>
        refine if_neg fun own => nobody (.starting task.operation task.chore) ?_ ?_
        · exact List.mem_append_left _ (List.mem_filterMap.2 ⟨_, present, rfl⟩)
        · exact congrArg some own
  have immediate : run.shared.queue.immediate.filterMap (Job.choreOf? id) = [] :=
    List.filterMap_eq_nil_iff.2 fun job present =>
      unqueued job (List.mem_append_left _ (List.mem_append_left _ present))
  have normal : run.shared.queue.normal.filterMap (Job.choreOf? id) = [] :=
    List.filterMap_eq_nil_iff.2 fun job present =>
      unqueued job (List.mem_append_left _ (List.mem_append_right _ present))
  have waits : run.planner.proposed?.bind (Task.choreOf? id) = some chore := by
    obtain ⟨task, found, rfl⟩ := Option.map_eq_some_iff.1 proposed
    obtain ⟨found, own⟩ := Option.filter_eq_some_iff.1 found
    rw [found]
    exact if_pos (of_decide_eq_true own)
  have idle : run.workers.find? (·.operation? = some id) = none :=
    List.find?_eq_none.2 fun worker present own =>
      nobody worker (List.mem_append_right _ present) (of_decide_eq_true own)
  refine Row.ext same ?_ immediate ?_ (Shared.partCalls_of_history silent)
  · simp only [row, normal, waits]
    rfl
  · simp only [row, idle]
    rfl

/-- Whatever has happened in a run by one worker, what is planned in parts keeps their order. -/
lemma paced_of_steps {operation : Operation} {chore : Chore} {side : Side} {total : Nat}
    (single : batch.config.maxConcurrentRequests = 1) (listed : records[id]? = some record)
    (planned : batch.plan.resolve record = .ok (operation, chore))
    (opens : (Activity.starting id chore).opens? = some side)
    (fresh : operation.progress? side = some { total := total }) (several : 0 < total)
    (reached : (batch.start disk records).steps moves = some run)
    (inside : id < run.shared.operations.length) :
    ∃ count, (run.row id).Paced (operation.span side) side total id count := by
  have begun (run : Run) (begins : Begins batch.plan record id (run.view id)) :
      run.workers.length = 1 →
        ∃ count, (run.row id).Paced (operation.span side) side total id count := by
    intro _
    cases begins with
    | refused error tally resolved =>
        rw [planned] at resolved
        cases resolved
    | proposed operation chore resolved begun =>
        rw [planned] at resolved
        obtain ⟨rfl, rfl⟩ := Prod.mk.inj (Except.ok.inj resolved)
        rw [row_of_proposed begun]
        exact ⟨0, .nil, .early rfl opens rfl rfl fresh rfl rfl⟩
  have kept (run : Run) (move : Move) (next : Run) (sound : run.Sound records)
      (inside : id < run.shared.operations.length)
      (before : run.workers.length = 1 →
        ∃ count, (run.row id).Paced (operation.span side) side total id count)
      (_ : True) (step : run.step move = some next) (_ : Seen run next move id) :
      next.workers.length = 1 →
        ∃ count, (next.row id).Paced (operation.span side) side total id count := by
    intro workers
    have single : run.workers.length = 1 := (kept_of_step step).2.symm.trans workers
    obtain ⟨count, paced⟩ := before single
    exact paced.shift several (shifts_of_step sound single step inside)
  exact each_step listed begun kept reached (fun _ _ _ _ _ _ => trivial) inside
    ((sound_of_steps reached).2.2.trans single)

/-- In every state of a run by one worker, no call of another operation stands between the first
call of an operation and its last; and the calls made for the parts of an operation are those for
its first parts, by their numbers for an upload or a copy, and by their ranges for a download. -/
theorem calls_in_sequence (valid : batch.plan.Valid)
    (single : batch.config.maxConcurrentRequests = 1)
    (reached : (batch.start disk records).steps moves = some run) :
    Grouped run.shared.callers ∧
      ∀ id record operation chore, records[id]? = some record →
        batch.plan.resolve record = .ok (operation, chore) →
          (∀ upload, operation.upload = some upload →
            ∃ count ≤ upload.progress.total,
              (run.shared.partCalls id).map Call.partNumber? =
                (List.range count).map fun index => some (index + 1)) ∧
          ∀ download, operation.download = some download →
            ∃ count ≤ download.progress.total,
              (run.shared.partCalls id).map Call.header? =
                (List.range count).map fun index =>
                  some (PartSpan.ofIndex record.size download.chunksize index).openHeader := by
  refine ⟨(undivided_of_steps single reached).grouped, ?_⟩
  intro id record operation chore listed planned
  have calls {side : Side} {total : Nat} (opens : (Activity.starting id chore).opens? = some side)
      (fresh : operation.progress? side = some { total := total }) (several : 0 < total) :
      ∃ count ≤ total, InTurn (operation.span side) side count (run.shared.partCalls id) := by
    by_cases inside : id < run.shared.operations.length
    · obtain ⟨count, inTurn, pace⟩ :=
        paced_of_steps single listed planned opens fresh several reached inside
      exact ⟨count, pace.count_le, inTurn⟩
    · have silent := history_of_absent reached (not_lt.1 inside)
      refine ⟨0, Nat.zero_le total, ?_⟩
      rw [Shared.partCalls_of_history silent]
      exact .nil
  cases planned_of_resolve planned with
  | whole => exact ⟨nofun, nofun⟩
  | @upload object parts chunksize remote cut sized =>
      obtain ⟨-, -, several⟩ := Limits.of_split valid.limits sized cut
      refine ⟨fun upload split => ?_, nofun⟩
      obtain rfl := Option.some.inj split
      obtain ⟨count, few, inTurn⟩ := calls rfl rfl several
      exact ⟨count, few, inTurn.map_eq fun index call one => one⟩
  | @download object path parts chunksize source destination cut sized =>
      obtain ⟨-, -, several⟩ := Limits.of_split valid.limits sized cut
      refine ⟨nofun, fun download split => ?_⟩
      obtain rfl := Option.some.inj split
      obtain ⟨count, few, inTurn⟩ := calls rfl rfl several
      exact ⟨count, few, inTurn.map_eq fun index call one => one⟩

/-- The calls for the parts of a copy in two parts by one worker. -/
theorem smallCopy_in_sequence :
    Grouped (Batch.smallRun { answersAll := true } .empty Batch.smallCopy).shared.callers ∧
      ∃ count ≤ 2,
        ((Batch.smallRun { answersAll := true } .empty Batch.smallCopy).shared.partCalls 0).map
            Call.partNumber? =
          (List.range count).map fun index => some (index + 1) := by
  obtain ⟨grouped, inTurn⟩ := calls_in_sequence Batch.small_valid rfl
    (Batch.steps_smallMoves { answersAll := true } .empty Batch.smallCopy)
  exact ⟨grouped, (inTurn 0 Batch.smallCopy _ _ rfl Batch.smallCopy_planned).1 _ rfl⟩

example :
    ((Batch.smallRun { answersAll := true } .empty Batch.smallCopy).shared.partCalls 0).map
      Call.partNumber? = [some 1, some 2] := by
  decide +kernel

end Run
end BulkTransfer
