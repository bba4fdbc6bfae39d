import BulkTransfer.Proofs.Drain.Effort
import BulkTransfer.Proofs.Drain.Roster
import BulkTransfer.Proofs.Run.ScheduledMoves
import BulkTransfer.Proofs.Solo.Failing

/-!
# Panics and errors

What becomes of a lone operation when stores panic instead of failing. A part that panics is lost
like one that fails, and so is an operation that is done as a whole; an upload whose creation or
abort panics fails like one where it fails. Only an upload whose completion panics is left as it is,
where one whose completion fails is aborted. So an essence and the one with its panics mended go on
alike, or part for good there (`Solo.Mends`), and two runs of one record by one worker, in whichever
orders their actors move, differ by no more than that abort (`Run.panics_like_failures`).
-/

namespace BulkTransfer

open Pool Multipart

namespace Solo

/-- The essence with an error in place of every panic to come. -/
def mended (solo : Solo Script) : Solo Script :=
  { solo with stores := mendedStores solo.stores }

/-- A turn in which no store is asked leaves no upload unaborted. -/
lemma unaborted_of_uncalled {shared after : Shared} {surroundings : Surroundings}
    {activity later : Activity} (uncalled : activity.call? = none)
    (own : activity.operation? = some 0)
    (work : shared.work surroundings activity = some (after, later)) :
    after.unaborted = shared.unaborted := by
  cases Shared.noted_of_work own work with
  | nothing queue events => simp only [Shared.unaborted, show after.events = _ from events]
  | noted event own queue events =>
      have none : event.unaborted? = none := by
        cases event
        case answered store id call answer =>
          obtain ⟨errand, rfl⟩ := own
          cases uncalled
        all_goals rfl
      simp [Shared.unaborted, show after.events = _ from events, none]
  | queued chore queues goes queue events =>
      simp [Shared.unaborted, show after.events = _ from events, Event.unaborted?]

/-- How an essence and the one with its panics mended go on: alike, or both to the failure of the
operation, after the aborts that the panic has left out. -/
inductive Mends (solo next : Solo Script) : Prop where
  | alike (step : solo.mended.next? ⟨Script.answer⟩ = some next.mended)
      (unaborted : next.shared.unaborted = solo.shared.unaborted)
  | apart {called : List (StoreName × Call)} (few : called.length ≤ 1)
      (shown : next.shared.shown =
        { solo.shared.shown with unaborted := solo.shared.unaborted ++ called })
      (fails : next.Fails ⟨Script.answer⟩ [])
      (mendedFails : solo.mended.Fails ⟨Script.answer⟩ called)

lemma mends_of_uncalled {shared : Shared} {activity : Activity}
    {stores : List (StoreName × Script)} {next : Solo Script} (uncalled : activity.call? = none)
    (own : activity.operation? = some 0)
    (step : (⟨shared, some activity, stores⟩ : Solo Script).next? ⟨Script.answer⟩ = some next) :
    Mends ⟨shared, some activity, stores⟩ next := by
  obtain ⟨hand, hands, step⟩ := Option.bind_eq_some_iff.1 step
  obtain rfl := Option.some.inj hands
  obtain ⟨⟨after, later⟩, work, rfl⟩ := Option.map_eq_some_iff.1 step
  simp only [uncalled, answerTo] at work ⊢
  refine .alike (next?_of_uncalled uncalled work) ?_
  have unaborted := unaborted_of_uncalled uncalled own work
  exact after.unaborted_gist.trans unaborted

/-- A part that panics is lost like one that fails, and so is an operation that is done as a
whole. -/
lemma onward_of_panic {operation : Operation} {errand : Errand}
    (moves : errand.isPlain = true ∨ errand.partSide?.isSome = true) (call : Call)
    (message : String) :
    ((Shared.afterPanic 0 errand message).onward operation).map Activity.gist =
      ((Shared.afterFailure 0 errand (.remote call.name message)).onward operation).map
        Activity.gist := by
  cases errand
  case create | complete | abort => rcases moves with plain | part <;> contradiction
  all_goals rfl

section

variable {shared : Shared} {stores : List (StoreName × Script)} {next : Solo Script}
  {errand : Errand} {store : StoreName} {call : Call}

/-- An answer that is not a panic is the same in mended stores. -/
lemma mends_of_answer
    (step : (⟨shared, some (.awaiting 0 errand store call), stores⟩ : Solo Script).next?
      ⟨Script.answer⟩ = some next)
    (same : (ask ⟨Script.answer⟩ store call stores).1.mended call =
      (ask ⟨Script.answer⟩ store call stores).1)
    (sound : (Event.answered store 0 call (Shared.seen call
      (ask ⟨Script.answer⟩ store call stores).1)).unaborted? = none) :
    Mends ⟨shared, some (.awaiting 0 errand store call), stores⟩ next := by
  obtain rfl := Option.some.inj ((next?_of_awaiting ..).symm.trans step)
  have mendedStep := next?_of_awaiting ⟨Script.answer⟩ shared errand store call
    (mendedStores stores)
  rw [ask_mended, same] at mendedStep
  refine .alike mendedStep ?_
  refine (Shared.unaborted_gist _).trans ?_
  simp [Shared.unaborted, Shared.note, sound]

/-- After a panic the essences go on alike where a part or the whole of an operation was done, and
fail where an upload was created, completed or aborted. -/
lemma mends_of_panic {message : String} (inside : 0 < shared.operations.length)
    (makes : (shared.operation 0).Makes errand store call)
    (step : (⟨shared, some (.awaiting 0 errand store call), stores⟩ : Solo Script).next?
      ⟨Script.answer⟩ = some next)
    (panics : (ask ⟨Script.answer⟩ store call stores).1 = .panicked message) :
    Mends ⟨shared, some (.awaiting 0 errand store call), stores⟩ next := by
  obtain rfl := Option.some.inj ((next?_of_awaiting ..).symm.trans step)
  have mendedStep := next?_of_awaiting ⟨Script.answer⟩ shared errand store call
    (mendedStores stores)
  rw [ask_mended] at mendedStep
  rw [panics] at mendedStep ⊢
  have same : shared.shown = { shared.shown with unaborted := shared.unaborted ++ [] } := by
    simp [Shared.shown]
  have kept {upload : Upload} (set : (shared.operation 0).upload = some upload) (answer : Answer) :=
    Shared.upload_gist (shared.note (.answered store 0 call answer)) 0 set
  have shown (other : call.isCompletion = false) (answer : Answer) :=
    shared.shown_answered 0 other store answer
  -- Only where an upload is completed do an error and a panic lead to different calls.
  cases makes with
  | moves moves other =>
      refine .alike (mendedStep.trans (congrArg some ?_)) ?_
      · refine Solo.mk.injEq .. ▸ ⟨?_, (onward_of_panic moves call message).symm, rfl⟩
        rw [shared.gist_answered 0 other, shared.gist_answered 0 other]
      · exact congrArg Shown.unaborted (shown other _)
  | creates set other =>
      exact .apart zero_le_one ((shown other _).trans same) (fails_of_settling rfl)
        (.quiet mendedStep (shown other _) (fails_of_uncreated (kept set _) _))
  | aborts set other =>
      exact .apart zero_le_one ((shown other _).trans same) (fails_of_settling rfl)
        (.quiet mendedStep (shown other _) (fails_of_abortEnded (kept set _) false ""))
  | @completes upload uploadId object parts set phase known remote =>
      have lost : (shared.note (.answered (shared.operation 0).store 0
          (.completeUpload object uploadId parts) (.panicked message))).gist.shown =
            { shared.shown with unaborted := shared.unaborted ++
              [((shared.operation 0).store, .abortUpload object uploadId)] } := by
        rw [Shared.shown_gist]
        simp [Shared.shown, Shared.note, Shared.calls, Shared.unaborted, Event.unaborted?,
          Answer.isPanic]
      refine .apart le_rfl lost (fails_of_settling rfl) (.quiet mendedStep ?_ ?_)
      · rw [Shared.shown_gist]
        exact shared.shown_note rfl
      · exact fails_of_lostCompletion inside set _ phase known remote

end

/-- Every step of an essence goes on in one of these ways. -/
lemma Fit.mends {solo next : Solo Script} (fit : solo.Fit)
    (step : solo.next? ⟨Script.answer⟩ = some next) : Mends solo next := by
  obtain ⟨shared, hand, stores⟩ := solo
  obtain ⟨activity, hands, -⟩ := Option.bind_eq_some_iff.1 step
  obtain rfl : hand = some activity := hands
  have own := fit.own activity rfl
  cases called : activity.call? with
  | none => exact mends_of_uncalled called own step
  | some asked =>
      cases activity <;> try cases called
      next errand store call =>
        obtain rfl := Option.some.inj own
        cases answer : (ask ⟨Script.answer⟩ store call stores).1 with
        | reply reply =>
            refine mends_of_answer step (by rw [answer]; rfl) ?_
            rw [answer]
            exact Event.unaborted?_of_fitted ..
        | failed error =>
            refine mends_of_answer step (by rw [answer]; rfl) ?_
            rw [answer]
            cases call <;> rfl
        | panicked message => exact mends_of_panic fit.inside (fit.backs _ rfl) step answer

/-- Where an essence has an end, so has the one with its panics mended, which counts its operation
alike, leaves the same files and makes the same calls, with the aborts that are missing. -/
lemma Fit.mended_ends {solo last : Solo Script} (goes : solo.Goes ⟨Script.answer⟩ last)
    (ends : last.hand = none) (fit : solo.Fit) :
    ∃ (called : List (StoreName × Call)) (other : Solo Script),
      called.length ≤ 1 ∧ last.shared.unaborted = solo.shared.unaborted ++ called ∧
        solo.mended.Goes ⟨Script.answer⟩ other ∧ other.hand = none ∧
        other.shared.tally = last.shared.tally ∧ other.shared.disk = last.shared.disk ∧
        other.shared.calls = last.shared.calls ++ called := by
  -- From the front: what is left after a step is again the way of an essence to its end.
  induction goes using Relation.ReflTransGen.head_induction_on with
  | refl =>
      refine ⟨[], last.mended, zero_le_one, by simp, .refl, ends, rfl, rfl, ?_⟩
      rw [Solo.mended, List.append_nil]
  | @head solo next step goes ih =>
      cases fit.mends step with
      | alike mendedStep unaborted =>
          obtain ⟨called, other, few, missing, goes, rest⟩ := ih (fit.step step)
          exact ⟨called, other, few, unaborted ▸ missing, .head mendedStep goes, rest⟩
      | @apart called few shown fails mendedFails =>
          obtain ⟨failed, failing, failedEnds, seen⟩ := fails
          obtain ⟨other, mendedGoes, otherEnds, mendedSeen⟩ := mendedFails
          -- An essence has one end only, so it is the failure that the panic leads to.
          obtain rfl := Goes.unique failing goes failedEnds ends
          rw [shown] at seen
          have tally := congrArg Shown.tally seen
          have disk := congrArg Shown.disk seen
          have calls := congrArg Shown.calls seen
          have unaborted := congrArg Shown.unaborted seen
          refine ⟨called, other, few, unaborted, mendedGoes, otherEnds,
            (congrArg Shown.tally mendedSeen).trans tally.symm,
            (congrArg Shown.disk mendedSeen).trans disk.symm,
            (congrArg Shown.calls mendedSeen).trans ?_⟩
          have calls : failed.shared.calls = solo.shared.calls ++ [] := calls
          rw [calls, List.append_nil]
          rfl

/-- Nothing is unaborted before anything has been done. -/
lemma unaborted_begin (plan : Plan) (disk : Disk) (record : Record)
    (stores : List (StoreName × Script)) :
    (Solo.begin plan disk record stores).shared.unaborted = [] := by
  unfold Solo.begin
  dsimp only
  split <;> rw [Shared.unaborted_gist] <;> rfl

lemma mended_begin (plan : Plan) (disk : Disk) (record : Record)
    (stores : List (StoreName × Script)) :
    (Solo.begin plan disk record stores).mended =
      Solo.begin plan disk record (mendedStores stores) := by
  unfold Solo.begin
  dsimp only
  split <;> rfl

end Solo

namespace Run

/-- One record that is carried out by one worker comes to an end, and so it does with an error in
place of every panic. However the actors move, its operation is counted alike and the files are the
same, and where it gets errors it makes the calls that it makes where it gets panics, and after
them the abort of the upload whose completion has panicked, if one has. -/
theorem panics_like_failures {batch : Batch} (valid : batch.plan.Valid)
    (single : batch.config.maxConcurrentRequests = 1) (disk : Disk) (record : Record)
    (stores : List (StoreName × Script)) :
    (∃ ran, batch.EndsIn ⟨Script.answer⟩ disk [record] stores ran) ∧
    (∃ other, batch.EndsIn ⟨Script.answer⟩ disk [record] (mendedStores stores) other) ∧
    ∀ ran other, batch.EndsIn ⟨Script.answer⟩ disk [record] stores ran →
      batch.EndsIn ⟨Script.answer⟩ disk [record] (mendedStores stores) other →
        other.1.shared.tally = ran.1.shared.tally ∧ other.1.shared.disk = ran.1.shared.disk ∧
          other.1.shared.calls = ran.1.shared.calls ++ ran.1.shared.unaborted ∧
          ran.1.shared.unaborted.length ≤ 1 := by
  have workers : 0 < batch.config.maxConcurrentRequests := single ▸ Nat.one_pos
  refine ⟨batch.exists_endsIn _ workers .., batch.exists_endsIn _ workers .., ?_⟩
  rintro ran other ⟨reaches, ended⟩ ⟨reachesOther, endedOther⟩
  obtain ⟨sound, solo, goes, stands⟩ := goes_of_reaches valid single reaches
  obtain ⟨soundOther, soloOther, goesOther, standsOther⟩ :=
    goes_of_reaches valid single reachesOther
  obtain ⟨ends, gist⟩ := stands.of_ended sound ended
  obtain ⟨endsOther, gistOther⟩ := standsOther.of_ended soundOther endedOther
  obtain ⟨called, last, few, missing, mendedGoes, lastEnds, same⟩ :=
    (Solo.Fit.begin ..).mended_ends goes ends
  rw [Solo.unaborted_begin, List.nil_append] at missing
  rw [Solo.mended_begin] at mendedGoes
  obtain rfl := mendedGoes.unique goesOther lastEnds endsOther
  subst missing
  rw [gist, gistOther, Shared.calls_gist, Shared.calls_gist, Shared.unaborted_gist] at same
  rw [gist, Shared.unaborted_gist] at few
  exact ⟨same.1, same.2.1, same.2.2, few⟩

/-- A script by which the first part of a copy panics. -/
def panickedPart : Script where
  lines := [.reply (.created (some "upload")), .panic "lost", .reply .done]

/-- The small batch comes to an end in the state that its schedule leads to. -/
lemma endsIn_carryOut {script : Script} {disk : Disk} {record : Record}
    (ended : (Batch.smallRun script disk record).hasEnded = true) :
    Batch.small.EndsIn ⟨Script.answer⟩ disk [record] [("store", script)]
      (Batch.small.carryOut ⟨Script.answer⟩ admittingAll (Batch.smallWorld script) disk
        [record]) :=
  ⟨reaches_carry .., ended⟩

/-- A copy is aborted after its first part has panicked, and makes the same calls as one whose
first part fails. -/
theorem panickedPart_aborted :
    (Batch.smallRun panickedPart .empty Batch.smallCopy).shared.calls.getLast? =
      some ("store", .abortUpload ⟨"bucket", "target"⟩ "upload") ∧
    (Batch.smallRun panickedPart.mended .empty Batch.smallCopy).shared.calls =
      (Batch.smallRun panickedPart .empty Batch.smallCopy).shared.calls := by
  obtain ⟨-, -, alike⟩ := panics_like_failures Batch.small_valid rfl .empty Batch.smallCopy
    [("store", panickedPart)]
  have same := alike _ _ (endsIn_carryOut (by decide +kernel)) (endsIn_carryOut (by decide +kernel))
  have unaborted : (Batch.smallRun panickedPart .empty Batch.smallCopy).shared.unaborted = [] := by
    decide +kernel
  refine ⟨by decide +kernel, same.2.2.1.trans ?_⟩
  exact (congrArg _ unaborted).trans (List.append_nil _)

/-- A script by which the completion of a copy in two parts panics. -/
def panickedCompletion : Script where
  lines := [.reply (.created (some "upload")), .reply (.copiedPart (some (some "tag"))),
    .reply (.copiedPart (some (some "tag"))), .panic "lost", .reply .done]

/-- A copy whose completion panics is not aborted, and one whose completion fails is. -/
theorem panickedCompletion_unaborted :
    (Batch.smallRun panickedCompletion .empty Batch.smallCopy).hasEnded = true ∧
    (Batch.smallRun panickedCompletion.mended .empty Batch.smallCopy).hasEnded = true ∧
    (Batch.smallRun panickedCompletion.mended .empty Batch.smallCopy).shared.calls =
      (Batch.smallRun panickedCompletion .empty Batch.smallCopy).shared.calls ++
        [("store", .abortUpload ⟨"bucket", "target"⟩ "upload")] := by
  decide +kernel

end Run
end BulkTransfer
