import BulkTransfer.Proofs.Upload.CallOrder
import Mathlib.Data.List.Induction

/-!
# The end of an upload

At the end of a run no multipart upload is left open. One that the store has created was completed
once and not aborted, or it was aborted once and its operation has failed for the reason that was
reported first; for one that the store has not created no other call was made.
-/

namespace BulkTransfer

open Pool Multipart

namespace Pool

/-- Whether an event is the success of the completion of an upload. -/
def Event.completes (uploadId : String) : Event → Bool
  | .answered _ _ (.completeUpload _ completed _) (.reply _) => completed = uploadId
  | _ => false

/-- Whether an event is the call of the abort of an upload. -/
def Event.aborts (uploadId : String) : Event → Bool
  | .called _ _ (.abortUpload _ aborted) => aborted = uploadId
  | _ => false

/-- How an upload is not left open: it was completed once and not aborted, or it was aborted once
and not completed, and its operation ended once, with a failure for the given reason. -/
def Closed (record : Record) (id : OperationId) (uploadId : String) (failure : Option String)
    (history : List Event) : Prop :=
  (history.countP (·.completes uploadId) = 1 ∧ ¬Aborted id history) ∨
    ∃ reason, failure = some reason ∧ history.countP (·.aborts uploadId) = 1 ∧
      ¬Completed id history ∧ history.filter Event.isSettled =
        [.settled id (.failure record.kind.name record.describe reason)]

/-- Whether no call that ends an upload has panicked. -/
def Calm (history : List Event) : Prop :=
  ∀ store id call message, .answered store id call (.panicked message) ∈ history →
    call.isEnd = false

lemma SoleCourse.countP_ends {id : OperationId} {hands : Multiset Activity}
    {since : List Event} (course : SoleCourse id hands since) (uploadId : String) :
    since.countP (·.completes uploadId) = 0 ∧ since.countP (·.aborts uploadId) = 0 := by
  constructor
  · refine List.countP_eq_zero.2 fun event present completes => ?_
    rcases course.isPlain_or_settled present with plain | ⟨message, rfl⟩
    · cases event
      case answered store own call answer => cases call <;> first | cases completes | cases plain
      all_goals cases completes
    · cases completes
  · refine List.countP_eq_zero.2 fun event present aborts => ?_
    rcases course.isPlain_or_settled present with plain | ⟨message, rfl⟩
    · cases event
      case called store own call => cases call <;> first | cases aborts | cases plain
      all_goals cases aborts
    · cases aborts

/-- An upload that nobody leads any more is closed, unless the call of its end has panicked. -/
lemma Steering.closed {record : Record} {id : OperationId} {object : ObjectName}
    {uploadId : String} {phase : Phase} {failure : Option String} {finished : List FinishedPart}
    {leads : Multiset Activity} {since : List Event}
    (steering : Steering record id object uploadId phase failure finished leads since)
    (unled : leads = 0) (concluded : phase ≠ .partsInFlight) (calm : Calm since) :
    Closed record id uploadId failure since := by
  cases steering with
  | parts => exact absurd rfl concluded
  | completing | completeCalled | completeAnswered | incomplete | aborting | abortCalled
  | abortAnswered | undone => exact absurd unled (Multiset.singleton_ne_zero _)
  | completed store reply alone =>
      refine .inl ⟨?_, fun aborted => ?_⟩
      · rw [List.countP_append, (alone.countP_ends uploadId).1]
        simp [Event.completes]
      · rcases aborted_append.1 aborted with late | early
        · exact alone.not_ended.2 late
        · simp [Aborted] at early
  | completeCrashed store message alone =>
      have panicked := calm store id _ message (List.mem_append_right _ List.mem_cons_self)
      cases panicked
  | abortCrashed uncompleted store message alone =>
      have panicked := calm store id _ message (List.mem_append_right _ List.mem_cons_self)
      cases panicked
  | settled uncompleted store calm concluded =>
      refine .inr ⟨_, rfl, ?_, ?_, ?_⟩
      · cases uncompleted <;> simp [Event.aborts]
      · cases uncompleted <;> simp [Completed]
      · cases uncompleted <;> rfl

/-- The operation of an upload that nobody leads any more has ended once. -/
lemma Steering.settledOnce {record : Record} {id : OperationId} {object : ObjectName}
    {uploadId : String} {phase : Phase} {failure : Option String} {finished : List FinishedPart}
    {leads : Multiset Activity} {since : List Event}
    (steering : Steering record id object uploadId phase failure finished leads since)
    (unled : leads = 0) (concluded : phase ≠ .partsInFlight) : SettledOnce id since := by
  have before {notes earlier : List Event} (alone : SettledOnce id notes)
      (silent : earlier.filter Event.isSettled = []) : SettledOnce id (notes ++ earlier) := by
    obtain ⟨message, once⟩ := alone
    exact ⟨message, by rw [List.filter_append, once, silent, List.append_nil]⟩
  cases steering with
  | parts => exact absurd rfl concluded
  | completing | completeCalled | completeAnswered | incomplete | aborting | abortCalled
  | abortAnswered | undone => exact absurd unled (Multiset.singleton_ne_zero _)
  | completed store reply alone | completeCrashed store message alone =>
      exact before (alone.settledOnce unled) rfl
  | abortCrashed uncompleted store message alone =>
      refine before (alone.settledOnce unled) ?_
      cases uncompleted <;> rfl
  | settled uncompleted store calm concluded => cases uncompleted <;> exact ⟨_, rfl⟩

namespace Going

variable {parts : Nat} {record : Record} {id : OperationId} {object : ObjectName}
  {uploadId : String} {upload : Upload} {hands : Multiset Activity} {history since : List Event}

/-- What is neither about a part nor the creation has happened since the creation. -/
lemma filter_since (going : Going parts record id object uploadId upload hands history since)
    {kind : Event → Bool} (apart : ∀ event, kind event = true → event.isPart = false)
    (silent : ∀ store attributes answer,
      kind (.called store id (.createUpload object attributes)) = false ∧
        kind (.answered store id (.createUpload object attributes) answer) = false) :
    history.filter kind = since.filter kind := by
  obtain ⟨store, attributes, answer, -, steered⟩ := going.steered
  obtain ⟨uncalled, unanswered⟩ := silent store attributes answer
  have kept : history.filter kind = (history.filter (!·.isPart)).filter kind := by
    rw [List.filter_filter]
    refine List.filter_congr fun event _ => ?_
    cases has : kind event with
    | false => rfl
    | true => rw [apart event has]; rfl
  rw [kept, steered, List.filter_append]
  simp [uncalled, unanswered]

lemma countP_since (going : Going parts record id object uploadId upload hands history since)
    {kind : Event → Bool} (apart : ∀ event, kind event = true → event.isPart = false)
    (silent : ∀ store attributes answer,
      kind (.called store id (.createUpload object attributes)) = false ∧
        kind (.answered store id (.createUpload object attributes) answer) = false) :
    history.countP kind = since.countP kind := by
  rw [List.countP_eq_length_filter, going.filter_since apart silent,
    ← List.countP_eq_length_filter]

/-- The end of the parts has been claimed when nobody is at work on the upload any more. -/
lemma concluded (going : Going parts record id object uploadId upload hands history since)
    (gone : hands = 0) : upload.phase ≠ .partsInFlight := by
  refine going.gate.1 ?_
  cases claimed : upload.progress.endClaimed with
  | true => rfl
  | false => exact absurd gone (going.accounts.ne_zero claimed)

lemma settledOnce (going : Going parts record id object uploadId upload hands history since)
    (gone : hands = 0) : SettledOnce id history := by
  obtain ⟨message, once⟩ :=
    going.steering.settledOnce (by rw [gone]; rfl) (going.concluded gone)
  refine ⟨message, (going.filter_since ?_ fun _ _ _ => ⟨rfl, rfl⟩).trans once⟩
  intro event settled
  cases event <;> first | rfl | cases settled

/-- An upload on which nobody is at work any more is closed, unless the call of its end has
panicked. -/
lemma closed (going : Going parts record id object uploadId upload hands history since)
    (gone : hands = 0) (calm : Calm history) :
    Closed record id uploadId upload.progress.failure history := by
  have since_calm : Calm since := fun store own call message present =>
    calm store own call message (going.mem_history present)
  have closed := going.steering.closed (by rw [gone]; rfl) (going.concluded gone) since_calm
  have completions :
      history.countP (·.completes uploadId) = since.countP (·.completes uploadId) := by
    refine going.countP_since (fun event completes => ?_) fun _ _ _ => ⟨rfl, rfl⟩
    cases event
    case answered store own call answer => cases call <;> first | rfl | cases completes
    all_goals cases completes
  have aborts : history.countP (·.aborts uploadId) = since.countP (·.aborts uploadId) := by
    refine going.countP_since (fun event aborts => ?_) fun _ _ _ => ⟨rfl, rfl⟩
    cases event
    case called store own call => cases call <;> first | rfl | cases aborts
    all_goals cases aborts
  have settled : history.filter Event.isSettled = since.filter Event.isSettled := by
    refine going.filter_since (fun event settled => ?_) fun _ _ _ => ⟨rfl, rfl⟩
    cases event <;> first | rfl | cases settled
  unfold Closed
  rw [completions, aborts, settled]
  exact closed.imp
    (fun completed => ⟨completed.1, fun aborted => completed.2 (going.ended_since.2 aborted)⟩)
    (fun ⟨reason, failed, once, uncompleted, ended⟩ =>
      ⟨reason, failed, once, fun completed => uncompleted (going.ended_since.1 completed), ended⟩)

end Going

/-- What has happened since the creation of an upload is no creation. -/
lemma Steering.not_created {record : Record} {id : OperationId} {object : ObjectName}
    {uploadId : String} {phase : Phase} {failure : Option String} {finished : List FinishedPart}
    {leads : Multiset Activity} {since : List Event}
    (steering : Steering record id object uploadId phase failure finished leads since)
    (store : StoreName) (made : ObjectName) (attributes : ObjectAttributes) (answer : Answer) :
    .answered store id (.createUpload made attributes) answer ∉ since := by
  have alone {hands : Multiset Activity} {notes : List Event} (course : SoleCourse id hands notes) :
      .answered store id (.createUpload made attributes) answer ∉ notes := by
    intro present
    rcases course.isPlain_or_settled present with plain | ⟨message, settled⟩
    · cases plain
    · cases settled
  have before {notes : List Event} (uncompleted : Uncompleted id object uploadId finished notes) :
      .answered store id (.createUpload made attributes) answer ∉ notes := by
    cases uncompleted <;> simp
  cases steering with
  | parts | completing | completeCalled | completeAnswered => simp
  | completed _ _ course | completeCrashed _ _ course => simp [alone course]
  | incomplete _ uncompleted | aborting uncompleted => exact before uncompleted
  | abortCalled uncompleted | abortAnswered uncompleted | undone uncompleted
  | settled uncompleted => simp [before uncompleted]
  | abortCrashed uncompleted _ _ course => simp [alone course, before uncompleted]

/-- The store gives an upload one identifier. -/
lemma Going.uploadId_of_created {parts : Nat} {record : Record} {id : OperationId}
    {object : ObjectName} {uploadId other : String} {upload : Upload} {hands : Multiset Activity}
    {history since : List Event}
    (going : Going parts record id object uploadId upload hands history since)
    (created : Created id other history) : other = uploadId := by
  obtain ⟨store, made, attributes, -, answer, answered, given⟩ := created
  obtain ⟨at_, asked, reply, is, steered⟩ := going.steered
  have kept : .answered store id (.createUpload made attributes) answer ∈
      history.filter (!·.isPart) := List.mem_filter.2 ⟨answered, rfl⟩
  rw [steered] at kept
  rcases List.mem_append.1 kept with late | creation
  · exact absurd late (going.steering.not_created store made attributes answer)
  · simp at creation
    rw [creation.2.2, is] at given
    exact (Option.some.inj given).symm

/-- For an upload that is never created, no call is made but the one that was to create it. -/
lemma not_created_of_nameless {id : OperationId} {object : ObjectName}
    {hands : Multiset Activity} {since earlier : List Event} (alone : SoleCourse id hands since)
    (nameless : Nameless id object earlier) :
    (∀ uploadId, ¬Created id uploadId (since ++ earlier)) ∧
      ∀ store call, .called store id call ∈ since ++ earlier → call.uploadId? = none := by
  constructor
  · rintro uploadId ⟨store, made, attributes, -, answer, answered, given⟩
    rcases List.mem_append.1 answered with late | early
    · rcases alone.isPlain_or_settled late with plain | ⟨message, settled⟩
      · cases plain
      · cases settled
    · cases nameless with
      | untried => cases early
      | failed _ _ lacks =>
          simp at early
          rw [early.2.2, lacks] at given
          cases given
  · intro store call called
    rcases List.mem_append.1 called with late | early
    · rcases alone.isPlain_or_settled late with plain | ⟨message, settled⟩
      · cases call <;> first | rfl | cases plain
      · cases settled
    · cases nameless with
      | untried => cases early
      | failed _ _ lacks =>
          simp at early
          rw [early.2]
          rfl

/-- An answer is seen as a panic only if it is one. -/
lemma panicked_of_seen {call : Call} {answer : Answer} {message : String}
    (panicked : Shared.seen call answer = .panicked message) : answer = .panicked message := by
  cases answer with
  | reply reply =>
      simp only [Shared.seen, Reply.fitted] at panicked
      split at panicked <;> cases panicked
  | failed error => cases panicked
  | panicked message => exact panicked

/-- An operation begins without a failure. -/
lemma Begins.uploadFailure? {plan : Plan} {record : Record} {id : OperationId} {view : View}
    (begins : Begins plan record id view) : view.operation.uploadFailure? = none := by
  cases begins with
  | proposed operation chore resolved begun =>
      rw [begun]
      cases planned_of_resolve resolved <;> rfl
  | refused error tally resolved begun =>
      rw [begun]
      rfl

end Pool

namespace Run

/-- The failures reported to the state of the upload of an operation in a run, first to last. -/
def losses (run : Run) (id : OperationId) : List Move → List String
  | [] => []
  | move :: moves =>
      (run.reportedLoss? id move).toList ++
        ((run.step move).map fun next => next.losses id moves).getD []

lemma losses_concat {run mid : Run} {moves : List Move} (reached : run.steps moves = some mid)
    (id : OperationId) (move : Move) :
    run.losses id (moves ++ [move]) =
      run.losses id moves ++ (mid.reportedLoss? id move).toList := by
  induction moves generalizing run with
  | nil =>
      obtain rfl := Option.some.inj reached
      simp only [List.nil_append, losses]
      cases run.step move <;> simp
  | cons first moves ih =>
      obtain ⟨next, step, rest⟩ := Option.bind_eq_some_iff.1 reached
      simp only [List.cons_append, losses, step, Option.map_some, Option.getD_some]
      rw [ih rest, List.append_assoc]

variable {batch : Batch} {disk : Disk} {records : List Record} {moves : List Move} {run : Run}
  {id : OperationId} {record : Record} {operation : Operation} {chore : Chore}
  {upload : Multipart.Upload}

lemma uploadFailure?_of_absent (absent : run.shared.operations.length ≤ id) :
    (run.shared.operation id).uploadFailure? = none := by
  rw [Shared.operation, List.getD_eq_getElem?_getD, List.getElem?_eq_none absent]
  rfl

lemma reportedLoss?_of_absent (sound : run.Sound records)
    (absent : run.shared.operations.length ≤ id) (move : Move) :
    run.reportedLoss? id move = none :=
  reportedLoss?_of_other (sound.operationOf?_of_absent absent move.actor)

/-- The failure that the upload of an operation has recorded is the first one reported. -/
lemma uploadFailure?_of_steps (valid : batch.plan.Valid) (listed : records[id]? = some record)
    (planned : batch.plan.resolve record = .ok (operation, chore))
    (split : operation.upload = some upload)
    (reached : (batch.start disk records).steps moves = some run) :
    (run.shared.operation id).uploadFailure? =
      ((batch.start disk records).losses id moves).head? := by
  induction moves using List.reverseRecOn generalizing run with
  | nil =>
      obtain rfl := Option.some.inj reached
      rfl
  | append_singleton moves move ih =>
      rw [steps_concat] at reached
      obtain ⟨mid, before, step⟩ := Option.bind_eq_some_iff.1 reached
      obtain ⟨sound, -, -⟩ := sound_of_steps before
      rw [losses_concat before, List.head?_append, ← ih before, Option.head?_toList]
      by_cases inside : id < mid.shared.operations.length
      · obtain ⟨object, remote, several, course⟩ :=
          upload_course valid listed planned split before inside
        exact (course.step inside several remote (seen_of_step sound step inside)).2
      · have absent := not_lt.1 inside
        rw [uploadFailure?_of_absent absent, reportedLoss?_of_absent sound absent]
        rcases length_of_step sound step with same | ⟨longer, other, -, begins⟩
        · exact uploadFailure?_of_absent (same ▸ absent)
        · rcases Nat.eq_or_lt_of_le absent with rfl | beyond
          · exact begins.uploadFailure?
          · exact uploadFailure?_of_absent (longer ▸ beyond)

/-- At the end of a run no multipart upload is left open. One that the store has created is closed,
and if it was aborted, its operation has failed for the reason that was reported first. One that
the store has not created has had no call. -/
theorem upload_closed_at_end (valid : batch.plan.Valid) (listed : records[id]? = some record)
    (planned : batch.plan.resolve record = .ok (operation, chore))
    (split : operation.upload = some upload)
    (reached : (batch.start disk records).steps moves = some run) (ended : run.hasEnded = true)
    (calm : (batch.start disk records).Throughout (fun state move => ∀ store call,
      state.awaits? move.actor = some (store, call) → call.isEnd = true →
        ∀ message, move.surroundings.answer ≠ .panicked message) moves) :
    (∀ uploadId, Created id uploadId (run.shared.history id) →
      Closed record id uploadId ((batch.start disk records).losses id moves).head?
        (run.shared.history id)) ∧
    ((∀ uploadId, ¬Created id uploadId (run.shared.history id)) →
      ∀ store call, .called store id call ∈ run.shared.history id → call.uploadId? = none) := by
  obtain ⟨all, idle⟩ := at_end valid reached ended
  obtain ⟨noHands, notProposed⟩ := idle id
  obtain ⟨object, -, -, course⟩ :=
    upload_course valid listed planned split reached (inside_at_end all listed)
  rw [← uploadFailure?_of_steps valid listed planned split reached]
  have quiet : Calm (run.shared.history id) := by
    intro store own call message present
    refine Bool.eq_false_iff.2 fun ends => ?_
    let calmly (call : Call) (answer : Answer) : Prop :=
      call.isEnd = true → ∀ message, answer ≠ .panicked message
    have given : (batch.start disk records).Throughout (fun state move => ∀ store call,
        state.awaits? move.actor = some (store, call) →
          calmly call (Shared.seen call move.surroundings.answer)) moves := by
      intro before move after split state before_ store call awaits ends message panicked
      exact calm before move after split state before_ store call awaits ends message
        (panicked_of_seen panicked)
    exact answered_of_steps rfl reached given (List.mem_filter.1 present).1 ends message rfl
  cases course.stage with
  | opening set opening =>
      rw [view, noHands, notProposed] at opening
      generalize hands : (0 : Multiset Activity) = hands' at opening
      generalize proposed : (none : Option Chore) = proposed' at opening
      generalize run.shared.history id = history at opening
      cases opening with
      | proposed => cases proposed
      | _ => exact absurd hands.symm (Multiset.singleton_ne_zero _)
  | uncreated set total admitted alone nameless history =>
      obtain ⟨uncreated, uncalled⟩ := not_created_of_nameless alone nameless
      rw [show run.shared.history id = _ from history]
      exact ⟨fun uploadId created => absurd created (uncreated uploadId), fun _ => uncalled⟩
  | going set admitted going =>
      refine ⟨fun uploadId created => ?_, fun uncreated => absurd going.created (uncreated _)⟩
      obtain rfl := going.uploadId_of_created created
      rw [Operation.uploadFailure?, show (run.shared.operation id).upload = _ from set]
      exact going.closed noHands quiet

/-- A script by which the second part of a copy fails. -/
def lossyScript : Script where
  lines := [.reply (.created (some "upload")), .reply (.copiedPart (some (some "tag"))),
    .error "gone", .reply .done]

/-- A copy in two parts of which the second fails is not left open. -/
theorem smallCopy_closed_at_end :
    Closed Batch.smallCopy 0 "upload"
      ((Batch.small.start .empty [Batch.smallCopy]).losses 0
        (Batch.smallMoves lossyScript .empty Batch.smallCopy)).head?
      ((Batch.smallRun lossyScript .empty Batch.smallCopy).shared.history 0) := by
  have ended : (Batch.smallRun lossyScript .empty Batch.smallCopy).hasEnded = true := by
    decide +kernel
  have checked : (Batch.small.start .empty [Batch.smallCopy]).checks
      (fun _ move => match move.surroundings.answer with
        | .panicked _ => false
        | _ => true) (Batch.smallMoves lossyScript .empty Batch.smallCopy) = true := by
    decide +kernel
  have created : Created 0 "upload"
      ((Batch.smallRun lossyScript .empty Batch.smallCopy).shared.history 0) := by
    refine ⟨"store", ⟨"bucket", "target"⟩, ⟨none, none, none⟩, ?_,
      .reply (.created (some "upload")), ?_, rfl⟩
    · decide +kernel
    · decide +kernel
  refine (upload_closed_at_end Batch.small_valid rfl Batch.smallCopy_planned rfl
    (Batch.steps_smallMoves ..) ended ?_).1 "upload" created
  intro before move after split state reached store call awaits ends message panicked
  have calm := throughout_of_checks checked before move after split state reached
  simp only [panicked, Bool.false_eq_true] at calm

end Run
end BulkTransfer
