import BulkTransfer.Proofs.Upload.Order

/-!
# How an upload is steered

Beside the hands at its parts, an upload has at most one hand that leads it: from its creation to
the beginning of the parts, and from the end of the parts to its own end. What has happened since
then follows from how far the leading hand is (`Steering`), and a turn of the leading hand goes on
with it (`Steering.turn`).
-/

namespace BulkTransfer

open Pool Multipart

namespace Pool

/-- The failure that a hand is about to report to the state of an upload. -/
def Activity.loss? : Activity → Option String
  | .reporting _ (.creationFailed error) => some error.message
  | .reporting _ (.partLost .upload error _) => some error.message
  | .reporting _ (.completionFailed error) => some error.message
  | _ => none

lemma Activity.loss?_of_isSole (activity : Activity) (sole : activity.isSole = true) :
    activity.loss? = none := by
  cases activity <;> first | rfl | cases sole

/-- Whether an event is about a part of an upload. -/
def Event.isPart (event : Event) : Bool :=
  event.partCalled?.isSome || event.partAnswered?.isSome

lemma Event.isPart_of_isPlain (event : Event) (plain : event.isPlain = true) :
    event.isPart = false := by
  cases event
  case called store id call => cases call <;> first | rfl | cases plain
  case answered store id call answer => cases call <;> first | rfl | cases plain
  all_goals rfl

/-- Whether an upload has not been completed and will not be: this was not tried, or it failed. -/
inductive Uncompleted (id : OperationId) (object : ObjectName) (uploadId : String)
    (parts : List FinishedPart) : List Event → Prop where
  | untried : Uncompleted id object uploadId parts []
  | failed (store : StoreName) (error : Failure) :
      Uncompleted id object uploadId parts
        [.answered store id (.completeUpload object uploadId parts) (.failed error),
          .called store id (.completeUpload object uploadId parts)]

/-- How the phase, the failure and the finished parts of an upload agree with its leading hand and
with what has happened to it since its creation, other than to its parts. -/
inductive Steering (record : Record) (id : OperationId) (object : ObjectName)
    (uploadId : String) :
    Phase → Option String → List FinishedPart → Multiset Activity → List Event → Prop where
  | parts {failure : Option String} {finished : List FinishedPart} :
      Steering record id object uploadId .partsInFlight failure finished 0 []
  | completing {finished : List FinishedPart} {lead : Activity}
      (leads : lead = .following id .complete ∨ lead = .starting id .completeUpload ∨
        ∃ store, lead = .sending id .complete store (.completeUpload object uploadId finished)) :
      Steering record id object uploadId .completing none finished {lead} []
  | completeCalled {finished : List FinishedPart} (store : StoreName) :
      Steering record id object uploadId .completing none finished
        {.awaiting id .complete store (.completeUpload object uploadId finished)}
        [.called store id (.completeUpload object uploadId finished)]
  | completeAnswered {finished : List FinishedPart} (store : StoreName) (reply : Reply) :
      Steering record id object uploadId .completing none finished {.reporting id .completed}
        [.answered store id (.completeUpload object uploadId finished) (.reply reply),
          .called store id (.completeUpload object uploadId finished)]
  | completed {finished : List FinishedPart} {leads : Multiset Activity} {since : List Event}
      (store : StoreName) (reply : Reply) (alone : SoleCourse id leads since) :
      Steering record id object uploadId .completed none finished leads
        (since ++ [.answered store id (.completeUpload object uploadId finished) (.reply reply),
          .called store id (.completeUpload object uploadId finished)])
  | completeCrashed {finished : List FinishedPart} {leads : Multiset Activity}
      {since : List Event} (store : StoreName) (message : String)
      (alone : SoleCourse id leads since) :
      Steering record id object uploadId .completing none finished leads
        (since ++
          [.answered store id (.completeUpload object uploadId finished) (.panicked message),
            .called store id (.completeUpload object uploadId finished)])
  | incomplete {finished : List FinishedPart} {since : List Event} (error : Failure)
      (uncompleted : Uncompleted id object uploadId finished since) :
      Steering record id object uploadId .completing none finished
        {.reporting id (.completionFailed error)} since
  | aborting {finished : List FinishedPart} {reason : String} {lead : Activity}
      {since : List Event} (uncompleted : Uncompleted id object uploadId finished since)
      (leads : lead = .following id .abort ∨ lead = .starting id .abortUpload ∨
        ∃ store, lead = .sending id (.abort reason) store (.abortUpload object uploadId)) :
      Steering record id object uploadId .aborting (some reason) finished {lead} since
  | abortCalled {finished : List FinishedPart} {reason : String} {since : List Event}
      (uncompleted : Uncompleted id object uploadId finished since) (store : StoreName) :
      Steering record id object uploadId .aborting (some reason) finished
        {.awaiting id (.abort reason) store (.abortUpload object uploadId)}
        (.called store id (.abortUpload object uploadId) :: since)
  | abortAnswered {finished : List FinishedPart} {reason : String} {since : List Event}
      {answer : Answer} (uncompleted : Uncompleted id object uploadId finished since)
      (store : StoreName) (calm : ∀ message, answer ≠ .panicked message) (aborted : Bool) :
      Steering record id object uploadId .aborting (some reason) finished
        {.reporting id (.abortEnded aborted reason)}
        (.answered store id (.abortUpload object uploadId) answer ::
          .called store id (.abortUpload object uploadId) :: since)
  | undone {phase : Phase} {finished : List FinishedPart} {reason : String} {since : List Event}
      {answer : Answer} (uncompleted : Uncompleted id object uploadId finished since)
      (store : StoreName) (calm : ∀ message, answer ≠ .panicked message)
      (concluded : phase = .aborted ∨ phase = .abortFailed) :
      Steering record id object uploadId phase (some reason) finished
        {.settling id (.undone reason)}
        (.answered store id (.abortUpload object uploadId) answer ::
          .called store id (.abortUpload object uploadId) :: since)
  | settled {phase : Phase} {finished : List FinishedPart} {reason : String} {since : List Event}
      {answer : Answer} (uncompleted : Uncompleted id object uploadId finished since)
      (store : StoreName) (calm : ∀ message, answer ≠ .panicked message)
      (concluded : phase = .aborted ∨ phase = .abortFailed) :
      Steering record id object uploadId phase (some reason) finished 0
        (.settled id
            (.failure record.kind.name record.describe reason) ::
          .answered store id (.abortUpload object uploadId) answer ::
          .called store id (.abortUpload object uploadId) :: since)
  | abortCrashed {finished : List FinishedPart} {reason : String} {leads : Multiset Activity}
      {since before : List Event} (uncompleted : Uncompleted id object uploadId finished before)
      (store : StoreName) (message : String) (alone : SoleCourse id leads since) :
      Steering record id object uploadId .aborting (some reason) finished leads
        (since ++ .answered store id (.abortUpload object uploadId) (.panicked message) ::
          .called store id (.abortUpload object uploadId) :: before)

/-- What a turn of the leading hand does to an upload whose parts have ended. -/
structure Led (record : Record) (id : OperationId) (object : ObjectName) (uploadId : String)
    (upload : Upload) (activity : Activity) (since : List Event) (next : Upload)
    (notes : List Event) (left : Multiset Activity) : Prop where
  steering : Steering record id object uploadId next.phase next.progress.failure next.parts left
    (notes ++ since)
  same : next = { upload with phase := next.phase, progress := next.progress }
  progress : next.progress = upload.progress ∨
    ∃ reason, next.progress = upload.progress.markFailed reason
  phase : next.phase ≠ .partsInFlight
  failure : next.progress.failure = upload.progress.failure.or activity.loss?
  leads : ∀ hand ∈ left, hand.role? = none
  quiet : ∀ event ∈ notes, event.isPart = false
  calls : (∀ store call, .called store id call ∈ notes → call.isPlain = true) ∨
    (∃ store, notes = [.called store id (.completeUpload object uploadId upload.parts)] ∧
      since = [] ∧ upload.progress.failure = none) ∨
    ∃ store, notes = [.called store id (.abortUpload object uploadId)] ∧
      Uncompleted id object uploadId upload.parts since

/-- A turn of the leading hand leaves the operation with what it does to the upload. -/
def Shared.Steers (shared after : Shared) (record : Record) (id : OperationId)
    (object : ObjectName) (uploadId : String) (upload : Upload) (activity : Activity)
    (since : List Event) (later : Activity) : Prop :=
  ∃ next notes left,
    Led record id object uploadId upload activity since next notes left ∧
      shared.Turned after id later { shared.operation id with upload := some next } notes left

variable {record : Record} {id : OperationId} {object : ObjectName} {uploadId : String}
  {upload next : Upload} {activity : Activity} {since notes : List Event}
  {left : Multiset Activity}

/-- A turn that leaves the state of the upload. -/
lemma Led.of_steering {phase : Phase} {failure : Option String} (phaseEq : upload.phase = phase)
    (failureEq : upload.progress.failure = failure)
    (steering : Steering record id object uploadId phase failure upload.parts left
      (notes ++ since))
    (elsewhere : phase ≠ .partsInFlight) (silent : activity.loss? = none)
    (leads : ∀ hand ∈ left, hand.role? = none)
    (quiet : ∀ event ∈ notes, event.isPart = false)
    (calls : (∀ store call, .called store id call ∈ notes → call.isPlain = true) ∨
      (∃ store, notes = [.called store id (.completeUpload object uploadId upload.parts)] ∧
        since = [] ∧ upload.progress.failure = none) ∨
      ∃ store, notes = [.called store id (.abortUpload object uploadId)] ∧
        Uncompleted id object uploadId upload.parts since) :
    Led record id object uploadId upload activity since upload notes left where
  steering := by rwa [phaseEq, failureEq]
  same := rfl
  progress := .inl rfl
  phase := by rwa [phaseEq]
  failure := by rw [silent, Option.or_none]
  leads := leads
  quiet := quiet
  calls := calls

section

open Shared

variable {shared after : Shared} {surroundings : Surroundings} {later : Activity}
  (inside : id < shared.operations.length) (set : (shared.operation id).upload = some upload)
  (known : upload.uploadId = some uploadId)
  (written : (shared.operation id).objectWritten = .ok object)

include set known written in
lemma startComplete_of_completing (phase : upload.phase = .completing) :
    shared.startComplete id = .sending id .complete (shared.operation id).store
      (.completeUpload object uploadId upload.parts) := by
  have call : (shared.operation id).completeCall uploadId upload.parts =
      .ok (.completeUpload object uploadId upload.parts) := by
    simp [Operation.completeCall, written, bind, Except.bind]
  simp [startComplete, set, Upload.toComplete?, phase, known, call]

include set known written in
lemma startAbort_of_aborting {reason : String} (phase : upload.phase = .aborting)
    (failure : upload.progress.failure = some reason) :
    shared.startAbort id = .sending id (.abort reason) (shared.operation id).store
      (.abortUpload object uploadId) := by
  have call : (shared.operation id).abortCall uploadId = .ok (.abortUpload object uploadId) := by
    simp [Operation.abortCall, written, bind, Except.bind]
  simp [startAbort, set, Upload.toAbort?, phase, known, failure, call]

include inside set in
/-- A turn of a hand that is alone leaves the upload. -/
lemma led_of_sole {before : List Event} {phase : Phase} {failure : Option String}
    (alone : SoleCourse id {activity} since) (phaseEq : upload.phase = phase)
    (failureEq : upload.progress.failure = failure) (ended : phase ≠ .partsInFlight)
    (own : activity.operation? = some id)
    (goesOn : ∀ later leads, SoleCourse id leads later →
      Steering record id object uploadId phase failure upload.parts leads (later ++ before))
    (work : shared.work surroundings activity = some (after, later)) :
    shared.Steers after record id object uploadId upload activity (since ++ before) later := by
  have sole := alone.isSole
  obtain ⟨notes, left, turn, turned⟩ := sole_of_work inside own sole work
  have course := alone.turn turn
  have silent := activity.loss?_of_isSole sole
  refine ⟨upload, notes, left, ?_, set_upload_same set ▸ turned⟩
  refine .of_steering phaseEq failureEq ?_ ended silent ?_ ?_ (.inl ?_)
  · rw [← List.append_assoc]
    exact goesOn _ _ course
  · cases turn with
    | on soleLater plain => exact only_hand (Activity.role?_of_isSole soleLater)
    | concluded settles => exact no_hand
  · intro event present
    cases turn with
    | on soleLater plain => exact event.isPart_of_isPlain (plain event present)
    | concluded settles =>
        rw [List.mem_singleton.1 present]
        rfl
  · intro store call present
    exact turn.isPlain_of_called present

include inside set known written in
/-- A turn of the hand that is about to complete the upload. -/
lemma led_of_completing {lead : Activity} (phase : upload.phase = .completing)
    (sound : upload.progress.failure = none)
    (leads : lead = .following id .complete ∨ lead = .starting id .completeUpload ∨
      ∃ store, lead = .sending id .complete store (.completeUpload object uploadId upload.parts))
    (work : shared.work surroundings lead = some (after, later)) :
    shared.Steers after record id object uploadId upload lead [] later := by
  have same := set_upload_same set
  rcases leads with rfl | rfl | ⟨store, rfl⟩
  · obtain ⟨hand, turned, went⟩ := turned_follow inside .complete surroundings
    rw [Option.some.inj work] at turned
    refine ⟨upload, [], {hand}, ?_, same ▸ turned⟩
    rcases went with rfl | ⟨error, rfl, -⟩
    · exact .of_steering phase sound (.completing (.inr (.inl rfl))) nofun rfl
        (only_hand rfl) (by simp) (.inl (by simp))
    · exact .of_steering phase sound (.incomplete error .untried) nofun rfl (only_hand rfl)
        (by simp) (.inl (by simp))
  · obtain ⟨rfl, rfl⟩ := Prod.mk.inj (Option.some.inj work)
    have sends := startComplete_of_completing set known written phase
    have own : (shared.startComplete id).operation? = some id := by rw [sends]; rfl
    refine ⟨upload, [], {shared.startComplete id}, ?_, same ▸ .stay inside own⟩
    rw [sends]
    exact .of_steering phase sound (.completing (.inr (.inr ⟨_, rfl⟩))) nofun rfl
      (only_hand rfl) (by simp) (.inl (by simp))
  · obtain ⟨rfl, rfl⟩ := Prod.mk.inj (Option.some.inj work)
    refine ⟨upload, _, _, ?_, same ▸ turned_call inside ..⟩
    exact .of_steering phase sound (.completeCalled store) nofun rfl (only_hand rfl)
      (List.forall_mem_singleton.2 rfl) (.inr (.inl ⟨store, rfl, rfl, sound⟩))

include inside set in
/-- The answer to the completion of the upload. -/
lemma led_of_completeCalled {store : StoreName} (phase : upload.phase = .completing)
    (sound : upload.progress.failure = none)
    (work : shared.work surroundings
      (.awaiting id .complete store (.completeUpload object uploadId upload.parts)) =
        some (after, later)) :
    shared.Steers after record id object uploadId upload
      (.awaiting id .complete store (.completeUpload object uploadId upload.parts))
      [.called store id (.completeUpload object uploadId upload.parts)] later := by
  have same := set_upload_same set
  obtain ⟨turned, goes⟩ := turned_receive inside .complete store
    (.completeUpload object uploadId upload.parts) surroundings.answer
  rw [Option.some.inj work] at turned goes
  refine ⟨upload, _, _, ?_, same ▸ turned⟩
  cases answered : seen (.completeUpload object uploadId upload.parts) surroundings.answer with
  | reply reply =>
      rw [answered] at goes
      rw [show later = .reporting id .completed from goes]
      exact .of_steering phase sound (.completeAnswered store reply) nofun rfl (only_hand rfl)
        (List.forall_mem_singleton.2 rfl) (.inl (by simp))
  | failed error =>
      rw [answered] at goes
      rw [show later = .reporting id (.completionFailed error) from goes]
      exact .of_steering phase sound (.incomplete error (.failed store error)) nofun rfl
        (only_hand rfl) (List.forall_mem_singleton.2 rfl) (.inl (by simp))
  | panicked message =>
      rw [answered] at goes
      rw [show later = .settling id (.failed (.panicked message)) from goes]
      have alone : SoleCourse id {.settling id (.failed (.panicked message))} [] :=
        .on rfl (List.forall_mem_nil _)
      exact .of_steering phase sound (.completeCrashed store message alone) nofun rfl
        (only_hand rfl) (List.forall_mem_singleton.2 rfl) (.inl (by simp))

include inside set known written in
/-- A turn of the hand that is about to abort the upload. -/
lemma led_of_aborting {lead : Activity} {reason : String} (phase : upload.phase = .aborting)
    (failed : upload.progress.failure = some reason)
    (uncompleted : Uncompleted id object uploadId upload.parts since)
    (leads : lead = .following id .abort ∨ lead = .starting id .abortUpload ∨
      ∃ store, lead = .sending id (.abort reason) store (.abortUpload object uploadId))
    (work : shared.work surroundings lead = some (after, later)) :
    shared.Steers after record id object uploadId upload lead since later := by
  have same := set_upload_same set
  rcases leads with rfl | rfl | ⟨store, rfl⟩
  · obtain ⟨hand, turned, went⟩ := turned_follow inside .abort surroundings
    rw [Option.some.inj work] at turned
    have starts : hand = .starting id .abortUpload := by
      rcases went with rfl | ⟨error, rfl, -⟩ <;> rfl
    refine ⟨upload, [], {hand}, ?_, same ▸ turned⟩
    rw [starts]
    exact .of_steering phase failed (.aborting uncompleted (.inr (.inl rfl))) nofun rfl
      (only_hand rfl) (by simp) (.inl (by simp))
  · obtain ⟨rfl, rfl⟩ := Prod.mk.inj (Option.some.inj work)
    have sends := startAbort_of_aborting set known written phase failed
    have own : (shared.startAbort id).operation? = some id := by rw [sends]; rfl
    refine ⟨upload, [], {shared.startAbort id}, ?_, same ▸ .stay inside own⟩
    rw [sends]
    exact .of_steering phase failed (.aborting uncompleted (.inr (.inr ⟨_, rfl⟩))) nofun rfl
      (only_hand rfl) (by simp) (.inl (by simp))
  · obtain ⟨rfl, rfl⟩ := Prod.mk.inj (Option.some.inj work)
    refine ⟨upload, _, _, ?_, same ▸ turned_call inside ..⟩
    exact .of_steering phase failed (.abortCalled uncompleted store) nofun rfl (only_hand rfl)
      (List.forall_mem_singleton.2 rfl) (.inr (.inr ⟨store, rfl, uncompleted⟩))

include inside set in
/-- The answer to the abort of the upload. -/
lemma led_of_abortCalled {store : StoreName} {reason : String} (phase : upload.phase = .aborting)
    (failed : upload.progress.failure = some reason)
    (uncompleted : Uncompleted id object uploadId upload.parts since)
    (work : shared.work surroundings
      (.awaiting id (.abort reason) store (.abortUpload object uploadId)) = some (after, later)) :
    shared.Steers after record id object uploadId upload
      (.awaiting id (.abort reason) store (.abortUpload object uploadId))
      (.called store id (.abortUpload object uploadId) :: since) later := by
  have same := set_upload_same set
  obtain ⟨turned, goes⟩ := turned_receive inside (.abort reason) store
    (.abortUpload object uploadId) surroundings.answer
  rw [Option.some.inj work] at turned goes
  refine ⟨upload, _, _, ?_, same ▸ turned⟩
  cases answered : seen (.abortUpload object uploadId) surroundings.answer with
  | reply reply =>
      rw [answered] at goes
      rw [show later = .reporting id (.abortEnded true reason) from goes]
      exact .of_steering phase failed (.abortAnswered uncompleted store (by simp) true) nofun rfl
        (only_hand rfl) (List.forall_mem_singleton.2 rfl) (.inl (by simp))
  | failed error =>
      rw [answered] at goes
      rw [show later = .reporting id (.abortEnded false reason) from goes]
      exact .of_steering phase failed (.abortAnswered uncompleted store (by simp) false) nofun rfl
        (only_hand rfl) (List.forall_mem_singleton.2 rfl) (.inl (by simp))
  | panicked message =>
      rw [answered] at goes
      rw [show later = .settling id (.failed (.panicked message)) from goes]
      have alone : SoleCourse id {.settling id (.failed (.panicked message))} [] :=
        .on rfl (List.forall_mem_nil _)
      exact .of_steering phase failed (.abortCrashed uncompleted store message alone) nofun rfl
        (only_hand rfl) (List.forall_mem_singleton.2 rfl) (.inl (by simp))

include set in
lemma report_of_upload {report : Report} (side : sideOf report = .upload) :
    shared.report id report = shared.reportUpload id upload report := by
  simp [Shared.report, side, set]

include set in
/-- A completion that has succeeded is reported. -/
lemma led_of_completed {store : StoreName} {reply : Reply}
    (sound : upload.progress.failure = none)
    (work : shared.work surroundings (.reporting id .completed) = some (after, later)) :
    shared.Steers after record id object uploadId upload (.reporting id .completed)
      [.answered store id (.completeUpload object uploadId upload.parts) (.reply reply),
        .called store id (.completeUpload object uploadId upload.parts)] later := by
  have reported := Option.some.inj work
  rw [report_of_upload set rfl] at reported
  obtain ⟨rfl, rfl⟩ := Prod.mk.inj reported
  have alone := Activity.isSole_afterTransfer (shared.operation id) id
  have own := Activity.operation?_afterTransfer (shared.operation id) id
  refine ⟨upload.completed, [], _, ?_, .of_changed (.ofUpload _) own⟩
  constructor
  case steering =>
    rw [show upload.completed.progress.failure = none from sound]
    exact .completed store reply (.on alone (List.forall_mem_nil _))
  case same => rfl
  case progress => exact .inl rfl
  case phase =>
    intro same
    cases same
  case failure => exact (Option.or_none).symm
  case leads => exact only_hand (Activity.role?_of_isSole alone)
  case quiet => exact List.forall_mem_nil _
  case calls => exact .inl (by simp)

include set in
/-- A completion that has failed is reported: the upload is to be aborted. -/
lemma led_of_incomplete {error : Failure} (phase : upload.phase = .completing)
    (sound : upload.progress.failure = none)
    (uncompleted : Uncompleted id object uploadId upload.parts since)
    (work : shared.work surroundings (.reporting id (.completionFailed error)) =
      some (after, later)) :
    shared.Steers after record id object uploadId upload
      (.reporting id (.completionFailed error)) since later := by
  have reported := Option.some.inj work
  rw [report_of_upload set rfl] at reported
  simp only [reportUpload, Upload.completionFailed, phase, if_true] at reported
  obtain ⟨rfl, rfl⟩ := Prod.mk.inj reported
  refine ⟨_, [], _, ?_, .of_changed (.ofUpload _) rfl⟩
  constructor
  case steering =>
    simp only [Progress.markFailed, sound, Option.getD_none]
    exact .aborting uncompleted (.inl rfl)
  case same => rfl
  case progress => exact .inr ⟨error.message, rfl⟩
  case phase =>
    intro same
    cases same
  case failure =>
    rw [sound]
    simp [Progress.markFailed, sound, Activity.loss?]
  case leads => exact only_hand rfl
  case quiet => exact List.forall_mem_nil _
  case calls => exact .inl (by simp)

include set in
/-- The end of an abort is reported. -/
lemma led_of_abortAnswered {store : StoreName} {reason : String} {answer : Answer}
    {aborted : Bool} (failed : upload.progress.failure = some reason)
    (uncompleted : Uncompleted id object uploadId upload.parts since)
    (calm : ∀ message, answer ≠ .panicked message)
    (work : shared.work surroundings (.reporting id (.abortEnded aborted reason)) =
      some (after, later)) :
    shared.Steers after record id object uploadId upload
      (.reporting id (.abortEnded aborted reason))
      (.answered store id (.abortUpload object uploadId) answer ::
        .called store id (.abortUpload object uploadId) :: since) later := by
  have reported := Option.some.inj work
  rw [report_of_upload set rfl] at reported
  obtain ⟨rfl, rfl⟩ := Prod.mk.inj reported
  have concluded : (upload.abortEnded aborted).phase = .aborted ∨
      (upload.abortEnded aborted).phase = .abortFailed := by
    cases aborted
    · exact .inr rfl
    · exact .inl rfl
  refine ⟨upload.abortEnded aborted, [], _, ?_, .of_changed (.ofUpload _) rfl⟩
  constructor
  case steering =>
    rw [show (upload.abortEnded aborted).progress.failure = some reason from failed]
    exact .undone uncompleted store calm concluded
  case same => rfl
  case progress => exact .inl rfl
  case phase => rcases concluded with h | h <;> rw [h] <;> exact nofun
  case failure => exact (Option.or_none).symm
  case leads => exact only_hand rfl
  case quiet => exact List.forall_mem_nil _
  case calls => exact .inl (by simp)

include inside set in
/-- An upload that was aborted is settled with the reason. -/
lemma led_of_undone {store : StoreName} {reason : String} {answer : Answer}
    (described : (shared.operation id).record = record)
    (failed : upload.progress.failure = some reason)
    (uncompleted : Uncompleted id object uploadId upload.parts since)
    (calm : ∀ message, answer ≠ .panicked message)
    (concluded : upload.phase = .aborted ∨ upload.phase = .abortFailed)
    (work : shared.work surroundings (.settling id (.undone reason)) = some (after, later)) :
    shared.Steers after record id object uploadId upload (.settling id (.undone reason))
      (.answered store id (.abortUpload object uploadId) answer ::
        .called store id (.abortUpload object uploadId) :: since) later := by
  obtain ⟨rfl, rfl⟩ := Prod.mk.inj (Option.some.inj work)
  have elsewhere : upload.phase ≠ .partsInFlight := by
    rcases concluded with h | h <;> rw [h] <;> exact nofun
  have turned :
      shared.Turned (shared.settle id (.undone reason)) id .idle (shared.operation id) _ 0 :=
    .of_changed_idle (.ofSettle inside (.undone reason))
  refine ⟨upload, _, 0, ?_, set_upload_same set ▸ turned⟩
  refine .of_steering rfl failed ?_ elsewhere rfl no_hand (List.forall_mem_singleton.2 rfl)
    (.inl (by simp))
  rw [← described]
  exact .settled uncompleted store calm concluded

include inside set known written in
/-- A turn of the leading hand goes on steering the upload. -/
theorem Steering.turn
    (steering : Steering record id object uploadId upload.phase upload.progress.failure upload.parts
      {activity} since)
    (described : (shared.operation id).record = record) (own : activity.operation? = some id)
    (work : shared.work surroundings activity = some (after, later)) :
    shared.Steers after record id object uploadId upload activity since later := by
  generalize phase : upload.phase = phase', failure : upload.progress.failure = failure',
    finished : upload.parts = finished', hands : ({activity} : Multiset Activity) = hands'
    at steering
  cases steering with
  | parts => exact absurd hands (Multiset.singleton_ne_zero activity)
  | settled => exact absurd hands (Multiset.singleton_ne_zero activity)
  | completing leads =>
      obtain rfl := Multiset.singleton_inj.1 hands
      exact led_of_completing inside set known written phase failure (finished ▸ leads) work
  | completeCalled store =>
      obtain rfl := Multiset.singleton_inj.1 hands
      subst finished
      exact led_of_completeCalled inside set phase failure work
  | completeAnswered store reply =>
      obtain rfl := Multiset.singleton_inj.1 hands
      subst finished
      exact led_of_completed set failure work
  | completed store reply alone =>
      subst hands finished
      exact led_of_sole inside set alone phase failure nofun own
        (fun _ _ alone => .completed store reply alone) work
  | completeCrashed store message alone =>
      subst hands finished
      exact led_of_sole inside set alone phase failure nofun own
        (fun _ _ alone => .completeCrashed store message alone) work
  | incomplete error uncompleted =>
      obtain rfl := Multiset.singleton_inj.1 hands
      exact led_of_incomplete set phase failure (finished ▸ uncompleted) work
  | aborting uncompleted leads =>
      obtain rfl := Multiset.singleton_inj.1 hands
      exact led_of_aborting inside set known written phase failure (finished ▸ uncompleted) leads
        work
  | abortCalled uncompleted store =>
      obtain rfl := Multiset.singleton_inj.1 hands
      exact led_of_abortCalled inside set phase failure (finished ▸ uncompleted) work
  | abortAnswered uncompleted store calm aborted =>
      obtain rfl := Multiset.singleton_inj.1 hands
      exact led_of_abortAnswered set failure (finished ▸ uncompleted) calm work
  | undone uncompleted store calm concluded =>
      obtain rfl := Multiset.singleton_inj.1 hands
      exact led_of_undone inside set described failure (finished ▸ uncompleted) calm
        (phase ▸ concluded) work
  | abortCrashed uncompleted store message alone =>
      subst hands finished
      exact led_of_sole inside set alone phase failure nofun own
        (fun _ _ alone => .abortCrashed uncompleted store message alone) work

end

end Pool
end BulkTransfer
