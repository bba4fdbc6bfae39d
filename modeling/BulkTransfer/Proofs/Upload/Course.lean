import BulkTransfer.Proofs.Upload.UnderWay

/-!
# The course of an upload

An upload is created, then its parts are under way until they are closed, and then it is led to its
end; or it is never created, and ends with that. Every step of a run goes on with the course
(`UploadCourse.step`).
-/

namespace BulkTransfer

open Pool Multipart

namespace Pool

namespace Activity

lemma role?_of_isUploading {id : OperationId} {uploadId : String} {hand : Activity}
    (uploading : hand.isUploading id uploadId) : hand.role? ≠ none := by
  cases hand
  case starting chore =>
    cases chore <;> first | exact False.elim uploading | exact Option.some_ne_none _
  case sending errand _ _ =>
    cases errand <;> first | exact False.elim uploading | exact Option.some_ne_none _
  case awaiting errand _ _ =>
    cases errand <;> first | exact False.elim uploading | exact Option.some_ne_none _
  case reporting report =>
    cases report <;> first | exact False.elim uploading | exact Option.some_ne_none _
  all_goals first | exact False.elim uploading | exact Option.some_ne_none _

/-- A leading hand has nothing to do with any single part. -/
lemma stands_of_role? {hand : Activity} (lead : hand.role? = none) :
    hand.uncalled? = none ∧ hand.awaited? = none ∧ hand.told? = none := by
  cases hand
  case starting chore => cases chore <;> first | exact ⟨rfl, rfl, rfl⟩ | cases lead
  case sending errand _ _ => cases errand <;> first | exact ⟨rfl, rfl, rfl⟩ | cases lead
  case awaiting errand _ _ => cases errand <;> first | exact ⟨rfl, rfl, rfl⟩ | cases lead
  case reporting report => cases report <;> first | exact ⟨rfl, rfl, rfl⟩ | cases lead
  all_goals first | exact ⟨rfl, rfl, rfl⟩ | cases lead

end Activity

lemma parts_of_quiet {notes : List Event} (quiet : ∀ event ∈ notes, event.isPart = false) :
    partsCalled notes = [] ∧ partsAnswered notes = [] := by
  have none (event : Event) (present : event ∈ notes) :
      event.partCalled? = none ∧ event.partAnswered? = none := by
    simpa [Event.isPart] using quiet event present
  exact ⟨List.filterMap_eq_nil_iff.2 fun event present => (none event present).1,
    List.filterMap_eq_nil_iff.2 fun event present => (none event present).2⟩

/-- Events that are not about a part keep the log of the parts. -/
lemma PartLog.quiet {upload : Upload} {hands : Multiset Activity} {history notes : List Event}
    (log : PartLog upload hands history) (quiet : ∀ event ∈ notes, event.isPart = false) :
    PartLog upload hands (notes ++ history) := by
  obtain ⟨called, answered⟩ := parts_of_quiet quiet
  constructor
  case issued =>
    rw [partsCalled_append, called]
    exact log.issued
  case answered =>
    rw [partsCalled_append, called, partsAnswered_append, answered]
    exact log.answered
  case tagged =>
    rw [partsAnswered_append, answered]
    exact log.tagged
  case sorted => exact log.sorted
  case count => exact log.count

/-- Hands that lead an upload to its end may take the place of another that does. -/
lemma PartLog.lead {upload : Upload} {activity : Activity} {left rest : Multiset Activity}
    {history : List Event} (log : PartLog upload (activity ::ₘ rest) history)
    (lead : activity.role? = none) (newLeads : ∀ hand ∈ left, hand.role? = none) :
    PartLog upload (left + rest) history := by
  obtain ⟨noneUncalled, noneAwaited, noneTold⟩ := Activity.stands_of_role? lead
  have stands {α : Type} (of : Activity → Option α) (none : of activity = none)
      (leadNone : ∀ hand ∈ left, of hand = Option.none) :
      gather of (left + rest) = gather of (activity ::ₘ rest) := by
    rw [gather_add, gather_eq_zero leadNone, gather_cons, none]
    rfl
  refine log.pass (le_of_eq ?_) ?_ ?_
  · exact stands _ noneUncalled fun hand new => (Activity.stands_of_role? (newLeads hand new)).1
  · exact stands _ noneAwaited fun hand new => (Activity.stands_of_role? (newLeads hand new)).2.1
  · exact stands _ noneTold fun hand new => (Activity.stands_of_role? (newLeads hand new)).2.2

namespace Going

variable {parts : Nat} {record : Record} {id : OperationId} {object : ObjectName}
  {uploadId : String} {upload next : Upload} {activity : Activity}
  {rest left : Multiset Activity} {history since notes : List Event}

/-- The parts of an upload are under way once it has its identifier. -/
lemma begin {chunksize : Nat} {store : StoreName} {attributes : ObjectAttributes}
    {answer : Answer} (several : 0 < parts) (given : answer.uploadId? = some uploadId) :
    Going parts record id object uploadId
      (Upload.created { Upload.ofParts parts chunksize with phase := .creating } uploadId)
      {.feeding id .upload}
      [.answered store id (.createUpload object attributes) answer,
        .called store id (.createUpload object attributes)] [] := by
  constructor
  case known => rfl
  case total => rfl
  case uploading => exact only_hand fun _ => ⟨rfl, rfl⟩
  case accounts =>
    have begun : Ledger (Upload.ofParts parts chunksize).progress 1 0 0 0 :=
      .begin rfl rfl rfl rfl rfl rfl rfl several
    simp only [Accounts, playing_singleton, Activity.role?_feeding]
    exact begun
  case log =>
    refine ⟨⟨?_, ?_⟩, ?_, ?_, ?_, rfl⟩
    all_goals simp [Upload.created, Upload.ofParts, Activity.uncalled?, Activity.awaited?,
      Activity.told?, Event.partCalled?, Event.partAnswered?, Call.partNumber?]
  case gate =>
    refine ⟨fun claimed => ?_, fun elsewhere => absurd rfl elsewhere⟩
    cases claimed
  case steering => exact .parts
  case steered =>
    refine ⟨store, attributes, answer, given, ?_⟩
    simp [Event.isPart, Event.partCalled?, Event.partAnswered?, Call.partNumber?]

/-- A turn at the parts of an upload under way. -/
lemma turn_part {operation : Operation}
    (going : Going parts record id object uploadId upload (activity ::ₘ rest) history since)
    (uploading : activity.isUploading id uploadId)
    (turn : UploadTurn operation id uploadId upload activity next notes left) :
    ∃ later, Going parts record id object uploadId next (left + rest) (notes ++ history) later := by
  obtain ⟨known, total, others, accounts, log, gate, steering, steered⟩ := going
  obtain ⟨sameId, sameTotal, -⟩ := turn.same
  have plays := Activity.role?_of_isUploading uploading
  have leadsRest : leads (activity ::ₘ rest) = leads rest := by simp [plays]
  rw [leadsRest] at steering
  have restUploading (hand : Activity) (present : hand ∈ rest) (role : hand.role? ≠ none) :
      hand.isUploading id uploadId :=
    others hand (Multiset.mem_cons_of_mem present) role
  have stays : (notes ++ history).filter (!·.isPart) = history.filter (!·.isPart) := by
    have all := (turn.notes_isPart uploading).1
    have none : notes.filter (!·.isPart) = [] :=
      List.filter_eq_nil_iff.2 fun event present => by simp [all event present]
    rw [List.filter_append, none, List.nil_append]
  have newLog := log.turn turn uploading
  have newAccounts := turn.accounts accounts
  rcases turn.kind uploading with ⟨samePhase, sameClaim, leftUploading⟩ |
    ⟨unclaimed, claimed, quiet, closes, phase⟩
  · have leadsLeft : leads left = 0 :=
      Multiset.filter_eq_nil.2 fun hand present =>
        Activity.role?_of_isUploading (leftUploading hand present)
    refine ⟨since, sameId.trans known, sameTotal.trans total, ?_, newAccounts, newLog, ?_, ?_, ?_⟩
    · intro hand present role
      exact (Multiset.mem_add.1 present).elim (leftUploading hand) (restUploading hand · role)
    · rw [sameClaim, samePhase]
      exact gate
    · rw [leads_add, leadsLeft, zero_add, samePhase]
      by_cases under : upload.phase = .partsInFlight
      · rw [under] at steering ⊢
        obtain ⟨none, nothing⟩ := steering.of_partsInFlight
        rw [none, nothing]
        exact .parts
      · obtain ⟨sameFailure, sameParts⟩ := turn.of_claimed accounts (gate.2 under)
        rw [sameFailure, sameParts]
        exact steering
    · rw [stays]
      exact steered
  · have under : upload.phase = .partsInFlight := by
      by_contra elsewhere
      rw [gate.2 elsewhere] at unclaimed
      cases unclaimed
    rw [under] at steering
    obtain ⟨none, nothing⟩ := steering.of_partsInFlight
    have leading : leads left = {closingHand id next.progress} := by
      rw [closes]
      exact leads_of_role? (only_hand rfl)
    refine ⟨since, sameId.trans known, sameTotal.trans total, ?_, newAccounts, newLog, ?_, ?_, ?_⟩
    · intro hand present role
      rcases Multiset.mem_add.1 present with new | old
      · rw [closes] at new
        rw [Multiset.mem_singleton.1 new] at role
        exact absurd rfl role
      · exact restUploading hand old role
    · rw [claimed, phase]
      split <;> simp
    · rw [leads_add, leading, none, add_zero, nothing, phase]
      cases failure : next.progress.failure with
      | none =>
          rw [if_pos rfl]
          refine .completing (.inl ?_)
          rw [closingHand, failure, if_pos rfl]
      | some reason =>
          rw [if_neg (Option.some_ne_none reason)]
          refine .aborting .untried (.inl ?_)
          rw [closingHand, failure, if_neg (Option.some_ne_none reason)]
    · rw [stays]
      exact steered

/-- A turn of the leading hand of an upload under way. -/
lemma turn_lead
    (going : Going parts record id object uploadId upload (activity ::ₘ rest) history since)
    (lead : activity.role? = none) (alone : leads rest = 0)
    (led : Led record id object uploadId upload activity since next notes left) :
    Going parts record id object uploadId next (left + rest) (notes ++ history)
      (notes ++ since) := by
  obtain ⟨known, total, others, accounts, log, gate, steering, store, attributes, answer, given,
    steered⟩ := going
  obtain ⟨newSteering, same, progress, newPhase, -, newLeads, quiet, -⟩ := led
  have phase : upload.phase ≠ .partsInFlight := by
    intro under
    rw [under] at steering
    have none := steering.of_partsInFlight.1
    simp [lead] at none
  have claimed := gate.2 phase
  have sameClaim : next.progress.endClaimed = true := by
    rcases progress with h | ⟨reason, h⟩ <;> rw [h] <;> exact claimed
  constructor
  case known => rw [same]; exact known
  case total => rcases progress with h | ⟨reason, h⟩ <;> rw [h] <;> exact total
  case uploading =>
    intro hand present role
    rcases Multiset.mem_add.1 present with new | old
    · exact absurd (newLeads hand new) role
    · exact others hand (Multiset.mem_cons_of_mem old) role
  case accounts =>
    have accounts := accounts.lead lead newLeads
    rcases progress with h | ⟨reason, h⟩
    · rw [h]
      exact accounts
    · rw [h]
      exact accounts.mark claimed
  case log =>
    have sameParts : next.parts = upload.parts := by rw [same]
    have log := (log.lead lead newLeads).quiet quiet
    rcases progress with h | ⟨reason, h⟩
    · exact log.of_same (by rw [h]) (by rw [h]) sameParts (by rw [h])
    · exact log.of_same (by rw [h]; rfl) (by rw [h]; rfl) sameParts (by rw [h]; rfl)
  case gate => exact ⟨fun _ => newPhase, fun _ => sameClaim⟩
  case steering =>
    rw [leads_add, leads_of_role? newLeads, alone, add_zero]
    exact newSteering
  case steered =>
    refine ⟨store, attributes, answer, given, ?_⟩
    have kept : notes.filter (!·.isPart) = notes :=
      List.filter_eq_self.2 fun event present => by simp [quiet event present]
    rw [List.filter_append, steered, kept, List.append_assoc]

end Going

/-- How an upload is created: its phase, the proposed first task, its hands and its history. -/
inductive Opening (id : OperationId) (object : ObjectName) :
    Phase → Option Chore → Multiset Activity → List Event → Prop where
  | proposed : Opening id object .notStarted (some .createUpload) 0 []
  | started : Opening id object .notStarted none {.starting id .createUpload} []
  | creating (store : StoreName) (attributes : ObjectAttributes) :
      Opening id object .creating none
        {.sending id .create store (.createUpload object attributes)} []
  | called (store : StoreName) (attributes : ObjectAttributes) :
      Opening id object .creating none
        {.awaiting id .create store (.createUpload object attributes)}
        [.called store id (.createUpload object attributes)]
  | created (store : StoreName) (attributes : ObjectAttributes) {answer : Answer}
      {uploadId : String} (given : answer.uploadId? = some uploadId) :
      Opening id object .creating none {.reporting id (.created uploadId)}
        [.answered store id (.createUpload object attributes) answer,
          .called store id (.createUpload object attributes)]
  | failed (store : StoreName) (attributes : ObjectAttributes) {answer : Answer}
      (error : Failure) (lacks : answer.uploadId? = none) :
      Opening id object .creating none {.reporting id (.creationFailed error)}
        [.answered store id (.createUpload object attributes) answer,
          .called store id (.createUpload object attributes)]

/-- Whether an upload has not got an identifier and will not get one. -/
inductive Nameless (id : OperationId) (object : ObjectName) : List Event → Prop where
  | untried : Nameless id object []
  | failed (store : StoreName) (attributes : ObjectAttributes) {answer : Answer}
      (lacks : answer.uploadId? = none) :
      Nameless id object
        [.answered store id (.createUpload object attributes) answer,
          .called store id (.createUpload object attributes)]

/-- How far an upload is. -/
inductive UploadStage (parts : Nat) (record : Record) (id : OperationId) (object : ObjectName)
    (view : View) : Prop where
  | opening {chunksize : Nat} {phase : Phase}
      (set : view.operation.upload = some { Upload.ofParts parts chunksize with phase := phase })
      (opening : Opening id object phase view.proposed view.hands view.history)
  | uncreated {upload : Upload} {since earlier : List Event}
      (set : view.operation.upload = some upload) (total : upload.progress.total = parts)
      (admitted : view.proposed = none) (alone : SoleCourse id view.hands since)
      (nameless : Nameless id object earlier) (split : view.history = since ++ earlier)
  | going {upload : Upload} {uploadId : String} {since : List Event}
      (set : view.operation.upload = some upload) (admitted : view.proposed = none)
      (going : Going parts record id object uploadId upload view.hands view.history since)

/-- What holds of an upload at any time. -/
structure UploadCourse (parts : Nat) (record : Record) (id : OperationId) (object : ObjectName)
    (view : View) : Prop where
  described : view.operation.record = record
  order : InOrder id parts view.history
  stage : UploadStage parts record id object view

/-- The failure that the state of an upload has recorded. -/
def Operation.uploadFailure? (operation : Operation) : Option String :=
  operation.upload.bind (·.progress.failure)

/-- What a turn of a hand does to the course of an upload. -/
def Shared.Carries (shared after : Shared) (parts : Nat) (record : Record) (id : OperationId)
    (object : ObjectName) (proposed : Option Chore) (activity later : Activity)
    (rest : Multiset Activity) : Prop :=
  ∃ operation notes left, shared.Turned after id later operation notes left ∧
    UploadCourse parts record id object
      ⟨operation, proposed, left + rest, notes ++ shared.history id⟩ ∧
    operation.uploadFailure? = (shared.operation id).uploadFailure?.or activity.loss?

section

open Shared

variable {parts : Nat} {record : Record} {id : OperationId} {object : ObjectName}
  {shared after : Shared} {surroundings : Surroundings} {later : Activity}
  (inside : id < shared.operations.length)
  (described : (shared.operation id).record = record)
  (remote : record.destination.bind Location.object? = some object)

include remote described in
lemma objectWritten_of_record : (shared.operation id).objectWritten = .ok object := by
  rw [Operation.objectWritten, described, remote]

include described remote in
/-- The hand that is to create the upload claims the creation. -/
lemma carries_of_started {chunksize : Nat}
    (set : (shared.operation id).upload = some (Upload.ofParts parts chunksize))
    (order : InOrder id parts (shared.history id)) (new : shared.history id = [])
    (work : shared.work surroundings (.starting id .createUpload) = some (after, later)) :
    shared.Carries after parts record id object none (.starting id .createUpload) later 0 := by
  have call : (shared.operation id).createCall =
      .ok (.createUpload object (shared.operation id).attributes) := by
    simp [Operation.createCall, objectWritten_of_record described remote, bind, Except.bind]
  have started := Option.some.inj work
  simp only [start, startCreate, set, Upload.claimCreation?, Upload.ofParts, if_true, call]
    at started
  obtain ⟨rfl, rfl⟩ := Prod.mk.inj started
  refine ⟨_, [], _, .of_changed (.ofUpload _) rfl, ⟨described, order, ?_⟩, ?_⟩
  · refine .opening rfl ?_
    rw [new]
    exact .creating _ _
  · simp [Operation.uploadFailure?, set, Upload.ofParts, Activity.loss?]

include inside described in
/-- The hand that creates the upload calls the store first of all. -/
lemma carries_of_creating {chunksize : Nat} {store : StoreName} {attributes : ObjectAttributes}
    (set : (shared.operation id).upload =
      some { Upload.ofParts parts chunksize with phase := .creating })
    (new : shared.history id = [])
    (work : shared.work surroundings
      (.sending id .create store (.createUpload object attributes)) = some (after, later)) :
    shared.Carries after parts record id object none
      (.sending id .create store (.createUpload object attributes)) later 0 := by
  obtain ⟨rfl, rfl⟩ := Prod.mk.inj (Option.some.inj work)
  refine ⟨_, _, _, turned_call inside .., ⟨described, ?_, ?_⟩, ?_⟩
  · rw [new]
    refine (inOrder_nil id parts).cons ?_
    rintro _ _ ⟨⟩ store call made
    cases made
  · refine .opening set ?_
    rw [new]
    exact .called store attributes
  · simp [Activity.loss?]

/-- What follows the call for an upload is told by whether its answer has an identifier. -/
lemma afterCreation (operation : Operation) (answer : Answer) :
    (∃ uploadId, answer.uploadId? = some uploadId ∧
        afterAnswer operation id .create answer = .reporting id (.created uploadId)) ∨
      answer.uploadId? = none ∧
        ((∃ error, afterAnswer operation id .create answer =
            .reporting id (.creationFailed error)) ∨
          ∃ message, afterAnswer operation id .create answer =
            .settling id (.failed (.panicked message))) := by
  cases answer with
  | failed error => exact .inr ⟨rfl, .inl ⟨error, rfl⟩⟩
  | panicked message => exact .inr ⟨rfl, .inr ⟨message, rfl⟩⟩
  | reply reply =>
      cases reply
      case created given =>
        cases given with
        | none => exact .inr ⟨rfl, .inl ⟨_, rfl⟩⟩
        | some uploadId => exact .inl ⟨uploadId, rfl, rfl⟩
      all_goals exact .inr ⟨rfl, .inl ⟨_, rfl⟩⟩

include inside described in
/-- The answer of the store names the upload, or the upload is not created. -/
lemma carries_of_called {chunksize : Nat} {store : StoreName} {attributes : ObjectAttributes}
    (set : (shared.operation id).upload =
      some { Upload.ofParts parts chunksize with phase := .creating })
    (order : InOrder id parts (shared.history id))
    (new : shared.history id = [.called store id (.createUpload object attributes)])
    (work : shared.work surroundings
      (.awaiting id .create store (.createUpload object attributes)) = some (after, later)) :
    shared.Carries after parts record id object none
      (.awaiting id .create store (.createUpload object attributes)) later 0 := by
  obtain ⟨turned, goes⟩ := turned_receive inside .create store (.createUpload object attributes)
    surroundings.answer
  rw [Option.some.inj work] at turned goes
  refine ⟨_, _, _, turned, ⟨described, order.append (by simp), ?_⟩, by simp [Activity.loss?]⟩
  rw [new]
  rcases @afterCreation id (shared.operation id)
      (seen (.createUpload object attributes) surroundings.answer) with
    ⟨uploadId, given, later⟩ | ⟨lacks, ⟨error, later⟩ | ⟨message, later⟩⟩
  · rw [goes, later]
    exact .opening set (.created store attributes given)
  · rw [goes, later]
    exact .opening set (.failed store attributes error lacks)
  · rw [goes, later]
    have alone : SoleCourse id {.settling id (.failed (.panicked message))} [] :=
      .on rfl (List.forall_mem_nil _)
    exact .uncreated set rfl rfl alone (.failed store attributes lacks) rfl

include described in
/-- The upload has got its identifier: the parts are under way. -/
lemma carries_of_created {chunksize : Nat} {store : StoreName} {attributes : ObjectAttributes}
    {answer : Answer} {uploadId : String} (several : 0 < parts)
    (given : answer.uploadId? = some uploadId)
    (set : (shared.operation id).upload =
      some { Upload.ofParts parts chunksize with phase := .creating })
    (order : InOrder id parts (shared.history id))
    (new : shared.history id = [.answered store id (.createUpload object attributes) answer,
      .called store id (.createUpload object attributes)])
    (work : shared.work surroundings (.reporting id (.created uploadId)) = some (after, later)) :
    shared.Carries after parts record id object none (.reporting id (.created uploadId)) later
      0 := by
  have reported := Option.some.inj work
  rw [report_of_upload set rfl] at reported
  obtain ⟨rfl, rfl⟩ := Prod.mk.inj reported
  have going : Going parts record id object uploadId
      (Upload.created { Upload.ofParts parts chunksize with phase := .creating } uploadId)
      ({.feeding id .upload} + 0) (shared.history id) [] := by
    rw [new, Multiset.add_zero]
    exact .begin several given
  refine ⟨_, [], _, .of_changed (.ofUpload _) rfl, ⟨described, order, .going rfl rfl going⟩, ?_⟩
  simp [Operation.uploadFailure?, set, Upload.created, Upload.ofParts, Activity.loss?]

include described in
/-- The upload has not been created: that is its end. -/
lemma carries_of_failed {chunksize : Nat} {store : StoreName} {attributes : ObjectAttributes}
    {answer : Answer} {error : Failure} (lacks : answer.uploadId? = none)
    (set : (shared.operation id).upload =
      some { Upload.ofParts parts chunksize with phase := .creating })
    (order : InOrder id parts (shared.history id))
    (new : shared.history id = [.answered store id (.createUpload object attributes) answer,
      .called store id (.createUpload object attributes)])
    (work : shared.work surroundings (.reporting id (.creationFailed error)) =
      some (after, later)) :
    shared.Carries after parts record id object none (.reporting id (.creationFailed error)) later
      0 := by
  have reported := Option.some.inj work
  rw [report_of_upload set rfl] at reported
  obtain ⟨rfl, rfl⟩ := Prod.mk.inj reported
  have alone : SoleCourse id {.settling id (.failed error)} [] :=
    .on rfl (List.forall_mem_nil _)
  refine ⟨_, [], _, .of_changed (.ofUpload _) rfl, ⟨described, order, ?_⟩, ?_⟩
  · exact .uncreated rfl rfl rfl alone (.failed store attributes lacks) new
  · simp [Operation.uploadFailure?, set, Upload.creationFailed, Upload.ofParts, Activity.loss?,
      Progress.partLost, Progress.markFailed]

include inside described in
/-- The end of an upload that was not created. -/
lemma carries_of_uncreated {upload : Upload} {activity : Activity} {since earlier : List Event}
    (own : activity.operation? = some id) (set : (shared.operation id).upload = some upload)
    (total : upload.progress.total = parts) (order : InOrder id parts (shared.history id))
    (alone : SoleCourse id {activity} since) (nameless : Nameless id object earlier)
    (split : shared.history id = since ++ earlier)
    (work : shared.work surroundings activity = some (after, later)) :
    shared.Carries after parts record id object none activity later 0 := by
  have sole := alone.isSole
  obtain ⟨notes, left, turn, turned⟩ := sole_of_work inside own sole work
  refine ⟨_, notes, left, turned, ⟨described, order.append ?_, ?_⟩, ?_⟩
  · intro store call made
    exact turn.isPlain_of_called made
  · have goes := alone.turn turn
    rw [← add_zero left] at goes
    refine .uncreated set total rfl goes nameless ?_
    simp only [split, List.append_assoc]
  · rw [activity.loss?_of_isSole sole, Option.or_none]

lemma uploadFailure?_of_set {upload next : Upload} {activity : Activity}
    (set : (shared.operation id).upload = some upload)
    (failure : next.progress.failure = upload.progress.failure.or activity.loss?) :
    ({ shared.operation id with upload := some next } : Operation).uploadFailure? =
      (shared.operation id).uploadFailure?.or activity.loss? := by
  simpa [Operation.uploadFailure?, set] using failure

section

variable {upload : Upload} {uploadId : String} {activity : Activity} {rest : Multiset Activity}
  {since : List Event} (own : activity.operation? = some id)
  (set : (shared.operation id).upload = some upload)
  (order : InOrder id parts (shared.history id))
  (going : Going parts record id object uploadId upload (activity ::ₘ rest) (shared.history id)
    since)
  (work : shared.work surroundings activity = some (after, later))

include inside described set order going work in
/-- A turn of a hand at the parts of an upload under way. -/
lemma carries_of_part (plays : activity.role? ≠ none) :
    shared.Carries after parts record id object none activity later rest := by
  have uploading := going.uploading activity (Multiset.mem_cons_self activity rest) plays
  have gate : upload.phase = .partsInFlight ∨ upload.progress.endClaimed = true := by
    by_cases under : upload.phase = .partsInFlight
    · exact .inl under
    · exact .inr (going.gate.2 under)
  obtain ⟨next, notes, left, turn, turned⟩ :=
    uploadTurn_of_work inside set going.known gate uploading work
  obtain ⟨laterSince, goes⟩ := going.turn_part uploading turn
  refine ⟨_, notes, left, turned, ⟨described, ?_, .going rfl rfl goes⟩,
    uploadFailure?_of_set set turn.same.2.2⟩
  rcases (turn.notes_isPart uploading).2 with
    none | ⟨store, call, number, rfl, moves, knows, has, runs⟩
  · exact order.append fun store call made => absurd made (none store call)
  · refine order.cons ?_
    rintro _ _ ⟨⟩
    exact going.permits_part runs has moves knows

include inside described remote own set order going work in
/-- A turn of the hand that leads an upload to its end. -/
lemma carries_of_lead (lead : activity.role? = none) :
    shared.Carries after parts record id object none activity later rest := by
  obtain ⟨leading, alone⟩ := leads_of_card_le lead going.steering.card_le
  have steering := going.steering
  rw [leading] at steering
  have elsewhere : upload.phase ≠ .partsInFlight := by
    intro under
    rw [under] at steering
    exact absurd steering.of_partsInFlight.1 (Multiset.singleton_ne_zero activity)
  have claimed := going.gate.2 elsewhere
  obtain ⟨next, notes, left, led, turned⟩ := steering.turn inside set going.known
    (objectWritten_of_record described remote) described own work
  refine ⟨_, notes, left, turned,
    ⟨described, ?_, .going rfl rfl (going.turn_lead lead alone led)⟩,
    uploadFailure?_of_set set led.failure⟩
  rcases led.calls with plain | ⟨store, rfl, rfl, sound⟩ | ⟨store, rfl, uncompleted⟩
  · exact order.append plain
  · refine order.cons ?_
    rintro _ _ ⟨⟩
    exact going.permits_complete claimed sound
  · refine order.cons ?_
    rintro _ _ ⟨⟩
    exact going.permits_abort claimed uncompleted

include inside described remote own set order going work in
/-- A turn of a hand at an upload under way. -/
lemma carries_of_going :
    shared.Carries after parts record id object none activity later rest := by
  by_cases lead : activity.role? = none
  · exact carries_of_lead inside described remote own set order going work lead
  · exact carries_of_part inside described set order going work lead

end

end

/-- A turn of a hand goes on with the course of an upload. -/
lemma UploadCourse.turn {parts : Nat} {record : Record} {id : OperationId} {object : ObjectName}
    {shared after : Shared} {surroundings : Surroundings} {activity later : Activity}
    {proposed : Option Chore} {rest : Multiset Activity}
    (course : UploadCourse parts record id object
      ⟨shared.operation id, proposed, activity ::ₘ rest, shared.history id⟩)
    (inside : id < shared.operations.length) (several : 0 < parts)
    (remote : record.destination.bind Location.object? = some object)
    (own : activity.operation? = some id)
    (work : shared.work surroundings activity = some (after, later)) :
    shared.Carries after parts record id object proposed activity later rest := by
  obtain ⟨described, order, stage⟩ := course
  cases stage with
  | @opening chunksize phase set opening =>
      generalize hands : activity ::ₘ rest = hands', new : shared.history id = history at opening
      cases opening with
      | proposed => exact absurd hands (Multiset.cons_ne_zero)
      | started =>
          obtain ⟨rfl, rfl⟩ := (Multiset.singleton_eq_cons_iff rest).1 hands.symm
          exact carries_of_started described remote set order new work
      | creating store attributes =>
          obtain ⟨rfl, rfl⟩ := (Multiset.singleton_eq_cons_iff rest).1 hands.symm
          exact carries_of_creating inside described set new work
      | called store attributes =>
          obtain ⟨rfl, rfl⟩ := (Multiset.singleton_eq_cons_iff rest).1 hands.symm
          exact carries_of_called inside described set order new work
      | created store attributes given =>
          obtain ⟨rfl, rfl⟩ := (Multiset.singleton_eq_cons_iff rest).1 hands.symm
          exact carries_of_created described several given set order new work
      | failed store attributes error lacks =>
          obtain ⟨rfl, rfl⟩ := (Multiset.singleton_eq_cons_iff rest).1 hands.symm
          exact carries_of_failed described lacks set order new work
  | uncreated set total admitted alone nameless split =>
      obtain rfl : proposed = none := admitted
      have only : rest = 0 := by
        generalize hands : activity ::ₘ rest = hands' at alone
        cases alone with
        | on sole plain => exact ((Multiset.singleton_eq_cons_iff rest).1 hands.symm).2
        | concluded message plain => exact absurd hands Multiset.cons_ne_zero
      subst only
      exact carries_of_uncreated inside described own set total order alone nameless split work
  | going set admitted going =>
      obtain rfl : proposed = none := admitted
      exact carries_of_going inside described remote own set order going work

/-- An upload that is admitted, or refused by the admission policy. -/
lemma UploadCourse.of_proposed {parts : Nat} {record : Record} {id : OperationId}
    {object : ObjectName} {operation : Operation} {chore : Chore} {hands : Multiset Activity}
    {history : List Event}
    (course : UploadCourse parts record id object ⟨operation, some chore, hands, history⟩)
    (message : Notice) :
    UploadCourse parts record id object
        ⟨operation, none, .starting id chore ::ₘ hands, history⟩ ∧
      UploadCourse parts record id object
        ⟨operation, none, hands, .settled id message :: history⟩ := by
  obtain ⟨described, order, stage⟩ := course
  cases stage with
  | @opening chunksize phase set opening =>
      generalize proposed : some chore = proposed' at opening
      cases opening with
      | proposed =>
          obtain rfl := Option.some.inj proposed
          refine ⟨⟨described, order, .opening set .started⟩, ⟨described, order.cons (by simp), ?_⟩⟩
          have alone : SoleCourse id 0 [.settled id message] :=
            .concluded message (List.forall_mem_nil _)
          exact .uncreated set rfl rfl alone .untried rfl
      | _ => cases proposed
  | uncreated set total admitted => cases admitted
  | going set admitted => cases admitted

end Pool

namespace Run

/-- The failure that a mover reports to the state of the upload of an operation. -/
def reportedLoss? (run : Run) (id : OperationId) (move : Move) : Option String :=
  match move.actor with
  | .planner => none
  | .worker index =>
      (run.workers[index]?.filter (·.operation? = some id)).bind Activity.loss?

variable {run next : Run} {move : Move} {id : OperationId}

lemma reportedLoss?_of_other (other : run.operationOf? move.actor ≠ some id) :
    run.reportedLoss? id move = none := by
  unfold reportedLoss?
  split
  · rfl
  · next index actor =>
      rw [actor, operationOf?] at other
      cases working : run.workers[index]? with
      | none => rfl
      | some activity =>
          rw [working, Option.bind_some] at other
          simp [Option.filter, other]

lemma reportedLoss?_of_worker {index : Nat} {activity : Activity}
    (actor : move.actor = .worker index) (working : run.workers[index]? = some activity)
    (own : activity.operation? = some id) : run.reportedLoss? id move = activity.loss? := by
  simp [reportedLoss?, actor, working, Option.filter, own]

end Run

/-- Every step of a run goes on with the course of an upload, and the failure that the upload has
recorded is the first one reported. -/
theorem Pool.UploadCourse.step {parts : Nat} {record : Record} {id : OperationId}
    {object : ObjectName} {run next : Run} {move : Move}
    (course : UploadCourse parts record id object (run.view id))
    (inside : id < run.shared.operations.length) (several : 0 < parts)
    (remote : record.destination.bind Location.object? = some object)
    (seen : run.Seen next move id) :
    UploadCourse parts record id object (next.view id) ∧
      (next.view id).operation.uploadFailure? =
        (run.view id).operation.uploadFailure?.or (run.reportedLoss? id move) := by
  cases seen with
  | same view other =>
      rw [view, Run.reportedLoss?_of_other other, Option.or_none]
      exact ⟨course, rfl⟩
  | admitted chore proposed disk view other =>
      rw [Run.reportedLoss?_of_other other, Option.or_none, view]
      rw [Run.view, proposed] at course
      exact ⟨(course.of_proposed (.warning "")).1, rfl⟩
  | refused chore error proposed shared view other =>
      rw [Run.reportedLoss?_of_other other, Option.or_none, view]
      rw [Run.view, proposed] at course
      exact ⟨(course.of_proposed _).2, rfl⟩
  | turned activity later rest index actor working own hands work view =>
      rw [Run.view, hands] at course
      obtain ⟨operation, notes, left, turned, carried, failure⟩ :=
        course.turn inside several remote own work
      rw [Run.view_of_turned view turned, Run.reportedLoss?_of_worker actor working own]
      exact ⟨carried, failure⟩

end BulkTransfer
