import BulkTransfer.Proofs.Upload.Order
import BulkTransfer.Remote.Script
import BulkTransfer.Stream.Upload

/-!
# How a streamed upload ends

A streamed upload in parts creates a multipart upload, sends its parts one after another, and ends
with one more call: the completion if every part went well, the abort if one did not or the next
chunk could not be read. Whatever the parts come to, they add nothing but calls for parts
(`Stream.Upload.parts_of_sendParts`), so the call at the end decides how often the upload is
aborted.

A failure before the completion is followed by the abort, and by nothing else. A failure of the
completion itself is not: it is handed on as it is, and the upload stays open at the store. The
uploads of a batch abort in that case too.
-/

namespace BulkTransfer

/-- Whether a call uploads a part of a multipart upload. -/
def Call.IsPartOf (object : ObjectName) (uploadId : String) (call : Call) : Prop :=
  ∃ number body, call = .uploadPart object uploadId number body

/-- What the caller hears of an answer. -/
def Answer.heard : Answer → Except Halt Reply
  | reply given => .ok given
  | failed error => .error (.failed error)
  | panicked _ => .error .panicked

/-- A reply that comes through as an answer is of a kind that its call can have. -/
lemma Reply.fit_of_fitted {reply heard : Reply} {call : Call}
    (same : reply.fitted call = .reply heard) : heard.fit? call = some heard := by
  unfold fitted at same
  split at same
  case h_1 fitting fits =>
    cases same
    unfold fit? at fits ⊢
    split at fits <;> cases fits <;> rfl
  case h_2 => cases same

namespace Session

variable {σ : Type}

/-- A call leaves the session with one exchange more, whose answer is the one that is heard. A
reply in it is of the kind that the call can have. -/
lemma ask_exchange (service : Service σ) (session : Session σ) (call : Call) :
    ∃ answer state, session.ask service call =
        (answer.heard, ⟨state, (call, answer) :: session.exchanges⟩) ∧
      ∀ reply, answer = .reply reply → reply.fit? call = some reply := by
  cases given : (service.answer session.state call).1 with
  | reply reply =>
      refine ⟨reply.fitted call, (service.answer session.state call).2, ?_, fun heard same =>
        Reply.fit_of_fitted same⟩
      rw [ask, given]
      dsimp only
      cases reply.fitted call <;> rfl
  | failed error =>
      refine ⟨.failed error, (service.answer session.state call).2, ?_, nofun⟩
      rw [ask, given]
      rfl
  | panicked message =>
      refine ⟨.panicked message, (service.answer session.state call).2, ?_, nofun⟩
      rw [ask, given]
      rfl

/-- What is heard of a call is the answer in the exchange that it adds to the session. -/
lemma exchange_of_ask {service : Service σ} {session after : Session σ} {call : Call}
    {heard : Except Halt Reply} (asked : session.ask service call = (heard, after)) :
    ∃ answer, heard = answer.heard ∧ after.exchanges = (call, answer) :: session.exchanges ∧
      ∀ reply, answer = .reply reply → reply.fit? call = some reply := by
  obtain ⟨answer, state, exchange, fits⟩ := session.ask_exchange service call
  obtain ⟨rfl, rfl⟩ := Prod.mk.inj (exchange.symm.trans asked)
  exact ⟨answer, rfl, rfl, fits⟩

/-- Whether a session created a multipart upload and was given an identifier for it. -/
def Created (session : Session σ) (object : ObjectName) (uploadId : String) : Prop :=
  ∃ attributes, (Call.createUpload object attributes, Answer.reply (.created (some uploadId))) ∈
    session.exchanges

/-- Whether the last call aborts an upload, which no other call does, and nothing completed it. -/
structure AbortedLast (session : Session σ) (object : ObjectName) (uploadId : String) : Prop where
  last : session.calls.getLast? = some (.abortUpload object uploadId)
  once : session.calls.countP Call.isAbort = 1
  incomplete : session.calls.countP Call.isCompletion = 0

/-- Whether the last call completes an upload and fails, and nothing aborted it. -/
structure LostAtCompletion (session : Session σ) (object : ObjectName) (uploadId : String)
    (error : Failure) : Prop where
  last : ∃ parts, session.exchanges.head? =
    some (.completeUpload object uploadId parts, .failed error)
  never : session.calls.countP Call.isAbort = 0

/-- Whether a session did nothing but create an upload and send parts of it. -/
def Sends (session : Session σ) (object : ObjectName) (uploadId : String) : Prop :=
  ∃ made attributes, session.exchanges =
      made ++ [(.createUpload object attributes, .reply (.created (some uploadId)))] ∧
    ∀ exchange ∈ made, exchange.1.IsPartOf object uploadId

/-- How often a session made a call of some kind. -/
lemma countP_calls (session : Session σ) (kind : Call → Bool) :
    session.calls.countP kind = session.exchanges.countP fun exchange => kind exchange.1 := by
  rw [calls, List.countP_map, List.countP_reverse]
  rfl

/-- A session that ends with a call of its own after the parts of an upload: the upload it
created, and how often it made calls of a kind that the parts are not of. -/
lemma Sends.ended {session later : Session σ} {object : ObjectName} {uploadId : String}
    (sends : session.Sends object uploadId) {call : Call} {answer : Answer}
    (last : later.exchanges = (call, answer) :: session.exchanges) (kind : Call → Bool)
    (parts : ∀ number body, kind (.uploadPart object uploadId number body) = false)
    (create : ∀ attributes, kind (.createUpload object attributes) = false) :
    later.calls.countP kind = if kind call then 1 else 0 := by
  obtain ⟨made, attributes, exchanges, all⟩ := sends
  have none : made.countP (fun exchange => kind exchange.1) = 0 := by
    rw [List.countP_eq_zero]
    intro exchange inside
    obtain ⟨number, body, same⟩ := all exchange inside
    rw [same, parts]
    exact Bool.false_ne_true
  rw [countP_calls, last, exchanges, List.countP_cons, List.countP_append, none,
    List.countP_singleton, create]
  simp

lemma Sends.created_unique {session later : Session σ} {object : ObjectName}
    {uploadId other : String} (sends : session.Sends object uploadId) {call : Call}
    {answer : Answer} (last : later.exchanges = (call, answer) :: session.exchanges)
    (different : ∀ attributes, call ≠ .createUpload object attributes)
    (created : later.Created object other) : other = uploadId := by
  obtain ⟨made, first, exchanges, all⟩ := sends
  obtain ⟨attributes, inside⟩ := created
  rw [last, exchanges, List.mem_cons, List.mem_append, List.mem_singleton] at inside
  obtain same | inside | same := inside
  · exact absurd (congrArg Prod.fst same).symm (different attributes)
  · obtain ⟨number, body, part⟩ := all _ inside
    cases part
  · cases same
    rfl

end Session

namespace Stream.Upload

variable {σ : Type}

/-- Sending parts adds calls for parts of the upload, whatever comes of them. -/
theorem parts_of_sendParts (service : Service σ) (upload : Upload) (uploadId : String)
    (number : UInt32) (chunk : Bytes) (source : Reader) (session : Session σ) :
    ∃ made, (upload.sendParts service uploadId number chunk source session).2.exchanges =
        made ++ session.exchanges ∧
      ∀ exchange ∈ made, exchange.1.IsPartOf upload.object uploadId := by
  have one {number : Nat} {chunk : Bytes} {session after : Session σ} {heard : Except Halt Reply}
      (asked : session.ask service (.uploadPart upload.object uploadId number chunk) =
        (heard, after)) :
      ∃ exchange : Call × Answer, after.exchanges = exchange :: session.exchanges ∧
        exchange.1.IsPartOf upload.object uploadId := by
    obtain ⟨answer, -, exchanges, -⟩ := Session.exchange_of_ask asked
    exact ⟨_, exchanges, number, chunk, rfl⟩
  -- Only a part that was answered with a tag is followed by more.
  fun_induction sendParts service upload uploadId number chunk source session with
  | case1 => exact ⟨[], rfl, List.forall_mem_nil _⟩
  | case2 _ _ _ _ _ _ _ asked | case3 _ _ _ _ _ _ _ asked | case4 _ _ _ _ _ _ _ asked
  | case6 _ _ _ _ _ _ _ _ asked =>
      obtain ⟨exchange, exchanges, part⟩ := one asked
      exact ⟨[exchange], exchanges, by simpa using part⟩
  | case5 number chunk source session filled tag after asked next _ following rest _ more ih =>
      obtain ⟨exchange, exchanges, part⟩ := one asked
      obtain ⟨made, later, parts⟩ := ih
      refine ⟨made ++ [exchange], ?_, fun sent inside => ?_⟩
      · rw [List.append_assoc, List.singleton_append, ← exchanges]
        exact later
      · obtain inside | inside := List.mem_append.1 inside
        · exact parts sent inside
        · rw [List.mem_singleton.1 inside]
          exact part

/-- Creating an upload is one call, and gives the identifier that was answered if one was. -/
lemma exchange_of_create (service : Service σ) (upload : Upload) (session : Session σ) :
    ∃ answer state, (upload.create service session).2 =
        ⟨state, (.createUpload upload.object upload.attributes, answer) :: session.exchanges⟩ ∧
      ∀ uploadId, (upload.create service session).1 = .ok uploadId ↔
        answer = .reply (.created (some uploadId)) := by
  obtain ⟨answer, state, asked, -⟩ :=
    session.ask_exchange service (.createUpload upload.object upload.attributes)
  refine ⟨answer, state, ?_⟩
  unfold create
  rw [asked]
  split
  case h_1 halt stopped same =>
    obtain ⟨halted, rfl⟩ := Prod.mk.inj same
    refine ⟨rfl, fun uploadId => ⟨nofun, ?_⟩⟩
    rintro rfl
    cases halted
  case h_2 uploadId created same =>
    obtain ⟨heard, rfl⟩ := Prod.mk.inj same
    cases answer <;> cases heard
    simp
  case h_3 reply stopped other same =>
    obtain ⟨heard, rfl⟩ := Prod.mk.inj same
    refine ⟨rfl, fun uploadId => ⟨nofun, ?_⟩⟩
    rintro rfl
    cases heard
    exact absurd rfl (other uploadId)

/-- An abort is one call, and never makes a success of the failure before it. -/
lemma exchange_of_abort (service : Service σ) (upload : Upload) (uploadId : String)
    (error : Failure) (session : Session σ) :
    (∃ answer state, (upload.abort service uploadId error session).2 =
        ⟨state, (.abortUpload upload.object uploadId, answer) :: session.exchanges⟩) ∧
      (upload.abort service uploadId error session).1 ≠ .ok () := by
  obtain ⟨answer, state, asked, -⟩ :=
    session.ask_exchange service (.abortUpload upload.object uploadId)
  unfold abort
  rw [asked]
  split
  case h_1 stopped same =>
    obtain ⟨-, rfl⟩ := Prod.mk.inj same
    exact ⟨⟨answer, state, rfl⟩, nofun⟩
  case h_2 heard stopped other same =>
    obtain ⟨-, rfl⟩ := Prod.mk.inj same
    exact ⟨⟨answer, state, rfl⟩, nofun⟩

/-- How an upload in parts ends: without an abort if it succeeded; if it failed after it was
created, either with its abort or with the completion that failed. -/
lemma end_of_runParts (service : Service σ) (upload : Upload) (first : Bytes) (source : Reader)
    (state : σ) :
    let result := upload.runParts service first source ⟨state, []⟩
    (result.1 = .ok () → result.2.calls.countP Call.isAbort = 0) ∧
      ∀ uploadId error, result.2.Created upload.object uploadId →
        result.1 = .error (.failed error) →
          result.2.AbortedLast upload.object uploadId ∨
            result.2.LostAtCompletion upload.object uploadId error := by
  obtain ⟨answer, begun, asked, gave⟩ := upload.exchange_of_create service ⟨state, []⟩
  intro result
  unfold result runParts
  split
  case h_1 halt session creating =>
    rw [creating] at asked gave
    cases asked
    refine ⟨nofun, ?_⟩
    rintro uploadId error ⟨attributes, inside⟩ -
    cases List.mem_singleton.1 inside
    exact absurd ((gave uploadId).2 rfl) nofun
  case h_2 id session creating =>
    rw [creating] at asked gave
    cases asked
    obtain rfl := (gave id).1 rfl
    obtain ⟨made, sent, parts⟩ := upload.parts_of_sendParts service id 1 first source
      ⟨begun, [(.createUpload upload.object upload.attributes, .reply (.created (some id)))]⟩
    have sends : Session.Sends (upload.sendParts service id 1 first source
        ⟨begun, [(.createUpload upload.object upload.attributes,
          .reply (.created (some id)))]⟩).2 upload.object id :=
      ⟨made, upload.attributes, sent, parts⟩
    split
    case h_1 finished session sending =>
      rw [sending] at sends
      obtain ⟨answer, state, completing, -⟩ :=
        session.ask_exchange service (.completeUpload upload.object id finished)
      rw [completing]
      let later : Session σ :=
        ⟨state, (.completeUpload upload.object id finished, answer) :: session.exchanges⟩
      have last : later.exchanges =
        (.completeUpload upload.object id finished, answer) :: session.exchanges := rfl
      have never : later.calls.countP Call.isAbort = 0 :=
        sends.ended last Call.isAbort (fun _ _ => rfl) fun _ => rfl
      refine ⟨fun _ => never, fun uploadId error created failed => .inr ?_⟩
      obtain rfl := sends.created_unique last nofun created
      cases answer <;> cases failed
      exact ⟨⟨finished, rfl⟩, never⟩
    case h_2 cause session sending =>
      rw [sending] at sends
      obtain ⟨⟨answer, state, aborting⟩, unsuccessful⟩ :=
        upload.exchange_of_abort service id cause session
      have last := congrArg Session.exchanges aborting
      have once := sends.ended last Call.isAbort (fun _ _ => rfl) fun _ => rfl
      have incomplete := sends.ended last Call.isCompletion (fun _ _ => rfl) fun _ => rfl
      refine ⟨fun succeeded => absurd succeeded unsuccessful,
        fun uploadId error created _ => .inl ?_⟩
      obtain rfl := sends.created_unique last nofun created
      refine ⟨?_, once, incomplete⟩
      rw [aborting, Session.calls, List.getLast?_map, List.getLast?_reverse]
      rfl
    case h_3 session sending => exact ⟨nofun, fun _ _ _ failed => by cases failed⟩

/-- How a streamed upload ends. If it succeeded it made no abort. If it failed after a multipart
upload was created for it, that upload is aborted once, by the last call; unless what failed is
its completion, which is then the last call and followed by no abort. -/
theorem end_of_run (service : Service σ) (upload : Upload) (source : Reader) (state : σ) :
    let result := upload.run service source ⟨state, []⟩
    (result.1 = .ok () → result.2.calls.countP Call.isAbort = 0) ∧
      ∀ uploadId error, result.2.Created upload.object uploadId →
        result.1 = .error (.failed error) →
          result.2.AbortedLast upload.object uploadId ∨
            result.2.LostAtCompletion upload.object uploadId error := by
  -- A stream that is put as a whole makes that one call and creates nothing.
  have whole : ∀ body, let result := upload.runWhole service body ⟨state, []⟩
      result.2.calls.countP Call.isAbort = 0 ∧
        ∀ uploadId, ¬result.2.Created upload.object uploadId := by
    intro body
    obtain ⟨answer, stored, asked, -⟩ := Session.ask_exchange service ⟨state, []⟩
      (.putObject upload.object body upload.attributes)
    unfold runWhole
    rw [asked]
    refine ⟨rfl, fun uploadId created => ?_⟩
    obtain ⟨attributes, inside⟩ := created
    cases List.mem_singleton.1 inside
  intro result
  unfold result run
  split
  case h_1 message cut => exact ⟨nofun, fun _ _ created _ => absurd created.choose_spec nofun⟩
  case h_2 first rest cut =>
    by_cases short : first.length < upload.chunksize
    · rw [if_pos short]
      exact ⟨fun _ => (whole first).1, fun uploadId _ created _ =>
        absurd created ((whole first).2 uploadId)⟩
    · rw [if_neg short]
      exact upload.end_of_runParts service first rest state

/-- An upload of three bytes in parts of three. -/
def ofThree : Upload := { object := ⟨"bucket", "key"⟩, chunksize := 3 }

/-- What comes of three bytes that are uploaded in one part to a store that creates the upload and
then follows a script. -/
def runOfThree (lines : List ScriptLine) : Except Halt Unit × Session Script :=
  ofThree.run ⟨Script.answer⟩ [.piece [97, 98, 99]]
    ⟨{ lines := .reply (.created (some "id")) :: lines }, []⟩

theorem brokenPart_abortedLast :
    (runOfThree [.error "reset"]).2.Created ofThree.object "id" ∧
      (runOfThree [.error "reset"]).1 = .error (.failed (.remote "UploadPart" "reset")) ∧
      (runOfThree [.error "reset"]).2.AbortedLast ofThree.object "id" := by
  have created : (runOfThree [.error "reset"]).2.Created ofThree.object "id" :=
    ⟨ofThree.attributes, by decide +kernel⟩
  have failed : (runOfThree [.error "reset"]).1 =
      .error (.failed (.remote "UploadPart" "reset")) := by
    decide +kernel
  refine ⟨created, failed, ?_⟩
  obtain aborted | ⟨-, never⟩ :=
    (ofThree.end_of_run ⟨Script.answer⟩ [.piece [97, 98, 99]]
      { lines := [.reply (.created (some "id")), .error "reset"] }).2 "id" _ created failed
  · exact aborted
  · change (runOfThree [.error "reset"]).2.calls.countP Call.isAbort = 0 at never
    have once : (runOfThree [.error "reset"]).2.calls.countP Call.isAbort = 1 := by decide +kernel
    omega

/-- A completion that fails leaves the upload open: the run fails and makes no abort. -/
theorem lostCompletion_not_aborted :
    let result := runOfThree [.reply (.part (some "tag")), .error "reset"]
    ¬∀ uploadId error, result.2.Created ofThree.object uploadId →
      result.1 = .error (.failed error) →
        result.2.calls.getLast? = some (.abortUpload ofThree.object uploadId) ∧
          result.2.calls.countP Call.isAbort = 1 := by
  intro result aborts
  have created : result.2.Created ofThree.object "id" := ⟨ofThree.attributes, by decide +kernel⟩
  have failed : result.1 = .error (.failed (.remote "CompleteMultipartUpload" "reset")) := by
    decide +kernel
  have none : result.2.calls.countP Call.isAbort = 0 := by decide +kernel
  have once := (aborts "id" _ created failed).2
  omega

end Stream.Upload
end BulkTransfer
