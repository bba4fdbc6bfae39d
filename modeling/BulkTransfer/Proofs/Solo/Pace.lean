import BulkTransfer.Proofs.Solo.Calling

/-!
# The parts of an operation one after another

How a single worker stands to the parts of an operation: the parts are yet to be opened, or they are
under way in their order (`Pool.Serving`), or no further call is made for any. Every turn of the
worker keeps this pace (`Pool.Pace.turn`), so the calls for parts are those of the first parts, each
made once.
-/

namespace BulkTransfer

open Pool Multipart

namespace Pool

/-- Whether the end of the parts has been claimed on a side. -/
def Operation.Claimed (operation : Operation) (side : Side) : Prop :=
  ∃ progress, operation.progress? side = some progress ∧ progress.endClaimed = true

/-- Whether a task in the queue moves no part any more: it is about the operation as a whole, or the
part will be skipped. -/
def Operation.Ceases (operation : Operation) (side : Side) (chore : Chore) : Prop :=
  (∀ id, (Activity.starting id chore).role? = none ∧ (Activity.starting id chore).opens? = none) ∨
    chore.side? = some side ∧ operation.Claimed side

/-- Whether a worker moves no part any more. -/
def Activity.Ceases (operation : Operation) (id : OperationId) (side : Side) (worker : Activity) :
    Prop :=
  worker.Ends id ∨
    ∃ chore, worker = .starting id chore ∧ chore.side? = some side ∧ operation.Claimed side

/-- Where the worker of an operation stands while its parts are under way, with the parts in the
queue and the number of parts for which a call was made. -/
inductive Serving (operation : Operation) (id : OperationId) (side : Side) (progress : Progress)
    (queued : List Nat) (worker : Activity) (count : Nat) : Prop where
  | free (orderly : progress.Orderly 0 queued [])
      (free : worker = .idle ∨ worker = .feeding id side) (made : count = progress.succeeded)
  | holding {index : Nat} (orderly : progress.Orderly 0 queued [index])
      (holds : worker = .offering id side index ∨ worker = .deferring id side index ∨
        worker = .forcing id side index ∨
          ∃ error, worker = .reporting id (.partLost side error false))
      (made : count = progress.succeeded)
  | entering {index : Nat} (orderly : progress.Orderly 0 (index :: queued) [])
      (enters : worker = .starting id (operation.moving side index))
      (made : count = progress.succeeded)
  | calling (orderly : progress.Orderly 1 queued [])
      (calls : worker.Calls id side (operation.span side progress.succeeded))
      (made : count = progress.succeeded)
  | called (orderly : progress.Orderly 1 queued []) (called : worker.called? = some side)
      (made : count = progress.succeeded + 1)
  | losing (orderly : progress.Orderly 1 queued []) (loses : worker.Loses id side)
      (few : count ≤ progress.total)

/-- Where the worker of an operation stands to its `total` parts, which have the given spans: with
the first tasks that wait, the follow-ups in the queue, and the number of parts for which a call was
made. -/
inductive Pace (spans : Nat → PartSpan) (side : Side) (total : Nat) (id : OperationId)
    (operation : Operation) (first lane : List Chore) (worker : Activity) (count : Nat) : Prop where
  | early {chore : Chore} (waits : first = [chore])
      (opens : (Activity.starting id chore).opens? = some side) (none : lane = [])
      (idle : worker = .idle) (fresh : operation.progress? side = some { total := total })
      (cut : operation.span side = spans) (uncalled : count = 0)
  | opening (taken : first = []) (none : lane = []) (opens : worker.opens? = some side)
      (quiet : worker.IsQuiet) (fresh : operation.progress? side = some { total := total })
      (cut : operation.span side = spans) (uncalled : count = 0)
  | flowing {progress : Progress} {queued : List Nat} (taken : first = [])
      (tasks : lane = queued.map (operation.moving side)) (flows : operation.Flows progress side)
      (all : progress.total = total) (cut : operation.span side = spans)
      (serving : Serving operation id side progress queued worker count)
  | ceased (taken : first = []) (tasks : ∀ chore ∈ lane, operation.Ceases side chore)
      (ceases : worker.Ceases operation id side) (quiet : worker.IsQuiet) (few : count ≤ total)

/-- The number of parts for which a call was made after a turn: one more if the turn makes the call
for the next part. -/
def Activity.Issues (side : Side) (spans : Nat → PartSpan) (worker : Activity) (count next : Nat) :
    Prop :=
  match worker.issue?.filter Call.isPart with
  | none => next = count
  | some call => call.IsFor side (spans count) ∧ next = count + 1

lemma Activity.IsQuiet.issues {worker : Activity} (quiet : worker.IsQuiet) (side : Side)
    (spans : Nat → PartSpan) (count : Nat) : worker.Issues side spans count count := by
  have none : worker.issue?.filter Call.isPart = none := by
    refine Option.filter_eq_none_iff.2 fun call issues part => ?_
    rw [quiet call issues] at part
    cases part
  rw [Activity.Issues, none]

lemma Operation.span_of_moving {operation other : Operation} {side : Side}
    (same : operation.moving side = other.moving side) : operation.span side = other.span side := by
  funext index
  have parts := congrArg Chore.part? (congrFun same index)
  simpa [Operation.moving] using parts

lemma FollowUp.ceases (operation : Operation) (side : Side) (followUp : FollowUp) :
    operation.Ceases side followUp.chore := by
  refine .inl fun id => ?_
  cases followUp <;> exact ⟨rfl, rfl⟩

/-- What the turn of the worker comes to. -/
def Shared.Paces (before after : Shared) (spans : Nat → PartSpan) (side : Side) (total : Nat)
    (id : OperationId) (lane : List Chore) (worker later : Activity) (count : Nat) : Prop :=
  ∃ tasks next, before.Queues after id tasks ∧ worker.Issues side spans count next ∧
    Pace spans side total id (after.operation id) [] (lane ++ tasks) later next

section

variable {shared after : Shared} {surroundings : Surroundings} {worker later : Activity}
  {spans : Nat → PartSpan} {side : Side} {total count : Nat} {id : OperationId}
  {lane : List Chore} (inside : id < shared.operations.length)

lemma Shared.queues_nothing (same : after.queue = shared.queue) : shared.Queues after id [] := by
  simp [Queues, same]

/-- A turn that brings nothing into the queue and makes no call for a part. -/
lemma paces_quietly (quiet : worker.IsQuiet) (queue : after.queue = shared.queue)
    (pace : Pace spans side total id (after.operation id) [] lane later count) :
    shared.Paces after spans side total id lane worker later count :=
  ⟨[], count, Shared.queues_nothing queue, quiet.issues side spans count,
    (List.append_nil lane).symm ▸ pace⟩

include inside in
/-- The hand that opens the parts. -/
lemma paces_of_opening (own : worker.operation? = some id) (opens : worker.opens? = some side)
    (several : 0 < total) (quiet : worker.IsQuiet)
    (fresh : (shared.operation id).progress? side = some { total := total })
    (cut : (shared.operation id).span side = spans)
    (work : shared.work surroundings worker = some (after, later)) :
    shared.Paces after spans side total id [] worker later 0 := by
  obtain ⟨effective, lead⟩ := Activity.lead_of_opens? opens
  have quietly := (Shared.follows_of_work own work).quiet lead
  refine paces_quietly quiet (queue_of_effective own effective work) ?_
  cases opened_of_work inside own opens fresh work with
  | opens goes fresh same =>
      exact .opening rfl rfl goes quietly fresh ((Operation.span_of_moving same).trans cut) rfl
  | fails ends => exact .ceased rfl (List.forall_mem_nil _) (.inl ends) quietly (Nat.zero_le _)
  | feeds goes flows same =>
      exact .flowing rfl rfl flows rfl ((Operation.span_of_moving same).trans cut)
        (.free (.fresh several) (.inr goes) rfl)

section

variable {progress : Progress} {queued : List Nat} {index : Nat}
  (flows : (shared.operation id).Flows progress side) (all : progress.total = total)
  (cut : (shared.operation id).span side = spans)
  (tasks : lane = queued.map ((shared.operation id).moving side))
include flows all cut tasks

/-- A turn that leaves everything but the worker where it is. -/
lemma paces_in_place (silent : worker.issue? = none)
    (serving : Serving (shared.operation id) id side progress queued later count) :
    shared.Paces shared spans side total id lane worker later count :=
  paces_quietly (.of_silent silent) rfl (.flowing rfl tasks flows all cut serving)

include inside in
/-- A turn that changes only how the parts get on. -/
lemma paces_of_progress {other : Progress} (silent : worker.issue? = none)
    (same : other.total = progress.total)
    (serving : Serving ((shared.operation id).withProgress other side) id side other queued later
      count) :
    shared.Paces (shared.setProgress id side other) spans side total id lane worker later
      count := by
  refine paces_quietly (.of_silent silent) rfl ?_
  rw [Shared.operation_setProgress inside]
  have moving : ((shared.operation id).withProgress other side).moving side =
      (shared.operation id).moving side := Operation.moving_withProgress
  exact .flowing rfl (moving ▸ tasks) flows.withProgress (same.trans all)
    ((Operation.span_of_moving moving).trans cut) serving

include inside in
lemma paces_of_feeding (orderly : progress.Orderly 0 queued [])
    (work : shared.work surroundings (.feeding id side) = some (after, later)) :
    shared.Paces after spans side total id lane (.feeding id side) later progress.succeeded := by
  have fed := Option.some.inj work
  rw [Shared.feed_of_flows flows] at fed
  split at fed
  · next index other handed =>
      obtain ⟨rfl, rfl⟩ := Prod.mk.inj fed
      obtain ⟨orderly, same⟩ := orderly.handOut handed
      obtain ⟨total, succeeded⟩ := Progress.counts_of_gist same
      exact paces_of_progress inside flows all cut tasks rfl total
        (.holding orderly (.inl rfl) succeeded.symm)
  · obtain ⟨rfl, rfl⟩ := Prod.mk.inj fed
    exact paces_in_place flows all cut tasks rfl (.free orderly (.inl rfl) rfl)

include inside in
lemma paces_of_deferring (orderly : progress.Orderly 0 queued [index])
    (work : shared.work surroundings (.deferring id side index) = some (after, later)) :
    shared.Paces after spans side total id lane (.deferring id side index) later
      progress.succeeded := by
  have deferred := Option.some.inj work
  rw [Shared.defer_of_flows flows] at deferred
  split at deferred
  · next other back =>
      obtain ⟨rfl, rfl⟩ := Prod.mk.inj deferred
      obtain ⟨orderly, -, same⟩ := orderly.putBack back
      obtain ⟨total, succeeded⟩ := Progress.counts_of_gist same
      exact paces_of_progress inside flows all cut tasks rfl total
        (.free orderly (.inl rfl) succeeded.symm)
  · obtain ⟨rfl, rfl⟩ := Prod.mk.inj deferred
    exact paces_in_place flows all cut tasks rfl
      (.holding orderly (.inr (.inr (.inl rfl))) rfl)

/-- The part that a worker holds comes last into the queue. -/
lemma paces_of_queued {entry : Entry Job} {queue : Queue Job}
    (orderly : progress.Orderly 0 queued [index])
    (item : entry.item = .run ⟨id, (shared.operation id).moving side index⟩)
    (quiet : worker.IsQuiet) (free : later = .idle ∨ later = .feeding id side)
    (pushed : queue = shared.queue.push .immediate entry.item) :
    shared.Paces (shared.accept entry queue) spans side total id lane worker later
      progress.succeeded := by
  refine ⟨[(shared.operation id).moving side index], progress.succeeded, ?_,
    quiet.issues side spans _, .flowing rfl ?_ flows all cut (.free orderly.enqueue free rfl)⟩
  · simp [Shared.Queues, Shared.accept, Shared.note, pushed, item, Queue.push]
  · simp only [tasks, List.map_append]
    rfl

lemma paces_of_offering (orderly : progress.Orderly 0 queued [index])
    (work : shared.work surroundings (.offering id side index) = some (after, later)) :
    shared.Paces after spans side total id lane (.offering id side index) later
      progress.succeeded := by
  have offered := Option.some.inj work
  simp only [Shared.offer] at offered
  split at offered
  · next queue accepted =>
      obtain ⟨rfl, rfl⟩ := Prod.mk.inj offered
      exact paces_of_queued flows all cut tasks orderly rfl (.of_silent rfl) (.inr rfl)
        (Queue.eq_push_of_insert accepted)
  · obtain ⟨rfl, rfl⟩ := Prod.mk.inj offered
    exact paces_in_place flows all cut tasks rfl (.holding orderly (.inr (.inl rfl)) rfl)
  · next error refused =>
      obtain ⟨rfl, rfl⟩ := Prod.mk.inj offered
      exact paces_in_place flows all cut tasks rfl
        (.holding orderly (.inr (.inr (.inr ⟨error, rfl⟩))) rfl)

lemma paces_of_forcing (orderly : progress.Orderly 0 queued [index])
    (work : shared.work surroundings (.forcing id side index) = some (after, later)) :
    shared.Paces after spans side total id lane (.forcing id side index) later
      progress.succeeded := by
  have forced := Option.some.inj work
  simp only [Shared.force] at forced
  split at forced
  · next queue accepted =>
      obtain ⟨rfl, rfl⟩ := Prod.mk.inj forced
      exact paces_of_queued flows all cut tasks orderly rfl (.of_silent rfl) (.inl rfl)
        (Queue.eq_push_of_insertAnyway accepted)
  · next full => exact absurd full (insertAnyway_ne_full _ _ _)
  · next error refused =>
      obtain ⟨rfl, rfl⟩ := Prod.mk.inj forced
      exact paces_in_place flows all cut tasks rfl
        (.holding orderly (.inr (.inr (.inr ⟨error, rfl⟩))) rfl)

include inside in
/-- The part that the worker has taken is entered, and its call is made next. -/
lemma paces_of_entering (orderly : progress.Orderly 0 (index :: queued) [])
    (work : shared.work surroundings
      (.starting id ((shared.operation id).moving side index)) = some (after, later)) :
    shared.Paces after spans side total id lane
      (.starting id ((shared.operation id).moving side index)) later progress.succeeded := by
  obtain ⟨enters, running⟩ := orderly.enter
  have follows := Shared.follows_of_work rfl work
  obtain ⟨next, started, moves, -⟩ := Shared.start_of_flows flows enters index
  obtain ⟨rfl, rfl⟩ := Prod.mk.inj (started.symm.trans (Option.some.inj work))
  have part : ((shared.operation id).moving side index).part? =
      some ((shared.operation id).span side index) := Activity.part?_partChore ..
  have moving : ((shared.operation id).withProgress
      { progress with running := progress.running + 1 } side).moving side =
        (shared.operation id).moving side := Operation.moving_withProgress
  refine paces_of_progress inside flows all cut tasks rfl rfl ?_
  rcases follows.calls_of_start part moves with calls | loses
  · refine .calling running ?_ rfl
    rw [Operation.span_of_moving moving]
    exact orderly.head ▸ calls
  · exact .losing running loses (Nat.le_of_lt orderly.left)

/-- The call for a part is made, and the part is read before if it has to be. -/
lemma paces_of_calling (orderly : progress.Orderly 1 queued [])
    (calls : worker.Calls id side ((shared.operation id).span side progress.succeeded))
    (work : shared.work surroundings worker = some (after, later)) :
    shared.Paces after spans side total id lane worker later progress.succeeded := by
  cases calls with
  | reads uploadId uploads =>
      subst uploads
      have follows := Shared.follows_of_work rfl work
      obtain ⟨rfl, rfl⟩ := Prod.mk.inj (Option.some.inj work)
      refine paces_in_place flows all cut tasks rfl ?_
      rcases follows.calls_of_read with calls | loses
      · exact .calling orderly calls rfl
      · exact .losing orderly loses (Nat.le_of_lt orderly.left)
  | @sends errand store call toward one =>
      obtain ⟨rfl, rfl⟩ := Prod.mk.inj (Option.some.inj work)
      refine ⟨[], progress.succeeded + 1, Shared.queues_nothing rfl, ?_, ?_⟩
      · have part : (Activity.sending id errand store call).issue?.filter Call.isPart =
            some call := by
          simp [Activity.issue?, Option.filter, one.isPart]
        rw [Activity.Issues, part]
        exact ⟨cut ▸ one, rfl⟩
      · rw [List.append_nil]
        exact .flowing rfl tasks flows all cut (.called orderly toward rfl)

/-- A part whose call was made goes on being moved. -/
lemma paces_of_called (orderly : progress.Orderly 1 queued [])
    (own : worker.operation? = some id) (called : worker.called? = some side)
    (unreported : ∀ report, worker ≠ .reporting id report)
    (work : shared.work surroundings worker = some (after, later)) :
    shared.Paces after spans side total id lane worker later (progress.succeeded + 1) := by
  have follows := Shared.follows_of_work own work
  have few : progress.succeeded + 1 ≤ progress.total := orderly.left
  have quiet : worker.IsQuiet ∧ worker.revises = false ∧ worker.isEffective = true := by
    cases worker
    case reporting own' report =>
      obtain rfl := Option.some.inj own
      exact absurd rfl (unreported report)
    case awaiting | writing => exact ⟨.of_silent rfl, rfl, rfl⟩
    all_goals cases called
  obtain ⟨quiet, frame, effective⟩ := quiet
  have same : after.operation id = shared.operation id := by
    rw [Shared.operation, Shared.operations_of_work frame work, Shared.operation]
  refine paces_quietly quiet (queue_of_effective own effective work) ?_
  rw [same]
  refine .flowing rfl tasks flows all cut ?_
  rcases follows.called called unreported with goesOn | loses
  · exact .called orderly goesOn rfl
  · exact .losing orderly loses few

include inside in
/-- A part has succeeded: the next one is looked for, or that was the last. -/
lemma paces_of_finished {report : Report} (orderly : progress.Orderly 1 queued [])
    (moved : report.moved? = some side)
    (work : shared.work surroundings (.reporting id report) = some (after, later)) :
    shared.Paces after spans side total id lane (.reporting id report) later
      (progress.succeeded + 1) := by
  refine paces_quietly (.of_silent rfl) (queue_of_effective rfl rfl work) ?_
  rcases finished_of_work inside flows moved work with
    ⟨pending, rfl, flowing, same⟩ | ⟨closed, followUp, last, -, rfl⟩
  · exact .flowing rfl (same ▸ tasks) flowing all ((Operation.span_of_moving same).trans cut)
      (.free (orderly.finish pending) (.inr rfl) rfl)
  · obtain ⟨rfl, -⟩ := orderly.finishLast last
    refine .ceased rfl ?_ (.inl (.follows followUp)) (.of_silent rfl) (all ▸ orderly.left)
    rw [tasks]
    exact List.forall_mem_nil _

omit cut in
include inside in
/-- A part is lost: that ends all parts, and those in the queue will be skipped. -/
lemma paces_of_lost {error : Failure} {began : Bool} (few : count ≤ progress.total)
    (closes : ∃ closed, (progress.partLost error.message began).claimEnd? = some closed ∧
      closed.failure ≠ none ∧ closed.endClaimed = true)
    (work : shared.work surroundings (.reporting id (.partLost side error began)) =
      some (after, later)) :
    shared.Paces after spans side total id lane (.reporting id (.partLost side error began)) later
      count := by
  obtain ⟨closed, last, -, claimed⟩ := closes
  obtain ⟨found, followUp, rfl⟩ := lost_of_work inside flows last work
  refine paces_quietly (.of_silent rfl) (queue_of_effective rfl rfl work) ?_
  refine .ceased rfl ?_ (.inl (.follows followUp)) (.of_silent rfl) (all ▸ few)
  rw [tasks]
  intro chore present
  obtain ⟨index, -, rfl⟩ := List.mem_map.1 present
  exact .inr ⟨Chore.side?_partChore .., closed, found, claimed⟩

include inside in
/-- A turn of the worker while the parts are under way. -/
lemma paces_of_serving (own : worker.operation? = some id)
    (serving : Serving (shared.operation id) id side progress queued worker count)
    (work : shared.work surroundings worker = some (after, later)) :
    shared.Paces after spans side total id lane worker later count := by
  cases serving with
  | free orderly free made =>
      rw [made]
      rcases free with rfl | rfl
      · cases own
      · exact paces_of_feeding inside flows all cut tasks orderly work
  | holding orderly holds made =>
      rw [made]
      rcases holds with rfl | rfl | rfl | ⟨error, rfl⟩
      · exact paces_of_offering flows all cut tasks orderly work
      · exact paces_of_deferring inside flows all cut tasks orderly work
      · exact paces_of_forcing flows all cut tasks orderly work
      · exact paces_of_lost inside flows all tasks (Nat.le_of_lt orderly.left) orderly.refuse
          work
  | entering orderly enters made =>
      rw [made]
      subst enters
      exact paces_of_entering inside flows all cut tasks orderly work
  | calling orderly calls made =>
      rw [made]
      exact paces_of_calling flows all cut tasks orderly calls work
  | called orderly called made =>
      rw [made]
      -- Until its report a part is moved without a change to the operation.
      by_cases reports : ∃ report, worker = .reporting id report
      · obtain ⟨report, rfl⟩ := reports
        exact paces_of_finished inside flows all cut tasks orderly called work
      · exact paces_of_called flows all cut tasks orderly own called
          (fun report reporting => reports ⟨report, reporting⟩) work
  | losing orderly loses few =>
      obtain ⟨error, rfl⟩ := loses
      exact paces_of_lost inside flows all tasks few orderly.lose work

end

/-! ## After the parts -/

lemma Operation.Ceases.mono {operation other : Operation} {chore : Chore}
    (ceases : operation.Ceases side chore)
    (keeps : operation.Claimed side → other.Claimed side) : other.Ceases side chore :=
  ceases.imp_right fun ⟨part, claimed⟩ => ⟨part, keeps claimed⟩

include inside in
lemma claimed_setUpload {upload next : Upload}
    (set : (shared.operation id).upload = some upload)
    (keeps : upload.progress.endClaimed = true → next.progress.endClaimed = true)
    (claimed : (shared.operation id).Claimed side) :
    ((shared.setUpload id next).operation id).Claimed side := by
  obtain ⟨progress, found, ended⟩ := claimed
  rw [Shared.operation_setUpload inside]
  cases side with
  | upload =>
      obtain ⟨_, same, rfl⟩ := Option.map_eq_some_iff.1 found
      obtain rfl := Option.some.inj (set.symm.trans same)
      exact ⟨next.progress, rfl, keeps ended⟩
  | download => exact ⟨progress, found, ended⟩

include inside in
lemma claimed_setDownload {download next : Download}
    (set : (shared.operation id).download = some download)
    (keeps : download.progress.endClaimed = true → next.progress.endClaimed = true)
    (claimed : (shared.operation id).Claimed side) :
    ((shared.setDownload id next).operation id).Claimed side := by
  obtain ⟨progress, found, ended⟩ := claimed
  rw [Shared.operation_setDownload inside]
  cases side with
  | upload => exact ⟨progress, found, ended⟩
  | download =>
      obtain ⟨_, same, rfl⟩ := Option.map_eq_some_iff.1 found
      obtain rfl := Option.some.inj (set.symm.trans same)
      exact ⟨next.progress, rfl, keeps ended⟩

include inside in
/-- A hand that has nothing to do with parts leaves their end claimed. -/
lemma claimed_of_work (own : worker.operation? = some id) (effective : worker.isEffective = true)
    (lead : worker.role? = none) (opens : worker.opens? = none)
    (claimed : (shared.operation id).Claimed side)
    (work : shared.work surroundings worker = some (after, later)) :
    (after.operation id).Claimed side := by
  by_cases frame : worker.revises = false
  · rw [Shared.operation, Shared.operations_of_work frame work]
    exact claimed
  -- Of what changes the operation, nothing that is left to such a hand takes the claim back.
  · cases worker
    case starting own' chore =>
      obtain rfl := Option.some.inj own
      obtain ⟨rfl, -⟩ := Prod.mk.inj (Option.some.inj work)
      cases chore
      case createUpload | createLocalFile => cases opens
      case uploadPart | copyPart | downloadPart => cases lead
      case completeDownload =>
        simp only [Shared.startFinish]
        split
        · exact claimed
        · exact claimed
        · next download path set _ => exact claimed_setDownload inside set id claimed
      case delete =>
        simp only [Shared.startDelete]
        repeat' split
        all_goals exact claimed
      all_goals exact claimed
    case reporting own' report =>
      obtain rfl := Option.some.inj own
      obtain ⟨rfl, -⟩ := Prod.mk.inj (Option.some.inj work)
      split
      · next upload _ set =>
          cases report
          case created => cases opens
          case partDone | partLost => cases lead
          case creationFailed => exact claimed_setUpload inside set (fun _ => rfl) claimed
          case completionFailed =>
            refine claimed_setUpload inside set (fun ended => ?_) claimed
            unfold Upload.completionFailed
            split <;> exact ended
          case completed | abortEnded => exact claimed_setUpload inside set id claimed
          all_goals exact claimed
      · next download _ set =>
          cases report
          case opened => cases opens
          case partWritten | partLost => cases lead
          all_goals exact claimed
      · exact claimed
    case feeding | deferring => cases effective
    all_goals exact absurd rfl frame

/-- A hand that leads to a follow-up queues it, or is told what to do instead. -/
lemma paces_of_following {followUp : FollowUp}
    (tasks : ∀ chore ∈ lane, (shared.operation id).Ceases side chore) (few : count ≤ total)
    (work : shared.work surroundings (.following id followUp) = some (after, later)) :
    shared.Paces after spans side total id lane (.following id followUp) later count := by
  have quiet : (Activity.following id followUp).IsQuiet := .of_silent rfl
  have followed := Option.some.inj work
  simp only [Shared.follow] at followed
  split at followed
  · next queue accepted =>
      obtain ⟨rfl, rfl⟩ := Prod.mk.inj followed
      refine ⟨[followUp.chore], count, ?_, quiet.issues side spans count, ?_⟩
      · simp [Shared.Queues, Shared.accept, Shared.note, Queue.eq_push_of_insertAnyway accepted,
          Operation.followUpEntry, Operation.entry, Queue.push]
      · refine .ceased rfl (List.forall_mem_append.2 ⟨tasks, ?_⟩) (.inl .rests) (.of_silent rfl) few
        exact List.forall_mem_singleton.2 (FollowUp.ceases _ side followUp)
  · next full => exact absurd full (insertAnyway_ne_full _ _ _)
  · next error refused =>
      obtain ⟨rfl, rfl⟩ := Prod.mk.inj followed
      refine paces_quietly quiet rfl (.ceased rfl tasks (.inl ?_) ?_ few)
      · cases followUp <;> exact .leads rfl rfl rfl
      · cases followUp <;> exact .of_silent rfl

include inside in
/-- A turn of the worker when no part is moved any more. -/
lemma paces_of_ceased (own : worker.operation? = some id)
    (tasks : ∀ chore ∈ lane, (shared.operation id).Ceases side chore)
    (ceases : worker.Ceases (shared.operation id) id side) (quiet : worker.IsQuiet)
    (few : count ≤ total) (work : shared.work surroundings worker = some (after, later)) :
    shared.Paces after spans side total id lane worker later count := by
  rcases ceases with ends | ⟨chore, rfl, part, progress, found, claimed⟩
  · cases ends with
    | rests => cases own
    | follows followUp => exact paces_of_following tasks few work
    | leads effective lead opens =>
        have follows := Shared.follows_of_work own work
        refine paces_quietly quiet (queue_of_effective own effective work) ?_
        refine .ceased rfl (fun chore present => ?_) (.inl (follows.ends effective lead opens))
          (follows.quiet lead) few
        exact (tasks chore present).mono fun claimed =>
          claimed_of_work inside own effective lead opens claimed work
  -- A part that was in the queue when the end was claimed is skipped.
  · have skipped := Operation.skips_of_endClaimed found claimed part shared id rfl
    obtain ⟨rfl, rfl⟩ := Prod.mk.inj (skipped.symm.trans (Option.some.inj work))
    exact paces_quietly quiet rfl (.ceased rfl tasks (.inl .rests) (.of_silent rfl) few)

include inside in
/-- Every turn of the worker keeps the pace. -/
theorem Pace.turn {first : List Chore} (several : 0 < total)
    (pace : Pace spans side total id (shared.operation id) first lane worker count)
    (own : worker.operation? = some id)
    (work : shared.work surroundings worker = some (after, later)) :
    first = [] ∧ shared.Paces after spans side total id lane worker later count := by
  cases pace with
  | early waits opens none idle =>
      subst idle
      cases own
  | opening taken none opens quiet fresh cut uncalled =>
      subst none uncalled
      exact ⟨taken, paces_of_opening inside own opens several quiet fresh cut work⟩
  | flowing taken tasks flows all cut serving =>
      exact ⟨taken, paces_of_serving inside flows all cut tasks own serving work⟩
  | ceased taken tasks ceases quiet few =>
      exact ⟨taken, paces_of_ceased inside own tasks ceases quiet few work⟩

end
end Pool
end BulkTransfer
