import BulkTransfer.Proofs.Download.Course
import BulkTransfer.Proofs.Run.Messages
import BulkTransfer.Proofs.Upload.Closing

/-!
# The outcome of every record

However its operation is done, and whether or not it could be planned, every record of a batch has
one outcome at the end of a run: its operation has ended once, with one message that tells of the
record, and that message is what the tally counts it by (`Run.outcome_of_each`).
-/

namespace BulkTransfer

open Pool Multipart

namespace Pool

variable {parts : Nat} {record : Record} {id : OperationId} {object : ObjectName} {view : View}

lemma WholeCourse.settledOnce (course : WholeCourse id view) (gone : view.hands = 0)
    (admitted : view.proposed = none) : SettledOnce id view.history := by
  cases course with
  | proposed operation plain => cases admitted
  | alone operation course => exact course.settledOnce gone

lemma UploadCourse.settledOnce (course : UploadCourse parts record id object view)
    (gone : view.hands = 0) (admitted : view.proposed = none) : SettledOnce id view.history := by
  obtain ⟨operation, proposed, hands, history⟩ := view
  cases course.stage with
  | opening set opening =>
      cases opening with
      | proposed => cases admitted
      | _ => exact absurd gone (Multiset.singleton_ne_zero _)
  | @uncreated upload since earlier set total admitted alone nameless split =>
      obtain ⟨message, once⟩ := alone.settledOnce gone
      obtain rfl : history = since ++ earlier := split
      refine ⟨message, ?_⟩
      rw [List.filter_append, once]
      cases nameless <;> rfl
  | going set admitted going => exact going.settledOnce gone

/-- A download that nobody leads any more after the end of its parts has ended once. -/
lemma Ending.settledOnce {claimed : Bool} {file : Option FileId} {leads : Multiset Activity}
    {ends : List Event} (ending : Ending id claimed file leads ends) (unled : leads = 0)
    (concluded : claimed = true) : ∃ message, ends = [.settled id message] := by
  cases ending with
  | parts => cases concluded
  | closing | closed => exact absurd unled (Multiset.singleton_ne_zero _)
  | ended message => exact ⟨message, rfl⟩

lemma DownloadCourse.settledOnce (course : DownloadCourse parts record id view)
    (gone : view.hands = 0) (admitted : view.proposed = none) : SettledOnce id view.history := by
  obtain ⟨operation, proposed, hands, history⟩ := view
  cases course.stage with
  | opening set opening =>
      cases opening with
      | proposed => cases admitted
      | _ => exact absurd gone (Multiset.singleton_ne_zero _)
  | unopened admitted alone => exact alone.settledOnce gone
  | @loading download set admitted loading =>
      obtain rfl : hands = 0 := gone
      have claimed : download.progress.endClaimed = true := by
        cases claimed : download.progress.endClaimed with
        | true => rfl
        | false => exact absurd rfl (loading.accounts.ne_zero claimed)
      exact loading.ending.settledOnce rfl claimed

/-- The message that an event sends, if it does. -/
def Event.message? : Event → Option Notice
  | .settled _ message => some message
  | _ => none

/-- The messages are those of the ends of operations. -/
lemma Shared.messages_perm (shared : Shared) :
    shared.messages.Perm ((shared.events.filter Event.isSettled).filterMap Event.message?) := by
  have sends (event : Event) : event.message? =
      if event.isSettled then event.message? else none := by
    cases event <;> rfl
  have kept : (shared.events.filter Event.isSettled).filterMap Event.message? =
      shared.events.filterMap Event.message? := by
    rw [List.filterMap_filter]
    exact List.filterMap_congr fun event _ => (sends event).symm
  have same : shared.messages = shared.events.reverse.filterMap Event.message? :=
    List.filterMap_congr fun event _ => by cases event <;> rfl
  rw [kept, same]
  exact (List.reverse_perm shared.events).filterMap Event.message?

end Pool

namespace Run

variable {batch : Batch} {disk : Disk} {records : List Record} {moves : List Move} {run : Run}
  {id : OperationId} {record : Record}

/-- What is planned as a download in parts runs the course of one. -/
lemma download_course {operation : Operation} {chore : Chore} {download : Download}
    (valid : batch.plan.Valid) (listed : records[id]? = some record)
    (planned : batch.plan.resolve record = .ok (operation, chore))
    (split : operation.download = some download)
    (reached : (batch.start disk records).steps moves = some run)
    (inside : id < run.shared.operations.length) :
    DownloadCourse download.progress.total record id (run.view id) := by
  cases planned_of_resolve planned with
  | whole => cases split
  | upload => cases split
  | @download object path parts chunksize source destination cut sized =>
      obtain rfl := Option.some.inj split
      obtain ⟨-, -, several⟩ := Limits.of_split valid.limits sized cut
      refine each_course listed (fun view begins => ?_) (fun run move next inside course seen =>
        course.step inside several seen) reached inside
      cases begins with
      | refused error tally resolved =>
          rw [planned] at resolved
          cases resolved
      | proposed operation chore resolved begun =>
          rw [planned] at resolved
          obtain ⟨rfl, rfl⟩ := Prod.mk.inj (Except.ok.inj resolved)
          rw [begun]
          exact ⟨rfl, .opening rfl .proposed⟩

/-- What is planned as a whole, or cannot be planned, is done by one hand. -/
lemma whole_course (listed : records[id]? = some record)
    (plain : ∀ operation chore, batch.plan.resolve record = .ok (operation, chore) →
      chore.isPlain = true)
    (reached : (batch.start disk records).steps moves = some run)
    (inside : id < run.shared.operations.length) : WholeCourse id (run.view id) := by
  refine each_course listed (fun view begins => ?_) (fun run move next inside course seen =>
    course.step inside seen) reached inside
  cases begins with
  | refused error tally resolved begun =>
      rw [begun]
      exact .alone _ (.concluded _ (List.forall_mem_nil _))
  | proposed operation chore resolved begun =>
      rw [begun]
      exact .proposed operation (plain operation chore resolved)

/-- An operation that nobody works on, and whose first task does not wait to be admitted, has ended
once. -/
lemma settledOnce_of_gone (valid : batch.plan.Valid)
    (reached : (batch.start disk records).steps moves = some run)
    (listed : records[id]? = some record) (inside : id < run.shared.operations.length)
    (gone : run.hands id = 0) (admitted : run.proposed id = none) :
    SettledOnce id (run.shared.history id) := by
  cases resolved : batch.plan.resolve record with
  | error error =>
      have plain (operation : Operation) (chore : Chore)
          (planned : batch.plan.resolve record = .ok (operation, chore)) :
          chore.isPlain = true := by
        rw [resolved] at planned
        cases planned
      exact (whole_course listed plain reached inside).settledOnce gone admitted
  | ok result =>
      obtain ⟨operation, chore⟩ := result
      cases planned_of_resolve resolved with
      | @whole action isAction small =>
          have plain (operation : Operation) (chore : Chore)
              (planned : batch.plan.resolve record = .ok (operation, chore)) :
              chore.isPlain = true := by
            rw [resolved] at planned
            obtain ⟨-, rfl⟩ := Prod.mk.inj (Except.ok.inj planned)
            cases action <;> rfl
          exact (whole_course listed plain reached inside).settledOnce gone admitted
      | upload remote split sized =>
          obtain ⟨object, -, -, course⟩ :=
            upload_course valid listed resolved rfl reached inside
          exact course.settledOnce gone admitted
      | download source destination split sized =>
          have course := download_course valid listed resolved rfl reached inside
          exact course.settledOnce gone admitted

/-- At the end of a run the operation of every record has ended once. -/
lemma settledOnce_at_end (valid : batch.plan.Valid)
    (reached : (batch.start disk records).steps moves = some run) (ended : run.hasEnded = true)
    (listed : records[id]? = some record) : SettledOnce id (run.shared.history id) := by
  obtain ⟨all, idle⟩ := at_end valid reached ended
  obtain ⟨gone, admitted⟩ := idle id
  exact settledOnce_of_gone valid reached listed (inside_at_end all listed) gone admitted

/-- The ends of the operations of a run in which each has ended once, in any order. -/
lemma settled_perm {notice : OperationId → Notice} {count : Nat}
    (once : ∀ id, id < count →
      (run.shared.history id).filter Event.isSettled = [.settled id (notice id)])
    (known : ∀ id message, .settled id message ∈ run.shared.events → id < count) :
    (run.shared.events.filter Event.isSettled).Perm
      ((List.range count).map fun id => .settled id (notice id)) := by
  have only {id : OperationId} {message : Notice}
      (present : .settled id message ∈ run.shared.events) :
      message = notice id := by
    have ended : .settled id message ∈ (run.shared.history id).filter Event.isSettled :=
      List.mem_filter.2 ⟨(mem_history rfl).2 present, rfl⟩
    rw [once id (known id message present)] at ended
    exact (Event.settled.inj (List.mem_singleton.1 ended)).2
  have unrepeated : (run.shared.events.filter Event.isSettled).Nodup := by
    refine List.nodup_iff_count_le_one.2 fun event => ?_
    by_cases present : event ∈ run.shared.events.filter Event.isSettled
    · obtain ⟨inRun, settled⟩ := List.mem_filter.1 present
      cases event
      case settled id message =>
        have alone := once id (known id message inRun)
        have own : run.shared.history id =
            run.shared.events.filter fun event => event.operation? = some id := rfl
        have count : (run.shared.history id).count (.settled id message) =
            run.shared.events.count (.settled id message) := by
          rw [own]
          exact List.count_filter (by simp [Event.operation?])
        rw [List.count_filter rfl, ← count,
          ← List.count_filter (show (Event.settled id message).isSettled = true from rfl), alone]
        exact List.count_le_length
      all_goals cases settled
    · rw [List.count_eq_zero_of_not_mem present]
      exact Nat.zero_le 1
  have distinct : ((List.range count).map fun id => Event.settled id (notice id)).Nodup :=
    List.nodup_range.map_on fun id _ other _ same => (Event.settled.inj same).1
  refine (List.perm_ext_iff_of_nodup unrepeated distinct).2 fun event => ?_
  rw [List.mem_filter, List.mem_map]
  constructor
  · rintro ⟨present, settled⟩
    cases event
    case settled id message =>
      exact ⟨id, List.mem_range.2 (known id message present), by rw [only present]⟩
    all_goals cases settled
  · rintro ⟨id, there, rfl⟩
    have ended : .settled id (notice id) ∈ (run.shared.history id).filter Event.isSettled := by
      rw [once id (List.mem_range.1 there)]
      exact List.mem_singleton_self _
    exact ⟨(mem_history rfl).1 (List.mem_filter.1 ended).1, rfl⟩

/-- At the end of a run there is one notice for every record: the operation of the record has ended
once, with the notice, which tells of the record; the messages sent are the notices, and the tally
counts each of them once, so that it counts as many operations as there are records. -/
theorem outcome_of_each (valid : batch.plan.Valid)
    (reached : (batch.start disk records).steps moves = some run) (ended : run.hasEnded = true) :
    ∃ notices : List Notice, notices.length = records.length ∧
      (∀ id record, records[id]? = some record → ∃ notice, notices[id]? = some notice ∧
        (run.shared.history id).filter Event.isSettled = [.settled id notice] ∧
          Tells batch.plan record notice) ∧
      run.shared.messages.Perm notices ∧ run.shared.tally = Tally.ofNotices notices ∧
        run.shared.tally.total = records.length := by
  have some (id : OperationId) : ∃ notice, id < records.length →
      (run.shared.history id).filter Event.isSettled = [.settled id notice] := by
    by_cases inside : id < records.length
    · obtain ⟨notice, once⟩ :=
        settledOnce_at_end valid reached ended (List.getElem?_eq_getElem inside)
      exact ⟨notice, fun _ => once⟩
    · exact ⟨.warning "", fun there => absurd there inside⟩
  choose notice once using some
  have known (id : OperationId) (message : Notice)
      (present : .settled id message ∈ run.shared.events) : id < records.length := by
    obtain ⟨record, listed, -⟩ := tells_of_steps reached present
    exact (List.getElem?_eq_some_iff.1 listed).1
  have messages : run.shared.messages.Perm ((List.range records.length).map notice) := by
    have sent := ((settled_perm once known).filterMap Event.message?)
    have given : ((List.range records.length).map fun id =>
        Event.settled id (notice id)).filterMap Event.message? =
          (List.range records.length).map notice := by
      rw [List.filterMap_map]
      change (List.range records.length).filterMap (Option.some ∘ notice) = _
      rw [List.filterMap_eq_map]
    rw [given] at sent
    exact (run.shared.messages_perm).trans sent
  have balanced : run.shared.tally = Tally.ofNotices ((List.range records.length).map notice) :=
    (sound_of_steps reached).1.balanced.trans (Tally.ofNotices_perm messages)
  refine ⟨(List.range records.length).map notice, by simp, ?_, messages, balanced, ?_⟩
  · intro id record listed
    obtain ⟨inside, -⟩ := List.getElem?_eq_some_iff.1 listed
    have ended := once id inside
    refine ⟨notice id, by simp [inside], ended, ?_⟩
    have present : .settled id (notice id) ∈ (run.shared.history id).filter Event.isSettled := by
      rw [ended]
      exact List.mem_singleton_self _
    have present := (mem_history rfl).1 (List.mem_filter.1 present).1
    obtain ⟨own, same, tells⟩ := tells_of_steps reached present
    rw [listed] at same
    obtain rfl := Option.some.inj same
    exact tells
  · rw [balanced, Tally.total_ofNotices]
    simp

/-- A copy in two parts has one outcome. -/
theorem outcome_of_smallCopy :
    ∃ notices : List Notice, notices.length = 1 ∧
      (Batch.smallRun { answersAll := true } .empty Batch.smallCopy).shared.messages.Perm notices ∧
        (Batch.smallRun { answersAll := true } .empty Batch.smallCopy).shared.tally =
          Tally.ofNotices notices := by
  have ended : (Batch.smallRun { answersAll := true } .empty Batch.smallCopy).hasEnded = true := by
    decide +kernel
  obtain ⟨notices, length, -, messages, tally, -⟩ :=
    outcome_of_each Batch.small_valid (Batch.steps_smallMoves ..) ended
  exact ⟨notices, length, messages, tally⟩

end Run
end BulkTransfer
