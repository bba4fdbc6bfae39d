import BulkTransfer.Proofs.Download.Conversion
import BulkTransfer.Proofs.Run.TurnEvents
import BulkTransfer.Proofs.Run.Turns
import BulkTransfer.Proofs.Upload.UnderWay

/-!
# Parts that were written out

A part of a download succeeds when its body was written to the file up to its end. The spans of the
parts that were handed out are different ones: each has been put back, is with a hand, or was
reported as written, and of a part that was reported a turn has met the end of the body (`Places`).
Every step of a run keeps this (`Landing.step`), so when as many parts have been reported as there
are, the body of every part was written out (`Places.writtenOut_of_all`).
-/

namespace BulkTransfer

open Pool Multipart

namespace Pool

/-- The part of a download that a hand has. -/
def Activity.loads? (spans : Nat → PartSpan) : Activity → Option PartSpan
  | .offering _ .download index | .deferring _ .download index => some (spans index)
  | .forcing _ .download index => some (spans index)
  | .starting _ (.downloadPart range) => some range
  | .sending _ (.fetchPart range _) .. | .awaiting _ (.fetchPart range _) .. => some range
  | .writing _ (.part range) .. => some range
  | .reporting _ (.partWritten range) => some range
  | _ => none

/-- The parts that were reported as written in some turns. -/
def reported (done : List Activity) : List PartSpan :=
  done.filterMap Activity.written?

/-- Whether the body of a whole object or of a part was written to its end in one of some turns. -/
def WrittenOut (id : OperationId) (extent : Extent) (done : List Activity) : Prop :=
  ∃ path file offset body,
    Activity.writing id extent path file offset body ∈ done ∧ Reader.isOver body = true

lemma WrittenOut.append {id : OperationId} {extent : Extent} {done : List Activity}
    (out : WrittenOut id extent done) (more : List Activity) :
    WrittenOut id extent (done ++ more) := by
  obtain ⟨path, file, offset, body, present, spent⟩ := out
  exact ⟨path, file, offset, body, List.mem_append_left more present, spent⟩

lemma reported_concat (done : List Activity) (activity : Activity) :
    (reported (done ++ [activity]) : Multiset PartSpan) =
      activity.written?.elim 0 (fun range => {range}) + reported done := by
  rw [reported, List.filterMap_append, ← Multiset.coe_add, add_comm]
  cases written : activity.written? <;> simp [written, reported]

lemma reported_of_silent {done : List Activity} {activity : Activity}
    (silent : activity.written? = none) : reported (done ++ [activity]) = reported done := by
  rw [reported, List.filterMap_append]
  simp [silent, reported]

section

variable {spans : Nat → PartSpan} {shared : Shared} {id : OperationId} {activity later : Activity}

/-- A hand that goes on has the part that it had, or none, if it is not given one. -/
lemma Follows.loads?_cases (follows : Follows shared id activity later)
    (unissued : ∀ index, later ≠ .offering id .download index) :
    later.loads? spans = none ∨ later.loads? spans = activity.loads? spans := by
  cases follows
  case handsOut side index =>
    cases side with
    | upload => exact .inl rfl
    | download => exact absurd rfl (unissued index)
  case calls makes => cases makes <;> first | exact .inl rfl | exact .inr rfl
  case waits errand _ _ => cases errand <;> first | exact .inl rfl | exact .inr rfl
  case full side _ => cases side <;> first | exact .inl rfl | exact .inr rfl
  case insists side _ => cases side <;> first | exact .inl rfl | exact .inr rfl
  case stored | transferred | stamped =>
    unfold Activity.afterTransfer
    split <;> exact .inl rfl
  case notFollowed followUp _ => cases followUp <;> exact .inl rfl
  case writes extent _ _ _ _ _ _ => cases extent <;> first | exact .inl rfl | exact .inr rfl
  case written extent _ _ _ _ _ => cases extent <;> first | exact .inl rfl | exact .inr rfl
  case unwritten extent _ _ _ _ _ => cases extent <;> exact .inl rfl
  all_goals first | exact .inl rfl | exact .inr rfl

/-- A part is about to be reported as written by the hand that has met the end of its body. -/
lemma Follows.of_written {range : PartSpan} (follows : Follows shared id activity later)
    (written : later.written? = some range) :
    ∃ path file offset body, activity = .writing id (.part range) path file offset body ∧
      Reader.isOver body = true := by
  cases follows
  case written extent path file offset body spent =>
    cases extent with
    | whole => cases written
    | part own =>
        obtain rfl := Option.some.inj written
        exact ⟨path, file, offset, body, rfl, spent⟩
  case stored | transferred | stamped =>
    unfold Activity.afterTransfer at written
    split at written <;> cases written
  case notFollowed followUp _ => cases followUp <;> cases written
  case unwritten extent _ _ _ _ _ => cases extent <;> cases written
  all_goals cases written

/-- Once a part has been reported as written, the hand has none. -/
lemma Follows.loads?_of_reported {range : PartSpan} (follows : Follows shared id activity later)
    (reports : activity.written? = some range) : later.loads? spans = none := by
  cases follows
  case rests | refills | closes => rfl
  all_goals cases reports

/-- A task that is brought into the queue has the part of the hand that brings it. -/
lemma Activity.loads?_of_queues? {operation : Operation} {chore : Chore}
    (cut : operation.span .download = spans) (queues : activity.queues? operation = some chore) :
    (starting id chore).loads? spans = none ∨
      (starting id chore).loads? spans = activity.loads? spans := by
  have part (side : Side) (index : Nat) :
      (starting id (partChore operation side (operation.span side index))).loads? spans = none ∨
        side = .download ∧
          (starting id (partChore operation side (operation.span side index))).loads? spans =
            some (spans index) := by
    cases side with
    | upload =>
        refine .inl ?_
        unfold partChore
        dsimp only
        split <;> rfl
    | download => exact .inr ⟨rfl, congrArg some (congrFun cut index)⟩
  cases activity
  case offering own side index | forcing own side index =>
    obtain rfl := Option.some.inj queues
    rcases part side index with none | ⟨rfl, same⟩
    · exact .inl none
    · exact .inr same
  case following own followUp =>
    obtain rfl := Option.some.inj queues
    cases followUp <;> exact .inl rfl
  all_goals cases queues

/-- A turn leaves hands that have at most the part of the hand whose turn it was. -/
lemma gather_leaves_le {operation : Operation} {queued : Option Chore}
    (goes : later.loads? spans = none ∨ later.loads? spans = activity.loads? spans)
    (cut : operation.span .download = spans)
    (queues : ∀ chore, queued = some chore →
      activity.queues? operation = some chore ∧ later = activity.onceQueued) :
    gather (Activity.loads? spans) (later.leaves id queued) ≤
      gather (Activity.loads? spans) {activity} := by
  have one {hand : Activity}
      (has : hand.loads? spans = none ∨ hand.loads? spans = activity.loads? spans) :
      gather (Activity.loads? spans) {hand} ≤ gather (Activity.loads? spans) {activity} := by
    rw [gather_singleton, gather_singleton]
    rcases has with none | same
    · rw [none]
      exact Multiset.zero_le _
    · rw [same]
  cases queued with
  | none =>
      unfold Activity.leaves
      split
      · simpa using one goes
      · exact Multiset.zero_le _
  | some chore =>
      obtain ⟨brings, rfl⟩ := queues chore rfl
      have nothing : activity.onceQueued.loads? spans = Option.none := by
        unfold Activity.onceQueued
        split <;> rfl
      have brought : gather (Activity.loads? spans) {.starting id chore} ≤ _ :=
        one (Activity.loads?_of_queues? cut brings)
      unfold Activity.leaves
      rw [gather_add]
      split <;> simpa [nothing] using brought

end

/-- Whether the parts of a download that were handed out are where they should be: different ones
have been put back, are with hands, and were reported as written, and those that are reported were
written out. -/
structure Places (spans : Nat → PartSpan) (id : OperationId) (done : List Activity)
    (progress : Progress) (hands : Multiset Activity) : Prop where
  known : ∀ range ∈ gather (Activity.loads? spans) hands + reported done,
    ∃ index, range = spans index
  issued : Issued progress
    ((gather (Activity.loads? spans) hands + reported done).map (·.number))
  count : (reported done).length = progress.succeeded
  out : ∀ range ∈ gather Activity.written? hands + reported done, WrittenOut id (.part range) done

namespace Places

variable {spans : Nat → PartSpan} {shared : Shared} {id : OperationId} {done : List Activity}
  {progress after : Progress} {download next : Download} {activity later : Activity}
  {rest : Multiset Activity} {queued : Option Chore} {operation : Operation}

/-- A turn in which no part is reported as written keeps this, if the hands have no parts but those
that they had, and what is told of parts put back, handed out and written stays. -/
lemma pass {hands others : Multiset Activity} (places : Places spans id done progress hands)
    (fewer : gather (Activity.loads? spans) others ≤ gather (Activity.loads? spans) hands)
    (silent : activity.written? = none)
    (out : ∀ range ∈ gather Activity.written? others, WrittenOut id (.part range)
      (done ++ [activity]))
    (deferred : after.deferred = progress.deferred) (handedOut : after.next = progress.next)
    (succeeded : after.succeeded = progress.succeeded) :
    Places spans id (done ++ [activity]) after others := by
  have same := @reported_of_silent done activity silent
  have less : gather (Activity.loads? spans) others + reported done ≤
      gather (Activity.loads? spans) hands + reported done := add_le_add_left fewer _
  constructor
  case known =>
    rw [same]
    exact fun range present => places.known range (Multiset.mem_of_le less present)
  case issued =>
    rw [same]
    exact (places.issued.fewer (Multiset.map_le_map less)).of_same deferred handedOut
  case count =>
    rw [same, succeeded]
    exact places.count
  case out =>
    intro range present
    rw [same] at present
    rcases Multiset.mem_add.1 present with new | old
    · exact out range new
    · exact (places.out range (Multiset.mem_add.2 (.inr old))).append _

/-- What is about to be reported as written after a turn was written out. -/
lemma out_turn (places : Places spans id done progress (activity ::ₘ rest))
    (follows : Follows shared id activity later) :
    ∀ range ∈ gather Activity.written? (later.leaves id queued + rest),
      WrittenOut id (.part range) (done ++ [activity]) := by
  intro range present
  rw [gather_add] at present
  rcases Multiset.mem_add.1 present with new | old
  · obtain ⟨hand, left, writes⟩ := (Multiset.mem_filterMap _ _).1 new
    rcases Activity.mem_leaves left with ⟨rfl, -⟩ | ⟨chore, -, rfl⟩
    · obtain ⟨path, file, offset, body, rfl, spent⟩ := follows.of_written writes
      exact ⟨path, file, offset, body, List.mem_append_right done (List.mem_singleton_self _),
        spent⟩
    · cases writes
  · refine (places.out range ?_).append _
    rw [gather_cons]
    exact Multiset.mem_add.2 (.inl (Multiset.mem_add.2 (.inr old)))

/-- A part is handed out. -/
lemma handOut {index : Nat}
    (places : Places spans id done progress (.feeding id .download ::ₘ rest))
    (numbered : (spans index).number = index + 1)
    (handed : progress.handOut? = some (index, after)) :
    Places spans id (done ++ [.feeding id .download]) after
      (.offering id .download index ::ₘ rest) := by
  obtain ⟨known, issued, count, out⟩ := places
  have same := @reported_of_silent done (.feeding id .download) rfl
  have succeeded : after.succeeded = progress.succeeded := by
    obtain ⟨-, -, ⟨rest, -, rfl⟩ | ⟨-, -, -, rfl⟩⟩ := Progress.of_handOut? handed <;> rfl
  simp only [gather_cons, Activity.loads?, Activity.written?, Option.elim_none, zero_add]
    at known issued out
  constructor
  · simp only [same, gather_cons, Activity.loads?, Option.elim_some, Multiset.singleton_add,
      Multiset.cons_add, Multiset.mem_cons]
    rintro range (rfl | old)
    · exact ⟨index, rfl⟩
    · exact known range old
  · simp only [same, gather_cons, Activity.loads?, Option.elim_some, Multiset.singleton_add,
      Multiset.cons_add, Multiset.map_cons, numbered]
    exact issued.handOut handed
  · rw [same, succeeded]
    exact count
  · simp only [same, gather_cons, Activity.written?, Option.elim_none, zero_add]
    exact fun range present => (out range present).append _

/-- A part is put back. -/
lemma putBack {index : Nat}
    (places : Places spans id done progress (.deferring id .download index ::ₘ rest))
    (numbered : (spans index).number = index + 1)
    (back : progress.putBack? index = some after) :
    Places spans id (done ++ [.deferring id .download index]) after rest := by
  obtain ⟨known, issued, count, out⟩ := places
  have same := @reported_of_silent done (.deferring id .download index) rfl
  have succeeded : after.succeeded = progress.succeeded := by
    obtain ⟨-, rfl⟩ := Progress.of_putBack? back
    rfl
  simp only [gather_cons, Activity.loads?, Activity.written?, Option.elim_none, Option.elim_some,
    zero_add, Multiset.singleton_add, Multiset.cons_add, Multiset.map_cons, numbered]
    at known issued out
  constructor
  · rw [same]
    exact fun range present => known range (Multiset.mem_cons_of_mem present)
  · rw [same]
    exact issued.putBack back
  · rw [same, succeeded]
    exact count
  · rw [same]
    exact fun range present => (out range present).append _

/-- A part is reported as written. -/
lemma finish {range : PartSpan} {others : Multiset Activity}
    (places : Places spans id done progress (.reporting id (.partWritten range) ::ₘ rest))
    (idle : gather (Activity.loads? spans) others = 0)
    (silent : gather Activity.written? others = 0)
    (deferred : after.deferred = progress.deferred) (handedOut : after.next = progress.next)
    (succeeded : after.succeeded = progress.succeeded + 1) :
    Places spans id (done ++ [.reporting id (.partWritten range)]) after (others + rest) := by
  obtain ⟨known, issued, count, out⟩ := places
  have one : (reported (done ++ [.reporting id (.partWritten range)]) : Multiset PartSpan) =
      {range} + reported done := reported_concat done _
  have moved (others : Multiset PartSpan) :
      others + ({range} + reported done) = {range} + others + reported done := by
    rw [← add_assoc, add_comm others]
  simp only [gather_cons, Activity.loads?, Activity.written?, Option.elim_some]
    at known issued out
  constructor
  · rw [gather_add, idle, zero_add, one, moved]
    exact known
  · rw [gather_add, idle, zero_add, one, moved]
    exact issued.of_same deferred handedOut
  · have length := congrArg Multiset.card one
    rw [Multiset.coe_card, Multiset.card_add, Multiset.card_singleton, Multiset.coe_card] at length
    omega
  · rw [gather_add, silent, zero_add, one, moved]
    exact fun range present => (out range present).append _

/-- Another hand without a part does no harm. -/
lemma join {hand : Activity} {hands : Multiset Activity}
    (places : Places spans id done progress hands) (idle : hand.loads? spans = none)
    (silent : hand.written? = none) : Places spans id done progress (hand ::ₘ hands) := by
  have loads : gather (Activity.loads? spans) (hand ::ₘ hands) =
      gather (Activity.loads? spans) hands := by simp [idle]
  have writes : gather Activity.written? (hand ::ₘ hands) = gather Activity.written? hands := by
    simp [silent]
  exact ⟨loads ▸ places.known, loads ▸ places.issued, places.count, writes ▸ places.out⟩

lemma unqueued (queues : ∀ chore, queued = some chore →
      activity.queues? operation = some chore ∧ later = activity.onceQueued)
    (none : activity.queues? operation = none) : queued = Option.none := by
  cases queued with
  | none => rfl
  | some chore =>
      have brings := (queues chore rfl).1
      rw [none] at brings
      cases brings

/-- Every turn keeps the parts of a download where they should be. -/
lemma turn (places : Places spans id done download.progress (activity ::ₘ rest))
    (numbered : ∀ index, (spans index).number = index + 1)
    (cut : operation.span .download = spans) (follows : Follows shared id activity later)
    (becomes : Becomes id download activity later next)
    (queues : ∀ chore, queued = some chore →
      activity.queues? operation = some chore ∧ later = activity.onceQueued) :
    Places spans id (done ++ [activity]) next.progress (later.leaves id queued + rest) := by
  have out : ∀ range ∈ gather Activity.written? (later.leaves id queued + rest),
      WrittenOut id (.part range) (done ++ [activity]) := places.out_turn follows
  have fewer (unissued : ∀ index, later ≠ .offering id .download index) :
      gather (Activity.loads? spans) (later.leaves id queued + rest) ≤
        gather (Activity.loads? spans) (activity ::ₘ rest) := by
    have less : gather (Activity.loads? spans) (later.leaves id queued) ≤ _ :=
      gather_leaves_le (follows.loads?_cases unissued) cut queues
    rw [gather_add, ← Multiset.singleton_add, gather_add]
    exact add_le_add_left less _
  have unissued (unfed : ∀ side, activity ≠ .feeding id side) (index : Nat) :
      later ≠ .offering id .download index := by
    rintro rfl
    exact unfed .download follows.of_offering
  cases becomes with
  | same silent unissued => exact places.pass (fewer unissued) silent out rfl rfl rfl
  | opened | closed => exact places.pass (fewer (unissued (by simp))) rfl out rfl rfl rfl
  | entered entered =>
      obtain ⟨file, -, entered⟩ := Option.bind_eq_some_iff.1 entered
      obtain ⟨progress, enters, same⟩ := Option.map_eq_some_iff.1 entered
      obtain ⟨-, rfl⟩ := Prod.mk.inj same
      obtain ⟨-, -, rfl⟩ := Progress.of_enter? enters
      exact places.pass (fewer (unissued (by simp))) rfl out rfl rfl rfl
  | @handedOut index next handed =>
      unfold Download.handOutPart? at handed
      split at handed
      · obtain ⟨⟨part, progress⟩, hands, same⟩ := Option.map_eq_some_iff.1 handed
        obtain ⟨rfl, rfl⟩ := Prod.mk.inj same
        obtain rfl := unqueued queues rfl
        have left : (Activity.offering id .download part).leaves id none =
            {.offering id .download part} := by simp [Activity.leaves, Activity.operation?]
        rw [left, Multiset.singleton_add]
        exact places.handOut (numbered _) hands
      · cases handed
  | @takenBack index next back =>
      obtain ⟨progress, puts, rfl⟩ := Option.map_eq_some_iff.1 back
      obtain rfl := unqueued queues rfl
      have left : Activity.idle.leaves id none = 0 := by simp [Activity.leaves, Activity.operation?]
      rw [left, zero_add]
      exact places.putBack (numbered _) puts
  | finished range =>
      obtain rfl := unqueued queues rfl
      have unwritten : later.written? = none := by
        rw [Option.eq_none_iff_forall_ne_some]
        intro other written
        obtain ⟨path, file, offset, body, writes, -⟩ := follows.of_written written
        cases writes
      have nothing : later.loads? spans = none := follows.loads?_of_reported rfl
      have last : download.partFinished.2.progress = download.progress.partFinished.settled :=
        Download.progress_advance _
      obtain ⟨deferred, handedOut, succeeded, -⟩ := download.progress.partFinished.settled_same
      rw [last]
      refine places.finish ?_ ?_ deferred handedOut succeeded
      · unfold Activity.leaves
        split <;> simp [nothing]
      · unfold Activity.leaves
        split <;> simp [unwritten]
  | lost error began =>
      have last : (download.partLost error.message began).2.progress =
          (download.progress.partLost error.message began).settled := Download.progress_advance _
      obtain ⟨deferred, handedOut, succeeded, -⟩ :=
        (download.progress.partLost error.message began).settled_same
      rw [last]
      exact places.pass (fewer (unissued (by simp))) rfl out deferred handedOut succeeded

/-- When as many parts have been reported as were handed out, each of them was. -/
lemma mem_reported_of_all (places : Places spans id done progress rest)
    (numbered : ∀ index, (spans index).number = index + 1)
    (all : progress.succeeded = progress.next) {index : Nat} (inside : index < progress.next) :
    spans index ∈ reported done := by
  have distinct : ((reported done).map (·.number)).Nodup := by
    have nodup := places.issued.distinct
    rw [Multiset.map_add, ← add_assoc, Multiset.nodup_add, Multiset.map_coe] at nodup
    exact Multiset.coe_nodup.1 nodup.2.1
  have within : (reported done).map (·.number) ⊆ List.range' 1 progress.next := by
    intro number present
    have bound := places.issued.within number (Multiset.mem_add.2 (.inr ?_))
    · rw [List.mem_range'_1]
      omega
    · rw [Multiset.map_add, Multiset.map_coe]
      exact Multiset.mem_add.2 (.inr present)
  have perm : ((reported done).map (·.number)).Perm (List.range' 1 progress.next) := by
    refine (distinct.subperm within).perm_of_length_le ?_
    rw [List.length_range', List.length_map, places.count, all]
  have listed : index + 1 ∈ (reported done).map (·.number) := by
    rw [perm.mem_iff, List.mem_range'_1]
    omega
  obtain ⟨range, present, number⟩ := List.mem_map.1 listed
  have among : range ∈ gather (Activity.loads? spans) rest + reported done :=
    Multiset.mem_add.2 (.inr present)
  obtain ⟨part, rfl⟩ := places.known range among
  have same : part = index := by
    have same := (numbered part).symm.trans number
    omega
  rwa [← same]

/-- When as many parts have been reported as were handed out, each of them was written out. -/
theorem writtenOut_of_all (places : Places spans id done progress rest)
    (numbered : ∀ index, (spans index).number = index + 1)
    (all : progress.succeeded = progress.next) {index : Nat} (inside : index < progress.next) :
    WrittenOut id (.part (spans index)) done :=
  places.out _ (Multiset.mem_add.2 (.inr (places.mem_reported_of_all numbered all inside)))

end Places

/-- What holds of a download in parts at any time, `done` being the turns of its hands. -/
structure Landing (parts : Nat) (spans : Nat → PartSpan) (id : OperationId) (done : List Activity)
    (view : View) : Prop where
  first : ∀ chore, view.proposed = some chore → chore.part? = none
  cut : view.operation.span .download = spans
  places : ∃ download, view.operation.download = some download ∧
    download.progress.total = parts ∧ Places spans id done download.progress view.hands

lemma Activity.loads?_starting {spans : Nat → PartSpan} {id : OperationId} {chore : Chore}
    (whole : chore.part? = none) : (starting id chore).loads? spans = none := by
  cases chore <;> first | rfl | cases whole

variable {parts : Nat} {spans : Nat → PartSpan} {id : OperationId} {done : List Activity}

/-- Every step of a run keeps this. -/
theorem Landing.step {run next : Run} {move : Move}
    (landing : Landing parts spans id done (run.view id))
    (numbered : ∀ index, (spans index).number = index + 1)
    (inside : id < run.shared.operations.length) (seen : run.Seen next move id) :
    Landing parts spans id (done ++ (run.turn? id move).toList) (next.view id) := by
  obtain ⟨first, cut, download, set, total, places⟩ := landing
  cases seen with
  | same view other =>
      rw [view, Run.turn?_of_other other, Option.toList_none, List.append_nil]
      exact ⟨first, cut, download, set, total, places⟩
  | admitted chore proposed disk view other =>
      rw [view, Run.turn?_of_other other, Option.toList_none, List.append_nil]
      refine ⟨(by simp), cut, download, set, total, ?_⟩
      exact places.join (Activity.loads?_starting (first chore proposed)) rfl
  | refused chore error proposed shared view other =>
      rw [view, Run.turn?_of_other other, Option.toList_none, List.append_nil]
      exact ⟨(by simp), cut, download, set, total, places⟩
  | turned activity later rest index actor working own hands work view =>
      rw [Run.turn?_of_worker actor working own]
      obtain ⟨operation, notes, queued, changed⟩ := (Shared.stays_of_work inside own work).1
      obtain ⟨after, becomes, converts⟩ := Shared.converts_of_work inside set own work
      have described := changed.operation_eq inside
      rw [described] at becomes
      obtain ⟨sameCut, sameTotal⟩ := converts.same_cut
      rw [view operation notes queued changed]
      refine ⟨first, ?_, after, becomes, sameTotal.trans total, ?_⟩
      · rw [← cut]
        have same : operation.record = (run.shared.operation id).record := by rw [changed.same]
        have sizes : operation.chunksize .download =
            (run.shared.operation id).chunksize .download := by
          rw [Operation.chunksize, Operation.chunksize, becomes,
            show (run.shared.operation id).download = some download from set, Option.map_some,
            Option.map_some, sameCut]
        funext part
        rw [Operation.span, Operation.span, same, sizes]
        rfl
      · have noted := (Shared.noted_of_work own work).of_changed changed
        have held : Places spans id done download.progress (activity ::ₘ rest) := hands ▸ places
        exact held.turn numbered cut (Shared.follows_of_work own work) converts noted.1

end Pool

namespace Run

variable {batch : Batch} {disk : Disk} {records : List Record} {moves : List Move} {run : Run}
  {id : OperationId} {record : Record} {operation : Operation} {chore : Chore}
  {download : Download}

/-- A download in parts begins with none of them handed out. -/
lemma landing_of_begins (planned : batch.plan.resolve record = .ok (operation, chore))
    (split : operation.download = some download)
    {view : View} (begins : Begins batch.plan record id view) :
    Landing download.progress.total (operation.span .download) id [] view := by
  cases begins with
  | refused error tally resolved =>
      rw [planned] at resolved
      cases resolved
  | proposed operation chore resolved begun =>
      rw [planned] at resolved
      obtain ⟨rfl, rfl⟩ := Prod.mk.inj (Except.ok.inj resolved)
      rw [begun]
      cases planned_of_resolve planned with
      | whole => cases split
      | upload => cases split
      | download =>
          obtain rfl := Option.some.inj split
          refine ⟨?_, rfl, _, rfl, rfl, ?_⟩
          · rintro chore ⟨⟩
            rfl
          · constructor
            case issued => constructor <;> simp [Download.ofParts, reported]
            all_goals simp [Download.ofParts, reported]

/-- In every state of a run the parts of a download are where they should be. -/
lemma landing (planned : batch.plan.resolve record = .ok (operation, chore))
    (split : operation.download = some download) (listed : records[id]? = some record)
    (reached : (batch.start disk records).steps moves = some run)
    (inside : id < run.shared.operations.length) :
    Landing download.progress.total (operation.span .download) id
      ((batch.start disk records).turns id moves) (run.view id) := by
  have kept (done : List Move) (run : Run) (move : Move) (next : Run)
      (inside : id < run.shared.operations.length)
      (_ : (batch.start disk records).steps done = some run)
      (landing : Landing download.progress.total (operation.span .download) id
        ((batch.start disk records).turns id done) (run.view id))
      (seen : run.Seen next move id) :
      Landing download.progress.total (operation.span .download) id
        ((batch.start disk records).turns id done ++ (run.turn? id move).toList) (next.view id) :=
    landing.step (fun _ => rfl) inside seen
  have begun (view : View) (begins : Begins batch.plan record id view) :=
    landing_of_begins planned split begins
  exact each_turn (Landing download.progress.total (operation.span .download) id) listed begun kept
    reached inside

end Run
end BulkTransfer
