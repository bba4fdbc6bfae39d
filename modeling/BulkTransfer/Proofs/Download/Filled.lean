import BulkTransfer.Proofs.Download.Filling
import BulkTransfer.Proofs.Moves.Deletion

/-!
# Downloads that have filled their file

A download in parts is on its way until the hand that closes the file finds that no part has failed
(`Underway`). As then every part was reported, and what is reported of a part is that all of its
body has been written, each part has been filled; and from then on nothing is written of the parts
any more (`Brought`). So in every state of a run one or the other holds (`Run.coming`).
-/

namespace BulkTransfer

open Pool Multipart

namespace Pool

/-- Whether a hand is one at the file of a download, before its parts or after them, as long as the
download has not succeeded. -/
inductive Framing (id : OperationId) : Activity → Prop where
  | opening : Framing id (.starting id .createLocalFile)
  | opened (file : FileId) : Framing id (.reporting id (.opened file))
  | finishing : Framing id (.following id .finish)
  | closing : Framing id (.starting id .completeDownload)
  | discarding (path : LocalPath) {outcome : Outcome} (fails : outcome ≠ .succeeded) :
      Framing id (.discarding id path outcome)
  | ending {outcome : Outcome} (fails : outcome ≠ .succeeded) : Framing id (.settling id outcome)

section

variable {shared : Shared} {id : OperationId} {activity later : Activity}

/-- What follows a hand at the file is one too, unless it starts the parts or finds all of them
filled. -/
lemma Framing.follows (framing : Framing id activity) (follows : Follows shared id activity later)
    (unopened : ∀ file, activity ≠ .reporting id (.opened file)) :
    (later = .idle ∨ Framing id later) ∨
      ∃ path download, activity = .starting id .completeDownload ∧ later = .stamping id path ∧
        (shared.operation id).download = some download ∧ download.progress.failure = none := by
  cases framing with
  | opening =>
      refine .inl ?_
      cases follows with
      | skips => exact .inl rfl
      | misfits => exact .inr (.ending (by simp))
      | calls store makes => cases makes
      | opens file => exact .inr (.opened file)
      | unopened path => exact .inr (.discarding path (by simp))
      | unmoved part => cases part
  | opened file => exact absurd rfl (unopened file)
  | finishing =>
      refine .inl ?_
      cases follows with
      | followed => exact .inl rfl
      | notFollowed => exact .inr .closing
  | closing =>
      cases follows with
      | skips => exact .inl (.inl rfl)
      | misfits => exact .inl (.inr (.ending (by simp)))
      | calls store makes => cases makes
      | keeps path set sound => exact .inr ⟨path, _, rfl, rfl, set, sound⟩
      | drops path => exact .inl (.inr (.discarding path (by simp)))
      | unmoved part => cases part
  | discarding path fails =>
      cases follows with
      | discards => exact .inl (.inr (.ending fails))
  | ending fails =>
      cases follows with
      | settles => exact .inl (.inl rfl)

/-- A hand at the file has no part. -/
lemma Framing.loads? (framing : Framing id activity) {spans : Nat → PartSpan} :
    activity.loads? spans = none := by
  cases framing <;> rfl

lemma Framing.written? (framing : Framing id activity) : activity.written? = none := by
  cases framing <;> rfl

/-- A hand at the file tells of no success. -/
lemma Framing.untold (framing : Framing id activity) {name description : String} :
    ¬activity.Notes (.settled id (.success name description)) := by
  rintro ⟨outcome, operation, tally, rfl, told⟩
  have succeeded : outcome = .succeeded :=
    (isSuccess_verdict operation tally outcome).1 (told ▸ rfl)
  cases framing with
  | ending fails => exact fails succeeded

/-- Only a hand that writes the body of a part writes anything of a part. -/
lemma piecesOf_of_notes {notes : List Event} (range : PartSpan)
    (noted : ∀ event ∈ notes, activity.Notes event)
    (silent : ∀ own range path file offset body,
      activity ≠ .writing own (.part range) path file offset body) :
    piecesOf range notes = [] := by
  refine List.filterMap_eq_nil_iff.2 fun event present => ?_
  have notes := noted event present
  cases event
  case wrote own extent file offset bytes =>
    cases extent with
    | whole => rfl
    | part range =>
        obtain ⟨path, body, same⟩ := notes
        exact absurd same (silent own range path file offset body)
  all_goals rfl

end

/-- What holds of a download in parts when all of them have been filled: of none is anything written
any more. -/
structure Brought (planned : Operation) (spans : Nat → PartSpan) (parts : Nat) (id : OperationId)
    (view : View) : Prop where
  admitted : view.proposed = none
  spent : view.operation.HandsOutNothing .download
  hands : ∀ hand ∈ view.hands, hand.isSole = true ∨ hand = .feeding id .download
  filled : ∃ file, ∀ index < parts, Filled planned id file (spans index) view.history

/-- What holds of a download whose parts are on their way, `planned` being what it was planned as:
no success of it was told of. -/
structure Underway (planned : Operation) (spans : Nat → PartSpan) (id : OperationId)
    (done : List Activity) (download : Download) (file : FileId) (view : View) : Prop where
  record : view.operation.record = planned.record
  store : view.operation.sourceStore = planned.sourceStore
  first : ∀ chore, view.proposed = some chore → chore = .createLocalFile
  set : view.operation.download = some download
  hands : ∀ hand ∈ view.hands, hand.isLoading id ∨ Framing id hand
  untold : ¬Succeeded id view.history
  filling : Filling planned spans id file done download view.hands view.history

/-- What holds of a download in parts at any time. -/
inductive Coming (planned : Operation) (spans : Nat → PartSpan) (parts : Nat) (id : OperationId)
    (done : List Activity) (view : View) : Prop where
  | underway {download : Download} {file : FileId}
      (underway : Underway planned spans id done download file view)
  | brought (brought : Brought planned spans parts id view)

section

variable {planned : Operation} {spans : Nat → PartSpan} {parts : Nat} {id : OperationId}
  {file : FileId} {record : Record} {view : View}

/-- While a hand is at the parts of a download, these decide alone what is handed out and
entered. -/
lemma DownloadCourse.gate (course : DownloadCourse parts record id view) {hand : Activity}
    (present : hand ∈ view.hands) (loads : hand.isLoading id) :
    ∃ download, view.operation.download = some download ∧
      (download.file.isSome ∨ download.progress.endClaimed = true) := by
  have plays := Activity.role?_of_isLoading loads
  cases course.stage with
  | opening set opening =>
      generalize view.proposed = proposed, view.hands = hands, view.history = history
        at opening present
      cases opening with
      | proposed => exact absurd present (Multiset.notMem_zero hand)
      | started | opened =>
          obtain rfl := Multiset.mem_singleton.1 present
          exact absurd rfl plays
  | unopened admitted alone =>
      generalize view.hands = hands, view.history = history at alone present
      cases alone with
      | concluded => exact absurd present (Multiset.notMem_zero hand)
      | on sole plain =>
          obtain rfl := Multiset.mem_singleton.1 present
          exact absurd (Activity.role?_of_isSole sole) plays
  | loading set admitted loading => exact ⟨_, set, loading.ending.card_le.2.2⟩

/-- When the file of a download has just been opened, nothing else has happened. -/
lemma DownloadCourse.of_opened (course : DownloadCourse parts record id view)
    {rest : Multiset Activity} (hands : view.hands = .reporting id (.opened file) ::ₘ rest) :
    rest = 0 ∧ (∃ path, view.history = [.opened id path file]) ∧
      ∃ chunksize, view.operation.download = some (.ofParts parts chunksize) := by
  cases course.stage with
  | opening set opening =>
      generalize view.proposed = proposed, view.hands = had, past : view.history = history
        at opening hands
      cases opening with
      | proposed => exact absurd hands.symm Multiset.cons_ne_zero
      | started => cases ((Multiset.singleton_eq_cons_iff rest).1 hands).1
      | opened path own =>
          obtain ⟨same, rfl⟩ := (Multiset.singleton_eq_cons_iff rest).1 hands
          cases same
          exact ⟨rfl, ⟨path, rfl⟩, _, set⟩
  | unopened admitted alone =>
      rw [hands] at alone
      generalize had : Activity.reporting id (.opened file) ::ₘ rest = others,
        view.history = history at alone
      cases alone with
      | concluded => exact absurd had Multiset.cons_ne_zero
      | on sole plain =>
          obtain ⟨rfl, -⟩ := (Multiset.singleton_eq_cons_iff rest).1 had.symm
          cases sole
  | loading set admitted loading =>
      have ending := loading.ending
      rw [hands, (leads_of_card_le rfl (hands ▸ ending.card_le.1)).1] at ending
      generalize had : ({.reporting id (.opened file)} : Multiset Activity) = leads at ending
      generalize List.filter Event.isSettled _ = ends at ending
      generalize Progress.endClaimed _ = claimed, Download.file _ = target at ending
      cases ending with
      | parts | ended => exact absurd had (Multiset.singleton_ne_zero _)
      | closing own leads =>
          obtain rfl := Multiset.singleton_inj.1 had
          rcases leads with same | same <;> cases same
      | closed sole =>
          obtain rfl := Multiset.singleton_inj.1 had
          cases sole

/-- A hand at the file leaves the account of the parts, and opens no file but when it reports that
one has been opened. -/
lemma Framing.becomes {download next : Download} {activity later : Activity}
    (framing : Framing id activity) (becomes : Becomes id download activity later next)
    (unopened : ∀ file, activity ≠ .reporting id (.opened file)) :
    next.progress = download.progress ∧
      ∀ other, next.file = some other → download.file = some other := by
  cases becomes with
  | same => exact ⟨rfl, fun _ opens => opens⟩
  | opened file => exact absurd rfl (unopened file)
  | closed => exact ⟨rfl, by rintro other ⟨⟩⟩
  | entered | handedOut | takenBack | finished | lost => cases framing

/-- What a hand at the file brings into the queue is the closing of the file. -/
lemma Framing.of_queues? {operation : Operation} {activity : Activity} {chore : Chore}
    (framing : Framing id activity) (queues : activity.queues? operation = some chore) :
    chore = .completeDownload := by
  cases framing with
  | finishing => exact (Option.some.inj queues).symm
  | _ => cases queues

end

section

variable {planned : Operation} {spans : Nat → PartSpan} {parts : Nat} {id : OperationId}
  {record : Record} {done : List Activity} {run next : Run} {move : Move}

/-- Once all parts have been filled, nothing is written of them. -/
lemma Brought.step (brought : Brought planned spans parts id (run.view id))
    (inside : id < run.shared.operations.length) (seen : run.Seen next move id) :
    Brought planned spans parts id (next.view id) := by
  cases seen with
  | same view => rwa [view]
  | admitted chore proposed | refused chore error proposed =>
      cases proposed.symm.trans brought.admitted
  | turned activity later rest index actor working own hands work view =>
      obtain ⟨admitted, spent, leads, file, filled⟩ := brought
      have here : (run.view id).hands = activity ::ₘ rest := hands
      rw [here] at leads
      have others (hand : Activity) (old : hand ∈ rest) :
          hand.isSole = true ∨ hand = .feeding id .download :=
        leads hand (Multiset.mem_cons_of_mem old)
      rcases leads activity (Multiset.mem_cons_self activity rest) with sole | rfl
      · obtain ⟨notes, left, turn, turned⟩ := Shared.sole_of_work inside own sole work
        have unwritten (range : PartSpan) : piecesOf range notes = [] := by
          obtain ⟨queued, changed, -⟩ := turned
          refine piecesOf_of_notes range ((Shared.noted_of_work own work).of_changed changed).2 ?_
          rintro own range path file offset body rfl
          cases sole
        rw [Run.view_of_turned view turned]
        refine ⟨admitted, spent, fun hand present => ?_, file, fun index inside =>
          (filled index inside).append (unwritten _)⟩
        rcases Multiset.mem_add.1 present with new | old
        · cases turn with
          | on soleLater => exact .inl (Multiset.mem_singleton.1 new ▸ soleLater)
          | concluded => exact absurd new (Multiset.notMem_zero hand)
        · exact others hand old
      · have result : run.shared.feed id .download = (next.shared, later) := Option.some.inj work
        rw [feed_of_handsOutNothing spent] at result
        obtain ⟨same, rfl⟩ := Prod.mk.inj result
        have turned : run.shared.Turned next.shared id .idle (run.shared.operation id) [] 0 :=
          same ▸ .rest inside
        rw [Run.view_of_turned view turned, zero_add]
        exact ⟨admitted, spent, others, file, filled⟩

end

/-- What a turn of a hand does to a download in parts. -/
def Shared.Comes (shared after : Shared) (planned : Operation) (spans : Nat → PartSpan)
    (parts : Nat) (id : OperationId) (done : List Activity) (proposed : Option Chore)
    (later : Activity) (rest : Multiset Activity) : Prop :=
  ∃ operation notes left, shared.Turned after id later operation notes left ∧
    Coming planned spans parts id done
      ⟨operation, proposed, left + rest, notes ++ shared.history id⟩

namespace Underway

variable {planned : Operation} {spans : Nat → PartSpan} {parts : Nat} {id : OperationId}
  {record : Record} {done : List Activity} {download : Download} {file : FileId}
  {shared after : Shared} {surroundings : Surroundings} {activity later : Activity}
  {proposed : Option Chore} {rest : Multiset Activity}
  (underway : Underway planned spans id done download file
    ⟨shared.operation id, proposed, activity ::ₘ rest, shared.history id⟩)
  (course : DownloadCourse parts record id
    ⟨shared.operation id, proposed, activity ::ₘ rest, shared.history id⟩)
  (landing : Landing parts spans id done
    ⟨shared.operation id, proposed, activity ::ₘ rest, shared.history id⟩)
  (numbered : ∀ index, (spans index).number = index + 1)
  (inside : id < shared.operations.length) (own : activity.operation? = some id)
  (work : shared.work surroundings activity = some (after, later))

include underway course landing numbered inside work in
/-- A turn of a hand at the parts. -/
lemma turn_part (loads : activity.isLoading id) :
    shared.Comes after planned spans parts id (done ++ [activity]) proposed later rest := by
  obtain ⟨record, store, first, set, hands, untold, filling⟩ := underway
  obtain ⟨known, isKnown, gate⟩ := course.gate (Multiset.mem_cons_self activity rest) loads
  obtain rfl : known = download := Option.some.inj (isKnown.symm.trans set)
  obtain ⟨next, notes, left, turn, turned⟩ := downloadTurn_of_work inside set gate loads work
  obtain ⟨-, cut, known, isKnown, -, places⟩ := landing
  obtain rfl : known = _ := Option.some.inj (isKnown.symm.trans set)
  refine ⟨_, notes, left, turned, .underway ⟨record, store, first, rfl, fun hand present => ?_, ?_,
    filling.turn places numbered cut record store turn⟩⟩
  · rcases Multiset.mem_add.1 present with new | old
    · rcases turn.kind loads with ⟨-, still⟩ | ⟨-, -, rfl⟩
      · exact .inl (still hand new)
      · exact .inr (Multiset.mem_singleton.1 new ▸ .finishing)
    · exact hands hand (Multiset.mem_cons_of_mem old)
  · rw [succeeded_append, or_iff_left untold]
    rintro ⟨name, description, told⟩
    have among := List.mem_filter.2 ⟨told, (rfl : Event.isSettled (.settled id _) = true)⟩
    rw [turn.not_settled] at among
    cases among

include underway course landing work in
/-- The hand that reports the file starts the parts, of which nothing has been written. -/
lemma turn_opened {target : FileId} (opens : activity = .reporting id (.opened target)) :
    shared.Comes after planned spans parts id (done ++ [activity]) proposed later rest := by
  subst opens
  obtain ⟨rfl, ⟨path, new⟩, chunksize, started⟩ := course.of_opened rfl
  have new : shared.history id = [.opened id path target] := new
  obtain ⟨-, -, known, isKnown, -, places⟩ := landing
  obtain rfl := Option.some.inj (isKnown.symm.trans started)
  have none : reported done = [] := List.length_eq_zero_iff.1 places.count
  have result := Option.some.inj work
  rw [report_of_download started rfl] at result
  obtain ⟨rfl, rfl⟩ := Prod.mk.inj result
  refine ⟨_, [], _, .of_changed (.ofDownload _) rfl, .underway ⟨underway.record, underway.store,
    underway.first, rfl, ?_, underway.untold, (?_ : Filling planned spans id target _ _ _ _)⟩⟩
  · exact only_hand (.inl ⟨rfl, rfl⟩)
  · rw [List.nil_append, new]
    constructor
    case isOpen =>
      rintro other ⟨⟩
      exact ⟨rfl, path, List.mem_singleton_self _⟩
    case hands => exact only_hand trivial
    case whole =>
      rw [reported_of_silent rfl, none]
      exact List.forall_mem_nil _
    case fresh => exact fun index _ => rfl

include underway inside own work in
/-- A turn of another hand at the file, that does not find all parts filled. -/
lemma turn_frame (framing : Framing id activity)
    (unopened : ∀ file, activity ≠ .reporting id (.opened file))
    (goes : later = .idle ∨ Framing id later) :
    shared.Comes after planned spans parts id (done ++ [activity]) proposed later rest := by
  obtain ⟨record, store, first, set, hands, untold, filling⟩ := underway
  obtain ⟨operation, notes, queued, changed⟩ := (Shared.stays_of_work inside own work).1
  obtain ⟨next, becomes, converts⟩ := Shared.converts_of_work inside set own work
  rw [changed.operation_eq inside] at becomes
  obtain ⟨queues, noted⟩ := (Shared.noted_of_work own work).of_changed changed
  obtain ⟨progress, opens⟩ := framing.becomes converts unopened
  have silent := framing.written?
  have unwritten (range : PartSpan) : piecesOf range notes = [] := by
    refine piecesOf_of_notes range noted ?_
    rintro own range path file offset body rfl
    cases framing
  have left (hand : Activity) (new : hand ∈ later.leaves id queued) : Framing id hand := by
    rcases Activity.mem_leaves new with ⟨rfl, mine⟩ | ⟨chore, brought, rfl⟩
    · rcases goes with rfl | frames
      · cases mine
      · exact frames
    · obtain rfl := framing.of_queues? (queues chore brought).1
      exact .closing
  have fills : Filling planned spans id file (done ++ [activity]) next
      (later.leaves id queued + rest) (notes ++ shared.history id) := by
    refine filling.pass silent unwritten opens (fun hand new => ?_) (progress ▸ filling.fresh)
    exact Activity.fills_of_loads? (left hand new).loads?
  refine ⟨operation, notes, _, ⟨queued, changed, rfl⟩, .underway ⟨?_, ?_, first, becomes, ?_, ?_,
    fills⟩⟩
  · rw [changed.same]
    exact record
  · rw [changed.same]
    exact store
  · intro hand present
    exact (Multiset.mem_add.1 present).elim (fun new => .inr (left hand new)) fun old =>
      hands hand (Multiset.mem_cons_of_mem old)
  · rw [succeeded_append, or_iff_left untold]
    rintro ⟨name, description, told⟩
    exact framing.untold (noted _ told)

include underway course landing numbered inside own work in
/-- A turn of the hand that closes the file and finds all parts filled. -/
lemma turn_close {path : LocalPath} (closes : activity = .starting id .completeDownload)
    (goes : later = .stamping id path) (sound : download.progress.failure = none) :
    shared.Comes after planned spans parts id (done ++ [activity]) proposed later rest := by
  subst closes goes
  obtain ⟨admitted, claimed, all, total, feeders⟩ := course.of_finishing underway.set sound
  obtain ⟨-, -, known, isKnown, -, places⟩ := landing
  obtain rfl : known = download := Option.some.inj (isKnown.symm.trans underway.set)
  obtain ⟨operation, notes, queued, changed⟩ := (Shared.stays_of_work inside own work).1
  obtain ⟨next, becomes, converts⟩ := Shared.converts_of_work inside underway.set own work
  rw [changed.operation_eq inside] at becomes
  obtain ⟨queues, noted⟩ := (Shared.noted_of_work own work).of_changed changed
  obtain ⟨progress, -⟩ := Framing.closing.becomes converts (by simp)
  have unwritten (range : PartSpan) : piecesOf range notes = [] :=
    piecesOf_of_notes range noted (by simp)
  refine ⟨operation, notes, _, ⟨queued, changed, rfl⟩, .brought ⟨admitted, ?_, ?_, file, ?_⟩⟩
  · intro other set
    obtain rfl := Option.some.inj (becomes.symm.trans set)
    rw [progress]
    exact claimed
  · intro hand present
    rcases Multiset.mem_add.1 present with new | old
    · rcases Activity.mem_leaves new with ⟨rfl, -⟩ | ⟨chore, brought, -⟩
      · exact .inl rfl
      · cases (queues chore brought).1
    · exact .inr (feeders hand old)
  · intro index below
    have reported := places.mem_reported_of_all numbered all (total.symm ▸ below)
    exact (underway.filling.whole _ reported).append (unwritten _)

end Underway

section

variable {planned : Operation} {spans : Nat → PartSpan} {parts : Nat} {id : OperationId}
  {record : Record} {done : List Activity} {download : Download} {file : FileId} {run next : Run}
  {move : Move}

/-- Every step of a run goes on with a download whose parts are on their way. -/
lemma Underway.step (underway : Underway planned spans id done download file (run.view id))
    (course : DownloadCourse parts record id (run.view id))
    (landing : Landing parts spans id done (run.view id))
    (numbered : ∀ index, (spans index).number = index + 1)
    (inside : id < run.shared.operations.length) (seen : run.Seen next move id) :
    Coming planned spans parts id (done ++ (run.turn? id move).toList) (next.view id) := by
  cases seen with
  | same view other =>
      rw [view, Run.turn?_of_other other, Option.toList_none, List.append_nil]
      exact .underway underway
  | admitted chore proposed disk view other =>
      rw [view, Run.turn?_of_other other, Option.toList_none, List.append_nil]
      obtain ⟨record, store, first, set, hands, untold, filling⟩ := underway
      obtain rfl := first chore proposed
      refine .underway ⟨record, store, (by simp), set, ?_, untold, filling.join rfl⟩
      intro hand (present : hand ∈ Activity.starting id .createLocalFile ::ₘ run.hands id)
      rcases Multiset.mem_cons.1 present with rfl | old
      · exact .inr .opening
      · exact hands hand old
  | refused chore error proposed shared view other =>
      rw [view, Run.turn?_of_other other, Option.toList_none, List.append_nil]
      obtain ⟨record, store, first, set, hands, untold, filling⟩ := underway
      refine .underway ⟨record, store, (by simp), set, hands, ?_, filling.settled _⟩
      have untold : ¬Succeeded id (run.shared.history id) := untold
      rw [← List.singleton_append, succeeded_append, or_iff_left untold]
      rintro ⟨name, description, told⟩
      have same := congrArg Notice.isSuccess (Event.settled.inj (List.mem_singleton.1 told)).2
      rw [isSuccess_refusal] at same
      cases same
  | turned activity later rest index actor working own hands work view =>
      rw [Run.turn?_of_worker actor working own]
      have leads : activity.isLoading id ∨ Framing id activity := by
        refine underway.hands activity ?_
        rw [Run.view, hands]
        exact Multiset.mem_cons_self activity rest
      rw [Run.view, hands] at underway course landing
      have comes : run.shared.Comes next.shared planned spans parts id (done ++ [activity])
          (run.proposed id) later rest := by
        rcases leads with loads | framing
        · exact underway.turn_part course landing numbered inside work loads
        by_cases opens : ∃ target, activity = .reporting id (.opened target)
        · obtain ⟨target, opens⟩ := opens
          exact underway.turn_opened course landing work opens
        · have unopened := not_exists.1 opens
          rcases framing.follows (Shared.follows_of_work own work) unopened with
            goes | ⟨path, known, closes, goes, set, sound⟩
          · exact underway.turn_frame inside own work framing unopened goes
          · obtain rfl := Option.some.inj (set.symm.trans underway.set)
            exact underway.turn_close course landing numbered inside own work closes goes sound
      obtain ⟨operation, notes, left, turned, goes⟩ := comes
      rw [Run.view_of_turned view turned]
      exact goes

/-- Every step of a run goes on with a download in parts. -/
lemma Coming.step (coming : Coming planned spans parts id done (run.view id))
    (course : DownloadCourse parts record id (run.view id))
    (landing : Landing parts spans id done (run.view id))
    (numbered : ∀ index, (spans index).number = index + 1)
    (inside : id < run.shared.operations.length) (seen : run.Seen next move id) :
    Coming planned spans parts id (done ++ (run.turn? id move).toList) (next.view id) := by
  cases coming with
  | underway underway => exact underway.step course landing numbered inside seen
  | brought brought => exact .brought (brought.step inside seen)

end

end Pool

namespace Run

variable {batch : Batch} {disk : Disk} {records : List Record} {moves : List Move} {run last : Run}
  {id : OperationId} {record : Record} {operation : Operation} {chore : Chore}
  {download : Download}

/-- A download in parts begins with nothing of them written. -/
lemma coming_of_begins (planned : batch.plan.resolve record = .ok (operation, chore))
    (split : operation.download = some download) {view : View}
    (begins : Begins batch.plan record id view) :
    Coming operation (operation.span .download) download.progress.total id [] view := by
  cases begins with
  | refused error tally resolved =>
      rw [planned] at resolved
      cases resolved
  | proposed operation chore resolved begun =>
      rw [planned] at resolved
      obtain ⟨rfl, rfl⟩ := Prod.mk.inj (Except.ok.inj resolved)
      rw [begun]
      cases planned_of_resolve planned with
      | whole => cases split
      | upload => cases split
      | download =>
          obtain rfl := Option.some.inj split
          refine .underway ⟨rfl, rfl, ?_, rfl, no_hand, by simp [Succeeded],
            (?_ : Filling _ _ id 0 [] _ 0 [])⟩
          · rintro chore ⟨⟩
            rfl
          · refine ⟨?_, no_hand, List.forall_mem_nil _, fun index _ => rfl⟩
            rintro other ⟨⟩

/-- In every state of a run what was written of the parts of a download is what has become of
them. -/
theorem coming (valid : batch.plan.Valid) (listed : records[id]? = some record)
    (planned : batch.plan.resolve record = .ok (operation, chore))
    (split : operation.download = some download)
    (reached : (batch.start disk records).steps moves = some run)
    (inside : id < run.shared.operations.length) :
    Coming operation (operation.span .download) download.progress.total id
      ((batch.start disk records).turns id moves) (run.view id) := by
  have kept (done : List Move) (run : Run) (move : Move) (next : Run)
      (inside : id < run.shared.operations.length)
      (arrived : (batch.start disk records).steps done = some run)
      (coming : Coming operation (operation.span .download) download.progress.total id
        ((batch.start disk records).turns id done) (run.view id))
      (seen : run.Seen next move id) :
      Coming operation (operation.span .download) download.progress.total id
        ((batch.start disk records).turns id done ++ (run.turn? id move).toList) (next.view id) :=
    coming.step (download_course valid listed planned split arrived inside)
      (landing planned split listed arrived inside) (fun _ => rfl) inside seen
  have begun (view : View) (begins : Begins batch.plan record id view) :=
    coming_of_begins planned split begins
  exact each_turn (Coming operation (operation.span .download) download.progress.total id) listed
    begun kept reached inside

/-- What has been filled stays so until the end of a run. -/
lemma brought_of_steps {planned : Operation} {spans : Nat → PartSpan} {parts : Nat}
    (sound : run.Sound records) (inside : id < run.shared.operations.length)
    (brought : Brought planned spans parts id (run.view id))
    (reached : run.steps moves = some last) : Brought planned spans parts id (last.view id) := by
  have kept (run : Run) (move : Move) (next : Run)
      (holds : run.Sound records ∧ id < run.shared.operations.length ∧
        Brought planned spans parts id (run.view id))
      (_ : True) (step : run.step move = some next) :
      next.Sound records ∧ id < next.shared.operations.length ∧
        Brought planned spans parts id (next.view id) := by
    obtain ⟨sound, inside, brought⟩ := holds
    refine ⟨sound.step step, ?_, brought.step inside (seen_of_step sound step inside)⟩
    rcases length_of_step sound step with same | ⟨longer, -⟩
    · rwa [same]
    · rw [longer]
      exact Nat.lt_succ_of_lt inside
  have always : run.Throughout (fun _ _ => True) moves := fun _ _ _ _ _ _ => trivial
  exact (steps_induction kept ⟨sound, inside, brought⟩ always reached).2.2

end Run
end BulkTransfer
