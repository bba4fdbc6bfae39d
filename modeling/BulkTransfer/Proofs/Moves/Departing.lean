import BulkTransfer.Proofs.Download.Written
import BulkTransfer.Proofs.Moves.Parting
import BulkTransfer.Proofs.Outcome

/-!
# Transfers of moves that have succeeded

When the transfer of a move comes to its end, it has succeeded (`Way.HasSucceeded`), and of the
other hands none has a part any more: the end of the parts was claimed, so those that are left look
for parts to be queued and find none (`Departed`). For each of the ways to transfer a source this is
read off the course of the operation.
-/

namespace BulkTransfer

open Pool Multipart

namespace Pool

/-- Whether a source was transferred, by the turns of the hands and by what has happened: the object
was put, copied or completed, or the whole body, or that of every part, was written out. -/
def Way.HasSucceeded (operation : Operation) (id : OperationId) (done : List Activity)
    (history : List Event) : Way → Prop
  | .put => ∃ store object body attributes reply,
      .answered store id (.putObject object body attributes) (.reply reply) ∈ history
  | .copy => ∃ store object source attributes reply,
      .answered store id (.copyObject object source attributes) (.reply reply) ∈ history
  | .partsUp => Completed id history
  | .fetch => WrittenOut id .whole done
  | .partsDown => ∃ download, operation.download = some download ∧
      ∀ index < download.progress.total,
        WrittenOut id (.part (operation.span .download index)) done

variable {id : OperationId} {shared after : Shared} {surroundings : Surroundings}
  {activity later : Activity} {rest : Multiset Activity} {view : View}

/-- What a turn comes to that ends the transfer of a move: the transfer has succeeded, one hand
leads the move from then on, and others have nothing to do. -/
def Shared.Departed (shared after : Shared) (id : OperationId) (later : Activity)
    (rest : Multiset Activity) (succeeded : List Event → Prop) : Prop :=
  ∃ operation notes, shared.Turned after id later operation notes {later} ∧
    succeeded (notes ++ shared.history id) ∧
      ∀ hand ∈ rest, ∃ side, hand = .feeding id side ∧ operation.HandsOutNothing side

/-- An operation that is done as a whole has one hand. -/
lemma WholeCourse.alone_of_hand (course : WholeCourse id view)
    (hands : view.hands = activity ::ₘ rest) : view.proposed = none ∧ rest = 0 := by
  cases course with
  | proposed operation plain => exact absurd hands.symm Multiset.cons_ne_zero
  | alone operation alone =>
      refine ⟨rfl, ?_⟩
      cases alone with
      | on sole plain => exact ((Multiset.singleton_eq_cons_iff rest).1 hands).2
      | concluded message plain => exact absurd hands.symm Multiset.cons_ne_zero

/-- Once the end of the parts was claimed and none has failed, all hands but the leading one look
for parts to be queued. -/
lemma Accounts.feeders {progress : Progress} (accounts : Accounts progress (activity ::ₘ rest))
    (lead : activity.role? = none) (few : (leads (activity ::ₘ rest)).card ≤ 1)
    (claimed : progress.endClaimed = true) (sound : progress.failure = none) {hand : Activity}
    (present : hand ∈ rest) : hand.role? = some .feeder := by
  obtain ⟨noRunners, others⟩ := accounts.claimed claimed
  obtain ⟨noHolders, noRefused, -⟩ := others sound
  have idle {role : Role} (none : playing role (activity ::ₘ rest) = 0) :
      hand.role? ≠ some role :=
    Multiset.countP_eq_zero.1 none hand (Multiset.mem_cons_of_mem present)
  have follows := (leads_of_card_le lead few).2
  have plays : hand.role? ≠ none := fun leads =>
    absurd (Multiset.mem_filter.2 ⟨present, leads⟩) (follows ▸ Multiset.notMem_zero hand)
  cases role : hand.role? with
  | none => exact absurd role plays
  | some played =>
      cases played with
      | feeder => rfl
      | holder => exact absurd role (idle noHolders)
      | refused => exact absurd role (idle noRefused)
      | runner => exact absurd role (idle noRunners)

lemma Activity.of_feeder {hand : Activity} (feeds : hand.role? = some .feeder) :
    ∃ own side, hand = .feeding own side := by
  cases hand
  case feeding own side => exact ⟨own, side, rfl⟩
  case starting chore => cases chore <;> cases feeds
  case sending errand _ _ => cases errand <;> cases feeds
  case awaiting errand _ _ => cases errand <;> cases feeds
  case writing extent _ _ _ _ => cases extent <;> cases feeds
  case reporting report =>
    cases report
    case partLost began => cases began <;> cases feeds
    all_goals cases feeds
  all_goals cases feeds

/-- An upload whose completion is about to be reported was completed. -/
lemma Steering.of_completed {record : Record} {object : ObjectName} {uploadId : String}
    {phase : Phase} {failure : Option String} {finished : List FinishedPart} {since : List Event}
    (steering : Steering record id object uploadId phase failure finished
      {.reporting id .completed} since) :
    phase = .completing ∧ failure = none ∧ Completed id since := by
  have unsole {outcome : List Event} (alone : SoleCourse id {.reporting id .completed} outcome) :
      False := by
    cases alone.isSole
  generalize lead : ({.reporting id .completed} : Multiset Activity) = lead' at steering
  cases steering with
  | completeAnswered store reply =>
      exact ⟨rfl, rfl, store, object, uploadId, finished, reply, List.mem_cons_self ..⟩
  | completed _ _ alone | completeCrashed _ _ alone | abortCrashed _ _ _ alone =>
      exact (unsole (lead ▸ alone)).elim
  | completing leads | aborting _ leads =>
      obtain rfl := Multiset.singleton_inj.1 lead
      rcases leads with same | same | ⟨store, same⟩ <;> cases same
  | parts | settled => exact absurd lead (Multiset.singleton_ne_zero _)
  | _ => cases Multiset.singleton_inj.1 lead

/-- When the completion of an upload is about to be reported, the upload was completed, and all
other hands look for parts to be queued. -/
lemma UploadCourse.of_completed {parts : Nat} {record : Record} {object : ObjectName}
    {operation : Operation} {proposed : Option Chore} {history : List Event}
    (course : UploadCourse parts record id object
      ⟨operation, proposed, .reporting id .completed ::ₘ rest, history⟩) :
    proposed = none ∧ Completed id history ∧
      (∃ upload, operation.upload = some upload ∧ upload.progress.endClaimed = true) ∧
        ∀ hand ∈ rest, hand = .feeding id .upload := by
  generalize had : Activity.reporting id .completed ::ₘ rest = hands at course
  cases course.stage with
  | opening set opening =>
      cases opening
      case proposed => exact absurd had Multiset.cons_ne_zero
      all_goals cases ((Multiset.singleton_eq_cons_iff rest).1 had.symm).1
  | uncreated set total admitted alone =>
      cases alone with
      | concluded message plain => exact absurd had Multiset.cons_ne_zero
      | on sole plain =>
          obtain ⟨rfl, -⟩ := (Multiset.singleton_eq_cons_iff rest).1 had.symm
          cases sole
  | @going upload uploadId since set admitted going =>
      subst had
      have few := going.steering.card_le
      have steering := going.steering
      rw [(leads_of_card_le rfl few).1] at steering
      obtain ⟨phase, sound, store, target, own, parts, reply, answered⟩ := steering.of_completed
      have claimed := going.gate.2 (by rw [phase]; exact nofun)
      refine ⟨admitted, ⟨store, target, own, parts, reply, going.mem_history answered⟩,
        ⟨upload, set, claimed⟩, fun hand present => ?_⟩
      have feeds := going.accounts.feeders rfl few claimed sound present
      have uploads := going.uploading hand (Multiset.mem_cons_of_mem present)
        (by rw [feeds]; exact Option.some_ne_none _)
      obtain ⟨own, side, rfl⟩ := Activity.of_feeder feeds
      obtain ⟨rfl, rfl⟩ := uploads
      rfl

/-- When a download is about to be finished, the end of its parts was claimed, and if none has
failed, all have succeeded and all other hands look for parts to be queued. -/
lemma DownloadCourse.of_finishing {parts : Nat} {record : Record} {operation : Operation}
    {proposed : Option Chore} {history : List Event} {download : Download}
    (course : DownloadCourse parts record id
      ⟨operation, proposed, .starting id .completeDownload ::ₘ rest, history⟩)
    (set : operation.download = some download) (sound : download.progress.failure = none) :
    proposed = none ∧ download.progress.endClaimed = true ∧
      download.progress.succeeded = download.progress.next ∧ download.progress.next = parts ∧
        ∀ hand ∈ rest, hand = .feeding id .download := by
  generalize had : Activity.starting id .completeDownload ::ₘ rest = hands at course
  cases course.stage with
  | opening set opening =>
      cases opening
      case proposed => exact absurd had Multiset.cons_ne_zero
      all_goals cases ((Multiset.singleton_eq_cons_iff rest).1 had.symm).1
  | unopened admitted alone =>
      cases alone with
      | concluded message plain => exact absurd had Multiset.cons_ne_zero
      | on sole plain =>
          obtain ⟨rfl, -⟩ := (Multiset.singleton_eq_cons_iff rest).1 had.symm
          cases sole
  | loading same admitted loading =>
      obtain rfl := Option.some.inj (set.symm.trans same)
      subst had
      obtain ⟨few, concludes, -⟩ := loading.ending.card_le
      obtain ⟨leading, -⟩ := leads_of_card_le rfl few
      have claimed : download.progress.endClaimed = true := by
        by_contra unclaimed
        rw [leading] at concludes
        exact Multiset.singleton_ne_zero _ (concludes (Bool.eq_false_iff.2 unclaimed))
      obtain ⟨-, -, all, allOut⟩ := (loading.accounts.claimed claimed).2 sound
      refine ⟨admitted, claimed, all.trans allOut.symm, allOut.trans loading.total, ?_⟩
      intro hand present
      have feeds := loading.accounts.feeders rfl few claimed sound present
      have loads := loading.loading hand (Multiset.mem_cons_of_mem present)
        (by rw [feeds]; exact Option.some_ne_none _)
      obtain ⟨own, side, rfl⟩ := Activity.of_feeder feeds
      obtain ⟨rfl, rfl⟩ := loads
      rfl

/-- A body that delivers nothing more was written to its end. -/
lemma Shared.write_of_isOver (extent : Extent) (path : LocalPath) (file : FileId) (offset : Nat)
    {body : Reader} (spent : body.isOver = true) :
    shared.write id extent path file offset body = (shared, afterWrite id extent path) := by
  cases body with
  | nil => rfl
  | cons delivery rest =>
      cases delivery with
      | piece bytes => exact if_pos spent
      | interrupted | failure => cases spent

lemma Chore.isPlain_of_way? {chore : Chore} {way : Way} (on : chore.way? = some way)
    (whole : way = .put ∨ way = .copy ∨ way = .fetch) : chore.isPlain = true := by
  cases chore
  case singleUpload | copy | download => rfl
  all_goals
    cases on
    try rcases whole with whole | whole | whole <;> cases whole

end Pool

namespace Run

variable {batch : Batch} {disk : Disk} {records : List Record} {moves : List Move} {run : Run}
  {id : OperationId} {record : Record} {operation : Operation} {chore : Chore} {way : Way}
  {surroundings : Surroundings} {after : Shared} {activity later : Activity}
  {rest : Multiset Activity}
  (listed : records[id]? = some record)
  (planned : batch.plan.resolve record = .ok (operation, chore))
  (reached : (batch.start disk records).steps moves = some run)
  (inside : id < run.shared.operations.length) (hands : run.hands id = activity ::ₘ rest)
  (on : chore.way? = some way)

include listed planned reached inside hands on in
/-- A transfer as a whole has one hand. -/
lemma alone_of_way (whole : way = .put ∨ way = .copy ∨ way = .fetch) :
    run.proposed id = none ∧ rest = 0 := by
  have plain (operation' : Operation) (chore' : Chore)
      (resolved : batch.plan.resolve record = .ok (operation', chore')) :
      chore'.isPlain = true := by
    rw [planned] at resolved
    obtain ⟨-, rfl⟩ := Prod.mk.inj (Except.ok.inj resolved)
    exact Chore.isPlain_of_way? on whole
  exact (whole_course listed plain reached inside).alone_of_hand hands

include listed planned reached inside hands on in
/-- An object that was put or copied. -/
lemma departed_of_stored {errand : Errand} {store : StoreName} {call : Call}
    (whole : errand = .put ∨ errand = .copy) (same : activity = .awaiting id errand store call)
    (transfers : activity.Transfers way)
    (work : run.shared.work surroundings activity = some (after, .following id .delete)) :
    run.proposed id = none ∧ run.shared.Departed after id (.following id .delete) rest
      (way.HasSucceeded operation id
        ((batch.start disk records).turns id moves ++ [activity])) := by
  subst same
  obtain ⟨isWay, makes⟩ := transfers
  have ways : way = .put ∨ way = .copy ∨ way = .fetch := by
    rcases whole with rfl | rfl
    · exact .inl (Option.some.inj isWay).symm
    · exact .inr (.inl (Option.some.inj isWay).symm)
  obtain ⟨admitted, rfl⟩ := alone_of_way listed planned reached inside hands on ways
  obtain ⟨turned, goes⟩ := turned_receive inside errand store call surroundings.answer
  have result : run.shared.receive id errand store call surroundings.answer =
      (after, .following id .delete) := Option.some.inj work
  rw [result] at turned goes
  refine ⟨admitted, _, _, turned, ?_, no_hand⟩
  have replied : ∃ reply, Shared.seen call surroundings.answer = .reply reply := by
    cases answered : Shared.seen call surroundings.answer with
    | reply reply => exact ⟨reply, rfl⟩
    | failed error =>
        rw [answered] at goes
        rcases whole with rfl | rfl <;> cases goes
    | panicked message =>
        rw [answered] at goes
        rcases whole with rfl | rfl <;> cases goes
  obtain ⟨reply, answered⟩ := replied
  rw [answered]
  rcases whole with rfl | rfl
  · cases Option.some.inj isWay
    cases call
    case putObject object body attributes =>
      exact ⟨store, object, body, attributes, reply, List.mem_cons_self ..⟩
    all_goals exact makes.elim
  · cases Option.some.inj isWay
    cases call
    case copyObject object source attributes =>
      exact ⟨store, object, source, attributes, reply, List.mem_cons_self ..⟩
    all_goals exact makes.elim

include listed planned reached inside hands on in
/-- A whole object that was written out to a file. -/
lemma departed_of_written {path : LocalPath} {file : FileId} {offset : Nat} {body : Reader}
    (spent : body.isOver = true) (same : activity = .writing id .whole path file offset body)
    (transfers : activity.Transfers way)
    (work : run.shared.work surroundings activity = some (after, .stamping id path)) :
    run.proposed id = none ∧ run.shared.Departed after id (.stamping id path) rest
      (way.HasSucceeded operation id
        ((batch.start disk records).turns id moves ++ [activity])) := by
  subst same
  obtain rfl : way = .fetch := transfers
  obtain ⟨admitted, rfl⟩ :=
    alone_of_way listed planned reached inside hands on (.inr (.inr rfl))
  have result := Option.some.inj work
  rw [Shared.write_of_isOver .whole path file offset spent] at result
  obtain ⟨rfl, -⟩ := Prod.mk.inj result
  have out : WrittenOut id .whole ((batch.start disk records).turns id moves ++
      [.writing id .whole path file offset body]) :=
    ⟨path, file, offset, body, List.mem_append_right _ (List.mem_singleton_self _), spent⟩
  exact ⟨admitted, _, [], .stay inside rfl, out, no_hand⟩

include listed planned reached inside hands on in
/-- An upload or a copy in parts that was completed. -/
lemma departed_of_completed (valid : batch.plan.Valid)
    (same : activity = .reporting id .completed) (transfers : activity.Transfers way)
    (work : run.shared.work surroundings activity = some (after, .following id .delete)) :
    run.proposed id = none ∧ run.shared.Departed after id (.following id .delete) rest
      (way.HasSucceeded operation id
        ((batch.start disk records).turns id moves ++ [activity])) := by
  subst same
  obtain rfl : .partsUp = way := transfers
  cases planned_of_resolve planned with
  | @whole action => cases action <;> cases on
  | download => cases on
  | upload remote split sized =>
      obtain ⟨object, -, -, course⟩ := upload_course valid listed planned rfl reached inside
      rw [Run.view, hands] at course
      obtain ⟨admitted, completed, ⟨upload, set, claimed⟩, feeders⟩ := course.of_completed
      have result : run.shared.report id .completed = (after, .following id .delete) :=
        Option.some.inj work
      rw [report_of_upload set rfl] at result
      obtain ⟨rfl, -⟩ := Prod.mk.inj result
      refine ⟨admitted, _, [], .of_changed (.ofUpload _) rfl, completed, fun hand present => ?_⟩
      refine ⟨.upload, feeders hand present, fun other same => ?_⟩
      obtain rfl := Option.some.inj same
      exact claimed

include listed planned reached inside hands on in
/-- A download of which every part was written out. -/
lemma departed_of_kept (valid : batch.plan.Valid) {path : LocalPath} {download : Download}
    (set : (run.shared.operation id).download = some download)
    (sound : download.progress.failure = none)
    (same : activity = .starting id .completeDownload) (transfers : activity.Transfers way)
    (work : run.shared.work surroundings activity = some (after, .stamping id path)) :
    run.proposed id = none ∧ run.shared.Departed after id (.stamping id path) rest
      (way.HasSucceeded operation id
        ((batch.start disk records).turns id moves ++ [activity])) := by
  subst same
  obtain rfl : .partsDown = way := Option.some.inj transfers
  cases planned_of_resolve planned with
  | @whole action => cases action <;> cases on
  | upload => cases on
  | download source destination split sized =>
      have course := download_course valid listed planned rfl reached inside
      rw [Run.view, hands] at course
      obtain ⟨admitted, claimed, all, total, feeders⟩ := course.of_finishing set sound
      have landing := landing planned rfl listed reached inside
      obtain ⟨known, isKnown, -, places⟩ := landing.places
      obtain rfl := Option.some.inj (isKnown.symm.trans set)
      have out (index : Nat) (small : index < known.progress.next) :=
        (places.writtenOut_of_all (fun _ => rfl) all small).append [.starting id .completeDownload]
      rw [total] at out
      have result : run.shared.startFinish id = (after, .stamping id path) := Option.some.inj work
      simp only [Shared.startFinish, set] at result
      split at result
      · next none => cases none
      · cases (Prod.mk.inj result).2
      · next download path' same written =>
          obtain rfl := Option.some.inj same
          obtain ⟨rfl, -⟩ := Prod.mk.inj result
          refine ⟨admitted, _, [], .of_changed (.ofDownload _) rfl, ⟨_, rfl, out⟩, ?_⟩
          intro hand present
          refine ⟨.download, feeders hand present, fun other same => ?_⟩
          obtain rfl := Option.some.inj same
          exact claimed

end Run
end BulkTransfer
