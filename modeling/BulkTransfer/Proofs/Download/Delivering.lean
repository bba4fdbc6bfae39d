import BulkTransfer.Proofs.Download.Carrying
import BulkTransfer.Proofs.Download.Turn

/-!
# Parts that arrive

What a store serves of a part is written to the part's place in the file, piece by piece. Every turn
at the parts of a retrieval carries them on (`Retrieval.Carrying.turn`), and when the last one has
been written, the file is whole (`Retrieval.Carrying.whole`).
-/

namespace BulkTransfer

open Pool Multipart

namespace Retrieval

variable {retrieval : Retrieval} {chunksize : Nat} {file : FileId} {bytes : Bytes}
  {index part : Nat} {hand activity : Activity} {progress next : Progress}
  {left rest : Multiset Activity}

/-! ## What is served and written -/

lemma stop_le (retrieval : Retrieval) (chunksize index : Nat) :
    retrieval.stop chunksize index ≤ retrieval.whole.length :=
  PartSpan.stopIn_le ..

/-- What a store that serves the object answers to the call for a part: the bytes of the part, if
the object reaches as far as the part begins. -/
lemma seen_part (cut : 0 < chunksize) (inside : index < retrieval.parts chunksize) :
    (retrieval.span chunksize index).first ≤ retrieval.stop chunksize index ∧
        Shared.seen (retrieval.partCall chunksize index) (retrieval.partAnswer chunksize index) =
          .reply (.object (some (retrieval.piece chunksize
            (retrieval.span chunksize index).first index))) ∨
      retrieval.stop chunksize index < (retrieval.span chunksize index).first ∧
        ∃ error, Shared.seen (retrieval.partCall chunksize index)
          (retrieval.partAnswer chunksize index) = .failed error := by
  have read : PartSpan.readHeader? (retrieval.span chunksize index).openHeader
      retrieval.content.size =
        if (retrieval.span chunksize index).first ≤ retrieval.stop chunksize index then
          some ((retrieval.span chunksize index).first, retrieval.stop chunksize index)
        else none := by
    rw [stop, whole, Array.length_toList]
    exact PartSpan.readHeader?_ofIndex cut retrieval.bounded inside retrieval.content.size
  by_cases reaches : (retrieval.span chunksize index).first ≤ retrieval.stop chunksize index
  · refine .inl ⟨reaches, ?_⟩
    simp only [partAnswer, Script.serve, read, if_pos reaches, Bytes.extract_toList]
    rfl
  · refine .inr ⟨Nat.lt_of_not_le reaches, .remote "GetObject" "InvalidRange", ?_⟩
    simp only [partAnswer, Script.serve, read, if_neg reaches]
    rfl

/-- The object reaches as far as each part of a secured retrieval begins. -/
lemma first_le_stop (secured : retrieval.secured) (cut : 0 < chunksize)
    (inside : index < retrieval.parts chunksize) :
    (retrieval.span chunksize index).first ≤ retrieval.stop chunksize index := by
  have begins := (lt_partsNeeded_iff cut).1 inside
  have sized : retrieval.record.size ≤ retrieval.whole.length := retrieval.sized secured
  have ends := PartSpan.end_ofIndex cut retrieval.bounded inside
  have next : (index + 1) * chunksize = index * chunksize + chunksize := Nat.add_one_mul ..
  have first : (retrieval.span chunksize index).first = index * chunksize := rfl
  have last : (retrieval.span chunksize index).last =
      (PartSpan.ofIndex retrieval.record.size chunksize index).last := rfl
  rw [first, stop, PartSpan.stopIn]
  split <;> omega

/-- A body of a part is a piece of the object, or has been written to its end. -/
lemma piece_cases {offset : Nat} (upTo : offset ≤ retrieval.stop chunksize index) :
    (offset = retrieval.stop chunksize index ∧ retrieval.piece chunksize offset index = []) ∨
      ∃ length, 0 < length ∧ offset + length = retrieval.stop chunksize index ∧
        (retrieval.whole.slice offset length).length = length ∧
          retrieval.piece chunksize offset index =
            [.piece (retrieval.whole.slice offset length)] := by
  have last := retrieval.stop_le chunksize index
  have inside : offset + (retrieval.stop chunksize index - offset) ≤ retrieval.whole.length := by
    omega
  rcases Reader.ofBytes_cases
      (retrieval.whole.slice offset (retrieval.stop chunksize index - offset)) with
    ⟨empty, reader⟩ | ⟨filled, reader⟩
  · rw [Bytes.slice_eq_nil_iff inside] at empty
    exact .inl ⟨by omega, reader⟩
  · rw [ne_eq, Bytes.slice_eq_nil_iff inside] at filled
    exact .inr ⟨_, Nat.pos_of_ne_zero filled, by omega, Bytes.length_slice inside, reader⟩

lemma span_injective (same : retrieval.span chunksize index = retrieval.span chunksize part) :
    index = part :=
  Nat.succ.inj (congrArg PartSpan.number same)

section

variable {range : PartSpan} {target : FileId} {store : StoreName} {call : Call} {given : Answer}
  (cut : 0 < chunksize)
  (served : ∀ own errand asked,
    Activity.awaiting retrieval.id (.fetchPart range target) store call =
        .awaiting own errand retrieval.store (.getObject retrieval.object asked) →
      given = Script.serve retrieval.content asked)
  (carrying : retrieval.Carrying chunksize file progress bytes
    (.awaiting retrieval.id (.fetchPart range target) store call ::ₘ rest))
include cut served carrying

/-- A part that has been fetched goes on to be written. -/
lemma Carrying.fetch {body : Reader}
    (has : Shared.seen call given = .reply (.object (some body))) :
    retrieval.Carrying chunksize file progress bytes
      ({.writing retrieval.id (.part range) retrieval.path target range.first body} + rest) := by
  obtain ⟨index, inside, -, rfl, rfl, rfl, rfl⟩ := carrying.has nofun rfl
  rw [served _ _ _ rfl] at has
  rcases retrieval.seen_part cut inside with ⟨reaches, answer⟩ | ⟨-, error, answer⟩
  · obtain rfl := Option.some.inj (Reply.object.inj (Answer.reply.inj (answer.symm.trans has)))
    have begun : retrieval.Carries chunksize target bytes index
        (.writing retrieval.id (.part (retrieval.span chunksize index)) retrieval.path target
          (retrieval.span chunksize index).first
          (retrieval.piece chunksize (retrieval.span chunksize index).first index)) :=
      ⟨rfl, rfl, rfl, rfl, reaches, Bytes.covers_empty _ _ _, rfl⟩
    refine carrying.pass (grows_refl retrieval bytes) rfl (.inr (.inr ⟨index, inside, begun⟩))
      (fun _ => rfl) ?_
    rintro - part ⟨-, same, -⟩
    rw [← span_injective same]
    exact begun
  · cases answer.symm.trans has

/-- Nothing is served of a part only if the object ends before it. -/
lemma Carrying.not_secured
    (lacks : ∀ body, Shared.seen call given ≠ .reply (.object (some body))) :
    ¬retrieval.secured := by
  intro secured
  obtain ⟨index, inside, -, rfl, rfl, rfl, rfl⟩ := carrying.has nofun rfl
  rw [served _ _ _ rfl] at lacks
  rcases retrieval.seen_part cut inside with ⟨-, answer⟩ | ⟨short, -⟩
  · exact lacks _ answer
  · exact absurd (first_le_stop secured cut inside) (Nat.not_le.2 short)

end

section

variable {disk after : Disk} {range : PartSpan} {path : LocalPath} {target : FileId} {offset : Nat}
  {written : Bytes} {body : Reader}

/-- What is written of a part is a piece of the object, in its place. -/
lemma Carrying.write
    (carrying : retrieval.Carrying chunksize file progress bytes
      (.writing retrieval.id (.part range) path target offset (.piece written :: body) ::ₘ rest))
    (filled : written ≠ []) :
    target = file ∧ offset + written.length ≤ retrieval.whole.length ∧
      written = retrieval.whole.slice offset written.length ∧
        retrieval.Carrying chunksize file progress (bytes.placed offset written)
          ({.writing retrieval.id (.part range) path target (offset + written.length) body} +
            rest) := by
  obtain ⟨index, inside, -, rfl, rfl, rfl, upTo, covers, made⟩ := carrying.has nofun rfl
  rcases piece_cases upTo with ⟨-, spent⟩ | ⟨length, some, ends, whole, reader⟩
  · rw [spent] at made
    cases made
  · rw [reader] at made
    obtain ⟨same, rfl⟩ := List.cons.inj made
    obtain rfl := Delivery.piece.inj same
    have last := retrieval.stop_le chunksize index
    rw [whole]
    refine ⟨rfl, by omega, rfl, ?_⟩
    have grows := grows_placed (show offset + length ≤ retrieval.whole.length by omega) bytes
    have spent : retrieval.piece chunksize (offset + length) index = [] := by
      rw [ends, piece, Nat.sub_self]
      rfl
    have done : retrieval.Carries chunksize target
        (bytes.placed offset (retrieval.whole.slice offset length)) index
        (.writing retrieval.id (.part (retrieval.span chunksize index)) retrieval.path target
          (offset + length) []) :=
      ⟨rfl, rfl, rfl, rfl, ends.le, covers.extended (by omega), spent.symm⟩
    refine carrying.pass grows rfl (.inr (.inr ⟨index, inside, done⟩)) (fun _ => rfl) ?_
    rintro - part ⟨-, same, -⟩
    rw [← span_injective same]
    exact done

/-- A piece that does not fit into the file is written as far as it fits. -/
lemma Carrying.refuse {format : DiskFormat} {cause : IoCause} {error : Failure} {began : Bool}
    (room : retrieval.secured → retrieval.whole.length ≤ format.longestFile)
    (carrying : retrieval.Carrying chunksize file progress bytes
      (.writing retrieval.id (.part range) path target offset (.piece written :: body) ::ₘ rest))
    (filled : written ≠ []) (refused : format.writeRefusal? offset written.length = some cause) :
    target = file ∧
      retrieval.Carrying chunksize file progress
        (bytes.placed offset (format.fitting offset written))
          ({.reporting retrieval.id (.partLost .download error began)} + rest) := by
  obtain ⟨rfl, inside, piece, -⟩ := carrying.write filled
  refine ⟨rfl, ?_⟩
  have grows : retrieval.Grows bytes (bytes.placed offset (format.fitting offset written)) := by
    obtain ⟨count, fits⟩ := format.exists_fitting_eq_take offset written
    rw [fits, piece, Bytes.take_slice]
    exact grows_placed (by omega) bytes
  refine carrying.lose grows rfl fun secured => ?_
  have reaches := Nat.le_trans inside (room secured)
  rw [(DiskFormat.writeRefusal?_eq_none_iff ..).2 reaches] at refused
  cases refused

/-- What is left of a part is handed out at once. -/
lemma Carrying.reader
    (carrying : retrieval.Carrying chunksize file progress bytes
      (.writing retrieval.id (.part range) path target offset body ::ₘ rest)) :
    body = [] ∨ ∃ written, body = [.piece written] := by
  obtain ⟨index, -, -, -, -, -, upTo, -, rfl⟩ := carrying.has nofun rfl
  rcases piece_cases upTo with ⟨-, none⟩ | ⟨length, -, -, -, some⟩
  · exact .inl none
  · exact .inr ⟨_, some⟩

/-- A body that has been written to its end leaves its part in the file. -/
lemma Carrying.writtenOut
    (carrying : retrieval.Carrying chunksize file progress bytes
      (.writing retrieval.id (.part range) path target offset body ::ₘ rest))
    (spent : body = [] ∨ ∃ more, body = .piece [] :: more) :
    retrieval.Carrying chunksize file progress bytes
      ({.reporting retrieval.id (.partWritten range)} + rest) := by
  obtain ⟨index, inside, -, rfl, rfl, rfl, upTo, covers, rfl⟩ := carrying.has nofun rfl
  rcases piece_cases upTo with ⟨ends, -⟩ | ⟨length, some, -, whole, reader⟩
  · rw [ends] at covers
    refine carrying.pass (grows_refl retrieval bytes) rfl
      (.inr (.inr ⟨index, inside, rfl, rfl, covers⟩)) (fun _ => rfl) ?_
    rintro - part ⟨-, same, -⟩
    rw [← span_injective same]
    exact ⟨rfl, rfl, covers⟩
  · rw [reader] at spent
    rcases spent with none | ⟨more, empty⟩
    · cases none
    · obtain ⟨same, -⟩ := List.cons.inj empty
      rw [Delivery.piece.inj same] at whole
      exact absurd whole (Nat.ne_of_lt some)

end

/-- A hand whose part has been written goes on feeding. -/
lemma Carrying.done {range : PartSpan}
    (carrying : retrieval.Carrying chunksize file progress bytes
      (.reporting retrieval.id (.partWritten range) ::ₘ rest)) :
    retrieval.Carrying chunksize file progress.partFinished bytes
      ({.feeding retrieval.id .download} + rest) := by
  refine carrying.goOn (grows_refl retrieval bytes) rfl carrying.deferred (.inl rfl)
    (fun sound => ⟨sound, rfl⟩) (fun secured => ⟨(carrying.unharmed secured).1, rfl⟩) ?_
  rintro - - part (after | back | ⟨-, -, stored⟩)
  · exact .inl after
  · exact .inr (.inl back)
  · exact .inr (.inr (.inr stored))

/-- The failure of a part is reported; no part of a secured retrieval fails. -/
lemma Carrying.lost {error : Failure} {began : Bool}
    (carrying : retrieval.Carrying chunksize file progress bytes
      (.reporting retrieval.id (.partLost .download error began) ::ₘ rest)) :
    ¬retrieval.secured ∧
      retrieval.Carrying chunksize file (progress.partLost error.message began) bytes
        (0 + rest) := by
  have unsecured : ¬retrieval.secured := by
    intro secured
    cases (carrying.unharmed secured).2 _ (Multiset.mem_cons_self _ rest)
  exact ⟨unsecured, carrying.leave rfl carrying.deferred nofun
    (fun secured => absurd secured unsecured) nofun⟩

/-- A part is skipped when a part has failed. -/
lemma Carrying.skip
    (carrying : retrieval.Carrying chunksize file progress bytes (activity ::ₘ rest))
    (failed : progress.failure ≠ none) :
    retrieval.Carrying chunksize file progress bytes (0 + rest) :=
  carrying.leave rfl carrying.deferred (fun sound => absurd sound failed)
    (fun secured => (carrying.unharmed secured).1) fun sound => absurd sound failed

/-- A part that is started is asked for. -/
lemma Carrying.enter {operation : Operation} {range : PartSpan}
    (carrying : retrieval.Carrying chunksize file progress bytes
      (.starting retrieval.id (.downloadPart range) ::ₘ rest))
    (describes : retrieval.Describes operation) (entered : progress.enter? = some next)
    (begins : (∃ call, operation.fetchPartCall range = .ok call ∧
        hand = .sending retrieval.id (.fetchPart range file) operation.sourceStore call) ∨
      ∃ error, operation.fetchPartCall range = .error error ∧
        hand = .reporting retrieval.id (.partLost .download error true)) :
    retrieval.Carrying chunksize file next bytes ({hand} + rest) := by
  obtain ⟨-, -, rfl⟩ := Progress.of_enter? entered
  obtain ⟨index, inside, -, rfl⟩ := carrying.has nofun rfl
  have fetches : hand = .sending retrieval.id (.fetchPart (retrieval.span chunksize index) file)
      retrieval.store (retrieval.partCall chunksize index) := by
    rw [describes.fetchPartCall, describes.store] at begins
    rcases begins with ⟨call, made, rfl⟩ | ⟨error, made, -⟩
    · rw [← Except.ok.inj made]
      rfl
    · cases made
  subst fetches
  refine carrying.goOn (grows_refl retrieval bytes) rfl carrying.deferred
    (.inr (.inr ⟨index, inside, rfl, rfl, rfl, rfl, rfl⟩)) (fun sound => ⟨sound, rfl⟩)
    (fun secured => ⟨(carrying.unharmed secured).1, rfl⟩) ?_
  rintro - - part (after | back | ⟨-, span⟩)
  · exact .inl after
  · exact .inr (.inl back)
  · rw [← span_injective span]
    exact .inr (.inr (.inl ⟨rfl, rfl, rfl, rfl, rfl⟩))

lemma role?_of_carries (carries : retrieval.Carries chunksize file bytes index hand) :
    hand.role? = some .holder ∨ hand.role? = some .runner := by
  cases hand
  case offering | deferring | forcing => exact .inl rfl
  case starting own chore => cases chore <;> first | exact False.elim carries | exact .inl rfl
  case sending own errand store call =>
    cases errand <;> first | exact False.elim carries | exact .inr rfl
  case awaiting own errand store call =>
    cases errand <;> first | exact False.elim carries | exact .inr rfl
  case writing own extent path target offset body =>
    cases extent <;> first | exact False.elim carries | exact .inr rfl
  case reporting own report =>
    cases report <;> first | exact False.elim carries | exact .inr rfl
  all_goals exact False.elim carries

lemma role?_of_isLost (lost : hand.isLost = true) :
    hand.role? = some .refused ∨ hand.role? = some .runner := by
  cases hand
  case reporting own report =>
    cases report
    case partLost side error began => cases began <;> simp
    all_goals cases lost
  all_goals cases lost

lemma role?_ne_of_playing {hands : Multiset Activity} {role : Role}
    (none : playing role hands = 0) (present : hand ∈ hands) : hand.role? ≠ some role :=
  Multiset.countP_eq_zero.1 none hand present

/-- Before the last part is reported, all parts have been handed out and none is in the hands of
anybody else. -/
lemma nobody_else {range : PartSpan} {id : OperationId}
    (accounts : Accounts progress (.reporting id (.partWritten range) ::ₘ rest))
    (last : progress.partFinished.claimEnd? = some next) (sound : progress.failure = none) :
    progress.next = progress.total ∧ progress.deferred = [] ∧ playing .holder rest = 0 ∧
      playing .refused rest = 0 ∧ playing .runner rest = 0 := by
  obtain ⟨unclaimed, done, -⟩ := Progress.of_claimEnd? last
  rw [Progress.isDone_of_no_failure (show progress.partFinished.failure = none from sound)] at done
  have finished : progress.succeeded + 1 = progress.total := of_decide_eq_true done
  simp [Accounts, Activity.role?] at accounts
  have bounded := accounts.bounded
  have going := accounts.going sound unclaimed
  have none : progress.deferred.length = 0 := by omega
  exact ⟨by omega, List.length_eq_zero_iff.1 none, by omega, by omega, by omega⟩

/-- When the last part has been written, the file is whole. -/
theorem Carrying.whole {range : PartSpan} (cut : 0 < chunksize) (sized : 0 < retrieval.record.size)
    (carrying : retrieval.Carrying chunksize file progress bytes
      (.reporting retrieval.id (.partWritten range) ::ₘ rest))
    (accounts : Accounts progress (.reporting retrieval.id (.partWritten range) ::ₘ rest))
    (last : progress.partFinished.claimEnd? = some next) (sound : progress.failure = none) :
    bytes = retrieval.whole := by
  obtain ⟨handedOut, noneBack, noHolder, noRefused, noRunner⟩ := nobody_else accounts last sound
  have noneLost : ∀ hand ∈ Activity.reporting retrieval.id (.partWritten range) ::ₘ rest,
      hand.isLost = false := by
    intro hand present
    rcases Multiset.mem_cons.1 present with rfl | other
    · rfl
    · refine Bool.eq_false_iff.2 fun lost => ?_
      rcases role?_of_isLost lost with refused | runs
      · exact role?_ne_of_playing noRefused other refused
      · exact role?_ne_of_playing noRunner other runs
  refine Bytes.eq_of_covers carrying.short fun i held => ?_
  obtain ⟨index, inside, from_, upTo⟩ :=
    PartSpan.exists_inRange cut retrieval.bounded sized held
  refine ⟨_, _, from_, upTo, ?_⟩
  rcases carrying.accounted sound noneLost index inside with
    after | back | ⟨hand, present, carries⟩ | stored
  · have total : progress.next = retrieval.parts chunksize := handedOut.trans carrying.total
    have inside : index < retrieval.parts chunksize := inside
    omega
  · rw [noneBack] at back
    cases back
  · rcases Multiset.mem_cons.1 present with rfl | other
    · exact carries.2.2
    · rcases role?_of_carries carries with holds | runs
      · exact absurd holds (role?_ne_of_playing noHolder other)
      · exact absurd runs (role?_ne_of_playing noRunner other)
  · exact stored

/-- What a turn at the parts comes to while they are under way: they are carried on, or their end
has been claimed. -/
inductive Carried (retrieval : Retrieval) (chunksize : Nat) (file : FileId)
    (rest : Multiset Activity) (next : Progress) (grown : Bytes) :
    Multiset Activity → Prop where
  | on {left : Multiset Activity} (unclaimed : next.endClaimed = false)
      (carrying : retrieval.Carrying chunksize file next grown (left + rest)) :
      Carried retrieval chunksize file rest next grown left
  | concluded (claimed : next.endClaimed = true)
      (whole : next.failure = none → grown = retrieval.whole)
      (unharmed : retrieval.secured → next.failure = none) :
      Carried retrieval chunksize file rest next grown {.following retrieval.id .finish}

/-- Every turn at the parts carries them on, or ends them. -/
theorem Carrying.turn {operation : Operation} {download after : Download} {disk later : Disk}
    {barred : Nat → Prop} {given : Answer} {notes : List Event} (cut : 0 < chunksize)
    (sized : 0 < retrieval.record.size) (describes : retrieval.Describes operation)
    (set : operation.download = some download) (chunk : download.chunksize = chunksize)
    (isOpen : download.file = some file) (unclaimed : download.progress.endClaimed = false)
    (sound : disk.Sound) (shows : disk.shown retrieval.path = .file file bytes)
    (room : retrieval.secured → retrieval.whole.length ≤ disk.format.longestFile)
    (served : ∀ own errand range,
      activity = .awaiting own errand retrieval.store (.getObject retrieval.object range) →
        given = Script.serve retrieval.content range)
    (unbarred : retrieval.secured → ∀ index,
      activity = .offering retrieval.id .download index ∨
        activity = .forcing retrieval.id .download index → ¬barred index)
    (accounts : Accounts download.progress (activity ::ₘ rest))
    (carrying : retrieval.Carrying chunksize file download.progress bytes (activity ::ₘ rest))
    (turn : DownloadTurn operation retrieval.id download disk barred given activity after later
      notes left) :
    .discarded retrieval.id retrieval.path ∉ notes ∧
      ∃ grown, later.shown retrieval.path = .file file grown ∧
        retrieval.Carried chunksize file rest after.progress grown left := by
  have same := shows
  cases turn with
  | queued queueing =>
      have spans (index : Nat) :
          operation.span .download index = retrieval.span chunksize index := by
        simp [Operation.span, Operation.chunksize, set, chunk, describes.record, span]
      exact ⟨List.not_mem_nil, bytes, same, .on (queueing.failure.2.1.trans unclaimed)
        (carrying.queue queueing spans unbarred)⟩
  | skipped closed =>
      refine ⟨List.not_mem_nil, bytes, same, .on unclaimed (carrying.skip fun sound => ?_)⟩
      rcases Progress.of_enter?_eq_none closed with failed | claimed
      · exact failed sound
      · rw [unclaimed] at claimed
        cases claimed
  | @entered range target next hand opened entered begins =>
      obtain rfl := Option.some.inj (opened.symm.trans isOpen)
      have onward : next.endClaimed = false := by
        rw [(Progress.of_enter? entered).2.2]
        exact unclaimed
      exact ⟨List.not_mem_nil, bytes, same,
        .on onward (carrying.enter describes entered begins)⟩
  | sent range target store call =>
      refine ⟨by simp, bytes, same, .on unclaimed ?_⟩
      obtain ⟨index, inside, carries⟩ := carrying.has nofun rfl
      exact carrying.pass (grows_refl retrieval bytes) rfl (.inr (.inr ⟨index, inside, carries⟩))
        (fun _ => rfl) fun _ _ carries => carries
  | fetched has written =>
      rw [describes.fileWritten] at written
      obtain rfl := Except.ok.inj written
      exact ⟨by simp, bytes, same, .on unclaimed (carrying.fetch cut served has)⟩
  | unfetched error lacks =>
      have unsecured := carrying.not_secured cut served fun body has =>
        lacks body _ has describes.fileWritten
      exact ⟨by simp, bytes, same,
        .on unclaimed (carrying.lose (grows_refl retrieval bytes) rfl unsecured)⟩
  | waited range path target offset more =>
      rcases carrying.reader with none | ⟨written, some⟩
      · cases none
      · cases (List.cons.inj some).1
  | @wrote range path target offset written more filled fits =>
      obtain ⟨rfl, -, -, goes⟩ := carrying.write filled
      refine ⟨by simp, bytes.placed offset written, ?_, .on unclaimed goes⟩
      rw [Disk.shown_write same sound, DiskFormat.fitting_eq_self _ offset written fits]
  | @unwritten range path target offset written more cause filled refused =>
      obtain ⟨rfl, goes⟩ := carrying.refuse room filled refused
      exact ⟨by simp, _, Disk.shown_write same sound offset written, .on unclaimed goes⟩
  | broken range path target offset message more =>
      rcases carrying.reader with none | ⟨written, some⟩
      · cases none
      · cases (List.cons.inj some).1
  | written spent =>
      exact ⟨List.not_mem_nil, bytes, same, .on unclaimed (carrying.writtenOut spent)⟩
  | done pending => exact ⟨List.not_mem_nil, bytes, same, .on unclaimed carrying.done⟩
  | @doneLast range progress last =>
      obtain ⟨-, -, rfl⟩ := Progress.of_claimEnd? last
      exact ⟨List.not_mem_nil, bytes, same, .concluded rfl
        (fun sound => carrying.whole cut sized accounts last sound)
        fun secured => (carrying.unharmed secured).1⟩
  | lost pending => exact ⟨List.not_mem_nil, bytes, same, .on unclaimed carrying.lost.2⟩
  | @lostLast error began progress last =>
      obtain ⟨-, -, rfl⟩ := Progress.of_claimEnd? last
      exact ⟨List.not_mem_nil, bytes, same, .concluded rfl nofun
        fun secured => absurd secured carrying.lost.1⟩

end Retrieval
end BulkTransfer
