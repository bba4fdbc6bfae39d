import BulkTransfer.Proofs.Download.Retrieval
import BulkTransfer.Proofs.Files.Pieces
import BulkTransfer.Proofs.Parts.Queueing
import BulkTransfer.Proofs.Parts.Spans

/-!
# Parts that are carried to a file

While the parts of a retrieval are under way, the file never has anything but bytes of the object in
their places, and every part that is not yet to be handed out is in the hands of somebody or in the
file, unless a part has failed (`Retrieval.Carrying`). What a turn has to see to, for this to stay,
is said once (`Retrieval.Carrying.step`); bringing parts into the queue sees to it
(`Retrieval.Carrying.queue`).
-/

namespace BulkTransfer

open Pool Multipart

/-- Whether a hand is about to report a part that failed. -/
def Pool.Activity.isLost : Activity → Bool
  | .reporting _ (.partLost ..) => true
  | _ => false

namespace Retrieval

variable (retrieval : Retrieval) (chunksize : Nat)

/-- The number of parts. -/
def parts : Nat := partsNeeded retrieval.record.size chunksize

/-- The span of a part. -/
def span (index : Nat) : PartSpan := .ofIndex retrieval.record.size chunksize index

/-- Where a part ends in the object. -/
def stop (index : Nat) : Nat := (retrieval.span chunksize index).stopIn retrieval.whole.length

/-- The call for a part. -/
def partCall (index : Nat) : Call :=
  .getObject retrieval.object (some (retrieval.span chunksize index).openHeader)

/-- The answer of a store that serves the object to the call for a part. -/
def partAnswer (index : Nat) : Answer :=
  Script.serve retrieval.content (some (retrieval.span chunksize index).openHeader)

/-- What a store serves of a part from an offset on. -/
def piece (offset index : Nat) : Reader :=
  Reader.ofBytes (retrieval.whole.slice offset (retrieval.stop chunksize index - offset))

/-- Whether the bytes of a part are in the file. -/
def Stored (bytes : Bytes) (index : Nat) : Prop :=
  Bytes.Covers retrieval.whole bytes (retrieval.span chunksize index).first
    (retrieval.stop chunksize index)

/-- Whether a hand has a part in hand, as it should be. -/
def Carries (file : FileId) (bytes : Bytes) (index : Nat) : Activity → Prop
  | .offering own side part | .deferring own side part | .forcing own side part =>
      own = retrieval.id ∧ side = .download ∧ part = index
  | .starting own (.downloadPart range) =>
      own = retrieval.id ∧ range = retrieval.span chunksize index
  | .sending own (.fetchPart range target) store call
  | .awaiting own (.fetchPart range target) store call =>
      own = retrieval.id ∧ range = retrieval.span chunksize index ∧ target = file ∧
        store = retrieval.store ∧ call = retrieval.partCall chunksize index
  | .writing own (.part range) path target offset body =>
      own = retrieval.id ∧ range = retrieval.span chunksize index ∧ path = retrieval.path ∧
        target = file ∧ offset ≤ retrieval.stop chunksize index ∧
          Bytes.Covers retrieval.whole bytes (retrieval.span chunksize index).first offset ∧
            body = retrieval.piece chunksize offset index
  | .reporting own (.partWritten range) =>
      own = retrieval.id ∧ range = retrieval.span chunksize index ∧
        retrieval.Stored chunksize bytes index
  | _ => False

/-- Whether a hand is one that a retrieval has while its parts are under way. -/
def Fits (file : FileId) (bytes : Bytes) (hand : Activity) : Prop :=
  hand = .feeding retrieval.id .download ∨ hand.isLost = true ∨
    ∃ index, index < retrieval.parts chunksize ∧ retrieval.Carries chunksize file bytes index hand

/-- Whether a part is still to be handed out, in the hands of somebody, or in the file. -/
def Accounted (file : FileId) (progress : Progress) (bytes : Bytes) (hands : Multiset Activity)
    (index : Nat) : Prop :=
  progress.next ≤ index ∨ index ∈ progress.deferred ∨
    (∃ hand ∈ hands, retrieval.Carries chunksize file bytes index hand) ∨
      retrieval.Stored chunksize bytes index

/-- What holds of a retrieval while its parts are under way. -/
structure Carrying (file : FileId) (progress : Progress) (bytes : Bytes)
    (hands : Multiset Activity) : Prop where
  short : bytes.length ≤ retrieval.whole.length
  total : progress.total = retrieval.parts chunksize
  deferred : ∀ index ∈ progress.deferred, index < retrieval.parts chunksize
  fits : ∀ hand ∈ hands, retrieval.Fits chunksize file bytes hand
  accounted : progress.failure = none → (∀ hand ∈ hands, hand.isLost = false) →
    ∀ index, index < retrieval.parts chunksize →
      retrieval.Accounted chunksize file progress bytes hands index
  unharmed : retrieval.secured → progress.failure = none ∧ ∀ hand ∈ hands, hand.isLost = false

/-- Whether a file that has come closer to the whole has what it had of it. -/
structure Grows (bytes after : Bytes) : Prop where
  short : bytes.length ≤ retrieval.whole.length → after.length ≤ retrieval.whole.length
  covers : ∀ first stop, Bytes.Covers retrieval.whole bytes first stop →
    Bytes.Covers retrieval.whole after first stop

variable {retrieval} {chunksize} {file : FileId} {bytes grown : Bytes} {index part : Nat}
  {hand activity : Activity} {progress next : Progress} {left rest : Multiset Activity}

lemma grows_refl (retrieval : Retrieval) (bytes : Bytes) : retrieval.Grows bytes bytes :=
  ⟨fun short => short, fun _ _ covers => covers⟩

lemma grows_placed {offset length : Nat} (inside : offset + length ≤ retrieval.whole.length)
    (bytes : Bytes) :
    retrieval.Grows bytes (bytes.placed offset (retrieval.whole.slice offset length)) :=
  ⟨Bytes.length_placed_slice inside, fun _ _ covers => covers.placed inside⟩

lemma Carries.grow (grows : retrieval.Grows bytes grown)
    (carries : retrieval.Carries chunksize file bytes index hand) :
    retrieval.Carries chunksize file grown index hand := by
  cases hand
  case starting own chore => cases chore <;> exact carries
  case sending own errand store call => cases errand <;> exact carries
  case awaiting own errand store call => cases errand <;> exact carries
  case writing own extent path target offset body =>
    cases extent
    case whole => exact carries
    case part range =>
      obtain ⟨same, span, at_, target, upTo, covers, body⟩ := carries
      exact ⟨same, span, at_, target, upTo, grows.covers _ _ covers, body⟩
  case reporting own report =>
    cases report
    case partWritten range =>
      obtain ⟨same, span, stored⟩ := carries
      exact ⟨same, span, grows.covers _ _ stored⟩
    all_goals exact carries
  all_goals exact carries

lemma Fits.grow (grows : retrieval.Grows bytes grown)
    (fits : retrieval.Fits chunksize file bytes hand) :
    retrieval.Fits chunksize file grown hand := by
  rcases fits with feeds | lost | ⟨index, inside, carries⟩
  · exact .inl feeds
  · exact .inr (.inl lost)
  · exact .inr (.inr ⟨index, inside, carries.grow grows⟩)

/-- What a turn has to see to, for the parts to be carried on. -/
theorem Carrying.step
    (carrying : retrieval.Carrying chunksize file progress bytes (activity ::ₘ rest))
    (grows : retrieval.Grows bytes grown) (total : next.total = progress.total)
    (deferred : ∀ index ∈ next.deferred, index < retrieval.parts chunksize)
    (fits : ∀ hand ∈ left, retrieval.Fits chunksize file grown hand)
    (failure : next.failure = none → progress.failure = none ∧ activity.isLost = false)
    (unharmed : retrieval.secured → next.failure = none ∧ ∀ hand ∈ left, hand.isLost = false)
    (moved : next.failure = none → (∀ hand ∈ left, hand.isLost = false) →
      ∀ index, index < retrieval.parts chunksize →
        (progress.next ≤ index ∨ index ∈ progress.deferred ∨
          retrieval.Carries chunksize file bytes index activity) →
        retrieval.Accounted chunksize file next grown left index) :
    retrieval.Carrying chunksize file next grown (left + rest) where
  short := grows.short carrying.short
  total := total.trans carrying.total
  deferred := deferred
  fits hand present := by
    rcases Multiset.mem_add.1 present with new | old
    · exact fits hand new
    · exact (carrying.fits hand (Multiset.mem_cons_of_mem old)).grow grows
  accounted sound noneLost index inside := by
    obtain ⟨soundBefore, notLost⟩ := failure sound
    have leftLost (hand : Activity) (new : hand ∈ left) : hand.isLost = false :=
      noneLost hand (Multiset.mem_add.2 (.inl new))
    have before : ∀ hand ∈ activity ::ₘ rest, hand.isLost = false := by
      intro hand present
      rcases Multiset.mem_cons.1 present with rfl | old
      · exact notLost
      · exact noneLost hand (Multiset.mem_add.2 (.inr old))
    have onward (goes : retrieval.Accounted chunksize file next grown left index) :
        retrieval.Accounted chunksize file next grown (left + rest) index := by
      rcases goes with later | back | ⟨hand, new, carries⟩ | stored
      · exact .inl later
      · exact .inr (.inl back)
      · exact .inr (.inr (.inl ⟨hand, Multiset.mem_add.2 (.inl new), carries⟩))
      · exact .inr (.inr (.inr stored))
    rcases carrying.accounted soundBefore before index inside with
      later | back | ⟨hand, present, carries⟩ | stored
    · exact onward (moved sound leftLost index inside (.inl later))
    · exact onward (moved sound leftLost index inside (.inr (.inl back)))
    · rcases Multiset.mem_cons.1 present with rfl | old
      · exact onward (moved sound leftLost index inside (.inr (.inr carries)))
      · exact .inr (.inr (.inl ⟨hand, Multiset.mem_add.2 (.inr old), carries.grow grows⟩))
    · exact .inr (.inr (.inr (grows.covers _ _ stored)))
  unharmed secured := by
    obtain ⟨sound, noneLost⟩ := unharmed secured
    refine ⟨sound, fun hand present => ?_⟩
    rcases Multiset.mem_add.1 present with new | old
    · exact noneLost hand new
    · exact (carrying.unharmed secured).2 hand (Multiset.mem_cons_of_mem old)

/-- What a turn has to see to that goes on with one hand. -/
lemma Carrying.goOn {later : Activity}
    (carrying : retrieval.Carrying chunksize file progress bytes (activity ::ₘ rest))
    (grows : retrieval.Grows bytes grown) (total : next.total = progress.total)
    (deferred : ∀ index ∈ next.deferred, index < retrieval.parts chunksize)
    (fits : retrieval.Fits chunksize file grown later)
    (failure : next.failure = none → progress.failure = none ∧ activity.isLost = false)
    (unharmed : retrieval.secured → next.failure = none ∧ later.isLost = false)
    (moved : next.failure = none → later.isLost = false → ∀ index,
      (progress.next ≤ index ∨ index ∈ progress.deferred ∨
          retrieval.Carries chunksize file bytes index activity) →
        next.next ≤ index ∨ index ∈ next.deferred ∨
          retrieval.Carries chunksize file grown index later ∨
            retrieval.Stored chunksize grown index) :
    retrieval.Carrying chunksize file next grown ({later} + rest) := by
  refine carrying.step grows total deferred (only_hand fits) failure ?_ ?_
  · intro secured
    obtain ⟨sound, notLost⟩ := unharmed secured
    exact ⟨sound, only_hand notLost⟩
  · intro sound noneLost index inside had
    have kept : later.isLost = false := noneLost later (Multiset.mem_singleton_self later)
    rcases moved sound kept index had with after | back | carries | stored
    · exact .inl after
    · exact .inr (.inl back)
    · exact .inr (.inr (.inl ⟨later, Multiset.mem_singleton_self later, carries⟩))
    · exact .inr (.inr (.inr stored))

/-- What a turn has to see to that goes on with no hand. -/
lemma Carrying.leave
    (carrying : retrieval.Carrying chunksize file progress bytes (activity ::ₘ rest))
    (total : next.total = progress.total)
    (deferred : ∀ index ∈ next.deferred, index < retrieval.parts chunksize)
    (failure : next.failure = none → progress.failure = none ∧ activity.isLost = false)
    (unharmed : retrieval.secured → next.failure = none)
    (moved : next.failure = none → ∀ index,
      (progress.next ≤ index ∨ index ∈ progress.deferred ∨
          retrieval.Carries chunksize file bytes index activity) →
        next.next ≤ index ∨ index ∈ next.deferred) :
    retrieval.Carrying chunksize file next bytes (0 + rest) := by
  refine carrying.step (grows_refl retrieval bytes) total deferred no_hand failure
    (fun secured => ⟨unharmed secured, no_hand⟩) ?_
  intro sound _ index _ had
  rcases moved sound index had with after | back
  · exact .inl after
  · exact .inr (.inl back)

/-- A hand that has a part passes it to the next. -/
lemma Carrying.pass {later : Activity}
    (carrying : retrieval.Carrying chunksize file progress bytes (activity ::ₘ rest))
    (grows : retrieval.Grows bytes grown) (notLost : activity.isLost = false)
    (fits : retrieval.Fits chunksize file grown later)
    (unharmed : retrieval.secured → later.isLost = false)
    (passes : later.isLost = false → ∀ index,
      retrieval.Carries chunksize file bytes index activity →
        retrieval.Carries chunksize file grown index later) :
    retrieval.Carrying chunksize file progress grown ({later} + rest) := by
  refine carrying.goOn grows rfl carrying.deferred fits (fun sound => ⟨sound, notLost⟩)
    (fun secured => ⟨(carrying.unharmed secured).1, unharmed secured⟩) ?_
  rintro - kept index (after | back | carries)
  · exact .inl after
  · exact .inr (.inl back)
  · exact .inr (.inr (.inl (passes kept index carries)))

/-- A hand with a part goes on to report that the part has failed. -/
lemma Carrying.lose {error : Failure} {began : Bool}
    (carrying : retrieval.Carrying chunksize file progress bytes (activity ::ₘ rest))
    (grows : retrieval.Grows bytes grown) (notLost : activity.isLost = false)
    (unsecured : ¬retrieval.secured) :
    retrieval.Carrying chunksize file progress grown
      ({.reporting retrieval.id (.partLost .download error began)} + rest) :=
  carrying.pass grows notLost (.inr (.inl rfl)) (fun secured => absurd secured unsecured) nofun

/-- A hand that is neither feeding nor reports a failure has a part. -/
lemma Carrying.has
    (carrying : retrieval.Carrying chunksize file progress bytes (activity ::ₘ rest))
    (busy : activity ≠ .feeding retrieval.id .download) (notLost : activity.isLost = false) :
    ∃ index, index < retrieval.parts chunksize ∧
      retrieval.Carries chunksize file bytes index activity := by
  rcases carrying.fits activity (Multiset.mem_cons_self activity rest) with feeds | lost | has
  · exact absurd feeds busy
  · rw [notLost] at lost
    cases lost
  · exact has

/-- A part that is handed out is in the hands of somebody. -/
lemma Carrying.handOut
    (carrying : retrieval.Carrying chunksize file progress bytes
      (.feeding retrieval.id .download ::ₘ rest))
    (handed : progress.handOut? = some (index, next)) :
    retrieval.Carrying chunksize file next bytes
      ({.offering retrieval.id .download index} + rest) := by
  obtain ⟨sound, -, way⟩ := Progress.of_handOut? handed
  have same := grows_refl retrieval bytes
  have carries : retrieval.Carries chunksize file bytes index
      (.offering retrieval.id .download index) := ⟨rfl, rfl, rfl⟩
  have fits (inside : index < retrieval.parts chunksize) :
      retrieval.Fits chunksize file bytes (.offering retrieval.id .download index) :=
    .inr (.inr ⟨index, inside, carries⟩)
  rcases way with ⟨others, deferred, rfl⟩ | ⟨deferred, rfl, left, rfl⟩
  · have inside := carrying.deferred
    rw [deferred] at inside
    refine carrying.goOn same rfl (fun part back => inside part (List.mem_cons_of_mem index back))
      (fits (inside index List.mem_cons_self)) (fun _ => ⟨sound, rfl⟩) (fun _ => ⟨sound, rfl⟩) ?_
    rintro - - part (after | back | has)
    · exact .inl after
    · rw [deferred] at back
      rcases List.mem_cons.1 back with rfl | older
      · exact .inr (.inr (.inl carries))
      · exact .inr (.inl older)
    · cases has
  · have inside : progress.next < retrieval.parts chunksize := carrying.total ▸ left
    refine carrying.goOn same rfl carrying.deferred (fits inside) (fun _ => ⟨sound, rfl⟩)
      (fun _ => ⟨sound, rfl⟩) ?_
    rintro - - part (after | back | has)
    · rcases Nat.eq_or_lt_of_le after with rfl | later
      · exact .inr (.inr (.inl carries))
      · exact .inl later
    · exact .inr (.inl back)
    · cases has

/-- A part that was offered and is accepted waits in the queue, and its feeder goes on. -/
lemma Carrying.accept
    (carrying : retrieval.Carrying chunksize file progress bytes
      (.offering retrieval.id .download index ::ₘ rest)) :
    retrieval.Carrying chunksize file progress bytes
      ({.feeding retrieval.id .download,
        .starting retrieval.id (.downloadPart (retrieval.span chunksize index))} + rest) := by
  obtain ⟨part, inside, own, side, rfl⟩ := carrying.has nofun rfl
  rw [Multiset.insert_eq_cons]
  refine carrying.step (grows_refl retrieval bytes) rfl carrying.deferred ?_
    (fun sound => ⟨sound, rfl⟩) ?_ ?_
  · simp only [Multiset.mem_cons, Multiset.mem_singleton]
    rintro hand (rfl | rfl)
    · exact .inl rfl
    · exact .inr (.inr ⟨index, inside, rfl, rfl⟩)
  · intro secured
    simp only [Multiset.mem_cons, Multiset.mem_singleton]
    refine ⟨(carrying.unharmed secured).1, ?_⟩
    rintro hand (rfl | rfl) <;> rfl
  · rintro - - part - (after | back | ⟨-, -, rfl⟩)
    · exact .inl after
    · exact .inr (.inl back)
    · have waits : .starting retrieval.id (.downloadPart (retrieval.span chunksize index)) ∈
          ({.feeding retrieval.id .download,
            .starting retrieval.id (.downloadPart (retrieval.span chunksize index))} :
              Multiset Activity) :=
        Multiset.mem_cons_of_mem (Multiset.mem_singleton_self _)
      exact .inr (.inr (.inl ⟨_, waits, rfl, rfl⟩))

/-- A part that was deferred and is put back is still to be handed out. -/
lemma Carrying.putBack
    (carrying : retrieval.Carrying chunksize file progress bytes
      (.deferring retrieval.id .download index ::ₘ rest))
    (back : progress.putBack? index = some next) :
    retrieval.Carrying chunksize file next bytes (0 + rest) := by
  obtain ⟨part, inside, own, side, rfl⟩ := carrying.has nofun rfl
  obtain ⟨-, rfl⟩ := Progress.of_putBack? back
  refine carrying.leave rfl ?_ (fun sound => ⟨sound, rfl⟩)
    (fun secured => (carrying.unharmed secured).1) ?_
  · intro part present
    rcases List.mem_cons.1 present with rfl | older
    · exact inside
    · exact carrying.deferred part older
  · rintro - part (after | older | ⟨-, -, rfl⟩)
    · exact .inl after
    · exact .inr (List.mem_cons_of_mem index older)
    · exact .inr List.mem_cons_self

/-- Bringing parts into the queue carries them on. -/
theorem Carrying.queue {operation : Operation} {barred : Nat → Prop}
    (carrying : retrieval.Carrying chunksize file progress bytes (activity ::ₘ rest))
    (queueing : Queueing operation retrieval.id .download barred progress activity next left)
    (spans : ∀ index, operation.span .download index = retrieval.span chunksize index)
    (unbarred : retrieval.secured → ∀ index,
      activity = .offering retrieval.id .download index ∨
        activity = .forcing retrieval.id .download index → ¬barred index) :
    retrieval.Carrying chunksize file next bytes (left + rest) := by
  have same := grows_refl retrieval bytes
  have queued (index : Nat) :
      Activity.starting retrieval.id
          (Activity.partChore operation .download (operation.span .download index)) =
        .starting retrieval.id (.downloadPart (retrieval.span chunksize index)) := by
    rw [spans]
    rfl
  cases queueing with
  | handedOut handed => exact carrying.handOut handed
  | nothingLeft empty =>
      refine carrying.leave rfl carrying.deferred (fun sound => ⟨sound, rfl⟩)
        (fun secured => (carrying.unharmed secured).1) ?_
      rintro - part (after | back | carries)
      · exact .inl after
      · exact .inr back
      · cases carries
  | accepted index =>
      rw [queued]
      exact carrying.accept
  | full index | kept index =>
      obtain ⟨part, inside, own, side, rfl⟩ := carrying.has nofun rfl
      exact carrying.pass same rfl (.inr (.inr ⟨index, inside, rfl, rfl, rfl⟩)) (fun _ => rfl)
        fun _ _ carries => carries
  | refused index error bar =>
      exact carrying.lose same rfl fun secured => unbarred secured index (.inl rfl) bar
  | forceRefused index error bar =>
      exact carrying.lose same rfl fun secured => unbarred secured index (.inr rfl) bar
  | takenBack back => exact carrying.putBack back
  | forced index =>
      obtain ⟨part, inside, own, side, rfl⟩ := carrying.has nofun rfl
      rw [queued]
      refine carrying.pass same rfl (.inr (.inr ⟨index, inside, rfl, rfl⟩)) (fun _ => rfl) ?_
      rintro - part ⟨-, -, rfl⟩
      exact ⟨rfl, rfl⟩

end Retrieval
end BulkTransfer
