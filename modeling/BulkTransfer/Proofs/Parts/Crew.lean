import BulkTransfer.Proofs.Parts.Ledger
import BulkTransfer.Multipart.Upload
import BulkTransfer.Multipart.Download
import Mathlib.Data.List.Range

/-!
# The crew of the parts

Any number of workers share the parts of one upload or download. Each asks for a part, and then puts
it back, reports that it could not be queued, or leaves it to be entered, after which it is reported
as finished or lost (`Crew.step`). However they interleave, no part is lost and none is handed out
twice: until a part fails, each is never handed out so far, put back, claimed, or finished, and just
one of these; the counters say how many there are, and never fall below what they count; and while
parts are left, one is claimed, or somebody has yet to ask for the next (`Crew.balanced_of_steps`).
-/

namespace BulkTransfer.Multipart

open Progress

/-! ## Uploads and downloads alike -/

/-- The shared state of the parts, on either side. -/
inductive Cursor where
  | uploading (upload : Upload)
  | downloading (download : Download)
  deriving DecidableEq, Repr

namespace Cursor

/-- Whether the given number of parts have just begun to move: the upload has been created, or the
file has been opened. -/
inductive Started (total : Nat) : Cursor → Prop where
  | created {chunksize : Nat} {upload : Upload}
      (creating : (Upload.ofParts total chunksize).claimCreation? = some upload)
      (uploadId : String) : Started total (.uploading (upload.created uploadId))
  | opened (chunksize file : Nat) :
      Started total (.downloading ((Download.ofParts total chunksize).opened file))

/-- The progress of the parts. -/
def progress : Cursor → Progress
  | .uploading upload => upload.progress
  | .downloading download => download.progress

/-- Whether parts move: the upload has been created and is not being ended, or the file is open. -/
def moves : Cursor → Bool
  | .uploading upload => upload.phase = .partsInFlight
  | .downloading download => download.file.isSome

/-- The index of the part to be queued next, if one is left. -/
def handOut? : Cursor → Option (Nat × Cursor)
  | .uploading upload => upload.handOutPart?.map fun handed => (handed.1, .uploading handed.2)
  | .downloading download =>
      download.handOutPart?.map fun handed => (handed.1, .downloading handed.2)

/-- Puts back a part that the queue had no room for, unless it is the only one outstanding. -/
def putBack? (index : Nat) : Cursor → Option Cursor
  | .uploading upload => (upload.putBackPart? index).map .uploading
  | .downloading download => (download.putBackPart? index).map .downloading

/-- Enters a part, unless parts are not entered. -/
def enter? : Cursor → Option Cursor
  | .uploading upload => upload.enterPart?.map fun entered => .uploading entered.2
  | .downloading download => download.enterPart?.map fun entered => .downloading entered.2

/-- Records a part that has succeeded, and says whether the operation is to be ended. -/
def finished (index : Nat) (tag : String) : Cursor → Bool × Cursor
  | .uploading upload =>
      let told := upload.partFinished (index + 1) tag
      (told.1 ≠ .wait, .uploading told.2)
  | .downloading download =>
      let told := download.partFinished
      (told.1, .downloading told.2)

/-- Records a part that was entered and failed, and says whether the operation is to be ended. -/
def lost (reason : String) : Cursor → Bool × Cursor
  | .uploading upload =>
      let told := upload.partLost reason
      (told.1 ≠ .wait, .uploading told.2)
  | .downloading download =>
      let told := download.partLost reason true
      (told.1, .downloading told.2)

/-- Records a part that could not even be queued, and says whether the operation is to be ended. -/
def refused (reason : String) : Cursor → Bool × Cursor
  | .uploading upload =>
      let told := upload.partRefused reason
      (told.1 ≠ .wait, .uploading told.2)
  | .downloading download =>
      let told := download.partLost reason false
      (told.1, .downloading told.2)

variable {cursor after : Cursor} {index : Nat} {tag reason : String}

lemma of_handOut? (handed : cursor.handOut? = some (index, after)) :
    cursor.progress.handOut? = some (index, after.progress) ∧ after.moves = cursor.moves := by
  cases cursor with
  | uploading upload =>
      simp only [handOut?, Upload.handOutPart?] at handed
      split at handed
      · cases gives : upload.progress.handOut? <;> simp [gives] at handed
        obtain ⟨rfl, rfl⟩ := handed
        exact ⟨gives, rfl⟩
      · simp at handed
  | downloading download =>
      simp only [handOut?, Download.handOutPart?] at handed
      split at handed
      · cases gives : download.progress.handOut? <;> simp [gives] at handed
        obtain ⟨rfl, rfl⟩ := handed
        exact ⟨gives, rfl⟩
      · simp at handed

lemma of_handOut?_eq_none (empty : cursor.handOut? = none) (moves : cursor.moves = true) :
    cursor.progress.handOut? = none := by
  cases cursor with
  | uploading upload =>
      have phase : upload.phase = .partsInFlight := of_decide_eq_true moves
      simpa [handOut?, Upload.handOutPart?, phase, progress] using empty
  | downloading download =>
      have isOpen : download.file.isSome = true := moves
      simpa [handOut?, Download.handOutPart?, isOpen, progress] using empty

lemma putBack?_eq_none_iff : cursor.putBack? index = none ↔
    cursor.progress.putBack? index = none := by
  cases cursor <;> simp [putBack?, Upload.putBackPart?, Download.putBackPart?, progress]

lemma of_putBack? (back : cursor.putBack? index = some after) :
    cursor.progress.putBack? index = some after.progress ∧ after.moves = cursor.moves := by
  cases cursor with
  | uploading upload =>
      cases takes : upload.progress.putBack? index <;>
        simp [putBack?, Upload.putBackPart?, takes] at back
      subst back
      exact ⟨takes, rfl⟩
  | downloading download =>
      cases takes : download.progress.putBack? index <;>
        simp [putBack?, Download.putBackPart?, takes] at back
      subst back
      exact ⟨takes, rfl⟩

lemma of_enter? (entered : cursor.enter? = some after) :
    cursor.progress.enter? = some after.progress ∧ after.moves = cursor.moves := by
  cases cursor with
  | uploading upload =>
      simp only [enter?, Upload.enterPart?] at entered
      split at entered
      · cases enters : upload.progress.enter? <;> simp [enters] at entered
        subst entered
        exact ⟨enters, rfl⟩
      · simp at entered
  | downloading download =>
      cases set : download.file <;> simp [enter?, Download.enterPart?, set] at entered
      obtain ⟨_, enters, rfl⟩ := entered
      exact ⟨enters, by simp [moves, set]⟩

lemma of_enter?_eq_none (skipped : cursor.enter? = none) (moves : cursor.moves = true) :
    cursor.progress.enter? = none := by
  cases cursor with
  | uploading upload =>
      have phase : upload.phase = .partsInFlight := of_decide_eq_true moves
      simpa [enter?, Upload.enterPart?, phase, progress] using skipped
  | downloading download =>
      obtain ⟨file, set⟩ := Option.isSome_iff_exists.1 moves
      simpa [enter?, Download.enterPart?, set, progress] using skipped

/-- A report changes the progress, and ends the operation if there is nothing left to wait for; as
long as nobody ends it, parts move as before. -/
def Reports (cursor : Cursor) (told : Bool × Cursor) (progress : Progress) : Prop :=
  told.2.progress = progress.settled ∧ told.1 = progress.claimEnd?.isSome ∧
    (told.1 = false → told.2.moves = cursor.moves)

/-- While the operation is not ended, parts move after a report if they did before. -/
lemma Reports.moves {told : Bool × Cursor} {progress : Progress}
    (reports : cursor.Reports told progress)
    (moves : progress.endClaimed = false → cursor.moves = true)
    (unclaimed : told.2.progress.endClaimed = false) : told.2.moves = true := by
  obtain ⟨settles, tells, stays⟩ := reports
  rw [settles, settled] at unclaimed
  cases ends : progress.claimEnd? with
  | none =>
      rw [ends] at unclaimed tells
      rw [stays tells]
      exact moves unclaimed
  | some after =>
      obtain ⟨-, -, rfl⟩ := of_claimEnd? ends
      rw [ends] at unclaimed
      cases unclaimed

lemma reports_of_advance_upload {upload other : Upload} (phase : other.phase = upload.phase) :
    (Cursor.uploading upload).Reports
      (other.advance.1 ≠ .wait, .uploading other.advance.2) other.progress := by
  unfold Reports Upload.advance settled
  cases claims : other.progress.claimEnd? with
  | none => simp [Cursor.progress, moves, phase]
  | some progress => by_cases failed : progress.failure.isSome <;> simp [failed, Cursor.progress]

lemma reports_of_advance_download {download other : Download}
    (file : other.file = download.file) :
    (Cursor.downloading download).Reports (other.advance.1, .downloading other.advance.2)
      other.progress := by
  unfold Reports Download.advance settled
  cases claims : other.progress.claimEnd? <;> simp [Cursor.progress, moves, file]

lemma reports_finished :
    cursor.Reports (cursor.finished index tag) cursor.progress.partFinished := by
  cases cursor with
  | uploading upload => exact reports_of_advance_upload rfl
  | downloading download => exact reports_of_advance_download rfl

lemma reports_lost :
    cursor.Reports (cursor.lost reason) (cursor.progress.partLost reason true) := by
  cases cursor with
  | uploading upload => exact reports_of_advance_upload rfl
  | downloading download => exact reports_of_advance_download rfl

lemma reports_refused :
    cursor.Reports (cursor.refused reason) (cursor.progress.partLost reason false) := by
  cases cursor with
  | uploading upload => exact reports_of_advance_upload rfl
  | downloading download => exact reports_of_advance_download rfl

end Cursor

/-! ## Where the parts are -/

/-- Where the parts of an operation are: those that were claimed and have not been entered, those
that were entered, and those that have finished, while some of the crew owe it to ask for the next
one. No counter is below what it counts; and until a part fails, each part is in one place, the
counters are right, and if parts are left then somebody is there to go on. -/
structure Places (total : Nat) (progress : Progress) (owing : Nat)
    (claimed entered finished : List Nat) : Prop where
  total_eq : progress.total = total
  running : progress.running = entered.length
  covered : claimed.length + entered.length ≤ progress.outstanding
  within : progress.succeeded + progress.outstanding + progress.deferred.length ≤ progress.next
  bounded : progress.next ≤ progress.total
  spread : progress.failure = none →
    (finished ++ claimed ++ entered ++ progress.deferred ++
      List.range' progress.next (progress.total - progress.next)).Perm (List.range progress.total)
  outstanding : progress.failure = none → progress.outstanding = claimed.length + entered.length
  succeeded : progress.failure = none → progress.succeeded = finished.length
  going : progress.failure = none → finished.length < progress.total →
    progress.endClaimed = false ∧ 0 < claimed.length + entered.length + owing

namespace Places

variable {progress after : Progress} {total owing index : Nat} {reason : String}
  {claimed entered finished : List Nat}

/-- At the beginning nothing has been handed out, and the one who has started the operation is to
ask. -/
lemma begin (total : Nat) : Places total { total := total } 1 [] [] [] := by
  constructor <;> simp [List.range_eq_range']

lemma reorder (places : Places total progress owing claimed entered finished)
    {claimed' entered' : List Nat} (same : claimed.Perm claimed') (alike : entered.Perm entered') :
    Places total progress owing claimed' entered' finished := by
  have ⟨total_eq, running, covered, within, bounded, spread, outstanding, succeeded, going⟩ :=
    places
  rw [alike.length_eq] at running
  rw [same.length_eq, alike.length_eq] at covered outstanding going
  refine ⟨total_eq, running, covered, within, bounded, fun sound => ?_, outstanding, succeeded,
    going⟩
  refine .trans (.append_right _ (.append_right _ ?_)) (spread sound)
  exact (same.symm.append_left finished).append alike.symm

/-- A part is handed out; nobody needs to ask for another one. -/
lemma handOut (places : Places total progress owing claimed entered finished)
    (handed : progress.handOut? = some (index, after)) (less : Nat) :
    Places total after less (index :: claimed) entered finished := by
  have ⟨total_eq, running, covered, within, bounded, spread, outstanding, succeeded, going⟩ :=
    places
  obtain ⟨sound, unclaimed, way⟩ := of_handOut? handed
  have spread := spread sound
  have outstanding := outstanding sound
  -- The part comes from those put back, or from those never handed out if none was put back.
  rcases way with ⟨rest, deferred, rfl⟩ | ⟨deferred, rfl, left, rfl⟩
  · rw [deferred] at within spread
    simp only [List.length_cons] at within
    constructor <;> simp only [List.length_cons]
    · exact total_eq
    · exact running
    · omega
    · omega
    · exact bounded
    · refine fun _ => List.perm_iff_count.2 fun other => ?_
      rw [← spread.count_eq]
      simp only [List.count_append, List.count_cons]
      omega
    · omega
    · exact succeeded
    · exact fun _ _ => ⟨unclaimed, by omega⟩
  · have rest : List.range' progress.next (progress.total - progress.next) =
        progress.next :: List.range' (progress.next + 1)
          (progress.total - (progress.next + 1)) := by
      rw [← List.range'_succ]
      congr 1
      omega
    rw [rest] at spread
    constructor <;> simp only [List.length_cons]
    · exact total_eq
    · exact running
    · omega
    · omega
    · exact left
    · refine fun _ => List.perm_iff_count.2 fun other => ?_
      rw [← spread.count_eq]
      simp only [List.count_append, List.count_cons]
      omega
    · omega
    · exact succeeded
    · exact fun _ _ => ⟨unclaimed, by omega⟩

/-- Until a part fails, those that are anywhere are no more than there are. -/
lemma length_le (places : Places total progress owing claimed entered finished)
    (sound : progress.failure = none) :
    finished.length + claimed.length + entered.length + progress.deferred.length +
      (progress.total - progress.next) = progress.total := by
  simpa [Nat.add_assoc] using (places.spread sound).length_eq

/-- Who asks for a part and is given none need not ask again: then a part is claimed, or all have
finished. -/
lemma leave (places : Places total progress (owing + 1) claimed entered finished)
    (empty : progress.handOut? = none) : Places total progress owing claimed entered finished := by
  have ⟨total_eq, running, covered, within, bounded, spread, outstanding, succeeded, going⟩ :=
    places
  refine ⟨total_eq, running, covered, within, bounded, spread, outstanding, succeeded,
    fun sound left => ?_⟩
  have unclaimed := (going sound left).1
  obtain ⟨deferred, all⟩ := of_handOut?_eq_none empty sound unclaimed
  have length := places.length_le sound
  rw [deferred, List.length_nil] at length
  exact ⟨unclaimed, by omega⟩

lemma putBack (places : Places total progress owing (index :: claimed) entered finished)
    (back : progress.putBack? index = some after) :
    Places total after owing claimed entered finished := by
  have ⟨total_eq, running, covered, within, bounded, spread, outstanding, succeeded, going⟩ :=
    places
  obtain ⟨several, rfl⟩ := of_putBack? back
  simp only [List.length_cons] at covered outstanding going
  constructor <;> simp only [List.length_cons]
  · exact total_eq
  · exact running
  · omega
  · omega
  · exact bounded
  · refine fun sound => List.perm_iff_count.2 fun other => ?_
    rw [← (spread sound).count_eq]
    simp only [List.count_append, List.count_cons]
    omega
  · exact fun sound => by have := outstanding sound; omega
  · exact succeeded
  · exact fun sound left =>
      ⟨(going sound left).1, by have := outstanding sound; omega⟩

/-- Until a part fails, a part is not put back exactly if it is the only one outstanding. -/
lemma putBack?_eq_none_iff
    (places : Places total progress owing (index :: claimed) entered finished)
    (sound : progress.failure = none) :
    progress.putBack? index = none ↔ claimed = [] ∧ entered = [] := by
  have outstanding := places.outstanding sound
  rw [List.length_cons] at outstanding
  rw [← List.length_eq_zero_iff, ← List.length_eq_zero_iff]
  unfold putBack?
  split
  · exact iff_of_true rfl (by omega)
  · exact iff_of_false nofun (by omega)

/-- A part is only skipped after one has failed. -/
lemma skip (places : Places total progress owing (index :: claimed) entered finished)
    (closed : progress.enter? = none) : Places total progress owing claimed entered finished := by
  have ⟨total_eq, running, covered, within, bounded, spread, outstanding, succeeded, going⟩ :=
    places
  simp only [List.length_cons] at covered
  have failed : progress.failure ≠ none := fun sound => by
    have length := places.length_le sound
    rw [List.length_cons] at length
    rcases of_enter?_eq_none closed with failed | ended
    · exact failed sound
    · rw [(going sound (by omega)).1] at ended
      cases ended
  exact ⟨total_eq, running, by omega, within, bounded, (absurd · failed), (absurd · failed),
    (absurd · failed), (absurd · failed)⟩

lemma enter (places : Places total progress owing (index :: claimed) entered finished)
    (enters : progress.enter? = some after) :
    Places total after owing claimed (index :: entered) finished := by
  have ⟨total_eq, running, covered, within, bounded, spread, outstanding, succeeded, going⟩ :=
    places
  obtain ⟨sound, unclaimed, rfl⟩ := of_enter? enters
  simp only [List.length_cons] at covered outstanding going
  constructor <;> simp only [List.length_cons]
  · exact total_eq
  · omega
  · omega
  · exact within
  · exact bounded
  · refine fun _ => List.perm_iff_count.2 fun other => ?_
    rw [← (spread sound).count_eq]
    simp only [List.count_append, List.count_cons]
    omega
  · exact fun sound => by have := outstanding sound; omega
  · exact succeeded
  · exact fun sound left => ⟨unclaimed, by omega⟩

/-- A part that was entered has finished, and who did it is to ask for the next one. -/
lemma finish (places : Places total progress owing claimed (index :: entered) finished) :
    Places total progress.partFinished (owing + 1) claimed entered (index :: finished) := by
  have ⟨total_eq, running, covered, within, bounded, spread, outstanding, succeeded, going⟩ :=
    places
  simp only [List.length_cons] at running covered outstanding
  constructor <;> simp only [partFinished, List.length_cons]
  · exact total_eq
  · omega
  · omega
  · omega
  · exact bounded
  · refine fun sound => List.perm_iff_count.2 fun other => ?_
    rw [← (spread sound).count_eq]
    simp only [List.count_append, List.count_cons]
    omega
  · exact fun sound => by have := outstanding sound; omega
  · exact fun sound => by have := succeeded sound; omega
  · exact fun sound left => ⟨(going sound (by omega)).1, by omega⟩

/-- A part has failed. Nothing more is known than that no counter is too small. -/
lemma of_failure (failed : progress.failure ≠ none) (total_eq : progress.total = total)
    (running : progress.running = entered.length)
    (covered : claimed.length + entered.length ≤ progress.outstanding)
    (within : progress.succeeded + progress.outstanding + progress.deferred.length ≤
      progress.next) (bounded : progress.next ≤ progress.total) :
    Places total progress owing claimed entered finished :=
  ⟨total_eq, running, covered, within, bounded, (absurd · failed), (absurd · failed),
    (absurd · failed), (absurd · failed)⟩

lemma lose (places : Places total progress owing claimed (index :: entered) finished) :
    Places total (progress.partLost reason true) owing claimed entered finished := by
  have ⟨total_eq, running, covered, within, bounded, _, _, _, _⟩ := places
  simp only [List.length_cons] at running covered
  apply of_failure (failure_partLost true) total_eq <;>
    simp only [partLost, markFailed, if_true] <;> omega

lemma refuse (places : Places total progress owing (index :: claimed) entered finished) :
    Places total (progress.partLost reason false) owing claimed entered finished := by
  have ⟨total_eq, running, covered, within, bounded, _, _, _, _⟩ := places
  simp only [List.length_cons] at covered
  apply of_failure (failure_partLost false) total_eq <;>
    simp only [partLost, markFailed, Bool.false_eq_true, if_false] <;> omega

/-- Once the end of the operation has been claimed nobody is to ask for a part. -/
lemma conclude (places : Places total progress owing claimed entered finished)
    (ended : progress.claimEnd? = some after) (less : Nat) :
    Places total after less claimed entered finished := by
  have ⟨total_eq, running, covered, within, bounded, spread, outstanding, succeeded, going⟩ :=
    places
  obtain ⟨-, done, rfl⟩ := of_claimEnd? ended
  refine ⟨total_eq, running, covered, within, bounded, spread, outstanding, succeeded,
    fun sound left => ?_⟩
  change progress.failure = none at sound
  change finished.length < progress.total at left
  rw [isDone_of_no_failure sound] at done
  have done : progress.succeeded = progress.total := of_decide_eq_true done
  have count := succeeded sound
  omega

lemma settle (places : Places total progress owing claimed entered finished) :
    Places total progress.settled owing claimed entered finished := by
  unfold settled
  cases ended : progress.claimEnd? with
  | none => exact places
  | some after => exact places.conclude ended owing

end Places

/-! ## The crew -/

/-- Those who work on the parts: how many of them have just started the operation or finished a part
and have yet to ask for the next one; the parts that were claimed and not entered; of these, those
that could not be put back, which are not put back again; and the parts that were entered and those
that have finished. -/
structure Crew where
  cursor : Cursor
  owing : Nat := 1
  claimed : List Nat := []
  kept : List Nat := []
  entered : List Nat := []
  finished : List Nat := []
  deriving DecidableEq, Repr

/-- Something that one of the crew does. Who has put a part into the queue may ask for another one
without owing it. -/
inductive Deed where
  | ask (owed : Bool)
  | putBack (index : Nat)
  | refuse (index : Nat) (reason : String)
  | enter (index : Nat)
  | finish (index : Nat) (tag : String)
  | lose (index : Nat) (reason : String)
  deriving DecidableEq, Repr

namespace Crew

/-- The crew after a claimed part was put back, or could not be and is kept. -/
def putBack (crew : Crew) (index : Nat) : Crew :=
  match crew.cursor.putBack? index with
  | some cursor => { crew with cursor := cursor, claimed := crew.claimed.erase index }
  | none => { crew with kept := index :: crew.kept }

/-- The crew after a claimed part was entered, or was skipped. -/
def enter (crew : Crew) (index : Nat) : Crew :=
  match crew.cursor.enter? with
  | some cursor =>
      { crew with
        cursor := cursor, claimed := crew.claimed.erase index, entered := index :: crew.entered }
  | none => { crew with claimed := crew.claimed.erase index }

/-- The crew after somebody has asked for a part. -/
def ask (crew : Crew) : Crew :=
  match crew.cursor.handOut? with
  | some (index, cursor) => { crew with cursor := cursor, claimed := index :: crew.claimed }
  | none => crew

/-- The crew after a part has finished. Who finished it asks for another one, unless the operation
is to be ended. -/
def finish (crew : Crew) (index : Nat) (tag : String) : Crew :=
  let told := crew.cursor.finished index tag
  { crew with
    cursor := told.2
    owing := if told.1 then crew.owing else crew.owing + 1
    entered := crew.entered.erase index
    finished := index :: crew.finished }

/-- The crew after one of them has done something, if they may. -/
def step (crew : Crew) : Deed → Option Crew
  | .ask false => some crew.ask
  | .ask true => if 0 < crew.owing then some { crew with owing := crew.owing - 1 }.ask else none
  | .putBack index =>
      if index ∈ crew.claimed ∧ index ∉ crew.kept then some (crew.putBack index) else none
  | .refuse index reason =>
      if index ∈ crew.claimed then
        some { crew with
          cursor := (crew.cursor.refused reason).2, claimed := crew.claimed.erase index }
      else none
  | .enter index => if index ∈ crew.claimed then some (crew.enter index) else none
  | .finish index tag => if index ∈ crew.entered then some (crew.finish index tag) else none
  | .lose index reason =>
      if index ∈ crew.entered then
        some { crew with
          cursor := (crew.cursor.lost reason).2, entered := crew.entered.erase index }
      else none

/-- The crew after they have done one thing after another, if they may. -/
def steps (crew : Crew) : List Deed → Option Crew
  | [] => some crew
  | deed :: others => (crew.step deed).bind fun next => next.steps others

/-- The parts that were claimed and have not finished. -/
def unfinished (crew : Crew) : List Nat :=
  crew.claimed ++ crew.entered

/-- Whether the parts of a crew are in their places, and parts move as long as nobody ends the
operation. -/
structure Sound (total : Nat) (crew : Crew) : Prop where
  moves : crew.cursor.progress.endClaimed = false → crew.cursor.moves = true
  places : Places total crew.cursor.progress crew.owing crew.claimed crew.entered crew.finished

namespace Sound

variable {crew next : Crew} {total index : Nat} {reason tag : String} {deed : Deed}

lemma start {cursor : Cursor} (started : cursor.Started total) :
    Sound total { cursor := cursor } := by
  cases started with
  | created creating uploadId =>
      cases creating
      exact ⟨fun _ => rfl, .begin total⟩
  | opened chunksize file => exact ⟨fun _ => rfl, .begin total⟩

lemma holds (sound : crew.Sound total) (present : index ∈ crew.claimed) :
    Places total crew.cursor.progress crew.owing (index :: crew.claimed.erase index) crew.entered
      crew.finished :=
  sound.places.reorder (List.perm_cons_erase present) (.refl _)

lemma runs (sound : crew.Sound total) (present : index ∈ crew.entered) :
    Places total crew.cursor.progress crew.owing crew.claimed
      (index :: crew.entered.erase index) crew.finished :=
  sound.places.reorder (.refl _) (List.perm_cons_erase present)

/-- What the state of the parts refuses its progress refuses. -/
lemma handOut?_eq_none (sound : crew.Sound total) (empty : crew.cursor.handOut? = none) :
    crew.cursor.progress.handOut? = none := by
  cases ended : crew.cursor.progress.endClaimed with
  | false => exact Cursor.of_handOut?_eq_none empty (sound.moves ended)
  | true => exact handOut?_eq_none_of_endClaimed ended

lemma enter?_eq_none (sound : crew.Sound total) (skipped : crew.cursor.enter? = none) :
    crew.cursor.progress.enter? = none := by
  cases ended : crew.cursor.progress.endClaimed with
  | false => exact Cursor.of_enter?_eq_none skipped (sound.moves ended)
  | true => exact enter?_eq_none_of_endClaimed ended

/-- Somebody asks for a part, who owes it or does not. -/
lemma ask (sound : crew.Sound total) {less : Nat}
    (pays : crew.owing = less ∨ crew.owing = less + 1) :
    ({ crew with owing := less } : Crew).ask.Sound total := by
  have ⟨moves, places⟩ := sound
  unfold Crew.ask
  split
  · next index cursor handed =>
      obtain ⟨hands, alike⟩ := Cursor.of_handOut? handed
      have ⟨_, unclaimed, _⟩ := of_handOut? hands
      exact ⟨fun _ => alike ▸ moves unclaimed, places.handOut hands less⟩
  · next empty =>
      refine ⟨moves, ?_⟩
      rcases pays with rfl | pays
      · exact places
      · exact (pays ▸ places).leave (sound.handOut?_eq_none empty)

lemma putBack (sound : crew.Sound total) (present : index ∈ crew.claimed) :
    (crew.putBack index).Sound total := by
  unfold Crew.putBack
  split
  · next cursor back =>
      obtain ⟨takes, alike⟩ := Cursor.of_putBack? back
      obtain ⟨_, after⟩ := of_putBack? takes
      refine ⟨fun unclaimed => alike ▸ sound.moves ?_, (sound.holds present).putBack takes⟩
      rw [after] at unclaimed
      exact unclaimed
  · exact ⟨sound.moves, sound.places⟩

lemma enter (sound : crew.Sound total) (present : index ∈ crew.claimed) :
    (crew.enter index).Sound total := by
  unfold Crew.enter
  split
  · next cursor entered =>
      obtain ⟨enters, alike⟩ := Cursor.of_enter? entered
      obtain ⟨_, unclaimed, _⟩ := of_enter? enters
      exact ⟨fun _ => alike ▸ sound.moves unclaimed, (sound.holds present).enter enters⟩
  · next skipped =>
      exact ⟨sound.moves, (sound.holds present).skip (sound.enter?_eq_none skipped)⟩

lemma refuse (sound : crew.Sound total) (present : index ∈ crew.claimed) (reason : String) :
    ({ crew with
      cursor := (crew.cursor.refused reason).2, claimed := crew.claimed.erase index } :
        Crew).Sound total := by
  have reports : crew.cursor.Reports (crew.cursor.refused reason) _ := Cursor.reports_refused
  refine ⟨reports.moves sound.moves, ?_⟩
  rw [reports.1]
  exact (sound.holds present).refuse.settle

lemma lose (sound : crew.Sound total) (present : index ∈ crew.entered) (reason : String) :
    ({ crew with
      cursor := (crew.cursor.lost reason).2, entered := crew.entered.erase index } :
        Crew).Sound total := by
  have reports : crew.cursor.Reports (crew.cursor.lost reason) _ := Cursor.reports_lost
  refine ⟨reports.moves sound.moves, ?_⟩
  rw [reports.1]
  exact (sound.runs present).lose.settle

lemma finish (sound : crew.Sound total) (present : index ∈ crew.entered) (tag : String) :
    (crew.finish index tag).Sound total := by
  have reports : crew.cursor.Reports (crew.cursor.finished index tag) _ := Cursor.reports_finished
  refine ⟨reports.moves sound.moves, ?_⟩
  have places := (sound.runs present).finish
  simp only [Crew.finish, reports.1, reports.2.1, settled]
  cases ends : crew.cursor.progress.partFinished.claimEnd? with
  | none => exact places
  | some after => exact places.conclude ends crew.owing

/-- What any of the crew does leaves the parts in their places. -/
theorem step (sound : crew.Sound total) (steps : crew.step deed = some next) :
    next.Sound total := by
  cases deed with
  | ask owed =>
      cases owed with
      | false => cases steps; exact sound.ask (.inl rfl)
      | true =>
          obtain ⟨owes, ⟨⟩⟩ := Option.ite_none_right_eq_some.1 steps
          exact sound.ask (.inr (by omega))
  | putBack index =>
      obtain ⟨⟨present, -⟩, ⟨⟩⟩ := Option.ite_none_right_eq_some.1 steps
      exact sound.putBack present
  | refuse index reason =>
      obtain ⟨present, ⟨⟩⟩ := Option.ite_none_right_eq_some.1 steps
      exact sound.refuse present reason
  | enter index =>
      obtain ⟨present, ⟨⟩⟩ := Option.ite_none_right_eq_some.1 steps
      exact sound.enter present
  | finish index tag =>
      obtain ⟨present, ⟨⟩⟩ := Option.ite_none_right_eq_some.1 steps
      exact sound.finish present tag
  | lose index reason =>
      obtain ⟨present, ⟨⟩⟩ := Option.ite_none_right_eq_some.1 steps
      exact sound.lose present reason

lemma steps (sound : crew.Sound total) {deeds : List Deed}
    (steps : crew.steps deeds = some next) : next.Sound total := by
  induction deeds generalizing crew with
  | nil => cases steps; exact sound
  | cons deed others ih =>
      obtain ⟨mid, first, rest⟩ := Option.bind_eq_some_iff.1 steps
      exact ih (sound.step first) rest

lemma putBack?_eq_none_iff (sound : crew.Sound total)
    (intact : crew.cursor.progress.failure = none) (present : index ∈ crew.claimed) :
    crew.cursor.putBack? index = none ↔ crew.unfinished = [index] := by
  rw [Cursor.putBack?_eq_none_iff, (sound.holds present).putBack?_eq_none_iff intact, unfinished]
  have length := List.length_erase_of_mem present
  have some := List.length_pos_of_mem present
  constructor
  · rintro ⟨alone, idle⟩
    rw [alone, List.length_nil] at length
    obtain ⟨only, claimed⟩ := List.length_eq_one_iff.1 (by omega : crew.claimed.length = 1)
    rw [claimed, List.mem_singleton] at present
    rw [claimed, idle, present, List.append_nil]
  · intro only
    have total := congrArg List.length only
    rw [List.length_append, List.length_singleton] at total
    exact ⟨List.eq_nil_of_length_eq_zero (by omega), List.eq_nil_of_length_eq_zero (by omega)⟩

end Sound

/-- However any number of workers share the parts of an upload or a download, in whatever order they
ask for parts, put them back, report that they could not be queued, enter them, and finish or lose
them: the counters are never below what they count, so that none of them is lowered at zero, and
never above the number of parts. Until a part fails, each part is in just one place: finished,
claimed and unfinished, put back, or never handed out. Then as many parts are counted as outstanding
as are claimed and unfinished, and as many as running as were entered and are unfinished; a claimed
part cannot be put back exactly if it is the only one that is claimed and unfinished; and while
parts are left, one of them is claimed and unfinished, or somebody who has just started the
operation or finished a part has yet to ask for the next. -/
theorem balanced_of_steps {total : Nat} {cursor : Cursor} (started : cursor.Started total)
    (deeds : List Deed) {crew : Crew}
    (steps : Crew.steps { cursor := cursor } deeds = some crew) :
    let progress := crew.cursor.progress
    ((∀ index ∈ crew.entered, 0 < progress.running ∧ 0 < progress.outstanding) ∧
        (∀ index ∈ crew.claimed, 0 < progress.outstanding) ∧
        progress.running ≤ total ∧ progress.succeeded + progress.outstanding ≤ total ∧
        progress.next ≤ total) ∧
      progress.running = crew.entered.length ∧
      (progress.failure = none →
        (crew.finished ++ crew.unfinished ++ progress.deferred ++
            List.range' progress.next (total - progress.next)).Perm (List.range total) ∧
          progress.outstanding = crew.unfinished.length ∧
          (∀ index ∈ crew.claimed,
            crew.cursor.putBack? index = none ↔ crew.unfinished = [index]) ∧
          (crew.finished.length < total → crew.unfinished ≠ [] ∨ 0 < crew.owing)) := by
  have sound : crew.Sound total := (Sound.start started).steps steps
  have ⟨total_eq, running, covered, within, bounded, spread, outstanding, succeeded, going⟩ :=
    sound.places
  dsimp only
  refine ⟨⟨fun index present => ?_, fun index present => ?_, ?_, ?_, ?_⟩, running,
    fun intact => ⟨?_, ?_, fun index present => sound.putBack?_eq_none_iff intact present,
      fun left => ?_⟩⟩
  · have some := List.length_pos_of_mem present
    omega
  · have some := List.length_pos_of_mem present
    omega
  · omega
  · omega
  · omega
  · simpa [unfinished, total_eq] using spread intact
  · simpa [unfinished] using outstanding intact
  · have someone := (going intact (total_eq ▸ left)).2
    rw [← List.length_pos_iff, unfinished, List.length_append]
    omega

/-- Two workers at an upload in two parts: the queue refuses the second part while the first one is
out, and when that has finished the second can no longer be put back. -/
theorem balanced_twoParts :
    ∃ crew, Crew.steps { cursor := .uploading ((Upload.ofParts 2 8).created "id") }
        [.ask true, .ask false, .putBack 1, .enter 0, .finish 0 "tag", .ask true, .putBack 1] =
      some crew ∧ crew.unfinished = [1] ∧ crew.finished = [0] ∧ crew.kept = [1] ∧
      crew.cursor.progress.outstanding = 1 := by
  refine ⟨_, rfl, rfl, rfl, rfl, ?_⟩
  have started : Cursor.Started 2 (.uploading ((Upload.ofParts 2 8).created "id")) :=
    @Cursor.Started.created 2 8 { Upload.ofParts 2 8 with phase := .creating } rfl "id"
  have balanced := balanced_of_steps started
    [.ask true, .ask false, .putBack 1, .enter 0, .finish 0 "tag", .ask true, .putBack 1] rfl
  exact (balanced.2.2 rfl).2.1

end Crew
end BulkTransfer.Multipart
