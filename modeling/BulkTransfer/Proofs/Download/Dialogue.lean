import BulkTransfer.Proofs.Download.Turn
import BulkTransfer.Proofs.Parts.Stages

/-!
# Dialogues with a download

What a download answers to a request and what becomes of it (`Download.answers_respond`), whoever
asks and whatever has been asked before. The end of the download nears with each request
(`Download.Answers.nearer`): parts are given out only before anything has failed, and the end is
told only until it has been claimed.
-/

namespace BulkTransfer.Multipart.Download

/-- What a download can be asked, whoever asks it and with whatever arguments. -/
inductive Request where
  | look
  | opened (file : Nat)
  | enterPart
  | partFinished
  | partLost (reason : String) (began : Bool)
  | finish
  | handOutPart
  | putBackPart (index : Nat)
  deriving DecidableEq, Repr

/-- What a download answers. -/
inductive Response where
  | done
  | seen (download : Download)
  | accepted (accepted : Bool)
  | told (last : Bool)
  | entered (file : Option Nat)
  | handedOut (index : Option Nat)
  | finished (failure : Option String)
  deriving DecidableEq, Repr

/-- What a download answers to a request, and the download afterwards. -/
def respond (download : Download) : Request → Response × Download
  | .look => (.seen download, download)
  | .opened file => (.done, download.opened file)
  | .enterPart =>
      match download.enterPart? with
      | some (file, after) => (.entered (some file), after)
      | none => (.entered none, download)
  | .partFinished => download.partFinished.map .told id
  | .partLost reason began => (download.partLost reason began).map .told id
  | .finish => download.finish.map .finished id
  | .handOutPart =>
      match download.handOutPart? with
      | some (index, after) => (.handedOut (some index), after)
      | none => (.handedOut none, download)
  | .putBackPart index =>
      match download.putBackPart? index with
      | some after => (.accepted true, after)
      | none => (.accepted false, download)

/-- Whether somebody is told to finish the download. -/
def tellsEnd : Request × Response → Bool
  | (_, .told true) => true
  | _ => false

/-- Whether a part is entered or handed out. -/
def passesPart : Request × Response → Bool
  | (_, .entered (some _)) | (_, .handedOut (some _)) => true
  | _ => false

/-- Whether a failure is recorded. -/
def recordsFailure : Request × Response → Bool
  | (.partLost _ _, _) => true
  | _ => false

/-- Whether parts are no longer given out after an exchange. -/
def closes (exchange : Request × Response) : Bool :=
  recordsFailure exchange || tellsEnd exchange

/-- The last stage at which an exchange is possible. -/
def latest (exchange : Request × Response) : Nat :=
  if passesPart exchange then 0 else if tellsEnd exchange then 1 else 3

/-- The stage to which an exchange leads at least. -/
def reached (exchange : Request × Response) : Nat :=
  if tellsEnd exchange then 3 else if recordsFailure exchange then 1 else 0

variable {download after : Download}

/-! ### What a request does -/

/-- What a download can answer and what becomes of it. -/
inductive Answers (download : Download) : Request × Response → Download → Prop
  | quiet {exchange : Request × Response} {after : Download} (plain : closes exchange = false)
      (keeps : passesPart exchange = false)
      (failure : after.progress.failure = download.progress.failure)
      (claimed : after.progress.endClaimed = download.progress.endClaimed) :
      Answers download exchange after
  | passed {exchange : Request × Response} {progress : Progress} (plain : closes exchange = false)
      (intact : download.progress.failure = none)
      (unclaimed : download.progress.endClaimed = false)
      (failure : progress.failure = download.progress.failure) :
      Answers download exchange { download with progress := progress }
  | reported {request : Request} {noted : Download} {lost : Bool}
      (claimed : noted.progress.endClaimed = download.progress.endClaimed)
      (failure : noted.progress.failure ≠ none ↔ download.progress.failure ≠ none ∨ lost = true)
      (loss : ∀ last, recordsFailure (request, .told last) = lost) :
      Answers download (request, .told noted.advance.1) noted.advance.2

/-- Each request is answered in one of these ways. -/
theorem answers_respond (download : Download) (request : Request) :
    Answers download (request, (respond download request).1) (respond download request).2 := by
  cases request with
  | look | opened | finish => exact .quiet rfl rfl rfl rfl
  | enterPart =>
      simp only [respond]
      cases enters : download.enterPart? with
      | none => exact .quiet rfl rfl rfl rfl
      | some answer =>
          obtain ⟨file, -, entered⟩ := Option.bind_eq_some_iff.1 enters
          obtain ⟨progress, begun, rfl⟩ := Option.map_eq_some_iff.1 entered
          obtain ⟨intact, unclaimed, rfl⟩ := Progress.of_enter? begun
          exact .passed rfl intact unclaimed rfl
  | handOutPart =>
      simp only [respond]
      cases hands : download.handOutPart? with
      | none => exact .quiet rfl rfl rfl rfl
      | some answer =>
          obtain ⟨-, handed⟩ := Option.ite_none_right_eq_some.1 hands
          obtain ⟨part, taken, rfl⟩ := Option.map_eq_some_iff.1 handed
          obtain ⟨intact, unclaimed, same, -⟩ := Progress.open_of_handOut? taken
          exact .passed rfl intact unclaimed same
  | putBackPart index =>
      simp only [respond]
      cases puts : download.putBackPart? index with
      | none => exact .quiet rfl rfl rfl rfl
      | some after =>
          obtain ⟨progress, back, rfl⟩ := Option.map_eq_some_iff.1 puts
          obtain ⟨-, rfl⟩ := Progress.of_putBack? back
          exact .quiet rfl rfl rfl rfl
  | partFinished =>
      exact .reported rfl (or_iff_left Bool.false_ne_true).symm fun _ => rfl
  | partLost reason began =>
      have failed : (download.progress.partLost reason began).failure ≠ none :=
        Progress.failure_partLost began
      exact .reported rfl (iff_of_true failed (.inr rfl)) fun _ => rfl

lemma failure_advance (download : Download) :
    download.advance.2.progress.failure = download.progress.failure := by
  cases last : download.progress.claimEnd? with
  | none => rw [advance_of_none last]
  | some progress =>
      obtain ⟨-, -, rfl⟩ := Progress.of_claimEnd? last
      rw [advance_of_some last]

variable {exchange : Request × Response}

/-- A failure that a download has after a request was there before, or the exchange records it. -/
lemma Answers.failure_iff (answers : Answers download exchange after) :
    after.progress.failure ≠ none ↔
      download.progress.failure ≠ none ∨ recordsFailure exchange = true := by
  have unrecorded (plain : closes exchange = false) : recordsFailure exchange = false :=
    (Bool.or_eq_false_iff.1 plain).1
  cases answers with
  | quiet plain _ failure _ | passed plain _ _ failure => simp [failure, unrecorded plain]
  | reported _ failure loss => rw [failure_advance, failure, loss]

/-! ### The end nears -/

/-- The stage of a download. -/
def stage (download : Download) : Nat :=
  download.progress.stage

lemma reached_of_plain (plain : closes exchange = false) : reached exchange = 0 := by
  simp only [closes, Bool.or_eq_false_iff] at plain
  simp [reached, plain]

lemma latest_of_passesPart (passes : passesPart exchange = true) : latest exchange = 0 :=
  if_pos passes

lemma latest_le_of_tellsEnd (tells : tellsEnd exchange = true) : latest exchange ≤ 1 := by
  unfold latest
  rw [if_pos tells]
  split <;> decide

lemma reached_of_tellsEnd (tells : tellsEnd exchange = true) : reached exchange = 3 :=
  if_pos tells

lemma one_le_reached_of_closes (closes : closes exchange = true) : 1 ≤ reached exchange := by
  obtain records | tells := Bool.or_eq_true_iff.1 closes
  · unfold reached
    rw [if_pos records]
    split <;> decide
  · rw [reached_of_tellsEnd tells]
    decide

lemma nearer_advance (download : Download) {request : Request}
    (lost : ∀ last, recordsFailure (request, .told last) = true →
      download.progress.failure ≠ none) :
    Nearer (fun _ => True) stage latest reached download (request, .told download.advance.1)
      download.advance.2 := by
  cases last : download.progress.claimEnd? with
  | none =>
      rw [advance_of_none last]
      refine ⟨trivial, Nat.le_refl _, Progress.stage_le _, ?_⟩
      show (if recordsFailure (request, .told false) then 1 else 0) ≤ download.stage
      split
      · next recorded => exact Progress.one_le_stage (lost _ recorded)
      · exact Nat.zero_le _
  | some progress =>
      rw [advance_of_some last]
      obtain ⟨unclaimed, -, rfl⟩ := Progress.of_claimEnd? last
      exact ⟨trivial, Progress.stage_le _, Progress.stage_le_one unclaimed, Nat.le_refl 3⟩

/-- The end of a download nears with each request. -/
theorem Answers.nearer (answers : Answers download exchange after) :
    Nearer (fun _ => True) stage latest reached download exchange after := by
  cases answers with
  | quiet plain keeps failure claimed =>
      refine ⟨trivial, Progress.stage_le_stage (failure ▸ id) (claimed ▸ id), ?_, ?_⟩
      · simp only [closes, Bool.or_eq_false_iff] at plain
        have anytime : latest exchange = 3 := by simp [latest, keeps, plain]
        rw [anytime]
        exact Progress.stage_le _
      · rw [reached_of_plain plain]
        exact Nat.zero_le _
  | @passed exchange progress plain intact unclaimed failure =>
      have zero : download.stage = 0 := Progress.stage_eq_zero intact unclaimed
      apply Nearer.of_stage_eq_zero trivial zero
      rw [reached_of_plain plain]
      exact Nat.zero_le _
  | @reported request noted lost claimed failure loss =>
      have rises : download.stage ≤ noted.stage :=
        Progress.stage_le_stage (fun failed => failure.2 (.inl failed)) (claimed ▸ id)
      have told := nearer_advance noted fun last recorded =>
        failure.2 (.inr (loss last ▸ recorded))
      exact told.of_noted rises

end BulkTransfer.Multipart.Download
