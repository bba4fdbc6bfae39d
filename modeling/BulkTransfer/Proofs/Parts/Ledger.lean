import BulkTransfer.Multipart.Progress
import Mathlib.Tactic.Lemma

/-!
# The ledger of the parts

The progress of an operation against those who work on its parts. Somebody who claims parts and
queues them *feeds*; somebody with a claimed part that has not been entered *holds* it; a part
that the queue has refused is *refused* until that is reported; a part that was entered *runs*.
While the end of the operation has not been claimed, somebody is always there to go on, and once
it has been, no part runs. The ledger is kept by each thing that can happen to a part.
-/

namespace BulkTransfer.Multipart

/-- How the progress of an operation agrees with the number of those who work on its parts. -/
structure Ledger (progress : Progress) (feeders holders refused runners : Nat) : Prop where
  bounded : progress.next ≤ progress.total
  running : progress.running = runners
  going : progress.failure = none → progress.endClaimed = false →
    progress.outstanding = holders + refused + runners ∧
      progress.next = progress.succeeded + progress.outstanding + progress.deferred.length ∧
        progress.succeeded < progress.total ∧ (progress.outstanding = 0 → 0 < feeders)
  failing : progress.failure ≠ none → progress.endClaimed = false → 0 < runners
  claimed : progress.endClaimed = true → runners = 0 ∧ (progress.failure = none →
    holders = 0 ∧ refused = 0 ∧ progress.succeeded = progress.total ∧
      progress.next = progress.total)

namespace Progress

/-- The progress after its end has been claimed, if there is nothing left to wait for. -/
def settled (progress : Progress) : Progress :=
  progress.claimEnd?.getD progress

variable {progress after : Progress} {index : Nat} {reason : String}

lemma isClosed_eq_false_iff :
    progress.isClosed = false ↔ progress.failure = none ∧ progress.endClaimed = false := by
  simp [isClosed]

lemma of_handOut? (h : progress.handOut? = some (index, after)) :
    progress.failure = none ∧ progress.endClaimed = false ∧
      ((∃ rest, progress.deferred = index :: rest ∧ after = { progress with
          deferred := rest, outstanding := progress.outstanding + 1 }) ∨
        progress.deferred = [] ∧ index = progress.next ∧ progress.next < progress.total ∧
          after = { progress with
            next := progress.next + 1, outstanding := progress.outstanding + 1 }) := by
  unfold handOut? at h
  split at h
  · cases h
  · next isOpen =>
      obtain ⟨sound, unclaimed⟩ := isClosed_eq_false_iff.1 (Bool.eq_false_iff.2 isOpen)
      refine ⟨sound, unclaimed, ?_⟩
      split at h
      · next first rest deferred =>
          obtain ⟨rfl, rfl⟩ := Prod.mk.inj (Option.some.inj h)
          exact .inl ⟨rest, deferred, rfl⟩
      · next deferred =>
          split at h
          · next left =>
              obtain ⟨rfl, rfl⟩ := Prod.mk.inj (Option.some.inj h)
              exact .inr ⟨deferred, rfl, left, rfl⟩
          · cases h

/-- Nothing is handed out when parts are no longer begun, or all have been handed out. -/
lemma of_handOut?_eq_none (h : progress.handOut? = none) (sound : progress.failure = none)
    (unclaimed : progress.endClaimed = false) :
    progress.deferred = [] ∧ progress.total ≤ progress.next := by
  have isOpen : progress.isClosed = false := isClosed_eq_false_iff.2 ⟨sound, unclaimed⟩
  unfold handOut? at h
  rw [isOpen, if_neg Bool.false_ne_true] at h
  split at h
  · cases h
  · next deferred =>
      refine ⟨deferred, Nat.le_of_not_lt fun left => ?_⟩
      rw [if_pos left] at h
      cases h

lemma handOut?_eq_none_of_endClaimed (h : progress.endClaimed = true) :
    progress.handOut? = none := by
  simp [handOut?, isClosed, h]

lemma enter?_eq_none_of_endClaimed (h : progress.endClaimed = true) :
    progress.enter? = none := by
  simp [enter?, isClosed, h]

lemma of_putBack? (h : progress.putBack? index = some after) :
    1 < progress.outstanding ∧ after = { progress with
      outstanding := progress.outstanding - 1, deferred := index :: progress.deferred } := by
  unfold putBack? at h
  split at h
  · cases h
  · next several =>
      exact ⟨Nat.lt_of_not_le several, (Option.some.inj h).symm⟩

lemma of_enter? (h : progress.enter? = some after) :
    progress.failure = none ∧ progress.endClaimed = false ∧
      after = { progress with running := progress.running + 1 } := by
  unfold enter? at h
  split at h
  · cases h
  · next isOpen =>
      obtain ⟨sound, unclaimed⟩ := isClosed_eq_false_iff.1 (Bool.eq_false_iff.2 isOpen)
      exact ⟨sound, unclaimed, (Option.some.inj h).symm⟩

lemma of_enter?_eq_none (h : progress.enter? = none) :
    progress.failure ≠ none ∨ progress.endClaimed = true := by
  unfold enter? at h
  split at h
  · next closed =>
      simpa [isClosed, Option.isSome_iff_ne_none] using closed
  · cases h

/-- An end is claimed once, and when there is nothing left to wait for. -/
lemma of_claimEnd? (h : progress.claimEnd? = some after) :
    progress.endClaimed = false ∧ progress.isDone = true ∧
      after = { progress with endClaimed := true } := by
  unfold claimEnd? at h
  split at h
  · cases h
  · next unclaimed =>
      split at h
      · next done => exact ⟨Bool.eq_false_iff.2 unclaimed, done, (Option.some.inj h).symm⟩
      · cases h

lemma of_claimEnd?_eq_none (h : progress.claimEnd? = none) :
    progress.endClaimed = true ∨ progress.isDone = false := by
  unfold claimEnd? at h
  split at h
  · next claimed => exact .inl claimed
  · split at h
    · cases h
    · next pending => exact .inr (Bool.eq_false_iff.2 pending)

lemma isDone_of_failure (h : progress.failure ≠ none) :
    progress.isDone = decide (progress.running = 0) :=
  if_pos (Option.isSome_iff_ne_none.2 h)

lemma isDone_of_no_failure (h : progress.failure = none) :
    progress.isDone = decide (progress.succeeded = progress.total) := by
  rw [isDone, h]
  rfl

lemma failure_partLost (began : Bool) : (progress.partLost reason began).failure ≠ none :=
  Option.some_ne_none _

end Progress

namespace Ledger

open Progress

variable {progress after : Progress} {feeders holders refused runners index : Nat}
  {reason : String}

/-- One feeder at the beginning of an operation with parts. -/
lemma begin (sound : progress.failure = none) (unclaimed : progress.endClaimed = false)
    (none : progress.outstanding = 0) (left : progress.succeeded = 0)
    (next : progress.next = 0) (deferred : progress.deferred = [])
    (idle : progress.running = 0) (some : 0 < progress.total) : Ledger progress 1 0 0 0 where
  bounded := by omega
  running := idle
  going _ _ := by
    rw [deferred]
    simp only [List.length_nil]
    omega
  failing failed := absurd sound failed
  claimed claimed := by
    rw [unclaimed] at claimed
    cases claimed

lemma handOut (ledger : Ledger progress (feeders + 1) holders refused runners)
    (handed : progress.handOut? = some (index, after)) :
    Ledger after feeders (holders + 1) refused runners := by
  have ⟨bounded, running, going, failing, claimed⟩ := ledger
  obtain ⟨sound, unclaimed, way⟩ := of_handOut? handed
  have now := going sound unclaimed
  rcases way with ⟨rest, deferred, rfl⟩ | ⟨deferred, rfl, left, rfl⟩
  · rw [deferred, List.length_cons] at now
    constructor <;> simp only [sound, unclaimed]
    · exact bounded
    · exact running
    · omega
    · exact nofun
    · exact nofun
  · rw [deferred, List.length_nil] at now
    constructor <;> simp only [sound, unclaimed, deferred, List.length_nil]
    · omega
    · exact running
    · omega
    · exact nofun
    · exact nofun

/-- A feeder leaves when nothing is handed out any more: then a part is outstanding. -/
lemma leave (ledger : Ledger progress (feeders + 1) holders refused runners)
    (empty : progress.handOut? = none) : Ledger progress feeders holders refused runners := by
  have ⟨bounded, running, going, failing, claimed⟩ := ledger
  refine ⟨bounded, running, fun sound unclaimed => ?_, failing, claimed⟩
  have now := going sound unclaimed
  obtain ⟨deferred, all⟩ := of_handOut?_eq_none empty sound unclaimed
  rw [deferred, List.length_nil] at now ⊢
  omega

/-- Another feeder does no harm. -/
lemma join (ledger : Ledger progress feeders holders refused runners) :
    Ledger progress (feeders + 1) holders refused runners := by
  have ⟨bounded, running, going, failing, claimed⟩ := ledger
  refine ⟨bounded, running, fun sound unclaimed => ?_, failing, claimed⟩
  have now := going sound unclaimed
  omega

lemma refuse (ledger : Ledger progress feeders (holders + 1) refused runners) :
    Ledger progress feeders holders (refused + 1) runners := by
  have ⟨bounded, running, going, failing, claimed⟩ := ledger
  refine ⟨bounded, running, fun sound unclaimed => ?_, failing, fun concluded => ?_⟩
  · have now := going sound unclaimed
    omega
  · refine ⟨(claimed concluded).1, fun sound => ?_⟩
    have now := (claimed concluded).2 sound
    omega

lemma putBack (ledger : Ledger progress feeders (holders + 1) refused runners)
    (back : progress.putBack? index = some after) :
    Ledger after feeders holders refused runners := by
  have ⟨bounded, running, going, failing, claimed⟩ := ledger
  obtain ⟨several, rfl⟩ := of_putBack? back
  refine ⟨bounded, running, fun sound unclaimed => ?_, failing, fun concluded => ?_⟩
  · have now := going sound unclaimed
    simp only [List.length_cons]
    omega
  · refine ⟨(claimed concluded).1, fun sound => ?_⟩
    have now := (claimed concluded).2 sound
    omega

/-- A part that is skipped is missed by nobody: no part is begun any more. -/
lemma skip (ledger : Ledger progress feeders (holders + 1) refused runners)
    (closed : progress.enter? = none) : Ledger progress feeders holders refused runners := by
  have ⟨bounded, running, going, failing, claimed⟩ := ledger
  refine ⟨bounded, running, fun sound unclaimed => ?_, failing, fun concluded => ?_⟩
  · rcases of_enter?_eq_none closed with failed | concluded
    · exact absurd sound failed
    · rw [unclaimed] at concluded
      cases concluded
  · refine ⟨(claimed concluded).1, fun sound => ?_⟩
    have now := (claimed concluded).2 sound
    omega

lemma enter (ledger : Ledger progress feeders (holders + 1) refused runners)
    (entered : progress.enter? = some after) :
    Ledger after feeders holders refused (runners + 1) := by
  have ⟨bounded, running, going, failing, claimed⟩ := ledger
  obtain ⟨sound, unclaimed, rfl⟩ := of_enter? entered
  have now := going sound unclaimed
  constructor <;> simp only [sound, unclaimed]
  · exact bounded
  · omega
  · omega
  · exact nofun
  · exact nofun

/-- A part that runs keeps the end from being claimed. -/
lemma unclaimed (ledger : Ledger progress feeders holders refused (runners + 1)) :
    progress.endClaimed = false := by
  cases concluded : progress.endClaimed with
  | false => rfl
  | true => exact absurd (ledger.claimed concluded).1 (Nat.succ_ne_zero runners)

/-- Once the end has been claimed, a failure that is marked changes nothing. -/
lemma mark (ledger : Ledger progress feeders holders refused runners)
    (concluded : progress.endClaimed = true) :
    Ledger (progress.markFailed reason) feeders holders refused runners := by
  have ⟨bounded, running, going, failing, claimed⟩ := ledger
  refine ⟨bounded, running, nofun, fun _ unclaimed => ?_, fun _ => ⟨(claimed concluded).1, nofun⟩⟩
  rw [show progress.endClaimed = false from unclaimed] at concluded
  cases concluded

/-- A part has succeeded, and the one who did it goes on feeding. -/
lemma finish (ledger : Ledger progress feeders holders refused (runners + 1))
    (pending : progress.partFinished.claimEnd? = none) :
    Ledger progress.partFinished (feeders + 1) holders refused runners := by
  have unclaimed := ledger.unclaimed
  have ⟨bounded, running, going, failing, claimed⟩ := ledger
  have waiting : progress.partFinished.isDone = false := by
    rcases of_claimEnd?_eq_none pending with concluded | waiting
    · rw [show progress.endClaimed = true from concluded] at unclaimed
      cases unclaimed
    · exact waiting
  refine ⟨bounded, ?_, fun sound _ => ?_, fun failed _ => ?_, fun concluded => ?_⟩
  · simp only [partFinished]
    omega
  · have now := going sound unclaimed
    rw [isDone_of_no_failure sound] at waiting
    have waiting := of_decide_eq_false waiting
    simp only [partFinished] at waiting ⊢
    omega
  · rw [isDone_of_failure failed] at waiting
    have waiting := of_decide_eq_false waiting
    simp only [partFinished] at waiting
    omega
  · rw [show progress.endClaimed = true from concluded] at unclaimed
    cases unclaimed

/-- The last part to wait for has succeeded. -/
lemma finishLast (ledger : Ledger progress feeders holders refused (runners + 1))
    (last : progress.partFinished.claimEnd? = some after) :
    Ledger after feeders holders refused runners := by
  have unclaimed := ledger.unclaimed
  have ⟨bounded, running, going, failing, claimed⟩ := ledger
  obtain ⟨-, done, rfl⟩ := of_claimEnd? last
  refine ⟨bounded, ?_, nofun, nofun, fun _ => ?_⟩
  · simp only [partFinished]
    omega
  · by_cases sound : progress.failure = none
    · have now := going sound unclaimed
      rw [isDone_of_no_failure (show progress.partFinished.failure = none from sound)] at done
      have done := of_decide_eq_true done
      simp only [partFinished] at done ⊢
      omega
    · rw [isDone_of_failure (show progress.partFinished.failure ≠ none from sound)] at done
      have done := of_decide_eq_true done
      simp only [partFinished] at done ⊢
      exact ⟨by omega, fun none => absurd none sound⟩

/-- A part that ran has failed. -/
lemma lose (ledger : Ledger progress feeders holders refused (runners + 1)) :
    Ledger (progress.partLost reason true).settled feeders holders refused runners := by
  have unclaimed := ledger.unclaimed
  have ⟨bounded, running, going, failing, claimed⟩ := ledger
  unfold settled
  cases last : (progress.partLost reason true).claimEnd? with
  | none =>
      have waiting : (progress.partLost reason true).isDone = false := by
        rcases of_claimEnd?_eq_none last with concluded | waiting
        · rw [show progress.endClaimed = true from concluded] at unclaimed
          cases unclaimed
        · exact waiting
      rw [isDone_of_failure (failure_partLost true)] at waiting
      have waiting := of_decide_eq_false waiting
      simp only [partLost, markFailed, if_true] at waiting
      refine ⟨bounded, ?_, nofun, fun _ _ => ?_, fun concluded => ?_⟩
      · simp only [Option.getD_none, partLost, markFailed, if_true]
        omega
      · omega
      · rw [show progress.endClaimed = true from concluded] at unclaimed
        cases unclaimed
  | some after =>
      obtain ⟨-, done, rfl⟩ := of_claimEnd? last
      rw [isDone_of_failure (failure_partLost true)] at done
      have done := of_decide_eq_true done
      simp only [partLost, markFailed, if_true] at done
      refine ⟨bounded, ?_, nofun, nofun, fun _ => ⟨by omega, nofun⟩⟩
      simp only [Option.getD_some, partLost, markFailed, if_true]
      omega

/-- A part that was refused has been reported. -/
lemma report (ledger : Ledger progress feeders holders (refused + 1) runners) :
    Ledger (progress.partLost reason false).settled feeders holders refused runners := by
  have ⟨bounded, running, going, failing, claimed⟩ := ledger
  unfold settled
  cases last : (progress.partLost reason false).claimEnd? with
  | none =>
      refine ⟨bounded, running, nofun, fun _ unclaimed => ?_,
        fun concluded => ⟨(claimed concluded).1, nofun⟩⟩
      rcases of_claimEnd?_eq_none last with concluded | waiting
      · rw [show (progress.partLost reason false).endClaimed = false from unclaimed] at concluded
        cases concluded
      · rw [isDone_of_failure (failure_partLost false)] at waiting
        have waiting := of_decide_eq_false waiting
        simp only [partLost, markFailed, Bool.false_eq_true, if_false] at waiting
        omega
  | some after =>
      obtain ⟨-, done, rfl⟩ := of_claimEnd? last
      rw [isDone_of_failure (failure_partLost false)] at done
      have done := of_decide_eq_true done
      simp only [partLost, markFailed, Bool.false_eq_true, if_false] at done
      exact ⟨bounded, running, nofun, nofun, fun _ => ⟨by omega, nofun⟩⟩

/-- Before the end is claimed, somebody is there to go on. -/
lemma someone (ledger : Ledger progress feeders holders refused runners)
    (unclaimed : progress.endClaimed = false) : 0 < feeders + holders + refused + runners := by
  by_cases sound : progress.failure = none
  · have now := ledger.going sound unclaimed
    omega
  · have now := ledger.failing sound unclaimed
    omega

end Ledger
end BulkTransfer.Multipart
