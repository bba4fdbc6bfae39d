import BulkTransfer.Proofs.Parts.Ledger

/-!
# Dialogues in stages

The state of a multipart operation answers whoever asks, in whatever order and however often it is
asked. Where its end nears in stages and no request takes it back to an earlier one, an exchange
that is possible only at early stages does not come after one that has led beyond them
(`pairwise_dialogue`). The parts of an operation have three stages: they are given out, one of them
has failed, and the end has been claimed (`Progress.stage`).

This holds of all sequences of requests, not only of those that the tasks of a run make.
-/

namespace BulkTransfer.Multipart

/-! ## Dialogues -/

section

variable {σ ρ α : Type}

/-- What requests that are made one after another are answered, each with its answer, and the state
afterwards. -/
def dialogue (respond : σ → ρ → α × σ) : σ → List ρ → List (ρ × α) × σ
  | state, [] => ([], state)
  | state, request :: requests =>
      let answered := respond state request
      let others := dialogue respond answered.2 requests
      ((request, answered.1) :: others.1, others.2)

/-- What an exchange does to a state whose end nears in stages: the state stays sound, its stage
does not fall, and the exchange comes at the latest at one stage and leads at least to another. -/
structure Nearer (sound : σ → Prop) (stage : σ → Nat) (latest reached : ρ × α → Nat)
    (before : σ) (exchange : ρ × α) (after : σ) : Prop where
  still : sound after
  rises : stage before ≤ stage after
  before_latest : stage before ≤ latest exchange
  reached_after : reached exchange ≤ stage after

variable {respond : σ → ρ → α × σ} {sound : σ → Prop} {stage : σ → Nat}
  {latest reached : ρ × α → Nat} {state before noted after : σ} {exchange : ρ × α}

/-- At the first stage everything is possible. -/
lemma Nearer.of_stage_eq_zero (still : sound after) (zero : stage before = 0)
    (leads : reached exchange ≤ stage after) :
    Nearer sound stage latest reached before exchange after := by
  refine ⟨still, ?_, ?_, leads⟩
  · rw [zero]
    exact Nat.zero_le _
  · rw [zero]
    exact Nat.zero_le _

/-- Something may have been noted before the answer. -/
lemma Nearer.of_noted (nearer : Nearer sound stage latest reached noted exchange after)
    (rises : stage before ≤ stage noted) :
    Nearer sound stage latest reached before exchange after where
  still := nearer.still
  rises := Nat.le_trans rises nearer.rises
  before_latest := Nat.le_trans rises nearer.before_latest
  reached_after := nearer.reached_after

section

variable (nears : ∀ state request, sound state →
  Nearer sound stage latest reached state (request, (respond state request).1)
    (respond state request).2)

include nears

/-- No exchange of a dialogue comes later than the stage at its beginning allows. -/
lemma stage_le_of_dialogue (begins : sound state) (requests : List ρ) :
    ∀ exchange ∈ (dialogue respond state requests).1, stage state ≤ latest exchange := by
  induction requests generalizing state with
  | nil => exact List.forall_mem_nil _
  | cons request requests ih =>
      have first := nears state request begins
      intro exchange made
      obtain rfl | later := List.mem_cons.1 made
      · exact first.before_latest
      · exact Nat.le_trans first.rises (ih first.still exchange later)

/-- An exchange of a dialogue does not come after one that has led beyond its stage. -/
theorem pairwise_dialogue (begins : sound state) (requests : List ρ) :
    (dialogue respond state requests).1.Pairwise
      fun earlier later => reached earlier ≤ latest later := by
  induction requests generalizing state with
  | nil => exact .nil
  | cons request requests ih =>
      have first := nears state request begins
      apply List.Pairwise.cons
      · intro later made
        exact Nat.le_trans first.reached_after
          (stage_le_of_dialogue nears first.still requests later made)
      · exact ih first.still

end

/-- What no two elements of a list have, at most one of them has. -/
lemma countP_le_one {β : Type} {kind : β → Bool} {list : List β}
    (apart : list.Pairwise fun earlier later => ¬(kind earlier = true ∧ kind later = true)) :
    list.countP kind ≤ 1 := by
  induction apart with
  | nil => exact Nat.zero_le 1
  | @cons first rest others _ ih =>
      by_cases own : kind first = true
      · have none : rest.countP kind = 0 :=
          List.countP_eq_zero.2 fun other listed also => others other listed ⟨own, also⟩
        have one : (first :: rest).countP kind = 1 := by
          rw [List.countP_cons_of_pos own, none]
        exact Nat.le_of_eq one
      · rwa [List.countP_cons_of_neg own]

/-- What a state has at the end of a dialogue, if requests that are answered in some way add it and
no request takes it away. -/
lemma holds_after_dialogue (holds : σ → Prop) {adds : ρ × α → Bool}
    (step : ∀ state request, holds (respond state request).2 ↔
      holds state ∨ adds (request, (respond state request).1) = true) (requests : List ρ) :
    holds (dialogue respond state requests).2 ↔
      holds state ∨ ∃ exchange ∈ (dialogue respond state requests).1, adds exchange = true := by
  induction requests generalizing state with
  | nil => simp [dialogue]
  | cons request requests ih =>
      show holds (dialogue respond (respond state request).2 requests).2 ↔ holds state ∨
        ∃ exchange ∈ (request, (respond state request).1) :: _, adds exchange = true
      rw [ih, step]
      simp only [List.mem_cons, exists_eq_or_imp, or_assoc]

end

/-! ## Stages of the parts -/

namespace Progress

variable {progress after : Progress}

/-- The stage of an operation as far as its parts tell: parts are given out (0), one of them has
failed (1), or the end has been claimed (3). -/
def stage (progress : Progress) : Nat :=
  if progress.endClaimed then 3 else if progress.failure.isSome then 1 else 0

lemma stage_eq_zero (sound : progress.failure = none) (unclaimed : progress.endClaimed = false) :
    progress.stage = 0 := by
  simp [stage, sound, unclaimed]

lemma stage_of_endClaimed (claimed : progress.endClaimed = true) : progress.stage = 3 :=
  if_pos claimed

lemma stage_le (progress : Progress) : progress.stage ≤ 3 := by
  unfold stage
  split
  · decide
  · split <;> decide

lemma stage_le_one (unclaimed : progress.endClaimed = false) : progress.stage ≤ 1 := by
  unfold stage
  rw [unclaimed, if_neg Bool.false_ne_true]
  split <;> decide

lemma one_le_stage (failed : progress.failure ≠ none) : 1 ≤ progress.stage := by
  unfold stage
  rw [if_pos (Option.isSome_iff_ne_none.2 failed)]
  split <;> decide

/-- A part is handed out only before a failure and before the end, and fails nothing. -/
lemma open_of_handOut? {index : Nat} (handed : progress.handOut? = some (index, after)) :
    progress.failure = none ∧ progress.endClaimed = false ∧
      after.failure = progress.failure ∧ after.endClaimed = progress.endClaimed := by
  obtain ⟨intact, unclaimed, way⟩ := of_handOut? handed
  refine ⟨intact, unclaimed, ?_⟩
  rcases way with ⟨rest, -, rfl⟩ | ⟨-, -, -, rfl⟩ <;> exact ⟨rfl, rfl⟩

/-- The stage does not fall while neither a failure nor the claim of the end is forgotten. -/
lemma stage_le_stage (failed : progress.failure ≠ none → after.failure ≠ none)
    (claimed : progress.endClaimed = true → after.endClaimed = true) :
    progress.stage ≤ after.stage := by
  by_cases ended : progress.endClaimed = true
  · have before := stage_of_endClaimed ended
    have later := stage_of_endClaimed (claimed ended)
    exact Nat.le_of_eq (before.trans later.symm)
  · by_cases sound : progress.failure = none
    · rw [stage_eq_zero sound (Bool.eq_false_iff.2 ended)]
      exact Nat.zero_le _
    · have one : progress.stage = 1 := by
        simp [stage, ended, Option.isSome_iff_ne_none, sound]
      rw [one]
      exact one_le_stage (failed sound)

end Progress
end BulkTransfer.Multipart
