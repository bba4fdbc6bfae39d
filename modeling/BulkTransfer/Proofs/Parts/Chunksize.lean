import BulkTransfer.Proofs.Parts.Splitting
import Mathlib.Algebra.Order.Floor.Div

/-!
# The least chunksize

A chunksize suits a transfer if it is allowed, not below the wanted one, and cuts the size into few
enough parts (`Limits.suitable`). The chunksize that is chosen is the least that suits
(`Limits.adjust_isLeast`): a clamped one that makes too many parts is below each one that makes few
enough, and of these the share that every part has of the size is the least. If no chunksize suits,
the largest one is chosen, and if no size is known, the wanted one is only clamped
(`Limits.adjust_optimal`).
-/

namespace BulkTransfer

/-- The parts that a size needs are as many as the rounded-up quotient. -/
lemma partsNeeded_eq_ceilDiv (size chunksize : Nat) :
    partsNeeded size chunksize = size ⌈/⌉ chunksize := by
  unfold partsNeeded
  split
  · next none => rw [none, ceilDiv_zero]
  · rw [Nat.ceilDiv_eq_add_pred_div]

namespace Limits

variable {limits : Limits} {wanted size chunksize : Nat}

/-- A wanted chunksize is clamped into the allowed range. -/
lemma clamp_eq (usable : limits.validate = .ok ()) (wanted : Nat) :
    limits.clamp wanted = max limits.minChunksize (min wanted limits.maxSingleSize) := by
  obtain ⟨-, order, -⟩ := of_validate usable
  unfold clamp
  by_cases low : wanted < limits.minChunksize
  · rw [if_pos low]
    omega
  · rw [if_neg low]
    omega

/-- The allowed chunksizes, none of them below the wanted one if that is allowed, which cut a size
into as few parts as an upload may have. -/
def suitable (limits : Limits) (wanted size : Nat) : Set Nat :=
  {chunksize | max limits.minChunksize (min wanted limits.maxSingleSize) ≤ chunksize ∧
    chunksize ≤ limits.maxSingleSize ∧ size ⌈/⌉ chunksize ≤ limits.maxParts}

lemma mem_suitable_iff (usable : limits.validate = .ok ()) :
    chunksize ∈ limits.suitable wanted size ↔
      limits.clamp wanted ≤ chunksize ∧ chunksize ≤ limits.maxSingleSize ∧
        size ≤ limits.maxParts * chunksize := by
  obtain ⟨minimum, -, -⟩ := of_validate usable
  have clamped := clamp_within usable wanted
  show _ ∧ _ ∧ _ ↔ _
  rw [← clamp_eq usable, ← partsNeeded_eq_ceilDiv]
  refine and_congr_right fun above => and_congr_right fun _ => ?_
  exact partsNeeded_le_iff (by omega)

/-- The chunksize is not below the clamped one. -/
lemma clamp_le_adjust (usable : limits.validate = .ok ()) (wanted : Nat) (total : Option Nat) :
    limits.clamp wanted ≤ limits.adjust wanted total := by
  obtain ⟨minimum, -, several⟩ := of_validate usable
  have clamped := clamp_within usable wanted
  cases total with
  | none => exact Nat.le_refl _
  | some total =>
      unfold adjust
      dsimp only
      by_cases many : limits.maxParts < partsNeeded total (limits.clamp wanted)
      · have grown := clamp_lt_grown several (by omega) many
        rw [if_pos many]
        omega
      · rw [if_neg many]

/-- No suitable chunksize is below the one that is chosen. -/
lemma adjust_le_of_suitable (usable : limits.validate = .ok ())
    (suits : chunksize ∈ limits.suitable wanted size) :
    limits.adjust wanted (some size) ≤ chunksize := by
  obtain ⟨-, -, several⟩ := of_validate usable
  obtain ⟨above, -, covered⟩ := (mem_suitable_iff usable).1 suits
  unfold adjust
  dsimp only
  by_cases many : limits.maxParts < partsNeeded size (limits.clamp wanted)
  · -- as many parts of the chunksize as are allowed cover the size, so it is at least their share
    have share : partsNeeded size limits.maxParts ≤ chunksize := by
      apply (partsNeeded_le_iff several).2
      rw [Nat.mul_comm]
      exact covered
    rw [if_pos many]
    omega
  · rw [if_neg many]
    exact above

/-- The chunksize that is chosen is the least suitable one, if there is one. -/
theorem adjust_isLeast (usable : limits.validate = .ok ())
    (some_suits : (limits.suitable wanted size).Nonempty) :
    IsLeast (limits.suitable wanted size) (limits.adjust wanted (some size)) := by
  obtain ⟨minimum, -, -⟩ := of_validate usable
  obtain ⟨chunksize, suits⟩ := some_suits
  obtain ⟨-, below, covered⟩ := (mem_suitable_iff usable).1 suits
  have within := adjust_within usable wanted (some size)
  have held : size ≤ limits.maxParts * limits.maxSingleSize :=
    calc
      size ≤ limits.maxParts * chunksize := covered
      _ ≤ limits.maxParts * limits.maxSingleSize := Nat.mul_le_mul_left _ below
  constructor
  · apply (mem_suitable_iff usable).2
    have few := (partsNeeded_adjust_le_iff usable wanted size).2 held
    exact ⟨clamp_le_adjust usable wanted (some size), within.2,
      (partsNeeded_le_iff (by omega)).1 few⟩
  · intro other also_suits
    exact adjust_le_of_suitable usable also_suits

/-- The largest chunksize is chosen if none suits. -/
lemma adjust_of_none_suits (usable : limits.validate = .ok ())
    (none_suits : limits.suitable wanted size = ∅) :
    limits.adjust wanted (some size) = limits.maxSingleSize := by
  have clamped := clamp_within usable wanted
  apply adjust_of_exceeds usable
  by_contra held
  have largest : limits.maxSingleSize ∈ limits.suitable wanted size :=
    (mem_suitable_iff usable).2 ⟨clamped.2, Nat.le_refl _, Nat.le_of_not_lt held⟩
  rw [none_suits] at largest
  exact largest

/-- Usable limits never contradict each other. -/
lemma contradict_of_usable (usable : limits.validate = .ok ()) (wanted : Nat)
    (total : Option Nat) : limits.contradict wanted total = false := by
  obtain ⟨-, order, several⟩ := of_validate usable
  have ordered : decide (limits.maxSingleSize < limits.minChunksize) = false :=
    decide_eq_false (Nat.not_lt.2 order)
  have numbered : decide (limits.maxParts = 0) = false := decide_eq_false (Nat.ne_of_gt several)
  unfold contradict
  rw [ordered, numbered]
  rfl

/-- With usable limits a chunksize can always be chosen. It is between the wanted one, clamped into
the allowed range, and the largest one. It is the clamped one if no size is known; for a known size
it is the least suitable one, and the largest one if none suits. -/
theorem adjust_optimal (usable : limits.validate = .ok ()) (wanted : Nat) :
    (∀ total, limits.contradict wanted total = false ∧
      max limits.minChunksize (min wanted limits.maxSingleSize) ≤ limits.adjust wanted total ∧
        limits.adjust wanted total ≤ limits.maxSingleSize) ∧
      limits.adjust wanted none = max limits.minChunksize (min wanted limits.maxSingleSize) ∧
      ∀ size,
        ((limits.suitable wanted size).Nonempty →
          IsLeast (limits.suitable wanted size) (limits.adjust wanted (some size))) ∧
        (limits.suitable wanted size = ∅ →
          limits.adjust wanted (some size) = limits.maxSingleSize) := by
  rw [← clamp_eq usable wanted]
  refine ⟨fun total => ?_, rfl, fun size => ⟨adjust_isLeast usable, adjust_of_none_suits usable⟩⟩
  exact ⟨contradict_of_usable usable wanted total, clamp_le_adjust usable wanted total,
    (adjust_within usable wanted total).2⟩

/-- Of ten bytes, the least chunksize that makes no more than four parts is three; of twenty, which
four parts of at most four bytes do not hold, the chunksize is the largest. -/
theorem narrow_adjust_optimal :
    narrow.validate = .ok () ∧ IsLeast (narrow.suitable 1 10) 3 ∧
      narrow.suitable 1 20 = ∅ ∧ narrow.adjust 1 (some 20) = narrow.maxSingleSize := by
  have usable : narrow.validate = .ok () := rfl
  obtain ⟨-, -, chosen⟩ := adjust_optimal usable 1
  have some_suits : (narrow.suitable 1 10).Nonempty :=
    ⟨4, (mem_suitable_iff usable).2 ⟨by decide, by decide, by decide⟩⟩
  have none_suits : narrow.suitable 1 20 = ∅ := by
    apply Set.eq_empty_of_forall_notMem
    intro chunksize suits
    obtain ⟨-, below, covered⟩ := (mem_suitable_iff usable).1 suits
    have few : chunksize ≤ 4 := below
    have held : 20 ≤ 4 * chunksize := covered
    omega
  exact ⟨usable, (chosen 10).1 some_suits, none_suits, (chosen 20).2 none_suits⟩

end Limits
end BulkTransfer
