import BulkTransfer.Proofs.Parts.Spans

/-!
# Splits within the limits

A transfer may be split into parts of an allowed size, as many as an upload may have, that cover it
and none of which is without a byte (`Limits.Admits`). Usable limits admit a split exactly of the
sizes up to that of all parts at their largest (`Limits.exists_admits_iff`). For these sizes
`Limits.split` gives one (`Limits.split_admits`): the chunksize that grows with the total has few
enough parts, and the bound on a single request does not take the growth back.

Beyond them the chunksize stays at its largest and the number of parts is above the allowed one. The
split is refused only once the number is too large for a part number, so that it can be given with
more parts than the limits allow (`Limits.split_of_usable`, `Limits.excessive_split`).
-/

namespace BulkTransfer

open Pool

/-- A number of parts is enough when parts that many cover the size. -/
lemma partsNeeded_le_iff {size chunksize count : Nat} (cut : 0 < chunksize) :
    partsNeeded size chunksize ≤ count ↔ size ≤ count * chunksize := by
  rw [← Nat.not_lt, lt_partsNeeded_iff cut, Nat.not_lt]

namespace Limits

/-- Whether the limits allow a transfer of `size` bytes in parts of `chunksize` bytes, the last of
which may be shorter. -/
structure Admits (limits : Limits) (size parts chunksize : Nat) : Prop where
  few : parts ≤ limits.maxParts
  least : limits.minChunksize ≤ chunksize
  most : chunksize ≤ limits.maxSingleSize
  covered : size ≤ parts * chunksize
  needed : 0 < size → (parts - 1) * chunksize < size

variable {limits : Limits} {wanted size parts chunksize : Nat}

/-- The parts of usable limits can be numbered. -/
lemma maxParts_lt (usable : limits.validate = .ok ()) : limits.maxParts < partNumberBound := by
  unfold validate at usable
  repeat' split at usable
  all_goals
    first
    | cases usable; done
    | next numbered => exact Nat.lt_of_not_le numbered

lemma clamp_within (usable : limits.validate = .ok ()) (wanted : Nat) :
    limits.minChunksize ≤ limits.clamp wanted ∧ limits.clamp wanted ≤ limits.maxSingleSize := by
  obtain ⟨-, order, -⟩ := of_validate usable
  unfold clamp
  split <;> omega

/-- A chunksize that grows for the total is above the clamped one. -/
lemma clamp_lt_grown (several : 0 < limits.maxParts) (cut : 0 < limits.clamp wanted)
    (many : limits.maxParts < partsNeeded size (limits.clamp wanted)) :
    limits.clamp wanted < partsNeeded size limits.maxParts := by
  rw [lt_partsNeeded_iff cut] at many
  rwa [lt_partsNeeded_iff several, Nat.mul_comm]

/-- The chunksize is in the allowed range, also when it has grown. -/
lemma adjust_within (usable : limits.validate = .ok ()) (wanted : Nat) (total : Option Nat) :
    limits.minChunksize ≤ limits.adjust wanted total ∧
      limits.adjust wanted total ≤ limits.maxSingleSize := by
  obtain ⟨minimum, order, several⟩ := of_validate usable
  have clamped := clamp_within usable wanted
  cases total with
  | none => exact clamped
  | some total =>
      unfold adjust
      dsimp only
      split
      · next many =>
          have grown := clamp_lt_grown several (by omega) many
          omega
      · exact clamped

/-- The chunksize makes few enough parts of every size that the largest parts can hold. -/
lemma partsNeeded_adjust_le_iff (usable : limits.validate = .ok ()) (wanted size : Nat) :
    partsNeeded size (limits.adjust wanted (some size)) ≤ limits.maxParts ↔
      size ≤ limits.maxParts * limits.maxSingleSize := by
  obtain ⟨minimum, order, several⟩ := of_validate usable
  have within := adjust_within usable wanted (some size)
  rw [partsNeeded_le_iff (by omega)]
  refine ⟨fun covered => Nat.le_trans covered (Nat.mul_le_mul_left _ within.2), fun held => ?_⟩
  unfold adjust
  dsimp only
  split
  · -- the parts that are each a share of the size cover it, and the largest ones do by assumption
    have shares : size ≤ limits.maxParts * partsNeeded size limits.maxParts := by
      rw [Nat.mul_comm]
      exact (partsNeeded_le_iff several).1 (Nat.le_refl _)
    rw [← Nat.mul_min_mul_left]
    exact Nat.le_min.2 ⟨shares, held⟩
  · next enough =>
      have clamped := clamp_within usable wanted
      exact (partsNeeded_le_iff (by omega)).1 (Nat.le_of_not_lt enough)

/-- A size that the largest parts cannot hold is cut into parts of the largest size. -/
lemma adjust_of_exceeds (usable : limits.validate = .ok ())
    (exceeds : limits.maxParts * limits.maxSingleSize < size) :
    limits.adjust wanted (some size) = limits.maxSingleSize := by
  obtain ⟨minimum, order, several⟩ := of_validate usable
  have clamped := clamp_within usable wanted
  have many : limits.maxParts < partsNeeded size (limits.clamp wanted) := by
    rw [lt_partsNeeded_iff (by omega)]
    exact Nat.lt_of_le_of_lt (Nat.mul_le_mul_left _ clamped.2) exceeds
  have shares : limits.maxSingleSize < partsNeeded size limits.maxParts := by
    rwa [lt_partsNeeded_iff several, Nat.mul_comm]
  unfold adjust
  dsimp only
  rw [if_pos many]
  omega

/-- The parts that a size needs cover it, and one part fewer does not. -/
lemma partsNeeded_covers (cut : 0 < chunksize) (size : Nat) :
    size ≤ partsNeeded size chunksize * chunksize ∧
      (0 < size → (partsNeeded size chunksize - 1) * chunksize < size) := by
  refine ⟨(partsNeeded_le_iff cut).1 (Nat.le_refl _), fun sized => ?_⟩
  have some := partsNeeded_pos sized cut
  exact (lt_partsNeeded_iff cut).1 (by omega)

/-- A split is admitted of exactly the sizes that the allowed parts can hold at their largest. -/
theorem exists_admits_iff (usable : limits.validate = .ok ()) (size : Nat) :
    (∃ parts chunksize, limits.Admits size parts chunksize) ↔
      size ≤ limits.maxParts * limits.maxSingleSize := by
  obtain ⟨minimum, order, several⟩ := of_validate usable
  constructor
  · rintro ⟨parts, chunksize, admitted⟩
    exact Nat.le_trans admitted.covered (Nat.mul_le_mul admitted.few admitted.most)
  · intro held
    have covers := partsNeeded_covers (by omega : 0 < limits.maxSingleSize) size
    exact ⟨_, _, (partsNeeded_le_iff (by omega)).2 held, order, Nat.le_refl _, covers.1, covers.2⟩

/-- Every split keeps to the allowed sizes of a part and covers the transfer. -/
lemma split_covers (usable : limits.validate = .ok ())
    (given : limits.split wanted size = .ok (parts, chunksize)) :
    (limits.minChunksize ≤ chunksize ∧ chunksize ≤ limits.maxSingleSize) ∧
      size ≤ parts * chunksize ∧ (0 < size → (parts - 1) * chunksize < size) ∧
        (parts ≤ limits.maxParts ↔ size ≤ limits.maxParts * limits.maxSingleSize) := by
  obtain ⟨minimum, order, several⟩ := of_validate usable
  have within := adjust_within usable wanted (some size)
  have number := partsNeeded_adjust_le_iff usable wanted size
  unfold split at given
  dsimp only at given
  split at given
  · obtain ⟨rfl, rfl⟩ := Prod.mk.inj (Except.ok.inj given)
    have covers := partsNeeded_covers (by omega : 0 < limits.adjust wanted (some size)) size
    exact ⟨within, covers.1, covers.2, number⟩
  · cases given

/-- Of a size that has a split within the limits, one is given. -/
theorem split_admits (usable : limits.validate = .ok ())
    (held : size ≤ limits.maxParts * limits.maxSingleSize) :
    ∃ parts chunksize, limits.split wanted size = .ok (parts, chunksize) ∧
      limits.Admits size parts chunksize := by
  have number := (partsNeeded_adjust_le_iff usable wanted size).2 held
  have numbered : partsNeeded size (limits.adjust wanted (some size)) < partNumberBound :=
    Nat.lt_of_le_of_lt number (maxParts_lt usable)
  have given : limits.split wanted size =
      .ok (partsNeeded size (limits.adjust wanted (some size)), limits.adjust wanted (some size)) :=
    if_pos numbered
  obtain ⟨within, covered, needed, -⟩ := split_covers usable given
  exact ⟨_, _, given, number, within.1, within.2, covered, needed⟩

/-- Of a size that the allowed parts cannot hold, the split is into the largest parts, as many as
are needed, and is refused when these cannot be numbered. -/
lemma split_of_exceeds (usable : limits.validate = .ok ())
    (exceeds : limits.maxParts * limits.maxSingleSize < size) :
    limits.split wanted size =
      if partsNeeded size limits.maxSingleSize < partNumberBound then
        .ok (partsNeeded size limits.maxSingleSize, limits.maxSingleSize)
      else
        .error (.config (.tooManyParts size limits.maxSingleSize
          (partsNeeded size limits.maxSingleSize))) := by
  unfold split
  rw [adjust_of_exceeds usable exceeds]

/-- What a split is, for usable limits. Its chunksize is allowed and its parts just cover the size.
It is within the limits as a whole, and given, where the limits admit a split at all; where they
admit none, it is refused only if the largest parts are too many for their numbers. -/
theorem split_of_usable (usable : limits.validate = .ok ()) (wanted size : Nat) :
    (∀ parts chunksize, limits.split wanted size = .ok (parts, chunksize) →
      (limits.minChunksize ≤ chunksize ∧ chunksize ≤ limits.maxSingleSize) ∧
        size ≤ parts * chunksize ∧ (0 < size → (parts - 1) * chunksize < size) ∧
          (parts ≤ limits.maxParts ↔ size ≤ limits.maxParts * limits.maxSingleSize)) ∧
      ((∃ parts chunksize, limits.Admits size parts chunksize) →
        ∃ parts chunksize, limits.split wanted size = .ok (parts, chunksize) ∧
          limits.Admits size parts chunksize) ∧
      ((∃ parts chunksize, limits.Admits size parts chunksize) ↔
        size ≤ limits.maxParts * limits.maxSingleSize) ∧
      (limits.maxParts * limits.maxSingleSize < size →
        limits.maxParts < partsNeeded size limits.maxSingleSize ∧
          limits.split wanted size =
            if partsNeeded size limits.maxSingleSize < partNumberBound then
              .ok (partsNeeded size limits.maxSingleSize, limits.maxSingleSize)
            else
              .error (.config (.tooManyParts size limits.maxSingleSize
                (partsNeeded size limits.maxSingleSize)))) := by
  obtain ⟨minimum, order, several⟩ := of_validate usable
  refine ⟨fun parts chunksize given => split_covers usable given, fun admitted => ?_,
    exists_admits_iff usable size, fun exceeds => ⟨?_, split_of_exceeds usable exceeds⟩⟩
  · exact split_admits usable ((exists_admits_iff usable size).1 admitted)
  · rwa [lt_partsNeeded_iff (by omega)]

/-- Limits of four parts of four bytes. -/
def narrow : Limits where
  minChunksize := 1
  maxSingleSize := 4
  maxParts := 4
  maxObjectSize := 100

theorem narrow_split_of_usable :
    narrow.validate = .ok () ∧
      ∃ parts chunksize, narrow.split 1 10 = .ok (parts, chunksize) ∧
        narrow.Admits 10 parts chunksize := by
  have usable : narrow.validate = .ok () := rfl
  obtain ⟨-, given, held, -⟩ := split_of_usable usable 1 10
  exact ⟨usable, given (held.2 (by decide))⟩

/-- A split into more parts than the limits allow: twenty bytes are cut into five parts, although
no four parts of at most four bytes hold them. -/
theorem excessive_split :
    narrow.validate = .ok () ∧ 20 ≤ narrow.maxObjectSize ∧ narrow.split 1 20 = .ok (5, 4) ∧
      narrow.maxParts < 5 ∧ ¬∃ parts chunksize, narrow.Admits 20 parts chunksize := by
  refine ⟨rfl, by decide, rfl, by decide, ?_⟩
  rintro ⟨parts, chunksize, admitted⟩
  have held : parts * chunksize ≤ 4 * 4 := Nat.mul_le_mul admitted.few admitted.most
  have covered := admitted.covered
  omega

end Limits

/-- The parts of a record that is planned as a multipart transfer are within the limits, if these
admit a split of its size. -/
lemma Pool.Planned.admits {plan : Plan} {record : Record} {operation : Operation} {chore : Chore}
    (planned : Planned plan record operation chore) (valid : plan.Valid)
    (held : record.size ≤ plan.limits.maxParts * plan.limits.maxSingleSize) :
    (∀ upload ∈ operation.upload, ∃ parts chunksize, upload = .ofParts parts chunksize ∧
      plan.limits.Admits record.size parts chunksize) ∧
      (∀ download ∈ operation.download, ∃ parts chunksize, download = .ofParts parts chunksize ∧
        plan.limits.Admits record.size parts chunksize) := by
  have within {parts chunksize : Nat} (given : plan.limits.split plan.config.multipartChunksize
      record.size = .ok (parts, chunksize)) : plan.limits.Admits record.size parts chunksize := by
    obtain ⟨_, _, admitted, admits⟩ := Limits.split_admits valid.limits held
    obtain ⟨rfl, rfl⟩ := Prod.mk.inj (Except.ok.inj (given.symm.trans admitted))
    exact admits
  cases planned with
  | whole isAction small => exact ⟨by rintro _ ⟨⟩, by rintro _ ⟨⟩⟩
  | upload remote split sized =>
      refine ⟨?_, by rintro _ ⟨⟩⟩
      rintro _ ⟨⟩
      exact ⟨_, _, rfl, within split⟩
  | download source destination split sized =>
      refine ⟨by rintro _ ⟨⟩, ?_⟩
      rintro _ ⟨⟩
      exact ⟨_, _, rfl, within split⟩

end BulkTransfer
