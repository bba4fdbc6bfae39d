import BulkTransfer.Proofs.Upload.Turn

/-!
# The log of the parts

What has happened to the parts of an upload against its state and its hands. Each number that was
handed out is in one place: put back, with a hand that has not called yet, or called. The calls
are those that were answered and those that a hand waits for, and the answers with a tag are those
of the finished parts and those that are about to be reported (`PartLog`). Every turn at the parts
keeps the log (`PartLog.turn`).
-/

namespace BulkTransfer

open Pool Multipart

namespace Pool

/-- The part that an event begins to move. -/
def Event.partCalled? : Event → Option Nat
  | .called _ _ call => call.partNumber?
  | _ => none

/-- The part whose move an event ends, with its tag if it has got one. -/
def Event.partAnswered? : Event → Option (Nat × Option String)
  | .answered _ _ call answer => call.partNumber?.map fun number => (number, answer.tag?)
  | _ => none

/-- The numbers of the parts whose moves have begun, latest first. -/
def partsCalled (history : List Event) : List Nat :=
  history.filterMap Event.partCalled?

/-- The numbers of the parts whose moves have ended, with their tags, latest first. -/
def partsAnswered (history : List Event) : List (Nat × Option String) :=
  history.filterMap Event.partAnswered?

/-- A part that has got a tag. -/
def finishedPart? (answer : Nat × Option String) : Option FinishedPart :=
  answer.2.map fun tag => ⟨answer.1, tag⟩

/-- The part that a hand has yet to begin to move. -/
def Activity.uncalled? : Activity → Option Nat
  | .offering _ _ index | .deferring _ _ index | .forcing _ _ index => some (index + 1)
  | .starting _ chore => chore.part?.map (·.number)
  | .reading _ range _ => some range.number
  | .sending _ errand _ _ => errand.part?.map (·.number)
  | _ => none

/-- The part that a hand waits for. -/
def Activity.awaited? : Activity → Option Nat
  | .awaiting _ errand _ _ => errand.part?.map (·.number)
  | _ => none

/-- The finished part that a hand is about to report. -/
def Activity.told? : Activity → Option FinishedPart
  | .reporting _ (.partDone range tag) => some ⟨range.number, tag⟩
  | _ => none

/-- What the hands have of something that each may have one of. -/
def gather {α : Type} (of : Activity → Option α) (hands : Multiset Activity) : Multiset α :=
  hands.filterMap of

@[simp]
lemma gather_zero {α : Type} (of : Activity → Option α) : gather of 0 = 0 := rfl

@[simp]
lemma gather_cons {α : Type} (of : Activity → Option α) (hand : Activity)
    (hands : Multiset Activity) :
    gather of (hand ::ₘ hands) = (of hand).elim 0 (fun one => {one}) + gather of hands := by
  unfold gather
  cases has : of hand with
  | none => simp [Multiset.filterMap_cons_none _ _ has]
  | some one => simp [Multiset.filterMap_cons_some _ _ _ has]

@[simp]
lemma gather_singleton {α : Type} (of : Activity → Option α) (hand : Activity) :
    gather of {hand} = (of hand).elim 0 fun one => {one} :=
  (gather_cons of hand 0).trans (add_zero _)

lemma gather_add {α : Type} (of : Activity → Option α) (hands others : Multiset Activity) :
    gather of (hands + others) = gather of hands + gather of others :=
  Multiset.filterMap_add ..

@[simp]
lemma partsCalled_nil : partsCalled [] = [] := rfl

@[simp]
lemma partsAnswered_nil : partsAnswered [] = [] := rfl

@[simp]
lemma partsCalled_cons (event : Event) (history : List Event) :
    partsCalled (event :: history) = event.partCalled?.toList ++ partsCalled history := by
  unfold partsCalled
  rw [List.filterMap_cons]
  cases event.partCalled? <;> rfl

@[simp]
lemma partsAnswered_cons (event : Event) (history : List Event) :
    partsAnswered (event :: history) = event.partAnswered?.toList ++ partsAnswered history := by
  unfold partsAnswered
  rw [List.filterMap_cons]
  cases event.partAnswered? <;> rfl

lemma partsCalled_append (notes history : List Event) :
    partsCalled (notes ++ history) = partsCalled notes ++ partsCalled history :=
  List.filterMap_append

lemma partsAnswered_append (notes history : List Event) :
    partsAnswered (notes ++ history) = partsAnswered notes ++ partsAnswered history :=
  List.filterMap_append

end Pool

namespace Multipart

/-- Whether the numbers of the parts that are out, together with those put back, are different
ones of those handed out. -/
structure Issued (progress : Progress) (out : Multiset ℕ) : Prop where
  distinct : ((progress.deferred.map (· + 1) : List ℕ) + out : Multiset ℕ).Nodup
  within : ∀ number ∈ ((progress.deferred.map (· + 1) : List ℕ) + out : Multiset ℕ),
    1 ≤ number ∧ number ≤ progress.next

namespace Issued

variable {progress after : Progress} {out : Multiset ℕ} {index : ℕ}

/-- Only the numbers handed out and put back matter. -/
lemma of_same (issued : Issued progress out) (deferred : after.deferred = progress.deferred)
    (next : after.next = progress.next) : Issued after out := by
  obtain ⟨distinct, within⟩ := issued
  constructor
  · rw [deferred]
    exact distinct
  · rw [deferred, next]
    exact within

/-- Parts may go out of sight. -/
lemma fewer {others : Multiset ℕ} (issued : Issued progress out) (le : others ≤ out) :
    Issued progress others := by
  obtain ⟨distinct, within⟩ := issued
  have fewer : ((progress.deferred.map (· + 1) : List ℕ) + others : Multiset ℕ) ≤
      (progress.deferred.map (· + 1) : List ℕ) + out := add_le_add_right le _
  exact ⟨Multiset.nodup_of_le fewer distinct,
    fun number present => within number (Multiset.mem_of_le fewer present)⟩

lemma handOut (issued : Issued progress out) (handed : progress.handOut? = some (index, after)) :
    Issued after ((index + 1) ::ₘ out) := by
  obtain ⟨distinct, within⟩ := issued
  obtain ⟨-, -, ⟨rest, deferred, rfl⟩ | ⟨deferred, rfl, left, rfl⟩⟩ := Progress.of_handOut? handed
  · have moved : ((rest.map (· + 1) : List ℕ) + (index + 1) ::ₘ out : Multiset ℕ) =
        (progress.deferred.map (· + 1) : List ℕ) + out := by
      rw [deferred, List.map_cons, ← Multiset.cons_coe, Multiset.add_cons, Multiset.cons_add]
    constructor
    · rw [moved]
      exact distinct
    · rw [moved]
      exact within
  · rw [deferred] at distinct within
    simp only [List.map_nil, Multiset.coe_nil, zero_add] at distinct within
    constructor
    · simp only [deferred, List.map_nil, Multiset.coe_nil, zero_add, Multiset.nodup_cons]
      refine ⟨fun again => ?_, distinct⟩
      have bound := within _ again
      omega
    · simp only [deferred, List.map_nil, Multiset.coe_nil, zero_add, Multiset.mem_cons]
      rintro number (rfl | old)
      · omega
      · have bound := within _ old
        omega

lemma putBack (issued : Issued progress ((index + 1) ::ₘ out))
    (back : progress.putBack? index = some after) : Issued after out := by
  obtain ⟨distinct, within⟩ := issued
  obtain ⟨-, rfl⟩ := Progress.of_putBack? back
  have moved : (((index :: progress.deferred).map (· + 1) : List ℕ) + out : Multiset ℕ) =
      (progress.deferred.map (· + 1) : List ℕ) + (index + 1) ::ₘ out := by
    rw [List.map_cons, ← Multiset.cons_coe, Multiset.add_cons, Multiset.cons_add]
  constructor
  · rw [moved]
    exact distinct
  · rw [moved]
    exact within

end Issued

namespace Upload

variable {part : FinishedPart} {parts : List FinishedPart}

/-- A part with a new number is added to the others. -/
lemma insertPart_perm (new : part.number ∉ parts.map (·.number)) :
    (insertPart part parts).Perm (part :: parts) := by
  induction parts with
  | nil => exact .refl _
  | cons first rest ih =>
      rw [List.map_cons, List.mem_cons, not_or] at new
      unfold insertPart
      split
      · exact .refl _
      · rw [if_neg new.1]
        exact ((ih new.2).cons first).trans (.swap part first rest)

lemma mem_of_mem_insertPart {other : FinishedPart} (present : other ∈ insertPart part parts) :
    other = part ∨ other ∈ parts := by
  induction parts with
  | nil => exact .inl (List.mem_singleton.1 present)
  | cons first rest ih =>
      unfold insertPart at present
      split at present
      · exact List.mem_cons.1 present
      · split at present
        · exact (List.mem_cons.1 present).imp id (List.mem_cons_of_mem first)
        · rcases List.mem_cons.1 present with same | inserted
          · exact .inr (same ▸ List.mem_cons_self)
          · exact (ih inserted).imp id (List.mem_cons_of_mem first)

/-- Parts stay in the order of their numbers. -/
lemma insertPart_sorted (sorted : parts.Pairwise (·.number < ·.number)) :
    (insertPart part parts).Pairwise (·.number < ·.number) := by
  induction parts with
  | nil => simp [insertPart]
  | cons first rest ih =>
      obtain ⟨below, sortedRest⟩ := List.pairwise_cons.1 sorted
      unfold insertPart
      split
      · next less =>
          refine List.pairwise_cons.2 ⟨fun other present => ?_, sorted⟩
          rcases List.mem_cons.1 present with rfl | later
          · exact less
          · exact less.trans (below other later)
      · split
        · next same =>
            refine List.pairwise_cons.2 ⟨fun other present => ?_, sortedRest⟩
            rw [same]
            exact below other present
        · next notLess differs =>
            refine List.pairwise_cons.2 ⟨fun other present => ?_, ih sortedRest⟩
            have inserted := mem_of_mem_insertPart present
            rcases inserted with rfl | old
            · omega
            · exact below other old

end Upload
end Multipart

namespace Pool

/-- Whether what has happened to the parts of an upload agrees with its state and its hands. -/
structure PartLog (upload : Upload) (hands : Multiset Activity) (history : List Event) :
    Prop where
  issued : Issued upload.progress (gather Activity.uncalled? hands + partsCalled history)
  answered : (partsCalled history : Multiset ℕ) =
    ((partsAnswered history).map Prod.fst : List ℕ) + gather Activity.awaited? hands
  tagged : ((partsAnswered history).filterMap finishedPart? : Multiset FinishedPart) =
    upload.parts + gather Activity.told? hands
  sorted : upload.parts.Pairwise (·.number < ·.number)
  count : upload.parts.length = upload.progress.succeeded

namespace PartLog

variable {upload : Upload} {hands rest : Multiset Activity} {history : List Event}

/-- No part is called twice, so none is answered twice. -/
lemma nodup_called (log : PartLog upload hands history) : (partsCalled history).Nodup := by
  have distinct := log.issued.distinct
  rw [← add_assoc, Multiset.nodup_add] at distinct
  exact Multiset.coe_nodup.1 distinct.2.1

lemma nodup_answered (log : PartLog upload hands history) :
    ((partsAnswered history).map Prod.fst).Nodup := by
  have called := Multiset.coe_nodup.2 log.nodup_called
  rw [log.answered, Multiset.nodup_add] at called
  exact Multiset.coe_nodup.1 called.1

lemma numbers_finishedPart? (answers : List (Nat × Option String)) :
    ((answers.filterMap finishedPart?).map (·.number)).Sublist (answers.map Prod.fst) := by
  induction answers with
  | nil => exact .slnil
  | cons answer answers ih =>
      obtain ⟨number, tag⟩ := answer
      cases tag with
      | none => exact ih.cons number
      | some tag => exact ih.cons_cons number

/-- A part that is about to be reported has not been recorded yet. -/
lemma new_of_told {part : FinishedPart} {hand : Activity} (told : hand.told? = some part)
    (log : PartLog upload (hand ::ₘ rest) history) :
    part.number ∉ upload.parts.map (·.number) := by
  have numbers := (numbers_finishedPart? (partsAnswered history)).nodup log.nodup_answered
  have all := congrArg (Multiset.map FinishedPart.number) log.tagged
  rw [gather_cons, told, Multiset.map_coe] at all
  have distinct := Multiset.coe_nodup.2 numbers
  rw [all, Multiset.map_add, Multiset.nodup_add] at distinct
  intro again
  exact Multiset.disjoint_left.1 distinct.2.2 (by simpa using again) (by simp)

/-- The state of the upload may change in other ways than those that the log is about. -/
lemma of_same {next : Upload} (log : PartLog upload hands history)
    (deferred : next.progress.deferred = upload.progress.deferred)
    (handedOut : next.progress.next = upload.progress.next) (parts : next.parts = upload.parts)
    (succeeded : next.progress.succeeded = upload.progress.succeeded) :
    PartLog next hands history where
  issued := log.issued.of_same deferred handedOut
  answered := log.answered
  tagged := by rw [parts]; exact log.tagged
  sorted := by rw [parts]; exact log.sorted
  count := by rw [parts, succeeded]; exact log.count

/-- Hands that stand for the same parts may take the place of others; a part that was not called
may go out of sight. -/
lemma pass {others : Multiset Activity} (log : PartLog upload hands history)
    (uncalled : gather Activity.uncalled? others ≤ gather Activity.uncalled? hands)
    (awaited : gather Activity.awaited? others = gather Activity.awaited? hands)
    (told : gather Activity.told? others = gather Activity.told? hands) :
    PartLog upload others history where
  issued := log.issued.fewer (add_le_add_left uncalled _)
  answered := by rw [awaited]; exact log.answered
  tagged := by rw [told]; exact log.tagged
  sorted := log.sorted
  count := log.count

attribute [local simp] Activity.uncalled? Activity.awaited? Activity.told? Errand.part?
  Event.partCalled? Event.partAnswered? Multiset.le_cons_self

/-- Bringing parts into the queue keeps the log. -/
lemma queue {operation : Operation} {id : OperationId} {barred : Nat → Prop}
    {activity : Activity} {progress : Progress} {left : Multiset Activity}
    (queueing : Queueing operation id .upload barred upload.progress activity progress left)
    (log : PartLog upload (activity ::ₘ rest) history) :
    PartLog { upload with progress := progress } (left + rest) history := by
  cases queueing with
  | handedOut handed =>
      obtain ⟨issued, answered, tagged, sorted, count⟩ := log
      simp at issued answered tagged
      have same : progress.succeeded = upload.progress.succeeded := by
        obtain ⟨-, -, ⟨rest, -, rfl⟩ | ⟨-, -, -, rfl⟩⟩ := Progress.of_handOut? handed <;> rfl
      refine ⟨?_, by simpa using answered, by simpa using tagged, sorted, count.trans same.symm⟩
      simpa using issued.handOut handed
  | takenBack back =>
      obtain ⟨issued, answered, tagged, sorted, count⟩ := log
      simp at issued answered tagged
      have same : progress.succeeded = upload.progress.succeeded := by
        obtain ⟨-, rfl⟩ := Progress.of_putBack? back
        rfl
      refine ⟨?_, by simpa using answered, by simpa using tagged, sorted, count.trans same.symm⟩
      simpa using issued.putBack back
  | nothingLeft empty => exact log.pass (by simp) (by simp) (by simp)
  | accepted index | forced index =>
      exact log.pass (by simp [Operation.span, PartSpan.ofIndex]) (by simp) (by simp)
  | full index | kept index | refused index | forceRefused index =>
      exact log.pass (by simp) (by simp) (by simp)

/-- A part that has been reported is recorded. -/
lemma finish {id : OperationId} {range : PartSpan} {tag : String}
    (log : PartLog upload (.reporting id (.partDone range tag) ::ₘ rest) history) :
    PartLog (upload.withPart ⟨range.number, tag⟩) rest history := by
  have new := log.new_of_told rfl
  obtain ⟨issued, answered, tagged, sorted, count⟩ := log
  simp at issued answered tagged
  have inserted := Upload.insertPart_perm new
  refine ⟨issued.of_same rfl rfl, answered, ?_, Upload.insertPart_sorted sorted, ?_⟩
  · rw [tagged, Upload.withPart, Multiset.coe_eq_coe.2 inserted, ← Multiset.cons_coe,
      Multiset.cons_add]
  · rw [Upload.withPart, inserted.length_eq, List.length_cons, count]
    rfl

/-- Every turn at the parts keeps the log. -/
theorem turn {operation : Operation} {id : OperationId} {uploadId : String} {next : Upload}
    {activity : Activity} {notes : List Event} {left : Multiset Activity}
    (turn : UploadTurn operation id uploadId upload activity next notes left)
    (uploading : activity.isUploading id uploadId)
    (log : PartLog upload (activity ::ₘ rest) history) :
    PartLog next (left + rest) (notes ++ history) := by
  cases turn with
  | queued queueing => exact log.queue queueing
  | skipped moves closed => exact log.pass (by simp [moves]) (by simp) (by simp)
  | @entered chore range progress later moves entered begins =>
      obtain ⟨-, -, rfl⟩ := Progress.of_enter? entered
      have moved : PartLog upload ({later} + rest) history := by
        rcases begins with rfl | ⟨store, call, rfl, -⟩ | ⟨error, rfl⟩
        all_goals exact log.pass (by simp [moves]) (by simp) (by simp)
      exact moved.of_same rfl rfl rfl rfl
  | read goes =>
      rcases goes with ⟨store, call, rfl, -⟩ | ⟨error, rfl⟩
      all_goals exact log.pass (by simp) (by simp) (by simp)
  | sent range store call =>
      obtain ⟨-, number, -⟩ := uploading
      obtain ⟨issued, answered, tagged, sorted, count⟩ := log
      simp at issued answered tagged
      refine ⟨?_, ?_, by simpa using tagged, sorted, count⟩
      · simpa [number, ← Multiset.cons_coe] using issued
      · simpa [number, ← Multiset.cons_coe] using answered
  | tagged has =>
      obtain ⟨-, number, -⟩ := uploading
      obtain ⟨issued, answered, tagged, sorted, count⟩ := log
      simp at issued answered tagged
      refine ⟨by simpa using issued, ?_, ?_, sorted, count⟩
      · simpa [number, ← Multiset.cons_coe] using answered
      · simp [number, has, finishedPart?, ← Multiset.cons_coe] at tagged ⊢
        exact tagged
  | untagged error lacks =>
      obtain ⟨-, number, -⟩ := uploading
      obtain ⟨issued, answered, tagged, sorted, count⟩ := log
      simp at issued answered tagged
      refine ⟨by simpa using issued, ?_, ?_, sorted, count⟩
      · simpa [number, ← Multiset.cons_coe] using answered
      · simp [number, lacks, finishedPart?] at tagged ⊢
        exact tagged
  | done pending => exact log.finish.pass (by simp) (by simp) (by simp)
  | @doneLast range tag progress last =>
      obtain ⟨-, -, rfl⟩ := Progress.of_claimEnd? last
      have moved (closed : Progress) :
          PartLog (upload.withPart ⟨range.number, tag⟩) ({closingHand id closed} + rest) history :=
        log.finish.pass (by simp [closingHand]) (by simp [closingHand]) (by simp [closingHand])
      exact (moved _).of_same rfl rfl rfl rfl
  | lost pending =>
      have moved : PartLog upload (0 + rest) history := log.pass (by simp) (by simp) (by simp)
      exact moved.of_same rfl rfl rfl rfl
  | @lostLast error began progress last =>
      obtain ⟨-, -, rfl⟩ := Progress.of_claimEnd? last
      have moved (closed : Progress) : PartLog upload ({closingHand id closed} + rest) history :=
        log.pass (by simp [closingHand]) (by simp [closingHand]) (by simp [closingHand])
      exact (moved _).of_same rfl rfl rfl rfl

end PartLog
end Pool
end BulkTransfer
