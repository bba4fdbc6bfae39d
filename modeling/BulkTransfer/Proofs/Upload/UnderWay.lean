import BulkTransfer.Proofs.Upload.Account
import Mathlib.Data.List.Sort

/-!
# Uploads under way

What holds of an upload from its creation to its end (`Going`), and why the calls that are made for
it are permitted: a part is called with a number that is out, the parts are complete when the
account says so, and nothing waits for an answer when the upload is aborted.
-/

namespace BulkTransfer

open Pool Multipart

namespace Pool

/-- What holds of an upload from its creation to its end. -/
structure Going (parts : Nat) (record : Record) (id : OperationId) (object : ObjectName)
    (uploadId : String) (upload : Upload) (hands : Multiset Activity) (history since : List Event) :
    Prop where
  known : upload.uploadId = some uploadId
  total : upload.progress.total = parts
  uploading : ∀ hand ∈ hands, hand.role? ≠ none → hand.isUploading id uploadId
  accounts : Accounts upload.progress hands
  log : PartLog upload hands history
  gate : upload.progress.endClaimed = true ↔ upload.phase ≠ .partsInFlight
  steering : Steering record id object uploadId upload.phase upload.progress.failure upload.parts
    (leads hands) since
  steered : ∃ store attributes answer, answer.uploadId? = some uploadId ∧
    history.filter (!·.isPart) = since ++
      [.answered store id (.createUpload object attributes) answer,
        .called store id (.createUpload object attributes)]

lemma Steering.of_partsInFlight {record : Record} {id : OperationId} {object : ObjectName}
    {uploadId : String} {failure : Option String} {finished : List FinishedPart}
    {leads : Multiset Activity} {since : List Event}
    (steering : Steering record id object uploadId .partsInFlight failure finished leads since) :
    leads = 0 ∧ since = [] := by
  cases steering with
  | parts => exact ⟨rfl, rfl⟩
  | undone _ _ _ concluded | settled _ _ _ concluded => rcases concluded with h | h <;> cases h

/-- An upload has at most one leading hand. -/
lemma Steering.card_le {record : Record} {id : OperationId} {object : ObjectName}
    {uploadId : String} {phase : Phase} {failure : Option String} {finished : List FinishedPart}
    {leads : Multiset Activity} {since : List Event}
    (steering : Steering record id object uploadId phase failure finished leads since) :
    leads.card ≤ 1 := by
  cases steering with
  | completed _ _ alone | completeCrashed _ _ alone | abortCrashed _ _ _ alone =>
      cases alone <;> simp
  | _ => simp

lemma Activity.awaited?_of_role? {hand : Activity} (idle : hand.role? ≠ some .runner) :
    hand.awaited? = none ∧ hand.told? = none := by
  cases hand
  case awaiting errand _ _ => cases errand <;> first | exact ⟨rfl, rfl⟩ | exact absurd rfl idle
  case reporting report => cases report <;> first | exact ⟨rfl, rfl⟩ | exact absurd rfl idle
  all_goals exact ⟨rfl, rfl⟩

lemma gather_eq_zero {α : Type} {of : Activity → Option α} {hands : Multiset Activity}
    (none : ∀ hand ∈ hands, of hand = none) : gather of hands = 0 := by
  unfold gather
  rw [Multiset.eq_zero_iff_forall_notMem]
  intro one present
  obtain ⟨hand, isHand, has⟩ := (Multiset.mem_filterMap of hands).1 present
  rw [none hand isHand] at has
  cases has

/-- When no part runs, nothing is awaited, and nothing is left to be told. -/
lemma gather_of_no_runner {hands : Multiset Activity} (idle : playing .runner hands = 0) :
    gather Activity.awaited? hands = 0 ∧ gather Activity.told? hands = 0 := by
  have none (hand : Activity) (present : hand ∈ hands) : hand.role? ≠ some .runner := by
    intro runs
    exact Multiset.countP_eq_zero.1 idle hand present runs
  exact ⟨gather_eq_zero fun hand present => (Activity.awaited?_of_role? (none hand present)).1,
    gather_eq_zero fun hand present => (Activity.awaited?_of_role? (none hand present)).2⟩

namespace Going

variable {parts : Nat} {record : Record} {id : OperationId} {object : ObjectName}
  {uploadId : String} {upload : Upload} {hands : Multiset Activity} {history since : List Event}

/-- What is not about a part has happened since the creation, or is the creation. -/
lemma mem_since (going : Going parts record id object uploadId upload hands history since)
    {store : StoreName} {call : Call} (made : .called store id call ∈ history)
    (ends : call.isEnd = true) : .called store id call ∈ since := by
  obtain ⟨created, attributes, answer, -, steered⟩ := going.steered
  have apart : (Event.called store id call).isPart = false := by
    cases call <;> first | rfl | cases ends
  have kept : .called store id call ∈ history.filter (!·.isPart) :=
    List.mem_filter.2 ⟨made, by rw [apart]; rfl⟩
  rw [steered] at kept
  rcases List.mem_append.1 kept with old | creation
  · exact old
  · simp at creation
    rw [creation.2] at ends
    cases ends

lemma created (going : Going parts record id object uploadId upload hands history since) :
    Created id uploadId history := by
  obtain ⟨store, attributes, answer, given, steered⟩ := going.steered
  have kept (event : Event) (present : event ∈ since ++
      [.answered store id (.createUpload object attributes) answer,
        .called store id (.createUpload object attributes)]) : event ∈ history := by
    rw [← steered] at present
    exact (List.mem_filter.1 present).1
  exact ⟨store, object, attributes, kept _ (by simp), answer, kept _ (by simp), given⟩

lemma mem_history (going : Going parts record id object uploadId upload hands history since)
    {event : Event} (present : event ∈ since) : event ∈ history := by
  obtain ⟨store, attributes, answer, given, steered⟩ := going.steered
  have kept : event ∈ history.filter (!·.isPart) := by
    rw [steered]
    exact List.mem_append_left _ present
  exact (List.mem_filter.1 kept).1

lemma number_le (going : Going parts record id object uploadId upload hands history since)
    {number : Nat} (out : number ∈ gather Activity.uncalled? hands + partsCalled history) :
    1 ≤ number ∧ number ≤ parts := by
  obtain ⟨low, high⟩ := going.log.issued.within number (Multiset.mem_add.2 (.inr out))
  have bounded := going.accounts.bounded
  rw [going.total] at bounded
  exact ⟨low, high.trans bounded⟩

/-- The call for a part is permitted to a hand that has not made it yet. -/
lemma permits_part {rest : Multiset Activity} {activity : Activity} {call : Call} {number : Nat}
    (going : Going parts record id object uploadId upload (activity ::ₘ rest) history since)
    (runs : activity.role? = some .runner) (uncalled : activity.uncalled? = some number)
    (moves : call.partNumber? = some number) (knows : call.uploadId? = some uploadId) :
    Permitted id parts history call := by
  have out : number ∈ gather Activity.uncalled? (activity ::ₘ rest) := by
    rw [gather_cons, uncalled]
    exact Multiset.mem_add.2 (.inl (Multiset.mem_singleton_self number))
  obtain ⟨low, high⟩ := going.number_le (Multiset.mem_add.2 (.inl out))
  have new : number ∉ partsCalled history := by
    intro again
    have distinct := going.log.issued.distinct
    rw [Multiset.nodup_add] at distinct
    have apart := (Multiset.nodup_add.1 distinct.2.1).2.2
    exact Multiset.disjoint_left.1 apart out again
  have unclaimed : upload.progress.endClaimed = false := by
    have accounts := going.accounts
    simp [Accounts, runs] at accounts
    exact accounts.unclaimed
  have phase : upload.phase = .partsInFlight := by
    by_contra elsewhere
    rw [going.gate.2 elsewhere] at unclaimed
    cases unclaimed
  have nothing : since = [] := (Steering.of_partsInFlight (phase ▸ going.steering)).2
  have open_ : Uncalled id Call.isEnd history := by
    intro store call made
    refine Bool.eq_false_iff.2 fun ends => ?_
    have present := going.mem_since made ends
    rw [nothing] at present
    cases present
  have created := going.created
  cases call
  case uploadPart | copyPart =>
    obtain rfl := Option.some.inj moves
    obtain rfl := Option.some.inj knows
    exact ⟨created, low, high, new, open_⟩
  all_goals cases moves

/-- Numbers in order, as many as there are and not beyond them, are all the numbers. -/
lemma eq_range' {numbers : List Nat} (sorted : numbers.Pairwise (· < ·))
    (within : ∀ number ∈ numbers, 1 ≤ number ∧ number ≤ numbers.length) :
    numbers = List.range' 1 numbers.length := by
  have distinct : numbers.Nodup := sorted.imp Nat.ne_of_lt
  have subset : numbers ⊆ List.range' 1 numbers.length := by
    intro number present
    obtain ⟨low, high⟩ := within number present
    exact List.mem_range'_1.2 ⟨low, by omega⟩
  have perm : numbers.Perm (List.range' 1 numbers.length) :=
    (distinct.subperm subset).perm_of_length_le (by simp)
  refine perm.eq_of_pairwise ?_ sorted List.pairwise_lt_range'
  intro a b _ _ less more
  exact absurd less more.asymm

/-- When all parts have succeeded, the finished parts are all parts, and every move of a part has
brought its tag. -/
lemma of_all (going : Going parts record id object uploadId upload hands history since)
    (claimed : upload.progress.endClaimed = true) (sound : upload.progress.failure = none) :
    upload.parts.map (·.number) = List.range' 1 parts ∧
      (∀ part ∈ upload.parts, (part.number, some part.tag) ∈ partsAnswered history) ∧
        ∀ answer ∈ partsAnswered history, answer.2 ≠ none := by
  obtain ⟨idle, concluded⟩ := going.accounts.claimed claimed
  obtain ⟨-, -, all, -⟩ := concluded sound
  obtain ⟨unawaited, untold⟩ := gather_of_no_runner idle
  have tagged := going.log.tagged
  rw [untold, add_zero, Multiset.coe_eq_coe] at tagged
  have answered := going.log.answered
  rw [unawaited, add_zero, Multiset.coe_eq_coe] at answered
  have has (part : FinishedPart) (present : part ∈ upload.parts) :
      (part.number, some part.tag) ∈ partsAnswered history := by
    obtain ⟨⟨number, tag⟩, isAnswer, finished⟩ := List.mem_filterMap.1 (tagged.mem_iff.2 present)
    obtain ⟨tag, rfl, rfl⟩ := Option.map_eq_some_iff.1 finished
    exact isAnswer
  have called (number : Nat) (tag : Option String)
      (present : (number, tag) ∈ partsAnswered history) :
      1 ≤ number ∧ number ≤ parts := by
    refine going.number_le (Multiset.mem_add.2 (.inr ?_))
    exact answered.mem_iff.2 (List.mem_map_of_mem present)
  have length : (upload.parts.map (·.number)).length = parts := by
    rw [List.length_map, going.log.count, all, going.total]
  have numbers : upload.parts.map (·.number) = List.range' 1 parts := by
    rw [← length]
    refine eq_range' (List.pairwise_map.2 going.log.sorted) fun number present => ?_
    obtain ⟨part, isPart, rfl⟩ := List.mem_map.1 present
    rw [length]
    exact called _ _ (has part isPart)
  refine ⟨numbers, has, ?_⟩
  rintro ⟨number, tag⟩ present rfl
  obtain ⟨low, high⟩ := called number none present
  have finished : number ∈ upload.parts.map (·.number) := by
    rw [numbers, List.mem_range'_1]
    omega
  obtain ⟨part, isPart, rfl⟩ := List.mem_map.1 finished
  have twice := List.inj_on_of_nodup_map going.log.nodup_answered present (has part isPart) rfl
  cases (Prod.mk.inj twice).2

/-- The completion is permitted once all parts have succeeded. -/
lemma permits_complete
    (going : Going parts record id object uploadId upload hands history [])
    (claimed : upload.progress.endClaimed = true) (sound : upload.progress.failure = none) :
    Permitted id parts history (.completeUpload object uploadId upload.parts) := by
  obtain ⟨numbers, has, all⟩ := going.of_all claimed sound
  refine ⟨going.created, numbers, has, all, fun store call made => ?_⟩
  refine Bool.eq_false_iff.2 fun ends => ?_
  cases going.mem_since made ends

/-- The abort is permitted once the parts are closed and the upload will not be completed. -/
lemma permits_abort (going : Going parts record id object uploadId upload hands history since)
    (claimed : upload.progress.endClaimed = true)
    (uncompleted : Uncompleted id object uploadId upload.parts since) :
    Permitted id parts history (.abortUpload object uploadId) := by
  have idle := (going.accounts.claimed claimed).1
  have answered := going.log.answered
  rw [(gather_of_no_runner idle).1, add_zero, Multiset.coe_eq_coe] at answered
  refine ⟨going.created, fun number called => ?_, fun store call made => ?_,
    fun store call made ends => ?_⟩
  · obtain ⟨⟨_, tag⟩, present, rfl⟩ := List.mem_map.1 (answered.mem_iff.1 called)
    exact ⟨tag, present⟩
  · refine Bool.eq_false_iff.2 fun aborts => ?_
    have ends : call.isEnd = true := by cases call <;> first | rfl | cases aborts
    have present := going.mem_since made ends
    cases uncompleted with
    | untried => cases present
    | failed completing error =>
        simp at present
        rw [present.2] at aborts
        cases aborts
  · have present := going.mem_since made ends
    cases uncompleted with
    | untried => cases present
    | failed completing error =>
        simp at present
        obtain ⟨rfl, rfl⟩ := present
        exact ⟨error, going.mem_history (by simp)⟩

end Going
end Pool
end BulkTransfer
