import BulkTransfer.Proofs.Moves.Departing
import BulkTransfer.Proofs.Run.ScheduledMoves

/-!
# Moves delete last

A move is at the transfer of its source until that has succeeded, and then parts with it (`Moving`).
So the source is deleted at most once, only when it was transferred, and after everything else; and
at the end of a run the move is said to have succeeded if and only if its source was deleted
(`Run.move_deletes_last`).
-/

namespace BulkTransfer

open Pool Multipart

namespace Pool

/-- Whether a record was transferred in the way that it was planned to be. -/
def Plan.HasTransferred (plan : Plan) (record : Record) (id : OperationId) (done : List Activity)
    (history : List Event) : Prop :=
  ∃ operation chore way, plan.resolve record = .ok (operation, chore) ∧ chore.way? = some way ∧
    way.HasSucceeded operation id done history

/-- What holds of a move at any time, `done` being the turns of its hands. -/
inductive Moving (plan : Plan) (record : Record) (id : OperationId) (done : List Activity)
    (view : View) : Prop where
  | transferring {way : Way}
      (planned : ∀ operation chore, plan.resolve record = .ok (operation, chore) →
        chore.way? = some way)
      (transferring : Transferring record way id view) (unbegun : .starting id .delete ∉ done)
  | parted {earlier : List Event} (succeeded : plan.HasTransferred record id done earlier)
      (quiet : ∀ event ∈ earlier, event.isTransfer = true)
      (parted : Parted record id (done.count (.starting id .delete)) earlier view)

lemma Way.HasSucceeded.append {way : Way} {operation : Operation} {id : OperationId}
    {done : List Activity} {history : List Event}
    (succeeded : way.HasSucceeded operation id done history) (more : List Activity) :
    way.HasSucceeded operation id (done ++ more) history := by
  cases way with
  | put | copy | partsUp => exact succeeded
  | fetch => exact WrittenOut.append succeeded more
  | partsDown =>
      obtain ⟨download, set, out⟩ := succeeded
      exact ⟨download, set, fun index inside => (out index inside).append more⟩

/-- A refusal is no success. -/
lemma Event.isTransfer_settled (operation : Operation) (tally : Tally) (id : OperationId)
    (error : Failure) :
    (Event.settled id (Shared.refusal operation tally error).1).isTransfer = true := by
  simp [Event.isTransfer, isSuccess_refusal]

/-- A move that can be planned is planned as the transfer of its source. -/
lemma way?_of_resolve {plan : Plan} {record : Record} {operation : Operation} {chore : Chore}
    (moving : record.kind = .move) (planned : plan.resolve record = .ok (operation, chore)) :
    operation.record = record ∧ ∃ way, chore.way? = some way := by
  cases planned_of_resolve planned with
  | upload | download => exact ⟨rfl, _, rfl⟩
  | @whole action isAction =>
      obtain ⟨noDelete, noRemoval⟩ := action_of_move moving isAction
      refine ⟨rfl, ?_⟩
      cases action with
      | upload | download | copy => exact ⟨_, rfl⟩
      | delete => exact absurd rfl noDelete
      | removeBucket => exact absurd rfl noRemoval

/-- A move begins with the transfer of its source, or has failed at once. -/
lemma Moving.begin {plan : Plan} {record : Record} {id : OperationId} {view : View}
    (moving : record.kind = .move) (begins : Begins plan record id view) :
    Moving plan record id [] view := by
  cases begins with
  | refused error tally resolved begun =>
      have unplanned (operation : Operation) (chore : Chore)
          (planned : plan.resolve record = .ok (operation, chore)) : chore.way? = some .put := by
        rw [resolved] at planned
        cases planned
      refine .transferring unplanned ?_ (by simp)
      rw [begun]
      refine ⟨rfl, nofun, no_hand, List.forall_mem_singleton.2 ?_⟩
      exact Event.isTransfer_settled ..
  | proposed operation chore resolved begun =>
      obtain ⟨described, way, on⟩ := way?_of_resolve moving resolved
      have planned (other : Operation) (another : Chore)
          (planned : plan.resolve record = .ok (other, another)) : another.way? = some way := by
        rw [resolved] at planned
        obtain ⟨-, rfl⟩ := Prod.mk.inj (Except.ok.inj planned)
        exact on
      refine .transferring planned ?_ (by simp)
      rw [begun]
      refine ⟨described, ?_, no_hand, List.forall_mem_nil _⟩
      rintro first ⟨⟩
      exact on

end Pool

namespace Run

variable {batch : Batch} {disk : Disk} {records : List Record} {moves : List Move} {run : Run}
  {id : OperationId} {record : Record}

/-- A record that cannot be planned has no hands. -/
lemma hands_of_unplanned {error : Failure} (listed : records[id]? = some record)
    (resolved : batch.plan.resolve record = .error error)
    (reached : (batch.start disk records).steps moves = some run)
    (inside : id < run.shared.operations.length) :
    (run.view id).hands = 0 ∧ (run.view id).proposed = none := by
  have begun (view : View) (begins : Begins batch.plan record id view) :
      view.hands = 0 ∧ view.proposed = none := by
    cases begins with
    | refused error tally resolved begun =>
        rw [begun]
        exact ⟨rfl, rfl⟩
    | proposed operation chore planned =>
        rw [resolved] at planned
        cases planned
  have kept (run : Run) (move : Move) (next : Run) (_ : id < run.shared.operations.length)
      (idle : (run.view id).hands = 0 ∧ (run.view id).proposed = none)
      (seen : run.Seen next move id) :
      (next.view id).hands = 0 ∧ (next.view id).proposed = none := by
    obtain ⟨none, unproposed⟩ := idle
    cases seen with
    | same view => rw [view]; exact ⟨none, unproposed⟩
    | admitted chore proposed | refused chore error proposed =>
        cases unproposed.symm.trans proposed
    | turned activity later rest index actor working own hands =>
        exact absurd (hands.symm.trans none) Multiset.cons_ne_zero
  have idle := each_course listed begun kept reached inside
  exact idle

/-- What ends the transfer of a move has transferred its source. -/
lemma departed_of_departs (valid : batch.plan.Valid) (listed : records[id]? = some record)
    {operation : Operation} {chore : Chore} {way : Way} {surroundings : Surroundings}
    {after : Shared} {activity later : Activity} {rest : Multiset Activity}
    (planned : batch.plan.resolve record = .ok (operation, chore))
    (reached : (batch.start disk records).steps moves = some run)
    (inside : id < run.shared.operations.length) (hands : run.hands id = activity ::ₘ rest)
    (on : chore.way? = some way) (transfers : activity.Transfers way)
    (work : run.shared.work surroundings activity = some (after, later))
    (departs : Departs run.shared id activity later) :
    (run.proposed id = none ∧ run.shared.Departed after id later rest
      (way.HasSucceeded operation id
        ((batch.start disk records).turns id moves ++ [activity]))) ∧
      Parting record id 0 {later} [] := by
  cases departs with
  | stored whole store call =>
      exact ⟨departed_of_stored listed planned reached inside hands on whole rfl transfers work,
        .due⟩
  | completed =>
      exact ⟨departed_of_completed listed planned reached inside hands on valid rfl transfers work,
        .due⟩
  | written path file offset spent =>
      exact ⟨departed_of_written listed planned reached inside hands on spent rfl transfers work,
        .stamping path⟩
  | kept path set sound =>
      exact ⟨departed_of_kept listed planned reached inside hands on valid set sound rfl transfers
        work, .stamping path⟩

/-- Every step of a run goes on with a move. -/
lemma moving_step (valid : batch.plan.Valid) (listed : records[id]? = some record)
    (moving : record.kind = .move)
    (reached : (batch.start disk records).steps moves = some run)
    (inside : id < run.shared.operations.length)
    (before : Moving batch.plan record id ((batch.start disk records).turns id moves) (run.view id))
    {move : Move} {next : Run} (seen : run.Seen next move id) :
    Moving batch.plan record id
      ((batch.start disk records).turns id moves ++ (run.turn? id move).toList) (next.view id) := by
  cases before with
  | @parted earlier succeeded quiet parted =>
      obtain ⟨operation, chore, way, planned, on, transferred⟩ := succeeded
      refine .parted ⟨operation, chore, way, planned, on, transferred.append _⟩ quiet ?_
      rw [List.count_append]
      exact parted.step moving inside seen
  | @transferring way planned transferring unbegun =>
      cases seen with
      | same view other =>
          rw [view, turn?_of_other other, Option.toList_none, List.append_nil]
          exact .transferring planned transferring unbegun
      | admitted chore proposed disk view other =>
          rw [view, turn?_of_other other, Option.toList_none, List.append_nil]
          refine .transferring planned ⟨transferring.described, nofun, ?_, transferring.quiet⟩
            unbegun
          intro hand (present : hand ∈ Activity.starting id chore ::ₘ run.hands id)
          rcases Multiset.mem_cons.1 present with rfl | old
          · exact transferring.first chore proposed
          · exact transferring.hands hand old
      | refused chore error proposed shared view other =>
          rw [view, turn?_of_other other, Option.toList_none, List.append_nil]
          refine .transferring planned ⟨transferring.described, nofun, transferring.hands, ?_⟩
            unbegun
          exact List.forall_mem_cons.2 ⟨Event.isTransfer_settled .., transferring.quiet⟩
      | turned activity later rest index actor working own hands work view =>
          rw [turn?_of_worker actor working own]
          have begins : activity.Transfers way := by
            refine transferring.hands activity ?_
            rw [Run.view, hands]
            exact Multiset.mem_cons_self activity rest
          have unstarted : activity ≠ .starting id .delete := by
            rintro rfl
            cases begins
          have stillUnbegun : .starting id .delete ∉
              (batch.start disk records).turns id moves ++ (some activity).toList := by
            simp [unbegun, Ne.symm unstarted]
          have held := transferring
          rw [Run.view, hands] at held
          obtain ⟨operation, notes, queued, changed⟩ := (Shared.stays_of_work inside own work).1
          rcases held.turn own work changed moving with goes | departs
          · rw [view operation notes queued changed]
            exact .transferring planned goes stillUnbegun
          · cases resolved : batch.plan.resolve record with
            | error error =>
                have idle := (hands_of_unplanned listed resolved reached inside).1
                exact absurd (hands.symm.trans idle) Multiset.cons_ne_zero
            | ok result =>
                obtain ⟨operation, chore⟩ := result
                have on := planned operation chore resolved
                obtain ⟨⟨admitted, after, notes, turned, succeeded, spent⟩, parting⟩ :=
                  departed_of_departs valid listed resolved reached inside hands on begins work
                    departs
                rw [view_of_turned view turned]
                obtain ⟨queued, changed, -⟩ := turned
                refine .parted ⟨operation, chore, way, resolved, on, succeeded⟩
                  (held.quiet_turn own work changed) ?_
                rw [List.count_eq_zero.2 stillUnbegun]
                refine ⟨?_, admitted, {later}, rest, [], parting, rfl, rfl, spent⟩
                rw [changed.same]
                exact held.described

/-- Every state of a run holds of a move what `Moving` says. -/
lemma moving_of_steps (valid : batch.plan.Valid) (listed : records[id]? = some record)
    (moving : record.kind = .move)
    (reached : (batch.start disk records).steps moves = some run)
    (inside : id < run.shared.operations.length) :
    Moving batch.plan record id ((batch.start disk records).turns id moves) (run.view id) := by
  have kept (done : List Move) (run : Run) (move : Move) (next : Run)
      (inside : id < run.shared.operations.length)
      (reached : (batch.start disk records).steps done = some run)
      (before : Moving batch.plan record id ((batch.start disk records).turns id done)
        (run.view id)) (seen : run.Seen next move id) :
      Moving batch.plan record id
        ((batch.start disk records).turns id done ++ (run.turn? id move).toList) (next.view id) :=
    moving_step valid listed moving reached inside before seen
  have begun (view : View) (begins : Begins batch.plan record id view) :
      Moving batch.plan record id [] view := .begin moving begins
  exact each_turn (Moving batch.plan record id) listed begun kept reached inside

end Run

namespace Pool

/-! ## What parting with a source comes to -/

/-- Whether an operation is said to have succeeded. -/
def Succeeded (id : OperationId) (history : List Event) : Prop :=
  ∃ name description, .settled id (.success name description) ∈ history

/-- Whether the source of a record was deleted for its operation. -/
def SourceDeleted (record : Record) (id : OperationId) (history : List Event) : Prop :=
  match record.source with
  | .file path => .removedSource id path ∈ history
  | .object object => ∃ store reply,
      .answered store id (.deleteObject object) (.reply reply) ∈ history

/-- Whether a source is deleted, or asked to be deleted, in an event. -/
def Event.deletesSource : Event → Bool
  | .removedSource .. | .called _ _ (.deleteObject _) => true
  | _ => false

/-- Whether an event is one of a deletion of the source of a record, or the end of an operation. -/
def Event.PartsWith (record : Record) : Event → Prop
  | .removedSource _ path => record.source = .file path
  | .called _ _ (.deleteObject object) | .answered _ _ (.deleteObject object) _ =>
      record.source = .object object
  | .settled .. => True
  | _ => False

variable {record : Record} {id : OperationId} {times : Nat} {gone : Bool}
  {since earlier : List Event} {lead : Multiset Activity}

/-- Nothing is deleted, and no success is told of, by events of a transfer. -/
lemma quiet_of_transfer (quiet : ∀ event ∈ earlier, event.isTransfer = true) :
    ¬Succeeded id earlier ∧ ¬SourceDeleted record id earlier ∧
      earlier.countP Event.deletesSource = 0 := by
  refine ⟨?_, ?_, List.countP_eq_zero.2 ?_⟩
  · rintro ⟨name, description, present⟩
    exact absurd (quiet _ present) Bool.false_ne_true
  · intro deleted
    unfold SourceDeleted at deleted
    split at deleted
    · exact absurd (quiet _ deleted) Bool.false_ne_true
    · obtain ⟨store, reply, present⟩ := deleted
      exact absurd (quiet _ present) Bool.false_ne_true
  · intro event present deletes
    have transfers := quiet event present
    cases event
    case removedSource => cases transfers
    case called store own call =>
      cases call
      case deleteObject => cases transfers
      all_goals cases deletes
    all_goals cases deletes

lemma succeeded_append :
    Succeeded id (since ++ earlier) ↔ Succeeded id since ∨ Succeeded id earlier := by
  simp only [Succeeded, List.mem_append, exists_or]

lemma sourceDeleted_append :
    SourceDeleted record id (since ++ earlier) ↔
      SourceDeleted record id since ∨ SourceDeleted record id earlier := by
  unfold SourceDeleted
  split <;> simp only [List.mem_append, exists_or]

/-- An attempt deletes at most once, and nothing but the source. -/
lemma Attempt.deletes (attempt : Attempt record id times gone since) :
    since.countP Event.deletesSource ≤ times ∧ times ≤ 1 ∧
      ∀ event ∈ since, event.PartsWith record := by
  cases attempt with
  | barred | unremoved => simp
  | removed source => simp [Event.deletesSource, Event.PartsWith, source]
  | deleted source | undeleted source => simp [Event.deletesSource, Event.PartsWith, source]

/-- An attempt settles nothing, and says whether the source was deleted. -/
lemma Attempt.sourceDeleted_iff (attempt : Attempt record id times gone since) :
    ¬Succeeded id since ∧ (SourceDeleted record id since ↔ gone = true) := by
  cases attempt with
  | barred | unremoved =>
      unfold SourceDeleted
      split <;> simp [Succeeded]
  | removed source | deleted source => simp [SourceDeleted, source, Succeeded]
  | undeleted source store refuses =>
      refine ⟨by simp [Succeeded], ?_⟩
      simp only [SourceDeleted, source, Bool.false_eq_true, iff_false, List.mem_cons,
        List.not_mem_nil, or_false, not_exists, not_or]
      intro other reply
      constructor
      · intro same
        exact refuses reply (Event.answered.inj same).2.2.2.symm
      · exact nofun

/-- A move that parts with its source deletes at most once, and nothing else. -/
lemma Parting.deletes (parting : Parting record id times lead since) :
    since.countP Event.deletesSource ≤ times ∧ times ≤ 1 ∧
      ∀ event ∈ since, event.PartsWith record := by
  cases parting with
  | stamping | due | queued | calling => simp
  | called source => simp [Event.deletesSource, Event.PartsWith, source]
  | attempted attempt => exact attempt.deletes
  | ended attempt =>
      obtain ⟨fewer, once, parts⟩ := attempt.deletes
      refine ⟨?_, once, List.forall_mem_cons.2 ⟨trivial, parts⟩⟩
      rwa [List.countP_cons_of_neg (by simp [Event.deletesSource])]

/-- A move that parts with its source is said to have succeeded only if the source was deleted, and
does not end without saying so. -/
lemma Parting.tells (parting : Parting record id times lead since) :
    (Succeeded id since → SourceDeleted record id since) ∧
      (lead = 0 → SourceDeleted record id since → Succeeded id since) := by
  cases parting with
  | attempted attempt =>
      exact ⟨fun told => absurd told attempt.sourceDeleted_iff.1,
        fun none => absurd none (Multiset.singleton_ne_zero _)⟩
  | @ended times gone since message attempt tells =>
      obtain ⟨untold, deleted⟩ := attempt.sourceDeleted_iff
      have still : SourceDeleted record id (.settled id message :: since) ↔ gone = true := by
        rw [← List.singleton_append, sourceDeleted_append, deleted]
        refine or_iff_right fun alone => ?_
        unfold SourceDeleted at alone
        split at alone <;> simp at alone
      have told : Succeeded id (.settled id message :: since) ↔ gone = true := by
        rw [← List.singleton_append, succeeded_append, ← tells]
        refine (or_iff_left untold).trans ?_
        cases message <;> simp [Succeeded, Notice.isSuccess]
      exact ⟨fun success => still.2 (told.1 success), fun _ gone => told.2 (still.1 gone)⟩
  | stamping | due | queued | calling | called =>
      exact ⟨fun told => by simp [Succeeded] at told,
        fun none => absurd none (Multiset.singleton_ne_zero _)⟩

end Pool

namespace Run

/-! ## Moves -/

variable {batch : Batch} {disk : Disk} {records : List Record} {moves : List Move}
  {run last : Run} {id : OperationId} {record : Record}

/-- Every state after one in which a move has transferred its source holds of it what `Parted`
says, whatever had happened until then. -/
lemma parted_of_steps {times : Nat} {earlier : List Event} (sound : run.Sound records)
    (inside : id < run.shared.operations.length) (moving : record.kind = .move)
    (parted : Parted record id times earlier (run.view id))
    (reached : run.steps moves = some last) :
    ∃ times, Parted record id times earlier (last.view id) := by
  have kept (run : Run) (move : Move) (next : Run)
      (holds : run.Sound records ∧ id < run.shared.operations.length ∧
        ∃ times, Parted record id times earlier (run.view id))
      (_ : True) (step : run.step move = some next) :
      next.Sound records ∧ id < next.shared.operations.length ∧
        ∃ times, Parted record id times earlier (next.view id) := by
    obtain ⟨sound, inside, times, parted⟩ := holds
    refine ⟨sound.step step, ?_, _, parted.step moving inside (seen_of_step sound step inside)⟩
    rcases length_of_step sound step with same | ⟨longer, -⟩
    · rwa [same]
    · rw [longer]
      exact Nat.lt_succ_of_lt inside
  have always : run.Throughout (fun _ _ => True) moves := fun _ _ _ _ _ _ => trivial
  exact (steps_induction kept ⟨sound, inside, times, parted⟩ always reached).2.2

/-- When the deletion of the source of a move is begun, the source was transferred, and nothing had
been deleted. -/
lemma parted_of_deletion {move : Move} (valid : batch.plan.Valid)
    (listed : records[id]? = some record) (moving : record.kind = .move)
    (reached : (batch.start disk records).steps moves = some run)
    (begins : run.turn? id move = some (.starting id .delete)) :
    batch.plan.HasTransferred record id ((batch.start disk records).turns id moves)
        (run.shared.history id) ∧
      ∃ times, Parted record id times (run.shared.history id) (run.view id) := by
  have sound := (sound_of_steps reached).1
  have inside := inside_of_turn? sound begins
  have present : .starting id .delete ∈ (run.view id).hands := mem_hands_of_turn? begins
  cases moving_of_steps valid listed moving reached inside with
  | transferring planned transferring =>
      cases transferring.hands _ present
  | @parted earlier succeeded quiet parted =>
      obtain ⟨lead, feeders, since, parting, hands, history, spent⟩ := parted.led
      have leads : .starting id .delete ∈ lead := by
        rcases Multiset.mem_add.1 (hands ▸ present) with leads | feeds
        · exact leads
        · obtain ⟨side, same, -⟩ := spent _ feeds
          cases same
      obtain rfl := parting.of_mem leads
      obtain rfl : since = [] := by
        generalize same : ({.starting id .delete} : Multiset Activity) = lead at parting
        generalize List.count (Activity.starting id .delete) _ = times at parting
        cases parting
        case queued => rfl
        case ended => exact absurd same (Multiset.singleton_ne_zero _)
        all_goals cases Multiset.singleton_inj.1 same
      obtain rfl : run.shared.history id = earlier := history
      exact ⟨succeeded, _, parted⟩

/-- What is known of a move, whatever happens in the run: when the deletion of its source is begun,
its source was transferred, and from then on nothing happens to it but that deletion and its end;
the deletion is begun at most once, and nothing else deletes anything; and the move is said to have
succeeded only if its source was deleted, and at the end of the run exactly then. -/
theorem move_deletes_last (valid : batch.plan.Valid) (listed : records[id]? = some record)
    (moving : record.kind = .move) (reached : (batch.start disk records).steps moves = some run) :
    (∀ before move after state, moves = before ++ move :: after →
        (batch.start disk records).steps before = some state →
        state.turn? id move = some (.starting id .delete) →
          batch.plan.HasTransferred record id ((batch.start disk records).turns id before)
              (state.shared.history id) ∧
            ∃ since, run.shared.history id = since ++ state.shared.history id ∧
              ∀ event ∈ since, event.PartsWith record) ∧
      (run.shared.history id).countP Event.deletesSource ≤
          ((batch.start disk records).turns id moves).count (.starting id .delete) ∧
      ((batch.start disk records).turns id moves).count (.starting id .delete) ≤ 1 ∧
      (Succeeded id (run.shared.history id) → SourceDeleted record id (run.shared.history id)) ∧
      (run.hasEnded = true →
        (Succeeded id (run.shared.history id) ↔
          SourceDeleted record id (run.shared.history id))) := by
  constructor
  · intro before move after state split arrived begins
    obtain ⟨transferred, times, parted⟩ := parted_of_deletion valid listed moving arrived begins
    refine ⟨transferred, ?_⟩
    have sound := (sound_of_steps arrived).1
    have inside : id < state.shared.operations.length := inside_of_turn? sound begins
    have rest : state.steps (move :: after) = some run := by
      rw [split, steps_append, arrived] at reached
      exact reached
    obtain ⟨times, parted⟩ := parted_of_steps sound inside moving parted rest
    obtain ⟨lead, feeders, since, parting, -, history, -⟩ := parted.led
    exact ⟨since, history, parting.deletes.2.2⟩
  by_cases inside : id < run.shared.operations.length
  · have ends (ended : run.hasEnded = true) : (run.view id).hands = 0 :=
      ((at_end valid reached ended).2 id).1
    cases moving_of_steps valid listed moving reached inside with
    | transferring planned transferring unbegun =>
        have never : ((batch.start disk records).turns id moves).count (.starting id .delete) = 0 :=
          List.count_eq_zero.2 unbegun
        have quiet : ∀ event ∈ run.shared.history id, event.isTransfer = true := transferring.quiet
        obtain ⟨untold, undeleted, none⟩ := quiet_of_transfer quiet
        rw [never, none]
        exact ⟨le_rfl, Nat.zero_le 1, fun told => absurd told untold,
          fun _ => iff_of_false untold undeleted⟩
    | @parted earlier succeeded quiet parted =>
        obtain ⟨untold, undeleted, none⟩ := quiet_of_transfer quiet
        obtain ⟨lead, feeders, since, parting, hands, history, -⟩ := parted.led
        obtain ⟨fewer, once, -⟩ := parting.deletes
        obtain ⟨tells, told⟩ := parting.tells
        have happened : run.shared.history id = since ++ earlier := history
        rw [happened, List.countP_append, none, succeeded_append, or_iff_left untold,
          sourceDeleted_append, or_iff_left undeleted]
        refine ⟨fewer, once, tells, fun ended => ⟨tells, told ?_⟩⟩
        have gone : lead + feeders = 0 := hands.symm.trans (ends ended)
        exact Multiset.le_zero.1 (gone ▸ Multiset.le_add_right lead feeders)
  · have absent := not_lt.1 inside
    have nothing : ∀ event ∈ ([] : List Event), event.isTransfer = true := List.forall_mem_nil _
    obtain ⟨untold, undeleted, -⟩ := quiet_of_transfer nothing
    rw [history_of_absent reached absent, turns_of_absent reached absent]
    exact ⟨le_rfl, Nat.zero_le 1, fun told => absurd told untold,
      fun _ => iff_of_false untold undeleted⟩

/-- A move of a file in three parts ends with the success of it, so the file was removed, and it
was removed once. -/
theorem smallMove_deletes :
    Succeeded 0 ((Batch.smallRun { answersAll := true } Batch.smallDisk
        Batch.smallMove).shared.history 0) ∧
      .removedSource 0 ⟨"file"⟩ ∈ (Batch.smallRun { answersAll := true } Batch.smallDisk
        Batch.smallMove).shared.history 0 ∧
      ((Batch.small.start Batch.smallDisk [Batch.smallMove]).turns 0
        (Batch.smallMoves { answersAll := true } Batch.smallDisk Batch.smallMove)).count
          (.starting 0 .delete) = 1 := by
  have listed : [Batch.smallMove][0]? = some Batch.smallMove := rfl
  obtain ⟨-, fewer, once, -, ends⟩ := move_deletes_last Batch.small_valid listed rfl
    (Batch.steps_smallMoves { answersAll := true } Batch.smallDisk Batch.smallMove)
  have succeeded : Succeeded 0 ((Batch.smallRun { answersAll := true } Batch.smallDisk
      Batch.smallMove).shared.history 0) := by
    refine ⟨"move", "file to s3://bucket/target", ?_⟩
    decide +kernel
  have removed := (ends (by decide +kernel)).1 succeeded
  have counted : 0 < ((Batch.smallRun { answersAll := true } Batch.smallDisk
      Batch.smallMove).shared.history 0).countP Event.deletesSource :=
    List.countP_pos_iff.2 ⟨_, removed, rfl⟩
  exact ⟨succeeded, removed, le_antisymm once (counted.trans_le fewer)⟩

end Run
end BulkTransfer
