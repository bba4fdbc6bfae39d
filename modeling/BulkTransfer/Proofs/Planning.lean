import BulkTransfer.Transfer.Batch
import Mathlib.Tactic.Lemma

/-!
# What a record is planned as

A record whose plan succeeds becomes an operation that is done as a whole, a multipart upload or
copy, or a multipart download (`Planned`). With limits that a run accepts, the parts are at least
one, and none of them is empty (`Limits.of_split`).
-/

namespace BulkTransfer

open Pool

/-- Whether a plan is made of a configuration and limits that a run accepts. -/
structure Pool.Plan.Valid (plan : Plan) : Prop where
  config : plan.config.validate = .ok ()
  limits : plan.limits.validate = .ok ()

lemma Config.workers_of_validate {config : Config} (h : config.validate = .ok ()) :
    0 < config.maxConcurrentRequests := by
  unfold validate at h
  split at h
  · cases h
  · next some => exact Nat.pos_of_ne_zero some

namespace Limits

variable {limits : Limits} {wanted size parts chunksize : Nat}

lemma of_validate (h : limits.validate = .ok ()) :
    0 < limits.minChunksize ∧ limits.minChunksize ≤ limits.maxSingleSize ∧
      0 < limits.maxParts := by
  unfold validate at h
  split at h
  · cases h
  · split at h
    · cases h
    · split at h
      · cases h
      · omega

lemma partsNeeded_pos (sized : 0 < size) (cut : 0 < chunksize) :
    0 < partsNeeded size chunksize := by
  rw [partsNeeded, if_neg (Nat.ne_of_gt cut)]
  exact Nat.div_pos (by omega) cut

/-- The chunksize for a known size is positive within usable limits. -/
lemma adjust_pos (usable : limits.validate = .ok ()) (sized : 0 < size) :
    0 < limits.adjust wanted (some size) := by
  obtain ⟨minimum, order, several⟩ := of_validate usable
  have clamped : 0 < limits.clamp wanted := by
    unfold clamp
    split <;> omega
  unfold adjust
  dsimp only
  split
  · have needed := partsNeeded_pos sized several
    omega
  · exact clamped

/-- A split of a size is into the parts that its chunksize needs. -/
theorem of_split (usable : limits.validate = .ok ()) (sized : 0 < size)
    (h : limits.split wanted size = .ok (parts, chunksize)) :
    parts = partsNeeded size chunksize ∧ 0 < chunksize ∧ 0 < parts := by
  unfold split at h
  dsimp only at h
  split at h
  · obtain ⟨rfl, rfl⟩ := Prod.mk.inj (Except.ok.inj h)
    have cut := @adjust_pos limits wanted size usable sized
    exact ⟨rfl, cut, partsNeeded_pos sized cut⟩
  · cases h

end Limits

namespace Pool

/-- What a record is planned as: the operation and its first task. -/
inductive Planned (plan : Plan) (record : Record) : Operation → Chore → Prop where
  | whole {action : Action} (isAction : record.action = .ok action)
      (small : plan.isMultipart action record.size = false) :
      Planned plan record (plan.operationFor record) (Plan.wholeTask action)
  | upload {object : ObjectName} {parts chunksize : Nat}
      (remote : record.destination.bind Location.object? = some object)
      (split : plan.limits.split plan.config.multipartChunksize record.size =
        .ok (parts, chunksize)) (sized : 0 < record.size) :
      Planned plan record
        { plan.operationFor record with upload := some (.ofParts parts chunksize) } .createUpload
  | download {object : ObjectName} {path : LocalPath} {parts chunksize : Nat}
      (source : record.source = .object object)
      (destination : record.destination = some (.file path))
      (split : plan.limits.split plan.config.multipartChunksize record.size =
        .ok (parts, chunksize)) (sized : 0 < record.size) :
      Planned plan record
        { plan.operationFor record with download := some (.ofParts parts chunksize) }
        .createLocalFile

/-- Whether an action moves bytes as it should: to an object by an upload or a copy, and from an
object to a file by a download. -/
def Fits (source : Location) (destination : Option Location) : Action → Prop
  | .upload | .copy => ∃ object, destination = some (.object object)
  | .download => (∃ object, source = .object object) ∧ ∃ path, destination = some (.file path)
  | _ => True

lemma fits_of_actionBetween {source destination : Location} {action : Action}
    (h : Record.actionBetween source destination = some action) :
    Fits source (some destination) action := by
  cases source <;> cases destination
  all_goals
    simp only [Record.actionBetween, Location.isRemote] at h
    first
    | cases h; done
    | obtain rfl := Option.some.inj h
      simp [Fits]

lemma fits_of_action {record : Record} {action : Action} (h : record.action = .ok action) :
    Fits record.source record.destination action := by
  unfold Record.action at h
  split at h
  · cases h
  · split at h
    · cases h
    · split at h
      · repeat' split at h
        all_goals cases h
        trivial
      · split at h
        all_goals cases h
        trivial
      · split at h
        · cases h
        · next destination given =>
            split at h
            · cases h
            · next between =>
                split at h
                · obtain rfl := Except.ok.inj h
                  rw [given]
                  exact fits_of_actionBetween between
                · cases h

/-- Every record that can be planned is planned in one of the three ways. -/
lemma planned_of_resolve {plan : Plan} {record : Record} {operation : Operation} {chore : Chore}
    (h : plan.resolve record = .ok (operation, chore)) : Planned plan record operation chore := by
  unfold Plan.resolve at h
  dsimp only at h
  split at h
  · cases h
  · next action isAction =>
      have locations := fits_of_action isAction
      split at h
      · cases h
      · split at h
        · next large =>
            have sized : 0 < record.size := by
              simp only [Plan.isMultipart, Bool.and_eq_true, decide_eq_true_eq] at large
              exact large.1.2
            cases split : plan.limits.split plan.config.multipartChunksize record.size with
            | error error =>
                rw [split] at h
                cases h
            | ok result =>
                rw [split] at h
                have planned := Except.ok.inj h
                cases action
                case upload | copy =>
                  obtain ⟨object, destination⟩ := locations
                  obtain ⟨rfl, rfl⟩ := Prod.mk.inj planned
                  exact .upload (by rw [destination]; rfl) split sized
                case download =>
                  obtain ⟨⟨object, source⟩, path, destination⟩ := locations
                  obtain ⟨rfl, rfl⟩ := Prod.mk.inj planned
                  exact .download source destination split sized
                all_goals simp [Plan.isMultipart] at large
        · next small =>
            obtain ⟨rfl, rfl⟩ := Prod.mk.inj (Except.ok.inj h)
            exact .whole isAction (Bool.eq_false_iff.2 small)

/-- A record of a download that can be carried out at all is carried out as one. -/
lemma action_of_download {record : Record} {action : Action} (kind : record.kind = .download)
    (h : record.action = .ok action) : action = .download := by
  simp only [Record.action, kind] at h
  split at h
  · cases h
  · split at h
    · cases h
    · split at h
      · cases h
      · split at h
        · cases h
        · split at h
          · next admitted =>
              obtain rfl := Except.ok.inj h
              exact of_decide_eq_true admitted
          · cases h

/-- What a move does first is to transfer its source. -/
lemma action_of_move {record : Record} {action : Action} (kind : record.kind = .move)
    (h : record.action = .ok action) : action ≠ .delete ∧ action ≠ .removeBucket := by
  simp only [Record.action, kind] at h
  split at h
  · cases h
  · split at h
    · cases h
    · split at h
      · cases h
      · split at h
        · cases h
        · next destination _ action between =>
            obtain rfl := Except.ok.inj h
            unfold Record.actionBetween at between
            split at between
            all_goals
              cases between
              try exact ⟨nofun, nofun⟩

/-- A download from a bucket to a file can be carried out. -/
lemma isDownload_of_bucket {record : Record} {object : ObjectName} {path : LocalPath}
    (kind : record.kind = .download) (source : record.source = .object object)
    (destination : record.destination = some (.file path)) (bucket : object.bucket ≠ "") :
    record.action = .ok .download := by
  simp [Record.action, Record.lacksBucket, Record.actionBetween, Record.admits, Location.isRemote,
    kind, source, destination, bucket]

/-- A download is planned in parts if it is large enough, and as a whole if it is not. -/
lemma resolve_of_download {plan : Plan} {record : Record}
    (isDownload : record.action = .ok .download) :
    plan.resolve record =
      if plan.isMultipart .download record.size then
        (plan.limits.split plan.config.multipartChunksize record.size).map fun split =>
          ({ plan.operationFor record with download := some (.ofParts split.1 split.2) },
            .createLocalFile)
      else .ok (plan.operationFor record, .download) := by
  simp [Plan.resolve, isDownload, Plan.splitFor, Plan.wholeTask]

lemma action_of_resolve {plan : Plan} {record : Record} {planned : Operation × Chore}
    (h : plan.resolve record = .ok planned) : ∃ action, record.action = .ok action := by
  unfold Plan.resolve at h
  dsimp only at h
  split at h
  · cases h
  · next action isAction => exact ⟨action, isAction⟩

end Pool
end BulkTransfer
