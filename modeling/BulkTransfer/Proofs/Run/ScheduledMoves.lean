import BulkTransfer.Proofs.Planning
import BulkTransfer.Proofs.Run.Views
import BulkTransfer.Remote.Script

/-!
# The moves of a schedule

What the schedule carries out is one of the runs that theorems about all runs speak of: the moves
that it makes lead there (`Run.steps_carriedMoves`). What is to hold throughout a run can be checked
along its moves (`Run.throughout_of_checks`).
-/

namespace BulkTransfer

open Pool

namespace Run

variable {σ : Type} (service : Service σ) (admission : Admission)

/-- The move that an actor makes in a world. -/
def moveIn (run : Run) (world : World σ) (actor : Actor) : Move :=
  ⟨actor, admission world.admitted,
    match run.awaits? actor with
    | some (store, call) => (ask service store call world.stores).1
    | none => .reply .done⟩

lemma step_moveIn (run : Run) (world : World σ) (actor : Actor) :
    (stepIn service admission run world actor).map (·.1) =
      run.step (run.moveIn service admission world actor) := by
  simp only [stepIn, Option.map_map, moveIn]
  cases run.awaits? actor <;> exact Option.map_id'

/-- The moves that the schedule makes in at most `fuel` steps. -/
def carriedMoves (run : Run) (world : World σ) : Nat → List Move
  | 0 => []
  | fuel + 1 =>
      match (actors run).findSome? fun actor =>
          (stepIn service admission run world actor).map fun result => (actor, result) with
      | some (actor, next, after) =>
          run.moveIn service admission world actor :: next.carriedMoves after fuel
      | none => []

/-- The schedule carries out the run of its moves. -/
theorem steps_carriedMoves (run : Run) (world : World σ) (fuel : Nat) :
    run.steps (run.carriedMoves service admission world fuel) =
      some (carry service admission run world fuel).1 := by
  induction fuel generalizing run world with
  | zero => rfl
  | succ fuel ih =>
      have same : (actors run).findSome? (stepIn service admission run world) =
          ((actors run).findSome? fun actor =>
            (stepIn service admission run world actor).map fun result => (actor, result)).map
              (·.2) := by
        rw [List.map_findSome?]
        congr 1
        funext actor
        simp only [Function.comp_apply, Option.map_map]
        exact Option.map_id'.symm
      rw [carriedMoves, carry, same]
      cases found : (actors run).findSome? fun actor =>
          (stepIn service admission run world actor).map fun result => (actor, result) with
      | none => rfl
      | some result =>
          obtain ⟨actor, next, after⟩ := result
          obtain ⟨mover, -, made⟩ := List.exists_of_findSome?_eq_some found
          obtain ⟨moved, makes, same⟩ := Option.map_eq_some_iff.1 made
          obtain ⟨rfl, rfl⟩ := Prod.mk.inj same
          have step := step_moveIn service admission run world mover
          rw [makes] at step
          simp only [steps, ← step, Option.map_some, Option.bind_some]
          exact ih next after

/-- Whether a test succeeds at every move of a run. -/
def checks (test : Run → Move → Bool) (run : Run) : List Move → Bool
  | [] => true
  | move :: moves => test run move && (run.step move).all fun next => next.checks test moves

theorem throughout_of_checks {test : Run → Move → Bool} {run : Run} {moves : List Move}
    (checked : run.checks test moves = true) :
    run.Throughout (fun state move => test state move = true) moves := by
  intro before move after split state reached
  induction before generalizing run moves with
  | nil =>
      obtain rfl := Option.some.inj reached
      obtain rfl : moves = move :: after := split
      exact (Bool.and_eq_true_iff.1 checked).1
  | cons first before ih =>
      obtain rfl : moves = first :: (before ++ move :: after) := split
      obtain ⟨next, step, rest⟩ := Option.bind_eq_some_iff.1 reached
      have checked := (Bool.and_eq_true_iff.1 checked).2
      rw [step] at checked
      exact ih checked rfl rest

lemma throughout_of_decide {property : Run → Move → Prop}
    [∀ run move, Decidable (property run move)] {run : Run} {moves : List Move}
    (checked : run.checks (fun state move => decide (property state move)) moves = true) :
    run.Throughout property moves := by
  intro before move after split state reached
  exact of_decide_eq_true (throughout_of_checks checked before move after split state reached)

end Run

namespace Batch

/-! ## A small batch -/

/-- A batch that one worker carries out, in parts of one byte. -/
def small : Batch where
  store := "store"
  config := {
    multipartThreshold := 1
    multipartChunksize := 1
    maxConcurrentRequests := 1
    maxQueueSize := 1 }
  limits := { minChunksize := 1, maxSingleSize := 4, maxParts := 4, maxObjectSize := 16 }

lemma small_valid : small.plan.Valid where
  config := by decide
  limits := by decide

/-- The store of the small batch, with a script. -/
def smallWorld (script : Script) : World Script :=
  ⟨[("store", script)], []⟩

/-- A record of the small batch, as the schedule carries it out with a script. -/
def smallRun (script : Script) (disk : Disk) (record : Record) : Run :=
  (small.carryOut ⟨Script.answer⟩ (fun _ _ => none) (smallWorld script) disk [record]).1

/-- The moves of the schedule when it carries out a record of the small batch. -/
def smallMoves (script : Script) (disk : Disk) (record : Record) : List Move :=
  (small.start disk [record]).carriedMoves ⟨Script.answer⟩ (fun _ _ => none) (smallWorld script)
    (stepBound (small.start disk [record]) [record])

lemma steps_smallMoves (script : Script) (disk : Disk) (record : Record) :
    (small.start disk [record]).steps (smallMoves script disk record) =
      some (smallRun script disk record) :=
  Run.steps_carriedMoves ..

/-- A record that copies two bytes. -/
def smallCopy : Record :=
  { Record.copy ⟨"bucket", "source"⟩ ⟨"bucket", "target"⟩ with size := 2 }

lemma smallCopy_planned :
    small.plan.resolve smallCopy =
      .ok ({ small.plan.operationFor smallCopy with upload := some (.ofParts 2 1) },
        .createUpload) := rfl

/-- A record that uploads a file of the recorded size. -/
def smallUpload (size : Nat) : Record :=
  { Record.upload ⟨"file"⟩ ⟨"bucket", "target"⟩ with size := size }

/-- A file system where this file has three bytes. -/
def smallDisk : Disk := (Disk.empty.writeNew ⟨"file"⟩ [.piece [1, 2, 3]]).2

/-- A record that downloads an object of the recorded size. -/
def smallDownload (size : Nat) : Record :=
  { Record.download ⟨"bucket", "source"⟩ ⟨"file"⟩ with size := size }

/-- A record that moves a file of three bytes. -/
def smallMove : Record :=
  { Record.move (.file ⟨"file"⟩) (.object ⟨"bucket", "target"⟩) with size := 3 }

/-- A script by which the object of the download has three bytes. -/
def smallObject : Script where
  objects := [(⟨"bucket", "source"⟩, #[1, 2, 3])]

end Batch
end BulkTransfer
