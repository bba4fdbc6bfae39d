import BulkTransfer.Proofs.Download.Retrieval
import BulkTransfer.Proofs.Files.Pieces

/-!
# Objects that arrive as a whole

A retrieval in one piece has one hand, which fetches the object, opens the file and writes the
content to it. Every step of a run goes on with that (`Retrieval.WholeArrival.step`).
-/

namespace BulkTransfer

open Pool

namespace Retrieval

variable (retrieval : Retrieval)

/-- A retrieval in one piece from its first task to its end. -/
inductive Fetching : Multiset Activity → Shown → List Event → Prop where
  | starting {shown : Shown} {history : List Event}
      (quiet : history.filter Event.isSettled = []) :
      Fetching {.starting retrieval.id .download} shown history
  | sending {shown : Shown} {history : List Event} (quiet : history.filter Event.isSettled = []) :
      Fetching {.sending retrieval.id .fetch retrieval.store (.getObject retrieval.object none)}
        shown history
  | awaiting {shown : Shown} {history : List Event} (quiet : history.filter Event.isSettled = []) :
      Fetching {.awaiting retrieval.id .fetch retrieval.store (.getObject retrieval.object none)}
        shown history
  | saving {shown : Shown} {history : List Event} (quiet : history.filter Event.isSettled = []) :
      Fetching {.saving retrieval.id retrieval.path (Reader.ofBytes retrieval.whole)} shown history
  | opened {file : FileId} {history : List Event} (quiet : history.filter Event.isSettled = []) :
      Fetching {.writing retrieval.id .whole retrieval.path file 0 (Reader.ofBytes retrieval.whole)}
        (.file file []) history
  | written {file : FileId} {offset : Nat} {history : List Event}
      (quiet : history.filter Event.isSettled = []) :
      Fetching {.writing retrieval.id .whole retrieval.path file offset []}
        (.file file retrieval.whole) history
  | kept {hands : Multiset Activity} {shown : Shown} {history : List Event}
      (kept : retrieval.Kept hands shown history) : Fetching hands shown history
  | failing {hands : Multiset Activity} {shown : Shown} {history : List Event}
      (unsecured : ¬retrieval.secured) (failing : retrieval.Failing hands history) :
      Fetching hands shown history

/-- The course of a retrieval in one piece, or of one that could not be planned. -/
inductive WholeArrival : View → Shown → Prop where
  | proposed {operation : Operation} {shown : Shown}
      (describes : retrieval.Describes operation) :
      WholeArrival ⟨operation, some .download, 0, []⟩ shown
  | fetching {operation : Operation} {hands : Multiset Activity} {shown : Shown}
      {history : List Event} (describes : retrieval.Describes operation)
      (fetching : retrieval.Fetching hands shown history) :
      WholeArrival ⟨operation, none, hands, history⟩ shown

variable {retrieval}

lemma Fetching.card {hands : Multiset Activity} {shown : Shown} {history : List Event}
    (fetching : retrieval.Fetching hands shown history) : hands.card ≤ 1 := by
  cases fetching with
  | kept kept => cases kept <;> simp
  | failing unsecured failing => cases failing <;> simp
  | _ => simp

/-- A retrieval in one piece that has succeeded has the whole content in its file. -/
lemma WholeArrival.content {view : View} {shown : Shown}
    (course : retrieval.WholeArrival view shown)
    (succeeded : retrieval.HasSucceeded view.history) : shown.content = .ok retrieval.whole := by
  cases course with
  | proposed describes => exact absurd succeeded (not_hasSucceeded rfl)
  | fetching describes fetching =>
      cases fetching with
      | kept kept => exact kept.content
      | failing unsecured failing => exact absurd succeeded failing.not_hasSucceeded
      | starting quiet | sending quiet | awaiting quiet | saving quiet | opened quiet
      | written quiet => exact absurd succeeded (not_hasSucceeded quiet)

/-- A secured retrieval in one piece has succeeded when its hand has gone. -/
lemma WholeArrival.hasSucceeded {view : View} {shown : Shown}
    (course : retrieval.WholeArrival view shown) (secured : retrieval.secured)
    (admitted : view.proposed = none) (gone : view.hands = 0) :
    retrieval.HasSucceeded view.history := by
  cases course with
  | proposed describes => cases admitted
  | fetching describes fetching =>
      cases fetching with
      | kept kept => exact kept.hasSucceeded gone
      | failing unsecured failing => exact absurd secured unsecured
      | _ => exact absurd gone (Multiset.singleton_ne_zero _)

/-- What a store that serves the whole object answers. -/
lemma seen_whole (retrieval : Retrieval) :
    Shared.seen (.getObject retrieval.object none) (Script.serve retrieval.content none) =
      .reply (.object (some (Reader.ofBytes retrieval.whole))) := rfl

section

variable {shared after : Shared} {surroundings : Surroundings} {activity later : Activity}
  {hands : Multiset Activity} {shown : Shown} {history : List Event}
  (inside : retrieval.id < shared.operations.length)
  (describes : retrieval.Describes (shared.operation retrieval.id))
  (favours : retrieval.Favours shared surroundings activity)
  (work : shared.work surroundings activity = some (after, later))

include inside in
/-- The file for the object is opened, unless it cannot be. -/
lemma Fetching.save
    (creates : retrieval.secured → ∃ file disk,
      shared.disk.openNew retrieval.path = (.ok file, disk))
    (work : shared.work surroundings
      (.saving retrieval.id retrieval.path (Reader.ofBytes retrieval.whole)) = some (after, later))
    (quiet : history.filter Event.isSettled = []) :
    ∃ notes left,
      shared.Turned after retrieval.id later (shared.operation retrieval.id) notes left ∧
        retrieval.Fetching left (after.disk.shown retrieval.path) (notes ++ history) := by
  have worked := Option.some.inj work
  simp only [Shared.save] at worked
  split at worked
  · next file disk created =>
      obtain ⟨rfl, rfl⟩ := Prod.mk.inj worked
      refine ⟨_, _, .of_changed (.ofNote inside disk rfl (by simp)) rfl, ?_⟩
      have shows : (({ shared with disk := disk } : Shared).note
          (.opened retrieval.id retrieval.path file)).disk.shown retrieval.path =
            .file file [] := Disk.shown_of_openNew created
      rw [shows]
      exact .opened quiet
  · next error disk refused =>
      obtain ⟨rfl, rfl⟩ := Prod.mk.inj worked
      have unsecured : ¬retrieval.secured := by
        intro secured
        obtain ⟨file, created, opens⟩ := creates secured
        rw [refused] at opens
        cases (Prod.mk.inj opens).1
      exact ⟨_, _, .of_changed (.onDisk inside disk) rfl,
        .failing unsecured (.discarding error quiet)⟩

include inside in
/-- The object is written to the empty file at once, unless it does not fit. -/
lemma Fetching.write {file : FileId} (sound : shared.disk.Sound)
    (room : retrieval.secured → retrieval.whole.length ≤ shared.disk.format.longestFile)
    (same : shared.disk.shown retrieval.path = .file file [])
    (work : shared.work surroundings
      (.writing retrieval.id .whole retrieval.path file 0 (Reader.ofBytes retrieval.whole)) =
        some (after, later))
    (quiet : history.filter Event.isSettled = []) :
    ∃ notes left,
      shared.Turned after retrieval.id later (shared.operation retrieval.id) notes left ∧
        retrieval.Fetching left (after.disk.shown retrieval.path) (notes ++ history) := by
  have worked := Option.some.inj work
  rcases Reader.ofBytes_cases retrieval.whole with ⟨empty, reader⟩ | ⟨filled, reader⟩
  · rw [reader] at worked
    obtain ⟨rfl, rfl⟩ := Prod.mk.inj worked
    refine ⟨_, _, .stay inside rfl, ?_⟩
    rw [same, ← empty]
    exact .kept (.stamping quiet)
  · have some : retrieval.whole.isEmpty = false := List.isEmpty_eq_false_iff.2 filled
    rw [reader] at worked
    simp only [Shared.write, some] at worked
    obtain ⟨rfl, goes⟩ := Prod.mk.inj worked
    cases refusal : shared.disk.format.writeRefusal? 0 retrieval.whole.length with
    | none =>
        rw [refusal] at goes
        subst goes
        refine ⟨_, _, .of_changed (.ofNote inside _ rfl (by simp)) rfl, ?_⟩
        have shows : (shared.disk.write file 0 retrieval.whole).shown retrieval.path =
            .file file retrieval.whole := by
          rw [Disk.shown_write same sound, DiskFormat.fitting_eq_self _ 0 _ refusal,
            Bytes.nil_placed_zero]
        change retrieval.Fetching _ ((shared.disk.write file 0 retrieval.whole).shown _) _
        rw [shows]
        exact .written quiet
    | some cause =>
        rw [refusal] at goes
        subst goes
        have unsecured : ¬retrieval.secured := by
          intro secured
          have fits : 0 + retrieval.whole.length ≤ shared.disk.format.longestFile := by
            rw [Nat.zero_add]
            exact room secured
          rw [(DiskFormat.writeRefusal?_eq_none_iff ..).2 fits] at refusal
          cases refusal
        exact ⟨_, _, .of_changed (.ofNote inside _ rfl (by simp)) rfl,
          .failing unsecured (.discarding _ quiet)⟩

include inside describes favours work in
/-- The hand that fetches the object goes on with it. -/
lemma Fetching.turn (fetching : retrieval.Fetching hands shown history)
    (alone : hands = {activity}) (same : shared.disk.shown retrieval.path = shown) :
    ∃ notes left,
      shared.Turned after retrieval.id later (shared.operation retrieval.id) notes left ∧
        retrieval.Fetching left (after.disk.shown retrieval.path) (notes ++ history) := by
  cases fetching with
  | starting quiet =>
      obtain rfl := Multiset.singleton_inj.1 alone
      have worked := Option.some.inj work
      simp only [Shared.start, describes.fetchCall, describes.store, Activity.call] at worked
      obtain ⟨rfl, rfl⟩ := Prod.mk.inj worked
      exact ⟨_, _, .stay inside rfl, .sending quiet⟩
  | sending quiet =>
      obtain rfl := Multiset.singleton_inj.1 alone
      obtain ⟨rfl, rfl⟩ := Prod.mk.inj (Option.some.inj work)
      exact ⟨_, _, turned_call inside .., .awaiting quiet⟩
  | awaiting quiet =>
      obtain rfl := Multiset.singleton_inj.1 alone
      have answer := favours.served retrieval.id .fetch none rfl
      obtain ⟨turned, goes⟩ := turned_receive inside .fetch retrieval.store
        (.getObject retrieval.object none) surroundings.answer
      rw [Option.some.inj work] at turned goes
      rw [answer, seen_whole] at goes
      have saves :
          later = .saving retrieval.id retrieval.path (Reader.ofBytes retrieval.whole) := by
        refine goes.trans ?_
        simp [Shared.afterAnswer, Shared.afterReply, describes.fileWritten]
      subst saves
      exact ⟨_, _, turned, .saving quiet⟩
  | saving quiet =>
      obtain rfl := Multiset.singleton_inj.1 alone
      exact Fetching.save inside favours.creates work quiet
  | opened quiet =>
      obtain rfl := Multiset.singleton_inj.1 alone
      exact Fetching.write inside favours.sound favours.room same work quiet
  | written quiet =>
      obtain rfl := Multiset.singleton_inj.1 alone
      obtain ⟨rfl, rfl⟩ := Prod.mk.inj (Option.some.inj work)
      refine ⟨_, _, .stay inside rfl, ?_⟩
      rw [same]
      exact .kept (.stamping quiet)
  | kept kept =>
      obtain ⟨notes, left, turned, goes⟩ := kept.turn inside work describes alone same
      exact ⟨notes, left, turned, .kept goes⟩
  | failing unsecured failing =>
      obtain ⟨notes, left, turned, goes, -⟩ := failing.turn inside work alone
      exact ⟨notes, left, turned, .failing unsecured goes⟩

end

/-- Every step of a run goes on with the retrieval of a whole object. -/
theorem WholeArrival.step {records : List Record} {run next : Run} {move : Move}
    (sound : run.Sound records) (inside : retrieval.id < run.shared.operations.length)
    (course : retrieval.WholeArrival (run.view retrieval.id)
      (run.shared.disk.shown retrieval.path))
    (meets : retrieval.Meets run move) (step : run.step move = some next)
    (seen : run.Seen next move retrieval.id) :
    retrieval.WholeArrival (next.view retrieval.id) (next.shared.disk.shown retrieval.path) := by
  cases seen with
  | same view other =>
      rw [view, meets.spares other next step]
      exact course
  | admitted chore proposed disk view other =>
      rw [view, disk]
      rw [Run.view, proposed] at course
      generalize run.hands retrieval.id = hands,
        run.shared.history retrieval.id = history at course ⊢
      cases course with
      | proposed describes => exact .fetching describes (.starting rfl)
  | refused chore error proposed shared view other barred =>
      rw [view, meets.spares other next step]
      rw [Run.view, proposed] at course
      generalize run.hands retrieval.id = hands,
        run.shared.history retrieval.id = history at course ⊢
      cases course with
      | proposed describes =>
          refine .fetching describes (.failing (fun secured => ?_)
            (.ended (isError_refusal ..) rfl))
          obtain ⟨entry, asked, item, refused⟩ := barred
          exact refused (meets.admits secured entry _ asked item)
  | turned activity later rest index actor working own hands work view =>
      have favours := meets.favours sound actor working own
      have known := course
      rw [Run.view, hands] at known
      generalize had : activity ::ₘ rest = hands', planned : run.proposed retrieval.id = proposed,
        past : run.shared.history retrieval.id = history,
        subject : run.shared.operation retrieval.id = operation,
        shows : run.shared.disk.shown retrieval.path = shown at known
      cases known with
      | proposed => exact absurd had Multiset.cons_ne_zero
      | fetching describes fetching =>
          have only : rest = 0 := by
            have few := fetching.card
            rw [← had, Multiset.card_cons] at few
            exact Multiset.card_eq_zero.1 (by omega)
          subst only subject
          obtain ⟨notes, left, turned, goes⟩ :=
            fetching.turn inside describes favours work had.symm shows
          rw [Run.view_of_turned view turned, planned, past, add_zero]
          exact .fetching describes goes

end Retrieval
end BulkTransfer
