import BulkTransfer.Proofs.Download.Course
import BulkTransfer.Proofs.Download.Delivering

/-!
# Objects that arrive in parts

A retrieval in parts opens its file, carries the parts there, and then keeps the file with the whole
content, or drops it because a part has failed. Every step of a run goes on with that
(`Retrieval.PartsArrival.step`).
-/

namespace BulkTransfer

open Pool Multipart

/-- Once the end of the parts has been claimed, turns at them change neither what a path shows nor
whether the download has failed, and nothing happens in them. -/
lemma Pool.DownloadTurn.of_claimed {operation : Operation} {id : OperationId}
    {download next : Download} {disk after : Disk} {barred : Nat → Prop} {given : Answer}
    {activity : Activity} {notes : List Event} {left rest : Multiset Activity}
    (turn : DownloadTurn operation id download disk barred given activity next after notes left)
    (claimed : download.progress.endClaimed = true)
    (accounts : Accounts download.progress (activity ::ₘ rest)) :
    notes = [] ∧ after = disk ∧ next.progress.endClaimed = true ∧
      (next.progress.failure = none ↔ download.progress.failure = none) := by
  have idle : activity.role? ≠ some .runner := by
    intro runs
    have none := (accounts.claimed claimed).1
    simp [runs] at none
  cases turn with
  | queued queueing =>
      obtain ⟨failure, claim, -⟩ := queueing.failure
      exact ⟨rfl, rfl, claim.trans claimed, by rw [failure]⟩
  | skipped closed => exact ⟨rfl, rfl, claimed, Iff.rfl⟩
  | entered isOpen entered begins =>
      obtain ⟨-, unclaimed, -⟩ := Progress.of_enter? entered
      rw [claimed] at unclaimed
      cases unclaimed
  | @lost error began pending =>
      cases began with
      | true => exact absurd rfl idle
      | false =>
          refine ⟨rfl, rfl, claimed, ⟨nofun, fun sound => ?_⟩⟩
          have none := ((accounts.claimed claimed).2 sound).2.1
          simp at none
  | @lostLast error began progress last =>
      obtain ⟨unclaimed, -, -⟩ := Progress.of_claimEnd? last
      rw [show (download.progress.partLost error.message began).endClaimed = true from claimed]
        at unclaimed
      cases unclaimed
  | _ => exact absurd rfl idle

namespace Retrieval

variable (retrieval : Retrieval)

/-- How a retrieval goes on after the end of its parts has been claimed. -/
inductive Finale (download : Download) : Multiset Activity → Shown → List Event → Prop where
  | closing {lead : Activity} {file : FileId} {bytes : Bytes} {history : List Event}
      (leads : lead = .following retrieval.id .finish ∨
        lead = .starting retrieval.id .completeDownload)
      (isOpen : download.file = some file) (quiet : history.filter Event.isSettled = [])
      (first : .discarded retrieval.id retrieval.path ∉ history)
      (whole : download.progress.failure = none → bytes = retrieval.whole)
      (unharmed : retrieval.secured → download.progress.failure = none) :
      Finale download {lead} (.file file bytes) history
  | kept {hands : Multiset Activity} {shown : Shown} {history : List Event}
      (kept : retrieval.Kept hands shown history) : Finale download hands shown history
  | dropped {hands : Multiset Activity} {shown : Shown} {history : List Event}
      (unsecured : ¬retrieval.secured) (dropped : retrieval.Dropped hands shown history) :
      Finale download hands shown history

/-- The course of a retrieval in parts. -/
inductive PartsArrival (chunksize : Nat) : View → Shown → Prop where
  | opening {operation : Operation} {proposed : Option Chore} {hands : Multiset Activity}
      {shown : Shown} (describes : retrieval.Describes operation)
      (set : operation.download = some (.ofParts (retrieval.parts chunksize) chunksize))
      (begins : proposed = some .createLocalFile ∧ hands = 0 ∨
        proposed = none ∧ hands = {.starting retrieval.id .createLocalFile}) :
      PartsArrival chunksize ⟨operation, proposed, hands, []⟩ shown
  | opened {operation : Operation} {file : FileId} (describes : retrieval.Describes operation)
      (set : operation.download = some (.ofParts (retrieval.parts chunksize) chunksize)) :
      PartsArrival chunksize
        ⟨operation, none, {.reporting retrieval.id (.opened file)},
          [.opened retrieval.id retrieval.path file]⟩
        (.file file [])
  | unopened {operation : Operation} {hands : Multiset Activity} {shown : Shown}
      {history : List Event} (unsecured : ¬retrieval.secured)
      (failing : retrieval.Failing hands history)
      (silent : ∀ path file, .opened retrieval.id path file ∉ history) :
      PartsArrival chunksize ⟨operation, none, hands, history⟩ shown
  | carrying {operation : Operation} {download : Download} {file : FileId} {bytes : Bytes}
      {hands : Multiset Activity} {history : List Event}
      (describes : retrieval.Describes operation) (set : operation.download = some download)
      (chunk : download.chunksize = chunksize) (isOpen : download.file = some file)
      (unclaimed : download.progress.endClaimed = false)
      (loading : Loading (retrieval.parts chunksize) retrieval.id download hands history)
      (carrying : retrieval.Carrying chunksize file download.progress bytes hands)
      (first : .discarded retrieval.id retrieval.path ∉ history) :
      PartsArrival chunksize ⟨operation, none, hands, history⟩ (.file file bytes)
  | ending {operation : Operation} {download : Download} {hands : Multiset Activity}
      {shown : Shown} {history : List Event} (describes : retrieval.Describes operation)
      (set : operation.download = some download) (claimed : download.progress.endClaimed = true)
      (loading : Loading (retrieval.parts chunksize) retrieval.id download hands history)
      (finale : retrieval.Finale download (leads hands) shown history) :
      PartsArrival chunksize ⟨operation, none, hands, history⟩ shown

variable {retrieval} {chunksize : Nat}

section

variable {shared after : Shared} {surroundings : Surroundings} {activity later : Activity}
  {download : Download} {hands rest : Multiset Activity} {shown : Shown} {history : List Event}
  (inside : retrieval.id < shared.operations.length)
  (describes : retrieval.Describes (shared.operation retrieval.id))
  (work : shared.work surroundings activity = some (after, later))

include work

include inside in
/-- The hand that is to finish the download goes on to close the file. -/
lemma finishes_of_follow (follows : activity = .following retrieval.id .finish) :
    shared.Turned after retrieval.id later (shared.operation retrieval.id) []
        {.starting retrieval.id .completeDownload} ∧ after.disk = shared.disk := by
  subst follows
  obtain ⟨hand, turned, goes⟩ := Shared.turned_follow inside .finish surroundings
  have hand : hand = .starting retrieval.id .completeDownload := by
    rcases goes with rfl | ⟨error, rfl, -⟩ <;> rfl
  subst hand
  have disk : (shared.follow retrieval.id .finish surroundings.policy).1.disk = shared.disk := by
    unfold Shared.follow
    dsimp only
    split <;> rfl
  rw [Option.some.inj work] at turned disk
  exact ⟨turned, disk⟩

include describes in
/-- The file is closed: it is kept, or dropped if a part has failed. -/
lemma closes_of_start (set : (shared.operation retrieval.id).download = some download)
    (starts : activity = .starting retrieval.id .completeDownload) :
    after.disk = shared.disk ∧ ∃ hand,
      shared.Turned after retrieval.id later
          { shared.operation retrieval.id with
            download := some { download with file := none } } [] {hand} ∧
        match download.progress.failure with
        | none => hand = .stamping retrieval.id retrieval.path
        | some reason => hand = .discarding retrieval.id retrieval.path (.undone reason) := by
  subst starts
  have started := Option.some.inj work
  simp only [Shared.start, Shared.startFinish, set, describes.fileWritten] at started
  have finished : download.finish =
      (download.progress.failure, { download with file := none }) := rfl
  rw [finished] at started
  cases failure : download.progress.failure with
  | none =>
      rw [failure] at started
      obtain ⟨rfl, rfl⟩ := Prod.mk.inj started
      exact ⟨rfl, _, .of_changed (.ofDownload _) rfl, rfl⟩
  | some reason =>
      rw [failure] at started
      obtain ⟨rfl, rfl⟩ := Prod.mk.inj started
      exact ⟨rfl, _, .of_changed (.ofDownload _) rfl, rfl⟩

include inside describes in
/-- The leading hand closes the file, and keeps or drops it. -/
lemma Finale.turn (set : (shared.operation retrieval.id).download = some download)
    (finale : retrieval.Finale download hands shown history) (alone : hands = {activity})
    (same : shared.disk.shown retrieval.path = shown) :
    ∃ next notes left,
      shared.Turned after retrieval.id later
          { shared.operation retrieval.id with download := some next } notes left ∧
        next.progress = download.progress ∧
          retrieval.Finale next left (after.disk.shown retrieval.path) (notes ++ history) := by
  cases finale with
  | closing leads isOpen quiet first whole unharmed =>
      obtain rfl := Multiset.singleton_inj.1 alone
      rcases leads with rfl | rfl
      · obtain ⟨turned, disk⟩ := finishes_of_follow inside work rfl
        rw [← set_download_same set] at turned
        refine ⟨download, [], _, turned, rfl, ?_⟩
        rw [disk, same]
        exact .closing (.inr rfl) isOpen quiet first whole unharmed
      · obtain ⟨disk, hand, turned, goes⟩ := closes_of_start describes work set rfl
        refine ⟨_, [], _, turned, rfl, ?_⟩
        rw [disk, same]
        cases failure : download.progress.failure with
        | none =>
            rw [failure] at goes
            rw [goes, whole failure]
            exact .kept (.stamping quiet)
        | some reason =>
            rw [failure] at goes unharmed
            rw [goes]
            exact .dropped (fun secured => nomatch unharmed secured)
              (.discarding reason quiet first)
  | kept kept =>
      obtain ⟨notes, left, turned, goes⟩ := kept.turn inside work describes alone same
      rw [← set_download_same set] at turned
      exact ⟨download, notes, left, turned, rfl, .kept goes⟩
  | dropped unsecured dropped =>
      obtain ⟨notes, left, turned, goes⟩ := dropped.turn inside work alone same
      rw [← set_download_same set] at turned
      exact ⟨download, notes, left, turned, rfl, .dropped unsecured goes⟩

end

/-- The hand that leads a retrieval to its end is the one that the end of the download has. -/
lemma Finale.ending {download : Download} {hands : Multiset Activity} {shown : Shown}
    {history : List Event} (finale : retrieval.Finale download hands shown history) :
    Ending retrieval.id true download.file hands (history.filter Event.isSettled) := by
  cases finale with
  | closing leads isOpen quiet first whole unharmed =>
      rw [quiet, isOpen]
      exact .closing _ leads
  | kept kept =>
      cases kept with
      | stamping quiet | ending quiet =>
          rw [quiet]
          exact .closed rfl
      | ended name description quiet =>
          rw [List.filter_cons_of_pos rfl, quiet]
          exact .ended _
  | dropped unsecured dropped =>
      cases dropped with
      | discarding reason quiet first =>
          rw [quiet]
          exact .closed rfl
      | ending reason quiet first =>
          rw [List.filter_cons_of_neg (by simp [Event.isSettled]), quiet]
          exact .closed rfl
      | ended isError quiet first =>
          rw [List.filter_cons_of_pos rfl, List.filter_cons_of_neg (by simp [Event.isSettled]),
            quiet]
          exact .ended _

lemma Finale.role? {download : Download} {hands : Multiset Activity} {shown : Shown}
    {history : List Event} (finale : retrieval.Finale download hands shown history) :
    ∀ hand ∈ hands, hand.role? = none := by
  cases finale with
  | closing leads isOpen quiet first whole unharmed =>
      rcases leads with rfl | rfl <;> exact only_hand rfl
  | kept kept =>
      cases kept with
      | ended => exact no_hand
      | _ => exact only_hand rfl
  | dropped unsecured dropped =>
      cases dropped with
      | ended => exact no_hand
      | _ => exact only_hand rfl

/-- Turns at the parts leave what is to come after them. -/
lemma Finale.congr {download next : Download} {hands : Multiset Activity} {shown : Shown}
    {history : List Event} (finale : retrieval.Finale download hands shown history)
    (file : next.file = download.file)
    (failure : next.progress.failure = none ↔ download.progress.failure = none) :
    retrieval.Finale next hands shown history := by
  cases finale with
  | closing leads isOpen quiet first whole unharmed =>
      exact .closing leads (file.trans isOpen) quiet first (fun sound => whole (failure.1 sound))
        fun secured => failure.2 (unharmed secured)
  | kept kept => exact .kept kept
  | dropped unsecured dropped => exact .dropped unsecured dropped

/-- The parts are carried from the moment at which the file is open. -/
lemma Carrying.begin (file : FileId) :
    retrieval.Carrying chunksize file
      (Download.ofParts (retrieval.parts chunksize) chunksize).progress []
      {.feeding retrieval.id .download} where
  short := Nat.zero_le _
  total := rfl
  deferred := List.forall_mem_nil _
  fits := only_hand (.inl rfl)
  accounted _ _ index _ := .inl (Nat.zero_le index)
  unharmed _ := ⟨rfl, only_hand rfl⟩

/-- What a turn of a hand does to the course of a retrieval in parts. -/
def Arrives (retrieval : Retrieval) (chunksize : Nat) (shared after : Shared)
    (proposed : Option Chore) (later : Activity) (rest : Multiset Activity) : Prop :=
  ∃ operation notes left, shared.Turned after retrieval.id later operation notes left ∧
    retrieval.PartsArrival chunksize
      ⟨operation, proposed, left + rest, notes ++ shared.history retrieval.id⟩
      (after.disk.shown retrieval.path)

section

variable {shared after : Shared} {surroundings : Surroundings} {activity later : Activity}
  {download : Download} {rest : Multiset Activity}
  (cut : 0 < chunksize) (sized : 0 < retrieval.record.size)
  (inside : retrieval.id < shared.operations.length)
  (describes : retrieval.Describes (shared.operation retrieval.id))
  (favours : retrieval.Favours shared surroundings activity)
  (work : shared.work surroundings activity = some (after, later))

include inside describes favours in
/-- The file is opened, or cannot be created. -/
lemma arrives_of_started
    (set : (shared.operation retrieval.id).download =
      some (.ofParts (retrieval.parts chunksize) chunksize))
    (new : shared.history retrieval.id = [])
    (work : shared.work surroundings (.starting retrieval.id .createLocalFile) =
      some (after, later)) :
    retrieval.Arrives chunksize shared after none later 0 := by
  have started := Option.some.inj work
  simp only [Shared.start, Shared.startLocalFile, set, describes.fileWritten] at started
  split at started
  · next file disk created =>
      obtain ⟨rfl, rfl⟩ := Prod.mk.inj started
      refine ⟨_, _, _, .of_changed (.ofNote inside disk rfl (by simp)) rfl, ?_⟩
      have shows : (({ shared with disk := disk } : Shared).note
          (.opened retrieval.id retrieval.path file)).disk.shown retrieval.path =
            .file file [] := Disk.shown_of_openNew created
      rw [shows, new]
      exact .opened describes set
  · next error disk refused =>
      obtain ⟨rfl, rfl⟩ := Prod.mk.inj started
      refine ⟨_, _, _, .of_changed (.onDisk inside disk) rfl, ?_⟩
      rw [new]
      refine .unopened (fun secured => ?_) (.discarding error rfl) (by simp)
      obtain ⟨file, created, opens⟩ := favours.creates secured
      rw [refused] at opens
      cases (Prod.mk.inj opens).1

include cut sized describes in
/-- The file is open: the parts are carried. -/
lemma arrives_of_opened {file : FileId}
    (set : (shared.operation retrieval.id).download =
      some (.ofParts (retrieval.parts chunksize) chunksize))
    (new : shared.history retrieval.id = [.opened retrieval.id retrieval.path file])
    (same : shared.disk.shown retrieval.path = .file file [])
    (work : shared.work surroundings (.reporting retrieval.id (.opened file)) =
      some (after, later)) :
    retrieval.Arrives chunksize shared after none later 0 := by
  have reported := Option.some.inj work
  rw [report_of_download set rfl] at reported
  obtain ⟨rfl, rfl⟩ := Prod.mk.inj reported
  refine ⟨_, [], _, .of_changed (.ofDownload _) rfl, ?_⟩
  rw [new, show (shared.setDownload retrieval.id _).disk = shared.disk from rfl, same]
  exact .carrying ⟨describes.record, describes.store⟩ rfl rfl rfl rfl
    (.begin (Limits.partsNeeded_pos sized cut)) (.begin file) (by simp)

include cut sized inside describes favours work in
/-- A turn while the parts are carried. -/
lemma arrives_of_carrying {file : FileId} {bytes : Bytes}
    (set : (shared.operation retrieval.id).download = some download)
    (chunk : download.chunksize = chunksize) (isOpen : download.file = some file)
    (unclaimed : download.progress.endClaimed = false)
    (same : shared.disk.shown retrieval.path = .file file bytes)
    (loading : Loading (retrieval.parts chunksize) retrieval.id download (activity ::ₘ rest)
      (shared.history retrieval.id))
    (carrying : retrieval.Carrying chunksize file download.progress bytes (activity ::ₘ rest))
    (first : .discarded retrieval.id retrieval.path ∉ shared.history retrieval.id) :
    retrieval.Arrives chunksize shared after none later rest := by
  obtain ⟨-, nobody, gate⟩ := loading.ending.card_le
  have nobody := nobody unclaimed
  have plays : activity.role? ≠ none := by
    intro leading
    rw [leads_cons, if_pos leading] at nobody
    simp at nobody
  have loads := loading.loading activity (Multiset.mem_cons_self activity rest) plays
  obtain ⟨next, notes, left, turn, turned⟩ := downloadTurn_of_work inside set gate loads work
  have still := loading.turn_part loads turn
  obtain ⟨kept, -⟩ := turn.same
  obtain ⟨undiscarded, grown, shows, carried⟩ := carrying.turn cut sized describes set chunk isOpen
    unclaimed favours.sound same favours.room favours.served favours.unbarred loading.accounts turn
  have first : .discarded retrieval.id retrieval.path ∉ notes ++ shared.history retrieval.id :=
    fun present => (List.mem_append.1 present).elim undiscarded first
  have isOpen : next.file = some file := by rw [kept]; exact isOpen
  refine ⟨_, notes, left, turned, ?_⟩
  rw [shows]
  cases carried with
  | on unclaimed carrying =>
      refine .carrying ⟨describes.record, describes.store⟩ rfl ?_ isOpen unclaimed still carrying
        first
      rw [kept]
      exact chunk
  | concluded claimed whole unharmed =>
      have alone : leads ({.following retrieval.id .finish} + rest) =
          {.following retrieval.id .finish} := by
        rw [leads_cons, if_neg plays, zero_add] at nobody
        rw [leads_add, nobody]
        rfl
      have quiet : (notes ++ shared.history retrieval.id).filter Event.isSettled = [] := by
        rw [List.filter_append, turn.not_settled, List.nil_append]
        exact loading.ending.quiet unclaimed
      refine .ending ⟨describes.record, describes.store⟩ rfl claimed still ?_
      rw [alone]
      exact .closing (.inl rfl) isOpen quiet first whole unharmed

section

variable {shown : Shown}
  (set : (shared.operation retrieval.id).download = some download)
  (claimed : download.progress.endClaimed = true)
  (same : shared.disk.shown retrieval.path = shown)
  (loading : Loading (retrieval.parts chunksize) retrieval.id download (activity ::ₘ rest)
    (shared.history retrieval.id))
  (finale : retrieval.Finale download (leads (activity ::ₘ rest)) shown
    (shared.history retrieval.id))

include inside describes work set claimed same loading finale

/-- A turn at the parts after their end has been claimed leaves the hand that has claimed it. -/
lemma arrives_of_late_part (plays : activity.role? ≠ none) :
    retrieval.Arrives chunksize shared after none later rest := by
  have loads := loading.loading activity (Multiset.mem_cons_self activity rest) plays
  obtain ⟨next, notes, left, turn, turned⟩ :=
    downloadTurn_of_work inside set (.inr claimed) loads work
  have still := loading.turn_part loads turn
  obtain ⟨kept, -⟩ := turn.same
  obtain ⟨rfl, disk, stays, failure⟩ := turn.of_claimed claimed loading.accounts
  refine ⟨_, [], left, turned, ?_⟩
  rw [disk, same]
  refine .ending ⟨describes.record, describes.store⟩ rfl stays still ?_
  have leadsLeft : leads (left + rest) = leads (activity ::ₘ rest) := by
    rcases turn.kind loads with ⟨-, stays⟩ | ⟨unclaimed, -⟩
    · have none : leads left = 0 := Multiset.filter_eq_nil.2 fun hand present =>
        Activity.role?_of_isLoading (stays hand present)
      rw [leads_add, none, leads_cons, if_neg plays]
    · rw [claimed] at unclaimed
      cases unclaimed
  rw [leadsLeft]
  exact finale.congr (by rw [kept]) failure

/-- A turn of the hand that has claimed the end of the parts. -/
lemma arrives_of_closing (role : activity.role? = none) :
    retrieval.Arrives chunksize shared after none later rest := by
  have few := loading.ending.card_le.1
  rw [leads_cons, if_pos role, Multiset.card_add, Multiset.card_singleton] at few
  have alone : leads rest = 0 := Multiset.card_eq_zero.1 (by omega)
  rw [leads_cons, if_pos role, alone, add_zero] at finale
  obtain ⟨next, notes, left, turned, progress, goes⟩ :=
    finale.turn inside describes work set rfl same
  refine ⟨_, notes, left, turned, ?_⟩
  have leadsLeft : leads (left + rest) = left := by
    rw [leads_add, alone, add_zero, leads_of_role? goes.role?]
  refine .ending ⟨describes.record, describes.store⟩ rfl (by rw [progress]; exact claimed)
    (loading.turn_lead role alone progress goes.role? ?_) ?_
  · rw [claimed]
    exact goes.ending
  · rw [leadsLeft]
    exact goes

end

end

/-- A turn of a hand goes on with the course of a retrieval in parts. -/
lemma PartsArrival.turn {shared after : Shared} {surroundings : Surroundings}
    {activity later : Activity} {proposed : Option Chore} {rest : Multiset Activity}
    {operation : Operation} {shown : Shown} {history : List Event} (cut : 0 < chunksize)
    (sized : 0 < retrieval.record.size) (inside : retrieval.id < shared.operations.length)
    (subject : shared.operation retrieval.id = operation)
    (past : shared.history retrieval.id = history)
    (same : shared.disk.shown retrieval.path = shown)
    (course : retrieval.PartsArrival chunksize
      ⟨operation, proposed, activity ::ₘ rest, history⟩ shown)
    (favours : retrieval.Favours shared surroundings activity)
    (work : shared.work surroundings activity = some (after, later)) :
    retrieval.Arrives chunksize shared after proposed later rest := by
  generalize had : activity ::ₘ rest = hands at course
  cases course with
  | opening describes set begins =>
      subst subject
      rcases begins with ⟨-, none⟩ | ⟨rfl, one⟩
      · exact absurd (had.trans none) Multiset.cons_ne_zero
      · obtain ⟨rfl, rfl⟩ := (Multiset.singleton_eq_cons_iff rest).1 (had.trans one).symm
        exact arrives_of_started inside describes favours set past work
  | opened describes set =>
      subst subject
      obtain ⟨rfl, rfl⟩ := (Multiset.singleton_eq_cons_iff rest).1 had.symm
      exact arrives_of_opened cut sized describes set past same work
  | unopened unsecured failing silent =>
      have few := failing.card
      rw [← had, Multiset.card_cons] at few
      obtain rfl : rest = 0 := Multiset.card_eq_zero.1 (by omega)
      obtain ⟨notes, left, turned, goes, unopened⟩ := failing.turn inside work had.symm
      refine ⟨_, notes, left, turned, ?_⟩
      rw [add_zero, past]
      exact .unopened unsecured goes fun path file present =>
        (List.mem_append.1 present).elim (unopened path file) (silent path file)
  | carrying describes set chunk isOpen unclaimed loading carrying first =>
      subst subject past had
      exact arrives_of_carrying cut sized inside describes favours work set chunk isOpen unclaimed
        same loading carrying first
  | ending describes set claimed loading finale =>
      subst subject past had
      by_cases role : activity.role? = none
      · exact arrives_of_closing inside describes work set claimed same loading finale role
      · exact arrives_of_late_part inside describes work set claimed same loading finale role

/-- A retrieval in parts that is admitted, or refused by the admission policy. -/
lemma PartsArrival.of_proposed {operation : Operation} {chore : Chore} {hands : Multiset Activity}
    {shown : Shown} {history : List Event}
    (course : retrieval.PartsArrival chunksize ⟨operation, some chore, hands, history⟩ shown) :
    retrieval.PartsArrival chunksize
        ⟨operation, none, .starting retrieval.id chore ::ₘ hands, history⟩ shown ∧
      ∀ message other, ¬retrieval.secured → message.isError = true →
        retrieval.PartsArrival chunksize
          ⟨operation, none, hands, .settled retrieval.id message :: history⟩ other := by
  cases course with
  | opening describes set begins =>
      rcases begins with ⟨chore, rfl⟩ | ⟨none, -⟩
      · obtain rfl := Option.some.inj chore
        refine ⟨.opening describes set (.inr ⟨rfl, rfl⟩), fun message other unsecured isError => ?_⟩
        exact .unopened unsecured (.ended isError rfl) (by simp)
      · cases none

/-- Every step of a run goes on with the retrieval of an object in parts. -/
theorem PartsArrival.step {records : List Record} {run next : Run} {move : Move}
    (cut : 0 < chunksize) (sized : 0 < retrieval.record.size) (sound : run.Sound records)
    (inside : retrieval.id < run.shared.operations.length)
    (course : retrieval.PartsArrival chunksize (run.view retrieval.id)
      (run.shared.disk.shown retrieval.path))
    (meets : retrieval.Meets run move) (step : run.step move = some next)
    (seen : run.Seen next move retrieval.id) :
    retrieval.PartsArrival chunksize (next.view retrieval.id)
      (next.shared.disk.shown retrieval.path) := by
  cases seen with
  | same view other =>
      rw [view, meets.spares other next step]
      exact course
  | admitted chore proposed disk view other =>
      rw [view, disk]
      rw [Run.view, proposed] at course
      exact course.of_proposed.1
  | refused chore error proposed shared view other barred =>
      rw [view]
      rw [Run.view, proposed] at course
      refine course.of_proposed.2 _ _ (fun secured => ?_) (isError_refusal ..)
      obtain ⟨entry, asked, item, refused⟩ := barred
      exact refused (meets.admits secured entry _ asked item)
  | turned activity later rest index actor working own hands work view =>
      rw [Run.view, hands] at course
      obtain ⟨operation, notes, left, turned, goes⟩ := course.turn cut sized inside rfl rfl rfl
        (meets.favours sound actor working own) work
      rw [Run.view_of_turned view turned]
      exact goes

section

variable {view : View} {shown : Shown} (course : retrieval.PartsArrival chunksize view shown)
include course

/-- A retrieval in parts that has succeeded has the whole content in its file. -/
lemma PartsArrival.content (succeeded : retrieval.HasSucceeded view.history) :
    shown.content = .ok retrieval.whole := by
  cases course with
  | opening describes set begins => exact absurd succeeded (not_hasSucceeded rfl)
  | opened describes set => exact absurd succeeded (not_hasSucceeded rfl)
  | unopened unsecured failing silent => exact absurd succeeded failing.not_hasSucceeded
  | carrying describes set chunk isOpen unclaimed loading carrying first =>
      exact absurd succeeded (not_hasSucceeded (loading.ending.quiet unclaimed))
  | ending describes set claimed loading finale =>
      generalize leads _ = leading at finale
      cases finale with
      | closing leads isOpen quiet => exact absurd succeeded (not_hasSucceeded quiet)
      | kept kept => exact kept.content
      | dropped unsecured dropped => exact absurd succeeded dropped.not_hasSucceeded

/-- A secured retrieval in parts has succeeded when its hands have gone. -/
lemma PartsArrival.hasSucceeded (secured : retrieval.secured) (admitted : view.proposed = none)
    (gone : view.hands = 0) : retrieval.HasSucceeded view.history := by
  cases course with
  | opening describes set begins =>
      rcases begins with ⟨proposed, -⟩ | ⟨-, one⟩
      · cases proposed.symm.trans admitted
      · exact absurd (one.symm.trans gone) (Multiset.singleton_ne_zero _)
  | opened describes set => exact absurd gone (Multiset.singleton_ne_zero _)
  | unopened unsecured failing silent => exact absurd secured unsecured
  | carrying describes set chunk isOpen unclaimed loading carrying first =>
      exact absurd gone (loading.accounts.ne_zero unclaimed)
  | ending describes set claimed loading finale =>
      obtain rfl := gone
      generalize none : leads 0 = hands at finale
      cases finale with
      | closing leads isOpen quiet => exact absurd none.symm (Multiset.singleton_ne_zero _)
      | kept kept => exact kept.hasSucceeded none.symm
      | dropped unsecured dropped => exact absurd secured unsecured

/-- When a retrieval in parts has failed after its file was opened, its path leads nowhere, and no
part has been written since the file was removed. -/
lemma PartsArrival.removed {path : LocalPath} {file : FileId} {message : Notice}
    (opened : .opened retrieval.id path file ∈ view.history)
    (settled : .settled retrieval.id message ∈ view.history) (isError : message.isError = true) :
    shown = .nothing ∧ retrieval.Removed view.history := by
  cases course with
  | opening describes set begins => cases opened
  | opened describes set => exact absurd settled (not_settled rfl message)
  | unopened unsecured failing silent => exact absurd opened (silent path file)
  | carrying describes set chunk isOpen unclaimed loading carrying first =>
      exact absurd settled (not_settled (loading.ending.quiet unclaimed) message)
  | ending describes set claimed loading finale =>
      generalize leads _ = leading at finale
      cases finale with
      | closing leads isOpen quiet => exact absurd settled (not_settled quiet message)
      | kept kept =>
          rw [kept.not_isError settled] at isError
          cases isError
      | dropped unsecured dropped => exact dropped.removed settled

end

end Retrieval
end BulkTransfer
