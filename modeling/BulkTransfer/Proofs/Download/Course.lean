import BulkTransfer.Proofs.Download.Turn
import BulkTransfer.Proofs.Planning

/-!
# The course of a download

A download in parts opens its file, then its parts are under way until their end is claimed, and
then one hand closes the file and ends the operation. Every step of a run goes on with the course
(`DownloadCourse.step`).
-/

namespace BulkTransfer

open Pool Multipart

namespace Pool

namespace DownloadTurn

variable {operation : Operation} {id : OperationId} {download next : Download} {disk after : Disk}
  {barred : Nat → Prop} {given : Answer} {activity : Activity} {notes : List Event}
  {left rest : Multiset Activity}

/-- Every turn at the parts keeps their account. -/
lemma accounts
    (turn : DownloadTurn operation id download disk barred given activity next after notes left)
    (accounts : Accounts download.progress (activity ::ₘ rest)) :
    Accounts next.progress (left + rest) := by
  cases turn with
  | queued queueing => exact queueing.accounts accounts
  | skipped closed =>
      simp [Accounts, Activity.role?] at accounts ⊢
      exact accounts.skip closed
  | @entered range file progress later isOpen entered begins =>
      have runs : later.role? = some .runner := by
        rcases begins with ⟨call, -, rfl⟩ | ⟨error, -, rfl⟩ <;> rfl
      have holds : (Activity.starting id (.downloadPart range)).role? = some .holder := rfl
      simp [Accounts, holds, runs] at accounts ⊢
      exact accounts.enter entered
  | sent | fetched | unfetched | waited | wrote | unwritten | broken | written =>
      simp [Accounts, Activity.role?] at accounts ⊢
      exact accounts
  | done pending =>
      simp [Accounts, Activity.role?] at accounts ⊢
      exact accounts.finish pending
  | doneLast last =>
      simp [Accounts, Activity.role?] at accounts ⊢
      exact accounts.finishLast last
  | @lost error began pending =>
      have settled : (download.progress.partLost error.message began).settled =
          download.progress.partLost error.message began := by rw [Progress.settled, pending]; rfl
      cases began with
      | true =>
          simp [Accounts] at accounts ⊢
          rw [← settled]
          exact accounts.lose
      | false =>
          simp [Accounts] at accounts ⊢
          rw [← settled]
          exact accounts.report
  | @lostLast error began progress last =>
      have settled : (download.progress.partLost error.message began).settled = progress := by
        rw [Progress.settled, last]; rfl
      cases began with
      | true =>
          simp [Accounts, Activity.role?] at accounts ⊢
          rw [← settled]
          exact accounts.lose
      | false =>
          simp [Accounts, Activity.role?] at accounts ⊢
          rw [← settled]
          exact accounts.report

/-- A turn at the parts leaves hands at the parts, or claims the end of the parts. -/
lemma kind
    (turn : DownloadTurn operation id download disk barred given activity next after notes left)
    (loading : activity.isLoading id) :
    (next.progress.endClaimed = download.progress.endClaimed ∧
        ∀ hand ∈ left, hand.isLoading id) ∨
      download.progress.endClaimed = false ∧ next.progress.endClaimed = true ∧
        left = {.following id .finish} := by
  cases turn with
  | queued queueing =>
      refine .inl ⟨queueing.failure.2.1, ?_⟩
      cases queueing with
      | accepted index =>
          simp only [Multiset.insert_eq_cons, Multiset.mem_cons, Multiset.mem_singleton]
          rintro hand (rfl | rfl)
          · exact ⟨rfl, rfl⟩
          · exact rfl
      | forced index => exact only_hand rfl
      | nothingLeft | takenBack => exact no_hand
      | _ => exact only_hand ⟨rfl, rfl⟩
  | skipped closed => exact .inl ⟨rfl, no_hand⟩
  | entered isOpen entered begins =>
      obtain ⟨-, -, rfl⟩ := Progress.of_enter? entered
      refine .inl ⟨rfl, only_hand ?_⟩
      rcases begins with ⟨call, -, rfl⟩ | ⟨error, -, rfl⟩
      · exact rfl
      · exact ⟨rfl, rfl⟩
  | sent | fetched | waited | wrote | written | done =>
      refine .inl ⟨rfl, only_hand ?_⟩
      simp [Activity.isLoading]
  | unfetched | unwritten | broken => exact .inl ⟨rfl, only_hand ⟨rfl, rfl⟩⟩
  | doneLast last | lostLast last =>
      obtain ⟨unclaimed, -, rfl⟩ := Progress.of_claimEnd? last
      exact .inr ⟨unclaimed, rfl, rfl⟩
  | lost pending => exact .inl ⟨rfl, no_hand⟩

/-- What no turn at the parts changes. -/
lemma same
    (turn : DownloadTurn operation id download disk barred given activity next after notes left) :
    next = { download with progress := next.progress } ∧
      next.progress.total = download.progress.total := by
  cases turn with
  | queued queueing => exact ⟨rfl, queueing.failure.2.2⟩
  | entered isOpen entered begins =>
      obtain ⟨-, -, rfl⟩ := Progress.of_enter? entered
      exact ⟨rfl, rfl⟩
  | doneLast last | lostLast last =>
      obtain ⟨-, -, rfl⟩ := Progress.of_claimEnd? last
      exact ⟨rfl, rfl⟩
  | _ => exact ⟨rfl, rfl⟩

/-- No turn at the parts ends the operation. -/
lemma not_settled
    (turn : DownloadTurn operation id download disk barred given activity next after notes left) :
    notes.filter Event.isSettled = [] := by
  cases turn <;> rfl

end DownloadTurn

/-- How a download opens its file: the proposed first task, its hands and its history. -/
inductive FileOpening (id : OperationId) :
    Option Chore → Multiset Activity → List Event → Prop where
  | proposed : FileOpening id (some .createLocalFile) 0 []
  | started : FileOpening id none {.starting id .createLocalFile} []
  | opened (path : LocalPath) (file : FileId) :
      FileOpening id none {.reporting id (.opened file)} [.opened id path file]

/-- How the claimed end of the parts and the file of a download agree with its leading hand and
with how often it has ended. -/
inductive Ending (id : OperationId) :
    Bool → Option FileId → Multiset Activity → List Event → Prop where
  | parts (file : FileId) : Ending id false (some file) 0 []
  | closing (file : FileId) {lead : Activity}
      (leads : lead = .following id .finish ∨ lead = .starting id .completeDownload) :
      Ending id true (some file) {lead} []
  | closed {file : Option FileId} {lead : Activity} (sole : lead.isSole = true) :
      Ending id true file {lead} []
  | ended {file : Option FileId} (message : Notice) :
      Ending id true file 0 [.settled id message]

/-- What holds of a download from the opening of its file to its end. -/
structure Loading (parts : Nat) (id : OperationId) (download : Download)
    (hands : Multiset Activity) (history : List Event) : Prop where
  total : download.progress.total = parts
  loading : ∀ hand ∈ hands, hand.role? ≠ none → hand.isLoading id
  accounts : Accounts download.progress hands
  ending : Ending id download.progress.endClaimed download.file (leads hands)
    (history.filter Event.isSettled)

/-- How far a download is. -/
inductive DownloadStage (parts : Nat) (id : OperationId) (view : View) : Prop where
  | opening {chunksize : Nat}
      (set : view.operation.download = some (Download.ofParts parts chunksize))
      (opening : FileOpening id view.proposed view.hands view.history)
  | unopened (admitted : view.proposed = none) (alone : SoleCourse id view.hands view.history)
  | loading {download : Download} (set : view.operation.download = some download)
      (admitted : view.proposed = none)
      (loading : Loading parts id download view.hands view.history)

/-- What holds of a download at any time. -/
structure DownloadCourse (parts : Nat) (record : Record) (id : OperationId) (view : View) :
    Prop where
  described : view.operation.record = record
  stage : DownloadStage parts id view

lemma Activity.role?_of_isLoading {id : OperationId} {hand : Activity}
    (loading : hand.isLoading id) : hand.role? ≠ none := by
  cases hand
  case starting chore =>
    cases chore <;> first | exact False.elim loading | exact Option.some_ne_none _
  case sending errand _ _ =>
    cases errand <;> first | exact False.elim loading | exact Option.some_ne_none _
  case awaiting errand _ _ =>
    cases errand <;> first | exact False.elim loading | exact Option.some_ne_none _
  case writing extent _ _ _ _ =>
    cases extent <;> first | exact False.elim loading | exact Option.some_ne_none _
  case reporting report =>
    cases report <;> first | exact False.elim loading | exact Option.some_ne_none _
  all_goals first | exact False.elim loading | exact Option.some_ne_none _

/-- A download has at most one leading hand, and none while its parts are under way. -/
lemma Ending.card_le {id : OperationId} {claimed : Bool} {file : Option FileId}
    {leads : Multiset Activity} {ends : List Event} (ending : Ending id claimed file leads ends) :
    leads.card ≤ 1 ∧ (claimed = false → leads = 0) ∧ (file.isSome ∨ claimed = true) := by
  cases ending <;> simp

/-- A download whose parts are under way has not ended. -/
lemma Ending.quiet {id : OperationId} {claimed : Bool} {file : Option FileId}
    {leads : Multiset Activity} {ends : List Event} (ending : Ending id claimed file leads ends)
    (unclaimed : claimed = false) : ends = [] := by
  cases ending with
  | parts => rfl
  | _ => cases unclaimed

namespace Loading

/-- The parts of a download are under way once its file is open. -/
lemma begin {parts chunksize : Nat} {id : OperationId} {path : LocalPath} {file : FileId}
    (several : 0 < parts) :
    Loading parts id ((Download.ofParts parts chunksize).opened file) {.feeding id .download}
      [.opened id path file] where
  total := rfl
  loading := only_hand fun _ => ⟨rfl, rfl⟩
  accounts := by
    have begun : Ledger (Download.ofParts parts chunksize).progress 1 0 0 0 :=
      .begin rfl rfl rfl rfl rfl rfl rfl several
    simp only [Accounts, playing_singleton, Activity.role?_feeding]
    exact begun
  ending := .parts file

variable {parts : Nat} {id : OperationId} {download next : Download} {activity : Activity}
  {rest left : Multiset Activity} {history notes : List Event}

/-- A turn at the parts of a download under way. -/
lemma turn_part {operation : Operation} {disk after : Disk} {barred : Nat → Prop}
    {given : Answer} (loading : Loading parts id download (activity ::ₘ rest) history)
    (loads : activity.isLoading id)
    (turn : DownloadTurn operation id download disk barred given activity next after notes left) :
    Loading parts id next (left + rest) (notes ++ history) := by
  obtain ⟨total, others, accounts, ending⟩ := loading
  obtain ⟨same, sameTotal⟩ := turn.same
  have plays := Activity.role?_of_isLoading loads
  have leadsRest : leads (activity ::ₘ rest) = leads rest := by simp [plays]
  rw [leadsRest] at ending
  have restLoading (hand : Activity) (present : hand ∈ rest) (role : hand.role? ≠ none) :
      hand.isLoading id := others hand (Multiset.mem_cons_of_mem present) role
  have ends : (notes ++ history).filter Event.isSettled = history.filter Event.isSettled := by
    rw [List.filter_append, turn.not_settled, List.nil_append]
  have sameFile : next.file = download.file := by rw [same]
  rcases turn.kind loads with ⟨sameClaim, leftLoading⟩ | ⟨unclaimed, claimed, rfl⟩
  · have leadsLeft : leads left = 0 := Multiset.filter_eq_nil.2 fun hand present =>
      Activity.role?_of_isLoading (leftLoading hand present)
    refine ⟨sameTotal.trans total, ?_, turn.accounts accounts, ?_⟩
    · intro hand present role
      exact (Multiset.mem_add.1 present).elim (leftLoading hand) (restLoading hand · role)
    · rw [leads_add, leadsLeft, zero_add, ends, sameClaim, sameFile]
      exact ending
  · refine ⟨sameTotal.trans total, ?_, turn.accounts accounts, ?_⟩
    · intro hand present role
      rcases Multiset.mem_add.1 present with new | old
      · rw [Multiset.mem_singleton.1 new] at role
        exact absurd rfl role
      · exact restLoading hand old role
    · rw [leads_add, ends, sameFile, claimed]
      rw [unclaimed] at ending
      generalize download.file = file, leads rest = leading,
        history.filter Event.isSettled = ended at ending
      cases ending with
      | parts file => exact .closing file (.inl rfl)

/-- A turn of the leading hand of a download whose parts have ended. -/
lemma turn_lead (loading : Loading parts id download (activity ::ₘ rest) history)
    (lead : activity.role? = none) (alone : leads rest = 0)
    (progress : next.progress = download.progress)
    (newLeads : ∀ hand ∈ left, hand.role? = none)
    (ending : Ending id download.progress.endClaimed next.file left
      ((notes ++ history).filter Event.isSettled)) :
    Loading parts id next (left + rest) (notes ++ history) := by
  obtain ⟨total, others, accounts, -⟩ := loading
  constructor
  case total => rw [progress]; exact total
  case loading =>
    intro hand present role
    rcases Multiset.mem_add.1 present with new | old
    · exact absurd (newLeads hand new) role
    · exact others hand (Multiset.mem_cons_of_mem old) role
  case accounts =>
    rw [progress]
    exact accounts.lead lead newLeads
  case ending =>
    rw [leads_add, leads_of_role? newLeads, alone, add_zero, progress]
    exact ending

end Loading

/-- What a turn of a hand does to the course of a download. -/
def Shared.Loads (shared after : Shared) (parts : Nat) (record : Record) (id : OperationId)
    (proposed : Option Chore) (later : Activity) (rest : Multiset Activity) : Prop :=
  ∃ operation notes left, shared.Turned after id later operation notes left ∧
    DownloadCourse parts record id ⟨operation, proposed, left + rest, notes ++ shared.history id⟩

/-- What a turn of the leading hand of a download under way does. -/
def Shared.Leads (shared after : Shared) (id : OperationId) (download : Download) (claimed : Bool)
    (ends : List Event) (later : Activity) : Prop :=
  ∃ next notes left,
    shared.Turned after id later { shared.operation id with download := some next } notes left ∧
      next.progress = download.progress ∧ (∀ hand ∈ left, hand.role? = none) ∧
        Ending id claimed next.file left (notes.filter Event.isSettled ++ ends)

section

open Shared

variable {parts : Nat} {record : Record} {id : OperationId} {shared after : Shared}
  {surroundings : Surroundings} {activity later : Activity}
  (inside : id < shared.operations.length)
  (described : (shared.operation id).record = record)

include inside described in
/-- The hand that is to open the file opens it, or goes on alone to the end. -/
lemma loads_of_started {chunksize : Nat}
    (set : (shared.operation id).download = some (Download.ofParts parts chunksize))
    (new : shared.history id = [])
    (work : shared.work surroundings (.starting id .createLocalFile) = some (after, later)) :
    shared.Loads after parts record id none later 0 := by
  have alone {hand : Activity} (sole : hand.isSole = true)
      (turned : shared.Turned after id later (shared.operation id) [] {hand}) :
      shared.Loads after parts record id none later 0 := by
    refine ⟨_, [], _, turned, described, .unopened rfl ?_⟩
    rw [new]
    exact .on sole (List.forall_mem_nil _)
  have started := Option.some.inj work
  simp only [start, startLocalFile, set] at started
  split at started
  · next none => cases none
  · obtain ⟨rfl, rfl⟩ := Prod.mk.inj started
    exact alone rfl (.stay inside rfl)
  · next state path _ written =>
      split at started
      · next file disk created =>
          obtain ⟨rfl, rfl⟩ := Prod.mk.inj started
          refine ⟨_, _, _, .of_changed (.ofNote inside disk rfl (by simp)) rfl, described,
            .opening set ?_⟩
          rw [new]
          exact .opened path file
      · next error disk refused =>
          obtain ⟨rfl, rfl⟩ := Prod.mk.inj started
          exact alone rfl (.of_changed (.onDisk inside disk) rfl)

include described in
/-- The file is open: the parts are under way. -/
lemma loads_of_opened {chunksize : Nat} {path : LocalPath} {file : FileId} (several : 0 < parts)
    (set : (shared.operation id).download = some (Download.ofParts parts chunksize))
    (new : shared.history id = [.opened id path file])
    (work : shared.work surroundings (.reporting id (.opened file)) = some (after, later)) :
    shared.Loads after parts record id none later 0 := by
  have reported := Option.some.inj work
  rw [report_of_download set rfl] at reported
  obtain ⟨rfl, rfl⟩ := Prod.mk.inj reported
  refine ⟨_, [], _, .of_changed (.ofDownload _) rfl, described, .loading rfl rfl ?_⟩
  rw [add_zero, new]
  exact .begin several

include inside in
/-- A leading hand that goes on alone does so to the end of the operation. -/
lemma leads_of_sole {download : Download} (own : activity.operation? = some id)
    (set : (shared.operation id).download = some download) (sole : activity.isSole = true)
    (work : shared.work surroundings activity = some (after, later)) :
    shared.Leads after id download true [] later := by
  obtain ⟨notes, left, turn, turned⟩ := sole_of_work inside own sole work
  rw [← set_download_same set] at turned
  cases turn with
  | @on notes later soleLater plain =>
      have silent : notes.filter Event.isSettled = [] := by
        refine List.filter_eq_nil_iff.2 fun event present => ?_
        simp [event.isSettled_of_isPlain (plain event present)]
      refine ⟨download, notes, {later}, turned, rfl,
        only_hand (Activity.role?_of_isSole soleLater), ?_⟩
      rw [silent]
      exact .closed soleLater
  | concluded settles => exact ⟨download, _, 0, turned, rfl, no_hand, .ended _⟩

include inside in
/-- The hand that has claimed the end of the parts goes on to close the file. -/
lemma leads_of_follow {download : Download} {file : FileId}
    (set : (shared.operation id).download = some download) (isOpen : download.file = some file)
    (work : shared.work surroundings (.following id .finish) = some (after, later)) :
    shared.Leads after id download true [] later := by
  obtain ⟨hand, turned, goes⟩ := turned_follow inside .finish surroundings
  rw [Option.some.inj work, ← set_download_same set] at turned
  have hand : hand = .starting id .completeDownload := by
    rcases goes with rfl | ⟨error, rfl, -⟩ <;> rfl
  subst hand
  refine ⟨download, [], _, turned, rfl, only_hand rfl, ?_⟩
  rw [isOpen]
  exact .closing _ (.inr rfl)

include inside in
/-- The hand that closes the file goes on alone. -/
lemma leads_of_finish {download : Download}
    (set : (shared.operation id).download = some download)
    (work : shared.work surroundings (.starting id .completeDownload) = some (after, later)) :
    shared.Leads after id download true [] later := by
  have alone {next : Download} {hand : Activity} (sole : hand.isSole = true)
      (same : next.progress = download.progress)
      (turned : shared.Turned after id later
        { shared.operation id with download := some next } [] {hand}) :
      shared.Leads after id download true [] later :=
    ⟨next, [], _, turned, same, only_hand (Activity.role?_of_isSole sole), .closed sole⟩
  have started := Option.some.inj work
  simp only [start, startFinish, set] at started
  split at started
  · next none => cases none
  · obtain ⟨rfl, rfl⟩ := Prod.mk.inj started
    exact alone rfl rfl (turned_stayDownload inside set rfl)
  · next download' path set' written =>
      obtain rfl := Option.some.inj set'
      have finished : download.finish =
          (download.progress.failure, { download with file := none }) := rfl
      have same : Download.progress { download with file := none } = download.progress := rfl
      cases failure : download.progress.failure with
      | none =>
          rw [finished, failure] at started
          obtain ⟨rfl, rfl⟩ := Prod.mk.inj started
          exact alone rfl same (.of_changed (.ofDownload _) rfl)
      | some reason =>
          rw [finished, failure] at started
          obtain ⟨rfl, rfl⟩ := Prod.mk.inj started
          exact alone rfl same (.of_changed (.ofDownload _) rfl)

include inside in
/-- A turn of the leading hand of a download under way. -/
lemma leads_of_ending {download : Download} {ends : List Event}
    (own : activity.operation? = some id) (set : (shared.operation id).download = some download)
    (ending : Ending id download.progress.endClaimed download.file {activity} ends)
    (work : shared.work surroundings activity = some (after, later)) :
    shared.Leads after id download download.progress.endClaimed ends later := by
  generalize lead : ({activity} : Multiset Activity) = leads' at ending
  generalize download.progress.endClaimed = claimed, isOpen : download.file = file at ending
  cases ending with
  | parts => exact absurd lead (Multiset.singleton_ne_zero activity)
  | ended => exact absurd lead (Multiset.singleton_ne_zero activity)
  | closed sole =>
      obtain rfl := Multiset.singleton_inj.1 lead
      exact leads_of_sole inside own set sole work
  | closing file leads =>
      obtain rfl := Multiset.singleton_inj.1 lead
      rcases leads with rfl | rfl
      · exact leads_of_follow inside set isOpen work
      · exact leads_of_finish inside set work

include inside described in
/-- A turn of a hand at a download under way. -/
lemma loads_of_loading {download : Download} {rest : Multiset Activity}
    (own : activity.operation? = some id) (set : (shared.operation id).download = some download)
    (loading : Loading parts id download (activity ::ₘ rest) (shared.history id))
    (work : shared.work surroundings activity = some (after, later)) :
    shared.Loads after parts record id none later rest := by
  obtain ⟨few, -, gate⟩ := loading.ending.card_le
  cases role : activity.role? with
  | some played =>
      have plays : activity.role? ≠ none := by rw [role]; exact Option.some_ne_none played
      have loads := loading.loading activity (Multiset.mem_cons_self activity rest) plays
      obtain ⟨next, notes, left, turn, turned⟩ := downloadTurn_of_work inside set gate loads work
      exact ⟨_, notes, left, turned, described, .loading rfl rfl (loading.turn_part loads turn)⟩
  | none =>
      obtain ⟨leading, alone⟩ := leads_of_card_le role few
      have ending := loading.ending
      rw [leading] at ending
      obtain ⟨next, notes, left, turned, progress, newLeads, goes⟩ :=
        leads_of_ending inside own set ending work
      rw [← List.filter_append] at goes
      exact ⟨_, notes, left, turned, described,
        .loading rfl rfl (loading.turn_lead role alone progress newLeads goes)⟩

end

/-- A turn of a hand goes on with the course of a download. -/
lemma DownloadCourse.turn {parts : Nat} {record : Record} {id : OperationId}
    {shared after : Shared} {surroundings : Surroundings} {activity later : Activity}
    {proposed : Option Chore} {rest : Multiset Activity}
    (course : DownloadCourse parts record id
      ⟨shared.operation id, proposed, activity ::ₘ rest, shared.history id⟩)
    (inside : id < shared.operations.length) (several : 0 < parts)
    (own : activity.operation? = some id)
    (work : shared.work surroundings activity = some (after, later)) :
    shared.Loads after parts record id proposed later rest := by
  obtain ⟨described, stage⟩ := course
  cases stage with
  | @opening chunksize set opening =>
      generalize hands : activity ::ₘ rest = hands', new : shared.history id = history at opening
      cases opening with
      | proposed => exact absurd hands Multiset.cons_ne_zero
      | started =>
          obtain ⟨rfl, rfl⟩ := (Multiset.singleton_eq_cons_iff rest).1 hands.symm
          exact loads_of_started inside described set new work
      | opened path file =>
          obtain ⟨rfl, rfl⟩ := (Multiset.singleton_eq_cons_iff rest).1 hands.symm
          exact loads_of_opened described several set new work
  | unopened admitted alone =>
      obtain rfl : proposed = none := admitted
      have only : rest = 0 := by
        generalize hands : activity ::ₘ rest = hands', shared.history id = history at alone
        cases alone with
        | on sole plain => exact ((Multiset.singleton_eq_cons_iff rest).1 hands.symm).2
        | concluded message plain => exact absurd hands Multiset.cons_ne_zero
      subst only
      obtain ⟨notes, left, turn, turned⟩ :=
        Shared.sole_of_work inside own (SoleCourse.isSole alone) work
      refine ⟨_, notes, left, turned, described, .unopened rfl ?_⟩
      rw [add_zero]
      exact SoleCourse.turn alone turn
  | loading set admitted loading =>
      obtain rfl : proposed = none := admitted
      exact loads_of_loading inside described own set loading work

/-- A download that is admitted, or refused by the admission policy. -/
lemma DownloadCourse.of_proposed {parts : Nat} {record : Record} {id : OperationId}
    {operation : Operation} {chore : Chore} {hands : Multiset Activity} {history : List Event}
    (course : DownloadCourse parts record id ⟨operation, some chore, hands, history⟩)
    (message : Notice) :
    DownloadCourse parts record id ⟨operation, none, .starting id chore ::ₘ hands, history⟩ ∧
      DownloadCourse parts record id ⟨operation, none, hands, .settled id message :: history⟩ := by
  obtain ⟨described, stage⟩ := course
  cases stage with
  | @opening chunksize set opening =>
      generalize proposed : some chore = proposed' at opening
      cases opening with
      | proposed =>
          obtain rfl := Option.some.inj proposed
          have alone : SoleCourse id 0 [.settled id message] :=
            .concluded message (List.forall_mem_nil _)
          exact ⟨⟨described, .opening set .started⟩, ⟨described, .unopened rfl alone⟩⟩
      | _ => cases proposed
  | unopened admitted => cases admitted
  | loading set admitted => cases admitted

end Pool

/-- Every step of a run goes on with the course of a download. -/
theorem Pool.DownloadCourse.step {parts : Nat} {record : Record} {id : OperationId}
    {run next : Run} {move : Move} (course : DownloadCourse parts record id (run.view id))
    (inside : id < run.shared.operations.length) (several : 0 < parts)
    (seen : run.Seen next move id) : DownloadCourse parts record id (next.view id) := by
  cases seen with
  | same view other => rw [view]; exact course
  | admitted chore proposed disk view other =>
      rw [view]
      rw [Run.view, proposed] at course
      exact (course.of_proposed (.warning "")).1
  | refused chore error proposed shared view other =>
      rw [view]
      rw [Run.view, proposed] at course
      exact (course.of_proposed _).2
  | turned activity later rest index actor working own hands work view =>
      rw [Run.view, hands] at course
      obtain ⟨operation, notes, left, turned, goes⟩ := course.turn inside several own work
      rw [Run.view_of_turned view turned]
      exact goes

end BulkTransfer
