import BulkTransfer.Proofs.Download.Course
import BulkTransfer.Proofs.Download.Written

/-!
# What is written of a part

The pieces in which the body of a part is written follow one another from the first byte of the part
on (`Laid`). What a hand at a part knows of them depends on how far it is: nothing has been written
of a part that is queued or fetched, as much of the body as was delivered of one that is being
written, and all of it once the part is reported (`Activity.Fills`). Every turn at the parts of a
download keeps this for the whole of them (`Filling.turn`), because no two hands have the same part.
-/

namespace BulkTransfer

open Pool Multipart

namespace Pool

/-- What an event has written of a part: to which file, from which byte on, and what. -/
def Event.piece? (range : PartSpan) : Event → Option (FileId × Nat × Bytes)
  | .wrote _ (.part own) file offset bytes =>
      if own = range then some (file, offset, bytes) else none
  | _ => none

/-- What was written of a part, latest first. -/
def piecesOf (range : PartSpan) (history : List Event) : List (FileId × Nat × Bytes) :=
  history.filterMap (Event.piece? range)

/-- Whether pieces, latest first, were written to a file one after the other from a first byte on,
and which bytes they are together. -/
inductive Laid (file : FileId) (first : Nat) : List (FileId × Nat × Bytes) → Bytes → Prop where
  | nothing : Laid file first [] []
  | more {pieces : List (FileId × Nat × Bytes)} {bytes : Bytes}
      (laid : Laid file first pieces bytes) (piece : Bytes) :
      Laid file first ((file, first + bytes.length, piece) :: pieces) (bytes ++ piece)

/-- Whether a call to a store asks for just the range of a part of the source. -/
def Operation.Requests (operation : Operation) (range : PartSpan) (store : StoreName)
    (call : Call) : Prop :=
  ∃ object, operation.record.source = .object object ∧ store = operation.sourceStore ∧
    call = .getObject object (some range.openHeader)

/-- Whether a request for a part was answered with a body. -/
def Fetched (operation : Operation) (id : OperationId) (range : PartSpan) (body : Reader)
    (history : List Event) : Prop :=
  ∃ store call, operation.Requests range store call ∧
    .answered store id call (.reply (.object (some body))) ∈ history

/-- Whether `bytes` have been written of a part to a file, `rest` being what is left of its body. -/
structure Arriving (operation : Operation) (id : OperationId) (file : FileId) (range : PartSpan)
    (bytes : Bytes) (rest : Reader) (history : List Event) : Prop where
  isOpen : ∃ path, .opened id path file ∈ history
  laid : Laid file range.first (piecesOf range history) bytes
  body : ∃ body, Fetched operation id range body history ∧
    body.delivered = bytes ++ rest.delivered ∧ body.failure? = rest.failure?

/-- Whether the whole body of a part has been written to a file. -/
def Filled (operation : Operation) (id : OperationId) (file : FileId) (range : PartSpan)
    (history : List Event) : Prop :=
  ∃ bytes, Arriving operation id file range bytes [] history

/-- Whether what was written of the part of a hand is what the hand has come to. -/
def Activity.Fills (operation : Operation) (spans : Nat → PartSpan) (id : OperationId)
    (file : FileId) (history : List Event) : Activity → Prop
  | .offering _ .download index | .deferring _ .download index | .forcing _ .download index =>
      piecesOf (spans index) history = []
  | .starting _ (.downloadPart range) => piecesOf range history = []
  | .sending _ (.fetchPart range own) store call | .awaiting _ (.fetchPart range own) store call =>
      piecesOf range history = [] ∧ own = file ∧ (∃ path, .opened id path file ∈ history) ∧
        operation.Requests range store call
  | .writing _ (.part range) _ own offset rest =>
      own = file ∧ ∃ bytes, offset = range.first + bytes.length ∧
        Arriving operation id file range bytes rest history
  | .reporting _ (.partWritten range) => Filled operation id file range history
  | _ => True

lemma piecesOf_append (range : PartSpan) (notes history : List Event) :
    piecesOf range (notes ++ history) = piecesOf range notes ++ piecesOf range history :=
  List.filterMap_append

section

variable {operation : Operation} {spans : Nat → PartSpan} {id : OperationId} {file : FileId}
  {range : PartSpan} {bytes : Bytes} {rest : Reader} {history notes : List Event}

lemma Fetched.append {body : Reader} (fetched : Fetched operation id range body history)
    (notes : List Event) : Fetched operation id range body (notes ++ history) := by
  obtain ⟨store, call, requests, answered⟩ := fetched
  exact ⟨store, call, requests, List.mem_append_right notes answered⟩

/-- What is written elsewhere is nothing to a part. -/
lemma Arriving.append (arriving : Arriving operation id file range bytes rest history)
    (elsewhere : piecesOf range notes = []) :
    Arriving operation id file range bytes rest (notes ++ history) := by
  obtain ⟨⟨path, opened⟩, laid, body, fetched, delivers, fails⟩ := arriving
  refine ⟨⟨path, List.mem_append_right notes opened⟩, ?_, body, fetched.append notes, delivers,
    fails⟩
  rw [piecesOf_append, elsewhere, List.nil_append]
  exact laid

lemma Filled.append (filled : Filled operation id file range history)
    (elsewhere : piecesOf range notes = []) :
    Filled operation id file range (notes ++ history) := by
  obtain ⟨bytes, arriving⟩ := filled
  exact ⟨bytes, arriving.append elsewhere⟩

lemma Activity.Fills.append {hand : Activity}
    (fills : hand.Fills operation spans id file history)
    (elsewhere : ∀ range, hand.loads? spans = some range → piecesOf range notes = []) :
    hand.Fills operation spans id file (notes ++ history) := by
  have blank {range : PartSpan} (has : hand.loads? spans = some range)
      (unwritten : piecesOf range history = []) : piecesOf range (notes ++ history) = [] := by
    rw [piecesOf_append, elsewhere range has, unwritten]
    rfl
  cases hand
  case offering own side index | deferring own side index | forcing own side index =>
    cases side with
    | upload => trivial
    | download => exact blank rfl fills
  case starting own chore =>
    cases chore
    case downloadPart range => exact blank rfl fills
    all_goals trivial
  case sending own errand store call | awaiting own errand store call =>
    cases errand
    case fetchPart range own =>
      obtain ⟨unwritten, same, ⟨path, opened⟩, requests⟩ := fills
      exact ⟨blank rfl unwritten, same, ⟨path, List.mem_append_right notes opened⟩, requests⟩
    all_goals trivial
  case writing own extent path target offset rest =>
    cases extent with
    | whole => trivial
    | part range =>
        obtain ⟨same, bytes, offset, arriving⟩ := fills
        exact ⟨same, bytes, offset, arriving.append (elsewhere range rfl)⟩
  case reporting own report =>
    cases report
    case partWritten range => exact Filled.append fills (elsewhere range rfl)
    all_goals trivial
  all_goals trivial

/-- A hand without a part has nothing to know of it. -/
lemma Activity.fills_of_loads? {hand : Activity} (none : hand.loads? spans = none) :
    hand.Fills operation spans id file history := by
  cases hand
  case offering side _ | deferring side _ | forcing side _ =>
    cases side with
    | upload => trivial
    | download => cases none
  case starting chore => cases chore <;> trivial
  case sending errand _ _ => cases errand <;> trivial
  case awaiting errand _ _ => cases errand <;> trivial
  case writing extent _ _ _ _ => cases extent <;> trivial
  case reporting report => cases report <;> trivial
  all_goals trivial

end

/-- A part that a hand has is no part of another hand, none that was reported, put back, or not
handed out yet. -/
lemma Places.apart {spans : Nat → PartSpan} {id : OperationId} {done : List Activity}
    {progress : Progress} {activity : Activity} {rest : Multiset Activity} {range : PartSpan}
    (places : Places spans id done progress (activity ::ₘ rest))
    (numbered : ∀ index, (spans index).number = index + 1)
    (has : activity.loads? spans = some range) :
    (∀ other ∈ gather (Activity.loads? spans) rest + reported done, other ≠ range) ∧
      ∀ index, index ∈ progress.deferred ∨ progress.next ≤ index → spans index ≠ range := by
  obtain ⟨distinct, within⟩ := places.issued
  rw [gather_cons, has, Option.elim_some, Multiset.singleton_add, Multiset.cons_add,
    Multiset.map_cons, Multiset.add_cons, Multiset.nodup_cons] at distinct
  have alone := distinct.1
  rw [Multiset.mem_add, not_or] at alone
  have bound := within range.number (Multiset.mem_add.2 (.inr (Multiset.mem_map_of_mem _
    (Multiset.mem_add.2 (.inl ((Multiset.mem_filterMap _ _).2
      ⟨activity, Multiset.mem_cons_self activity rest, has⟩))))))
  constructor
  · rintro other present rfl
    exact alone.2 (Multiset.mem_map_of_mem _ present)
  · rintro index unissued rfl
    rw [numbered] at alone bound
    rcases unissued with back | later
    · exact alone.1 (Multiset.mem_coe.2 (List.mem_map_of_mem back))
    · omega

/-- Whether what was written of each part of a download is what has become of the part, its file
being `file` once it is open. -/
structure Filling (operation : Operation) (spans : Nat → PartSpan) (id : OperationId)
    (file : FileId) (done : List Activity) (download : Download) (hands : Multiset Activity)
    (history : List Event) : Prop where
  isOpen : ∀ other, download.file = some other →
    other = file ∧ ∃ path, .opened id path file ∈ history
  hands : ∀ hand ∈ hands, hand.Fills operation spans id file history
  whole : ∀ range ∈ reported done, Filled operation id file range history
  fresh : ∀ index, index ∈ download.progress.deferred ∨ download.progress.next ≤ index →
    piecesOf (spans index) history = []

namespace Filling

variable {planned : Operation} {spans : Nat → PartSpan} {id : OperationId} {file : FileId}
  {done : List Activity} {download next : Download} {activity : Activity}
  {rest left : Multiset Activity} {history notes : List Event}

/-- What happens elsewhere. -/
lemma aside {hands : Multiset Activity}
    (filling : Filling planned spans id file done download hands history)
    (unwritten : ∀ range, piecesOf range notes = []) :
    Filling planned spans id file done download hands (notes ++ history) := by
  constructor
  case isOpen =>
    intro other opens
    obtain ⟨same, path, opened⟩ := filling.isOpen other opens
    exact ⟨same, path, List.mem_append_right notes opened⟩
  case hands =>
    exact fun hand present => (filling.hands hand present).append fun range _ => unwritten range
  case whole => exact fun range present => (filling.whole range present).append (unwritten range)
  case fresh =>
    intro index still
    rw [piecesOf_append, unwritten, filling.fresh index still]
    rfl

/-- An end that is told of. -/
lemma settled {hands : Multiset Activity}
    (filling : Filling planned spans id file done download hands history) (message : Notice) :
    Filling planned spans id file done download hands (.settled id message :: history) :=
  @aside planned spans id file done download history [.settled id message] hands filling
    fun _ => rfl

/-- Another hand without a part. -/
lemma join {hand : Activity} {hands : Multiset Activity}
    (filling : Filling planned spans id file done download hands history)
    (idle : hand.loads? spans = none) :
    Filling planned spans id file done download (hand ::ₘ hands) history := by
  refine ⟨filling.isOpen, fun other present => ?_, filling.whole, filling.fresh⟩
  rcases Multiset.mem_cons.1 present with rfl | old
  · exact Activity.fills_of_loads? idle
  · exact filling.hands other old

/-- A turn in which nothing is written of the parts of others, and no part is reported. -/
lemma goOn (filling : Filling planned spans id file done download (activity ::ₘ rest) history)
    (silent : activity.written? = none)
    (apart : ∀ other ∈ gather (Activity.loads? spans) rest + reported done,
      piecesOf other notes = [])
    (isOpen : ∀ other, next.file = some other → download.file = some other)
    (fills : ∀ hand ∈ left, hand.Fills planned spans id file (notes ++ history))
    (fresh : ∀ index, index ∈ next.progress.deferred ∨ next.progress.next ≤ index →
      piecesOf (spans index) (notes ++ history) = []) :
    Filling planned spans id file (done ++ [activity]) next (left + rest) (notes ++ history) := by
  constructor
  case isOpen =>
    intro other opens
    obtain ⟨same, path, opened⟩ := filling.isOpen other (isOpen other opens)
    exact ⟨same, path, List.mem_append_right notes opened⟩
  case hands =>
    intro hand present
    rcases Multiset.mem_add.1 present with new | old
    · exact fills hand new
    · refine (filling.hands hand (Multiset.mem_cons_of_mem old)).append fun range has => ?_
      refine apart range (Multiset.mem_add.2 (.inl ?_))
      exact (Multiset.mem_filterMap _ _).2 ⟨hand, old, has⟩
  case whole =>
    rw [reported_of_silent silent]
    intro range present
    exact (filling.whole range present).append
      (apart range (Multiset.mem_add.2 (.inr (Multiset.mem_coe.2 present))))
  case fresh => exact fresh

/-- A turn in which nothing is written. -/
lemma pass (filling : Filling planned spans id file done download (activity ::ₘ rest) history)
    (silent : activity.written? = none) (unwritten : ∀ range, piecesOf range notes = [])
    (isOpen : ∀ other, next.file = some other → download.file = some other)
    (fills : ∀ hand ∈ left, hand.Fills planned spans id file (notes ++ history))
    (fresh : ∀ index, index ∈ next.progress.deferred ∨ next.progress.next ≤ index →
      piecesOf (spans index) history = []) :
    Filling planned spans id file (done ++ [activity]) next (left + rest) (notes ++ history) := by
  refine filling.goOn silent (fun other _ => unwritten other) isOpen fills fun index still => ?_
  rw [piecesOf_append, unwritten, fresh index still]
  rfl

/-- A part is reported. -/
lemma finish {range : PartSpan}
    (filling : Filling planned spans id file done download
      (.reporting id (.partWritten range) ::ₘ rest) history)
    (isOpen : ∀ other, next.file = some other → download.file = some other)
    (idle : ∀ hand ∈ left, hand.loads? spans = none)
    (fresh : ∀ index, index ∈ next.progress.deferred ∨ next.progress.next ≤ index →
      piecesOf (spans index) history = []) :
    Filling planned spans id file (done ++ [.reporting id (.partWritten range)]) next
      (left + rest) history := by
  constructor
  case isOpen => exact fun other opens => filling.isOpen other (isOpen other opens)
  case hands =>
    intro hand present
    rcases Multiset.mem_add.1 present with new | old
    · exact Activity.fills_of_loads? (idle hand new)
    · exact filling.hands hand (Multiset.mem_cons_of_mem old)
  case whole =>
    intro other present
    rcases List.mem_filterMap.1 present with ⟨turn, listed, reports⟩
    rcases List.mem_append.1 listed with old | new
    · exact filling.whole other (List.mem_filterMap.2 ⟨turn, old, reports⟩)
    · obtain rfl := List.mem_singleton.1 new
      obtain rfl := Option.some.inj reports
      exact filling.hands _ (Multiset.mem_cons_self _ rest)
  case fresh => exact fresh

/-- A turn by which parts come into the queue. -/
lemma queue {operation : Operation} {barred : Nat → Prop} {progress : Progress}
    (filling : Filling planned spans id file done download (activity ::ₘ rest) history)
    (cut : operation.span .download = spans)
    (queueing : Queueing operation id .download barred download.progress activity progress left) :
    Filling planned spans id file (done ++ [activity]) { download with progress := progress }
      (left + rest) history := by
  have fills := filling.hands activity (Multiset.mem_cons_self activity rest)
  have brought {index : Nat} (blank : piecesOf (spans index) history = []) :
      (Activity.starting id (Activity.partChore operation .download
        (operation.span .download index))).Fills planned spans id file history := by
    rw [cut]
    exact blank
  have same (index : Nat)
      (still : index ∈ download.progress.deferred ∨ download.progress.next ≤ index) :
      piecesOf (spans index) history = [] := filling.fresh index still
  have on (silent : activity.written? = none)
      (fills : ∀ hand ∈ left, hand.Fills planned spans id file history)
      (fresh : ∀ index, index ∈ progress.deferred ∨ progress.next ≤ index →
        piecesOf (spans index) history = []) :
      Filling planned spans id file (done ++ [activity]) { download with progress := progress }
        (left + rest) history :=
    @pass planned spans id file done download { download with progress := progress } activity rest
      left history [] filling silent (fun _ => rfl) (fun _ opens => opens) fills fresh
  cases queueing with
  | @handedOut index after handed =>
      obtain ⟨-, -, ⟨others, back, rfl⟩ | ⟨none, rfl, more, rfl⟩⟩ := Progress.of_handOut? handed
      · refine on rfl (only_hand (filling.fresh index (.inl ?_))) fun other still => ?_
        · rw [back]
          exact List.mem_cons_self
        · refine filling.fresh other (still.imp_left fun among => ?_)
          rw [back]
          exact List.mem_cons_of_mem index among
      · refine on rfl (only_hand (filling.fresh _ (.inr (Nat.le_refl _)))) fun other still => ?_
        exact filling.fresh other (still.imp_right Nat.le_of_succ_le)
  | nothingLeft => exact on rfl no_hand same
  | accepted index =>
      refine on rfl (fun hand present => ?_) same
      rcases Multiset.mem_cons.1 present with rfl | other
      · trivial
      · rw [Multiset.mem_singleton.1 other]
        exact brought fills
  | forced index => exact on rfl (only_hand (brought fills)) same
  | full index | kept index => exact on rfl (only_hand fills) same
  | refused | forceRefused => exact on rfl (only_hand trivial) same
  | @takenBack index after back =>
      obtain ⟨-, rfl⟩ := Progress.of_putBack? back
      refine on rfl no_hand fun other still => ?_
      rcases still with back | later
      · rcases List.mem_cons.1 back with rfl | old
        · exact fills
        · exact filling.fresh other (.inl old)
      · exact filling.fresh other (.inr later)

/-- A turn in which a piece of the body of a part is written. -/
lemma write {range : PartSpan} {path : LocalPath} {own : FileId} {offset : Nat} {body : Reader}
    {piece : Bytes}
    (filling : Filling planned spans id file done download
      (.writing id (.part range) path own offset body ::ₘ rest) history)
    (places : Places spans id done download.progress
      (.writing id (.part range) path own offset body ::ₘ rest))
    (numbered : ∀ index, (spans index).number = index + 1)
    (fills : ∀ hand ∈ left, hand.Fills planned spans id file
      (.wrote id (.part range) own offset piece :: history)) :
    Filling planned spans id file (done ++ [.writing id (.part range) path own offset body])
      download (left + rest) (.wrote id (.part range) own offset piece :: history) := by
  obtain ⟨others, unissued⟩ := places.apart numbered (rfl : _ = some range)
  have elsewhere (other : PartSpan) (differs : other ≠ range) :
      piecesOf other [.wrote id (.part range) own offset piece] = [] := by
    simp [piecesOf, Event.piece?, Ne.symm differs]
  refine filling.goOn rfl (fun other among => elsewhere other (others other among))
    (fun _ opens => opens) fills fun index still => ?_
  rw [piecesOf_append, elsewhere _ (unissued index still), filling.fresh index still]
  rfl

lemma requests_of_fetchPartCall {operation : Operation} {range : PartSpan} {call : Call}
    (record : operation.record = planned.record)
    (store : operation.sourceStore = planned.sourceStore)
    (made : operation.fetchPartCall range = .ok call) :
    planned.Requests range operation.sourceStore call := by
  simp only [Operation.fetchPartCall, Operation.objectRead, bind, Except.bind] at made
  repeat' split at made
  all_goals cases made
  next same read =>
    split at read
    · next object source =>
        obtain rfl := Except.ok.inj read
        refine ⟨object, ?_, store, rfl⟩
        rw [← record]
        cases from_ : operation.record.source with
        | file path => simp [from_, Location.object?] at source
        | object name =>
            rw [from_] at source
            exact congrArg Location.object (Option.some.inj source)
    · cases read

/-- Every turn at the parts of a download keeps what is written of them what it should be. -/
theorem turn {operation : Operation} {disk after : Disk} {barred : Nat → Prop} {given : Answer}
    (filling : Filling planned spans id file done download (activity ::ₘ rest) history)
    (places : Places spans id done download.progress (activity ::ₘ rest))
    (numbered : ∀ index, (spans index).number = index + 1)
    (cut : operation.span .download = spans) (record : operation.record = planned.record)
    (store : operation.sourceStore = planned.sourceStore)
    (turn : DownloadTurn operation id download disk barred given activity next after notes left) :
    Filling planned spans id file (done ++ [activity]) next (left + rest) (notes ++ history) := by
  have fills := filling.hands activity (Multiset.mem_cons_self activity rest)
  cases turn with
  | queued queueing => exact filling.queue cut queueing
  | skipped closed =>
      exact filling.pass rfl (fun _ => rfl) (fun _ opens => opens) no_hand filling.fresh
  | @entered range own progress later isOpen entered begins =>
      obtain ⟨-, -, rfl⟩ := Progress.of_enter? entered
      refine filling.pass rfl (fun _ => rfl) (fun _ opens => opens) (only_hand ?_) filling.fresh
      rcases begins with ⟨call, made, rfl⟩ | ⟨error, made, rfl⟩
      · obtain ⟨same, opened⟩ := filling.isOpen own isOpen
        exact ⟨fills, same, opened, requests_of_fetchPartCall record store made⟩
      · trivial
  | sent range own at_ call =>
      exact filling.pass rfl (fun _ => rfl) (fun _ opens => opens)
        (only_hand (fills.append fun _ _ => rfl)) filling.fresh
  | @fetched range own at_ call body path has written =>
      obtain ⟨blank, rfl, ⟨opening, opened⟩, requests⟩ := fills
      refine filling.pass rfl (fun _ => rfl) (fun _ opens => opens) (only_hand ?_) filling.fresh
      refine ⟨rfl, [], rfl, ⟨opening, List.mem_cons_of_mem _ opened⟩, ?_, body, ?_, rfl, rfl⟩
      · rw [piecesOf_append, blank]
        exact .nothing
      · exact ⟨at_, call, requests, has ▸ List.mem_cons_self⟩
  | unfetched error lacks =>
      exact filling.pass rfl (fun _ => rfl) (fun _ opens => opens) (only_hand trivial)
        filling.fresh
  | waited range path own offset body =>
      obtain ⟨same, bytes, reached, ⟨opened, laid, whole⟩⟩ := fills
      refine filling.pass rfl (fun _ => rfl) (fun _ opens => opens) (only_hand ?_) filling.fresh
      exact ⟨same, bytes, reached, opened, laid, whole⟩
  | @wrote range path own offset piece body filled fits =>
      refine filling.write places numbered (only_hand ?_)
      obtain ⟨rfl, bytes, rfl, ⟨opening, opened⟩, laid, whole, fetched, delivers, fails⟩ := fills
      refine ⟨rfl, bytes ++ piece, ?_, ⟨opening, List.mem_cons_of_mem _ opened⟩, ?_, whole,
        fetched.append [_], ?_, ?_⟩
      · rw [List.length_append, Nat.add_assoc]
      · simpa [piecesOf, Event.piece?] using laid.more piece
      · rw [delivers, Reader.delivered, if_neg (by simpa using filled), List.append_assoc]
      · rw [fails, Reader.failure?, if_neg (by simpa using filled)]
  | unwritten filled refused => exact filling.write places numbered (only_hand trivial)
  | broken =>
      exact filling.pass rfl (fun _ => rfl) (fun _ opens => opens) (only_hand trivial)
        filling.fresh
  | @written range path own offset body spent =>
      refine filling.pass rfl (fun _ => rfl) (fun _ opens => opens) (only_hand ?_) filling.fresh
      obtain ⟨rfl, bytes, -, arriving⟩ := fills
      refine ⟨bytes, arriving.isOpen, arriving.laid, ?_⟩
      rcases spent with rfl | ⟨others, rfl⟩
      · exact arriving.body
      · exact arriving.body
  | done pending => exact filling.finish (fun _ opens => opens) (only_hand rfl) filling.fresh
  | doneLast last =>
      obtain ⟨-, -, rfl⟩ := Progress.of_claimEnd? last
      exact filling.finish (fun _ opens => opens) (only_hand rfl) filling.fresh
  | lost pending =>
      exact filling.pass rfl (fun _ => rfl) (fun _ opens => opens) no_hand filling.fresh
  | lostLast last =>
      obtain ⟨-, -, rfl⟩ := Progress.of_claimEnd? last
      exact filling.pass rfl (fun _ => rfl) (fun _ opens => opens) (only_hand trivial)
        filling.fresh

end Filling
end Pool
end BulkTransfer
