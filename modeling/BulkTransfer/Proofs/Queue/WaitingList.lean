import BulkTransfer.Proofs.Queue.Items
import BulkTransfer.Queue.Monitor
import Mathlib.Data.List.MinMax

/-!
# The queue as a list

To those who use it, the queue is one list: the items that were accepted and have not been taken, in
the order in which they were accepted. What is taken is the first item of the highest priority
present. The lines that the queue keeps for the priorities are read off the list
(`WaitingList.queue`), and every request is answered by the queue as by the list
(`WaitingList.reply_queue`). So it is with every sequence of requests
(`Queue.answers_as_list`), and of the items of one priority, those taken so far are the first that
were accepted.
-/

namespace BulkTransfer

/-- The place of a priority among the others, the highest first. -/
def Priority.rank : Priority → Nat
  | .immediate => 0
  | .normal => 1
  | .shutdown => 2

lemma Priority.eq_of_rank {priority other : Priority} (same : priority.rank = other.rank) :
    priority = other := by
  cases priority <;> cases other <;> first | rfl | cases same

/-- What was accepted by a queue and has not been taken from it, in the order in which it was
accepted. -/
structure WaitingList (α : Type) where
  capacity : Nat
  entries : List (Priority × α) := []
  closed : Bool := false

namespace WaitingList

variable {α : Type}

/-- An empty list for the wanted number of items, but at least for one. -/
def ofCapacity (wanted : Nat) : WaitingList α :=
  { capacity := max wanted 1 }

/-- Whether nothing in the list has a higher priority than an entry. -/
def isHighest (list : WaitingList α) (entry : Priority × α) : Bool :=
  list.entries.all fun other => entry.1.rank ≤ other.1.rank

/-- The first entry of the highest priority present and the list without it, if there is one. -/
def take? (list : WaitingList α) : Option ((Priority × α) × WaitingList α) :=
  (list.entries.find? list.isHighest).map fun entry =>
    (entry, { list with entries := list.entries.eraseP list.isHighest })

/-- What an insertion comes to: the policy has the first word, then whether the list is closed, and
then whether there is room. -/
def insertion (list : WaitingList α) (entry : Entry α) (verdict : Option String) (fits : Bool)
    (noRoom : Option (QueueResponse α)) : Option (QueueResponse α) × WaitingList α :=
  match verdict with
  | some reason => (some (.refused (.rejected entry.label reason)), list)
  | none =>
      if list.closed then (some (.refused .queueClosed), list)
      else if fits then
        (some .inserted, { list with entries := list.entries ++ [(entry.priority, entry.item)] })
      else (noRoom, list)

/-- How a request is answered, and the list afterwards. Who gets no answer waits. -/
def reply (list : WaitingList α) : QueueRequest α → Option (QueueResponse α) × WaitingList α
  | .put entry verdict =>
      list.insertion entry verdict (list.entries.length < list.capacity) none
  | .offer entry verdict =>
      list.insertion entry verdict (list.entries.length < list.capacity) (some .noRoom)
  | .followUp entry verdict => list.insertion entry verdict true none
  | .get =>
      match list.take? with
      | some (entry, rest) => (some (.taken (some entry.2)), rest)
      | none => (if list.closed then some (.taken none) else none, list)
  | .close => (some .closed, { list with closed := true })

end WaitingList

/-- The answers to a sequence of requests, and the state afterwards. A request that would have to
wait is not made. -/
def answersOf {α σ : Type} (reply : σ → QueueRequest α → Option (QueueResponse α) × σ) :
    σ → List (QueueRequest α) → List (Option (QueueResponse α)) × σ
  | state, [] => ([], state)
  | state, request :: requests =>
      let first := reply state request
      let others := answersOf reply first.2 requests
      (first.1 :: others.1, others.2)

/-- What a thread is told, unless it waits. -/
def ThreadStage.told? {α : Type} : ThreadStage α → Option (QueueResponse α)
  | .leaving _ response | .returned response => some response
  | _ => none

namespace Queue

variable {α : Type}

/-- How a queue answers a request of a thread that has its lock, and the queue afterwards. -/
def reply (queue : Queue α) (request : QueueRequest α) : Option (QueueResponse α) × Queue α :=
  ((request.attempt queue).2.told?, (request.attempt queue).1)

end Queue

namespace WaitingList

variable {α : Type} {list : WaitingList α} {priority other : Priority}

/-- The items of a priority, first to last. -/
def lane (list : WaitingList α) (priority : Priority) : List α :=
  (list.entries.filter (·.1 = priority)).map (·.2)

/-- Every entry is in the line of its priority and in no other. -/
lemma length_lanes (list : WaitingList α) :
    list.entries.length =
      (list.lane .immediate).length + (list.lane .normal).length +
        (list.lane .shutdown).length := by
  have lanes (entries : List (Priority × α)) :
      entries.length =
        (entries.filter (·.1 = .immediate)).length + (entries.filter (·.1 = .normal)).length +
          (entries.filter (·.1 = .shutdown)).length := by
    induction entries with
    | nil => rfl
    | cons entry entries ih =>
        obtain ⟨priority, item⟩ := entry
        rw [List.length_cons, ih]
        cases priority <;> simp <;> omega
  simp only [lane, List.length_map]
  exact lanes list.entries

/-- The queue that keeps the items of each priority in a line of their own, and counts them as the
list does. -/
def queue (list : WaitingList α) : Queue α where
  capacity := list.capacity
  immediate := list.lane .immediate
  normal := list.lane .normal
  shutdown := list.lane .shutdown
  length := list.entries.length
  closed := list.closed
  counted := list.length_lanes

/-! ## Insertions -/

lemma lane_concat (list : WaitingList α) (entry : Priority × α) (priority : Priority) :
    lane { list with entries := list.entries ++ [entry] } priority =
      list.lane priority ++ if entry.1 = priority then [entry.2] else [] := by
  unfold lane
  rw [List.filter_append, List.map_append]
  congr 1
  by_cases own : entry.1 = priority
  · rw [if_pos own, List.filter_cons_of_pos (by simpa using own)]
    rfl
  · rw [if_neg own, List.filter_cons_of_neg (by simpa using own)]
    rfl

/-- An entry that comes to the end of the list comes to the end of its line. -/
lemma queue_concat (list : WaitingList α) (priority : Priority) (item : α) :
    queue { list with entries := list.entries ++ [(priority, item)] } =
      list.queue.push priority item := by
  unfold queue
  simp only [lane_concat]
  cases priority <;> simp [Queue.push]

lemma isFull_queue (list : WaitingList α) :
    list.queue.isFull = decide (list.capacity ≤ list.entries.length) := by
  rfl

/-- A follow-up comes to what an insertion into the list does that needs no room. -/
lemma insertAnyway_queue (list : WaitingList α) (entry : Entry α) (verdict : Option String) :
    list.queue.insertAnyway entry verdict =
      match verdict with
      | some reason => .refused (.rejected entry.label reason)
      | none =>
          if list.closed then .refused .queueClosed
          else .accepted
            (queue { list with entries := list.entries ++ [(entry.priority, entry.item)] }) := by
  cases verdict with
  | some reason => rfl
  | none =>
      rw [queue_concat]
      rfl

/-- Any other insertion comes to what the list does with one that needs room. -/
lemma insert_queue (list : WaitingList α) (entry : Entry α) (verdict : Option String) :
    list.queue.insert entry verdict =
      match verdict with
      | some reason => .refused (.rejected entry.label reason)
      | none =>
          if list.closed then .refused .queueClosed
          else if list.entries.length < list.capacity then .accepted
            (queue { list with entries := list.entries ++ [(entry.priority, entry.item)] })
          else .full := by
  rw [Queue.insert, insertAnyway_queue, isFull_queue]
  cases verdict with
  | some reason => rfl
  | none =>
      cases list.closed with
      | true => rfl
      | false =>
          by_cases room : list.entries.length < list.capacity
          · simp [room, Nat.not_le.2 room]
          · simp [room, Nat.not_lt.1 room]

/-! ## Taking -/

/-- The highest entries are those of one priority. -/
lemma isHighest_eq {entry other : Priority × α} (there : entry ∈ list.entries)
    (highest : list.isHighest entry = true) (listed : other ∈ list.entries) :
    list.isHighest other = decide (other.1 = entry.1) := by
  have above := List.all_eq_true.1 highest
  rw [Bool.eq_iff_iff, decide_eq_true_iff]
  constructor
  · intro also
    have under := of_decide_eq_true (List.all_eq_true.1 also entry there)
    exact Priority.eq_of_rank (Nat.le_antisymm under (of_decide_eq_true (above other listed)))
  · intro same
    rw [isHighest, List.all_eq_true, same]
    exact above

/-- Some entry is the highest, if there are any. -/
lemma exists_isHighest (some : list.entries ≠ []) :
    ∃ entry ∈ list.entries, list.isHighest entry = true := by
  cases least : list.entries.argmin (·.1.rank) with
  | none => exact absurd (List.argmin_eq_none.1 least) some
  | some entry =>
      refine ⟨entry, List.argmin_mem least, List.all_eq_true.2 fun other listed => ?_⟩
      exact decide_eq_true (List.le_of_mem_argmin (f := (·.1.rank)) listed least)

lemma eraseP_congr {test other : Priority × α → Bool} {entries : List (Priority × α)}
    (same : ∀ entry ∈ entries, test entry = other entry) :
    entries.eraseP test = entries.eraseP other := by
  induction entries with
  | nil => rfl
  | cons entry entries ih =>
      rw [List.eraseP_cons, List.eraseP_cons, same entry List.mem_cons_self,
        ih fun entry listed => same entry (.tail _ listed)]

/-- The entries of a priority, when the first entry of another or of the same is taken out. -/
lemma filter_of_find? {entries : List (Priority × α)} {entry : Priority × α}
    (found : entries.find? (·.1 = entry.1) = some entry) (priority : Priority) :
    entries.filter (·.1 = priority) =
      (if entry.1 = priority then [entry] else []) ++
        (entries.eraseP (·.1 = entry.1)).filter (·.1 = priority) := by
  induction entries with
  | nil => cases found
  | cons first entries ih =>
      by_cases own : first.1 = entry.1
      · rw [List.find?_cons_of_pos (by simpa using own)] at found
        obtain rfl := Option.some.inj found
        rw [List.eraseP_cons_of_pos (by simp), List.filter_cons]
        by_cases same : first.1 = priority <;> simp [same]
      · rw [List.find?_cons_of_neg (by simpa using own)] at found
        rw [List.eraseP_cons_of_neg (by simpa using own), List.filter_cons, List.filter_cons,
          ih found]
        by_cases same : first.1 = priority
        · have apart : entry.1 ≠ priority := fun also => own (same.trans also.symm)
          simp [same, apart]
        · simp [same]

/-- An entry that is taken is the first of its priority, and none of a higher priority is there. -/
lemma of_take? {entry : Priority × α} {left : WaitingList α}
    (taken : list.take? = some (entry, left)) :
    left.capacity = list.capacity ∧ left.closed = list.closed ∧
      (∀ higher : Priority, higher.rank < entry.1.rank →
        list.entries.filter (·.1 = higher) = []) ∧
      ∀ priority, list.entries.filter (·.1 = priority) =
        (if entry.1 = priority then [entry] else []) ++
          left.entries.filter (·.1 = priority) := by
  obtain ⟨first, found, same⟩ := Option.map_eq_some_iff.1 taken
  obtain ⟨rfl, rfl⟩ := Prod.mk.inj same
  have there := List.mem_of_find?_eq_some found
  have highest := List.find?_some found
  have alike (other : Priority × α) (listed : other ∈ list.entries) :=
    isHighest_eq there highest listed
  refine ⟨rfl, rfl, fun higher above => ?_, ?_⟩
  · refine List.filter_eq_nil_iff.2 fun other listed own => ?_
    have under := of_decide_eq_true (List.all_eq_true.1 highest other listed)
    rw [of_decide_eq_true own] at under
    exact absurd above (Nat.not_lt.2 under)
  · rw [← List.head?_filter, List.filter_congr alike, List.head?_filter] at found
    rw [eraseP_congr alike]
    exact filter_of_find? found

lemma entries_of_take?_none (nothing : list.take? = none) : list.entries = [] := by
  by_contra some
  obtain ⟨entry, there, highest⟩ := exists_isHighest some
  exact List.find?_eq_none.1 (Option.map_eq_none_iff.1 nothing) entry there highest

/-- The queue gives what the list gives. -/
lemma take?_queue (list : WaitingList α) :
    list.queue.take? = list.take?.map fun taken => (taken.1.2, taken.2.queue) := by
  cases taken : list.take? with
  | none =>
      have nothing (priority : Priority) : list.lane priority = [] := by
        rw [lane, entries_of_take?_none taken]
        rfl
      exact Queue.take?_eq_none_iff.2 (by
        simp only [Queue.items, queue, nothing, List.append_nil])
  | some result =>
      obtain ⟨⟨priority, item⟩, left⟩ := result
      obtain ⟨capacity, closed, above, lines⟩ := of_take? taken
      have lanes (other : Priority) :
          list.lane other = (if priority = other then [item] else []) ++ left.lane other := by
        rw [lane, lines other, List.map_append, lane]
        split <;> rfl
      have empty (higher : Priority) (first : higher.rank < priority.rank) :
          list.lane higher = [] := by
        rw [lane, above higher first, List.map_nil]
      have left_empty (higher : Priority) (first : higher.rank < priority.rank) :
          left.lane higher = [] :=
        (List.append_eq_nil_iff.1 ((lanes higher).symm.trans (empty higher first))).2
      have length : list.entries.length = left.entries.length + 1 := by
        rw [length_lanes, length_lanes, lanes, lanes, lanes]
        cases priority <;> simp <;> omega
      refine Queue.take?_eq_some_of_lanes ?_ length capacity closed
      -- The line of the item is the first that is not empty.
      cases priority with
      | immediate => exact .inl ⟨lanes .immediate, (lanes .normal).symm, (lanes .shutdown).symm⟩
      | normal =>
          exact .inr ⟨empty .immediate (by decide), left_empty .immediate (by decide),
            .inl ⟨lanes .normal, (lanes .shutdown).symm⟩⟩
      | shutdown =>
          exact .inr ⟨empty .immediate (by decide), left_empty .immediate (by decide),
            .inr ⟨empty .normal (by decide), left_empty .normal (by decide), lanes .shutdown⟩⟩

/-! ## Requests -/

/-- The queue answers a request as the list does. -/
theorem reply_queue (list : WaitingList α) (request : QueueRequest α) :
    list.queue.reply request = ((list.reply request).1, (list.reply request).2.queue) := by
  cases request with
  | put entry verdict | offer entry verdict =>
      simp only [Queue.reply, QueueRequest.attempt, insert_queue, reply, insertion,
        decide_eq_true_eq]
      cases verdict with
      | some reason => rfl
      | none =>
          by_cases closed : list.closed = true
          · simp [closed, ThreadStage.told?]
          · by_cases room : list.entries.length < list.capacity
            · simp [closed, room, ThreadStage.told?]
            · simp [closed, room, ThreadStage.told?]
  | followUp entry verdict =>
      simp only [Queue.reply, QueueRequest.attempt, insertAnyway_queue, reply, insertion]
      cases verdict with
      | some reason => rfl
      | none =>
          by_cases closed : list.closed = true
          · simp [closed, ThreadStage.told?]
          · simp [closed, ThreadStage.told?]
  | get =>
      simp only [Queue.reply, QueueRequest.attempt, take?_queue, reply]
      cases list.take? with
      | none =>
          have same : list.queue.closed = list.closed := rfl
          cases closed : list.closed <;> simp [same, closed, ThreadStage.told?]
      | some taken => rfl
  | close => rfl

/-- The queue answers a sequence of requests as the list does. -/
lemma answers_queue (list : WaitingList α) (requests : List (QueueRequest α)) :
    answersOf Queue.reply list.queue requests =
      ((answersOf reply list requests).1, (answersOf reply list requests).2.queue) := by
  induction requests generalizing list with
  | nil => rfl
  | cons request requests ih => simp only [answersOf, reply_queue, ih]

end WaitingList

/-! ## What becomes of the items -/

namespace QueueRequest

variable {α : Type}

/-- The entry that a request is to insert, with the verdict of the policy about it. -/
def insertion? : QueueRequest α → Option (Entry α × Option String)
  | .put entry verdict | .followUp entry verdict | .offer entry verdict => some (entry, verdict)
  | _ => none

/-- What an answer to a request has brought into the queue. -/
def accepted? (request : QueueRequest α) : Option (QueueResponse α) → Option (Priority × α)
  | some .inserted => request.insertion?.map fun insertion =>
      (insertion.1.priority, insertion.1.item)
  | _ => none

end QueueRequest

/-- What an answer has taken out of the queue. -/
def QueueResponse.taken? {α : Type} : Option (QueueResponse α) → Option α
  | some (.taken item) => item
  | _ => none

/-- What the answers to requests have brought into the queue, first to last. -/
def acceptedIn {α : Type} (requests : List (QueueRequest α))
    (answers : List (Option (QueueResponse α))) : List (Priority × α) :=
  (requests.zip answers).filterMap fun exchange => exchange.1.accepted? exchange.2

namespace WaitingList

variable {α : Type}

lemma insertion_cases (list : WaitingList α) (entry : Entry α) (verdict : Option String)
    (fits : Bool) (noRoom : Option (QueueResponse α)) :
    list.insertion entry verdict fits noRoom = (some .inserted,
        { list with entries := list.entries ++ [(entry.priority, entry.item)] }) ∨
      ∃ answer, list.insertion entry verdict fits noRoom = (answer, list) ∧
        (answer = noRoom ∨ ∃ error, answer = some (.refused error)) := by
  unfold insertion
  cases verdict with
  | some reason => exact .inr ⟨_, rfl, .inr ⟨_, rfl⟩⟩
  | none =>
      dsimp only
      repeat' split
      · exact .inr ⟨_, rfl, .inr ⟨_, rfl⟩⟩
      · exact .inl rfl
      · exact .inr ⟨_, rfl, .inl rfl⟩

/-- A request to insert an entry appends it, or is answered with nothing moved. -/
lemma reply_of_insertion? (list : WaitingList α) {request : QueueRequest α} {entry : Entry α}
    {verdict : Option String} (inserts : request.insertion? = some (entry, verdict)) :
    list.reply request = (some .inserted,
        { list with entries := list.entries ++ [(entry.priority, entry.item)] }) ∨
      ∃ answer, list.reply request = (answer, list) ∧ QueueResponse.taken? answer = none ∧
        request.accepted? answer = none := by
  have insertion (fits : Bool) (noRoom : Option (QueueResponse α))
      (stays : noRoom = none ∨ noRoom = some .noRoom)
      (same : list.reply request = list.insertion entry verdict fits noRoom) :
      list.reply request = (some .inserted,
          { list with entries := list.entries ++ [(entry.priority, entry.item)] }) ∨
        ∃ answer, list.reply request = (answer, list) ∧ QueueResponse.taken? answer = none ∧
          request.accepted? answer = none := by
    rcases list.insertion_cases entry verdict fits noRoom with
      appended | ⟨answer, kept, rfl | ⟨error, rfl⟩⟩
    · exact .inl (same.trans appended)
    · refine .inr ⟨answer, same.trans kept, ?_⟩
      rcases stays with rfl | rfl <;> exact ⟨rfl, rfl⟩
    · exact .inr ⟨_, same.trans kept, rfl, rfl⟩
  cases request
  case get | close => cases inserts
  all_goals
    obtain ⟨rfl, rfl⟩ := Prod.mk.inj (Option.some.inj inserts)
  case offer => exact insertion _ _ (.inr rfl) rfl
  all_goals exact insertion _ _ (.inl rfl) rfl

/-- What a request changes of the entries: of each priority, those that waited and the one that was
brought are the one that was taken and those that wait then, in this order. -/
lemma lines_of_reply (list : WaitingList α) (request : QueueRequest α) :
    ∃ taken : Option (Priority × α),
      taken.map (·.2) = QueueResponse.taken? (list.reply request).1 ∧
        ∀ priority,
          (list.entries ++ (request.accepted? (list.reply request).1).toList).filter
              (·.1 = priority) =
            taken.toList.filter (·.1 = priority) ++
              (list.reply request).2.entries.filter (·.1 = priority) := by
  cases inserts : request.insertion? with
  | some insertion =>
      obtain ⟨entry, verdict⟩ := insertion
      refine ⟨none, ?_⟩
      rcases list.reply_of_insertion? inserts with appended | ⟨answer, kept, takes, accepts⟩
      · simp [appended, QueueResponse.taken?, QueueRequest.accepted?, inserts]
      · simp [kept, takes, accepts]
  | none =>
      have brings (answer : Option (QueueResponse α)) : request.accepted? answer = none := by
        unfold QueueRequest.accepted?
        split
        · rw [inserts]
          rfl
        · rfl
      rw [brings]
      cases request
      case put | followUp | offer => cases inserts
      case close => exact ⟨none, rfl, fun priority => by simp [reply]⟩
      case get =>
        cases taken : list.take? with
        | none =>
            refine ⟨none, ?_⟩
            cases closed : list.closed <;> simp [reply, taken, closed, QueueResponse.taken?]
        | some result =>
            obtain ⟨entry, left⟩ := result
            obtain ⟨-, -, -, lines⟩ := of_take? taken
            refine ⟨some entry, by simp [reply, taken, QueueResponse.taken?], fun priority => ?_⟩
            simp [reply, taken, lines priority, List.filter_cons]

/-- So it is with a sequence of requests. -/
lemma lines_of_answers (list : WaitingList α) (requests : List (QueueRequest α)) :
    ∃ taken : List (Priority × α),
      taken.map (·.2) = (answersOf reply list requests).1.filterMap QueueResponse.taken? ∧
        ∀ priority,
          (list.entries ++ acceptedIn requests (answersOf reply list requests).1).filter
              (·.1 = priority) =
            taken.filter (·.1 = priority) ++
              (answersOf reply list requests).2.entries.filter (·.1 = priority) := by
  induction requests generalizing list with
  | nil => exact ⟨[], rfl, fun priority => by simp [acceptedIn, answersOf]⟩
  | cons request requests ih =>
      obtain ⟨first, takes, lines⟩ := list.lines_of_reply request
      obtain ⟨others, take, rest⟩ := ih (list.reply request).2
      refine ⟨first.toList ++ others, ?_, fun priority => ?_⟩
      · simp only [answersOf, List.map_append, List.filterMap_cons, take, ← takes]
        cases first <;> rfl
      · have accepted : acceptedIn (request :: requests)
            (answersOf reply list (request :: requests)).1 =
              (request.accepted? (list.reply request).1).toList ++
                acceptedIn requests (answersOf reply (list.reply request).2 requests).1 := by
          simp only [acceptedIn, answersOf, List.zip_cons_cons, List.filterMap_cons]
          cases request.accepted? (list.reply request).1 <;> rfl
        rw [accepted, ← List.append_assoc, List.filter_append, lines, List.append_assoc,
          ← List.filter_append, rest, List.filter_append, List.append_assoc]
        rfl

/-- Requests leave the capacity. -/
lemma capacity_reply (list : WaitingList α) (request : QueueRequest α) :
    (list.reply request).2.capacity = list.capacity := by
  cases inserts : request.insertion? with
  | some insertion =>
      obtain ⟨entry, verdict⟩ := insertion
      rcases list.reply_of_insertion? inserts with appended | ⟨answer, kept, -⟩
      · rw [appended]
      · rw [kept]
  | none =>
      cases request
      case put | followUp | offer => cases inserts
      case close => rfl
      case get =>
        cases taken : list.take? with
        | none => simp [reply, taken]
        | some result => simp [reply, taken, (of_take? taken).1]

lemma capacity_answers (list : WaitingList α) (requests : List (QueueRequest α)) :
    (answersOf reply list requests).2.capacity = list.capacity := by
  induction requests generalizing list with
  | nil => rfl
  | cons request requests ih => exact (ih _).trans (list.capacity_reply request)

/-- Whether an insertion that the policy admits finds the list open and without room. -/
def Lacks (list : WaitingList α) (verdict : Option String) : Prop :=
  verdict = none ∧ list.closed = false ∧ list.capacity ≤ list.entries.length

/-- What an insertion is answered with, for one who waits without room and for one who is told. -/
lemma answer_insertion (list : WaitingList α) (entry : Entry α) (verdict : Option String)
    (fits : Bool) {noRoom : Option (QueueResponse α)}
    (stays : noRoom = none ∨ noRoom = some .noRoom) :
    (∀ error, (list.insertion entry verdict fits noRoom).1 = some (.refused error) ↔
        (∃ reason, verdict = some reason ∧ error = .rejected entry.label reason) ∨
          verdict = none ∧ list.closed = true ∧ error = .queueClosed) ∧
      ((list.insertion entry verdict fits noRoom).1 = some .noRoom ↔
        noRoom = some .noRoom ∧ verdict = none ∧ list.closed = false ∧ fits = false) ∧
      ((list.insertion entry verdict fits noRoom).1 = none ↔
        noRoom = none ∧ verdict = none ∧ list.closed = false ∧ fits = false) := by
  unfold insertion
  have alike (error other : Failure) :
      some (QueueResponse.refused error : QueueResponse α) = some (.refused other) ↔
        other = error := by
    rw [Option.some.injEq, QueueResponse.refused.injEq, eq_comm]
  cases verdict with
  | some reason => simp [alike]
  | none =>
      cases list.closed with
      | true => simp [alike]
      | false =>
          cases fits with
          | true => simp
          | false => rcases stays with rfl | rfl <;> simp

/-- How a request to insert an entry is answered: the refusal of the policy comes before that of a
closed list, an offer is told when there is no room and a submission waits then, and nothing but an
insertion changes the list. -/
lemma reply_insertion (list : WaitingList α) {request : QueueRequest α} {entry : Entry α}
    {verdict : Option String} (inserts : request.insertion? = some (entry, verdict)) :
    (∀ error, (list.reply request).1 = some (.refused error) ↔
        (∃ reason, verdict = some reason ∧ error = .rejected entry.label reason) ∨
          verdict = none ∧ list.closed = true ∧ error = .queueClosed) ∧
      ((list.reply request).1 = some .noRoom ↔
        request = .offer entry verdict ∧ list.Lacks verdict) ∧
      ((list.reply request).1 = none ↔ request = .put entry verdict ∧ list.Lacks verdict) ∧
      ((list.reply request).1 ≠ some .inserted → (list.reply request).2 = list) := by
  have kept (unmoved : (list.reply request).1 ≠ some .inserted) :
      (list.reply request).2 = list := by
    rcases list.reply_of_insertion? inserts with appended | ⟨answer, kept, -⟩
    · exact absurd (congrArg Prod.fst appended) unmoved
    · rw [kept]
  cases request
  case get | close => cases inserts
  all_goals obtain ⟨rfl, rfl⟩ := Prod.mk.inj (Option.some.inj inserts.symm)
  case put =>
    obtain ⟨refused, told, waits⟩ :=
      list.answer_insertion entry verdict (list.entries.length < list.capacity) (.inl rfl)
    exact ⟨refused, told.trans (by simp), waits.trans (by simp [Lacks]), kept⟩
  case followUp =>
    obtain ⟨refused, told, waits⟩ := list.answer_insertion entry verdict true (.inl rfl)
    exact ⟨refused, told.trans (by simp), waits.trans (by simp), kept⟩
  case offer =>
    obtain ⟨refused, told, waits⟩ :=
      list.answer_insertion entry verdict (list.entries.length < list.capacity) (.inr rfl)
    exact ⟨refused, told.trans (by simp [Lacks]), waits.trans (by simp), kept⟩

end WaitingList

/-! ## The queue -/

namespace Queue

variable {α : Type} {queue : Queue α}

/-- Who gets no answer waits. -/
lemma attempt_waiting_iff (queue : Queue α) (request : QueueRequest α) :
    (request.attempt queue).2 = .waiting request ↔ (queue.reply request).1 = none := by
  cases request with
  | put entry verdict | offer entry verdict =>
      cases inserted : queue.insert entry verdict <;>
        simp [reply, QueueRequest.attempt, inserted, ThreadStage.told?]
  | followUp entry verdict =>
      cases inserted : queue.insertAnyway entry verdict <;>
        simp [reply, QueueRequest.attempt, inserted, ThreadStage.told?]
  | get =>
      cases taken : queue.take? with
      | none =>
          cases closed : queue.closed <;>
            simp [reply, QueueRequest.attempt, taken, closed, ThreadStage.told?]
      | some result => simp [reply, QueueRequest.attempt, taken, ThreadStage.told?]
  | close => simp [reply, QueueRequest.attempt, ThreadStage.told?]

/-- A closed queue gives what it holds, in the order of its items, and then nothing. -/
lemma answers_of_closed (closed : queue.closed = true) (further : Nat) :
    (answersOf reply queue (List.replicate (queue.items.length + further) .get)).1 =
      queue.items.map (fun item => some (.taken (some item))) ++
        List.replicate further (some (.taken none)) := by
  induction items : queue.items generalizing queue with
  | nil =>
      have nothing : queue.take? = none := take?_eq_none_iff.2 items
      have answer : queue.reply .get = (some (.taken none), queue) := by
        simp [reply, QueueRequest.attempt, nothing, closed, ThreadStage.told?]
      induction further with
      | zero => rfl
      | succ further ih =>
          rw [List.length_nil, Nat.zero_add] at ih ⊢
          rw [List.replicate_succ, answersOf, answer, List.replicate_succ]
          exact congrArg (some (.taken none) :: ·) ih
  | cons item others ih =>
      obtain ⟨⟨first, rest⟩, taken⟩ :=
        Option.isSome_iff_exists.1 (take?_isSome (items ▸ List.cons_ne_nil item others))
      obtain ⟨rfl, left⟩ := List.cons.inj ((items_of_take? taken).symm.trans items)
      have answer : queue.reply .get = (some (.taken (some first)), rest) := by
        simp [reply, QueueRequest.attempt, taken, ThreadStage.told?]
      have still : rest.closed = true := (lanes_of_take? taken).2.2.2.1.trans closed
      rw [List.length_cons, Nat.succ_add, List.replicate_succ, answersOf, answer]
      exact congrArg (some (.taken (some first)) :: ·) (ih still left)

/-- Whatever is asked of a queue, it answers as the list of what it has accepted and not given does,
which is as long as the queue. Of each priority, what was accepted is what was given and what is
left, in this order. An insertion is refused by the policy, and only if the policy admits it by a
closed queue. While the queue is open, an admitted offer is told that there is no room, and an
admitted submission waits, exactly when the capacity is reached; a follow-up never waits. An
insertion that is not made leaves the queue as it was. A closed queue gives what is left by
priority, and each priority in the order of the list, and then nothing. -/
theorem answers_as_list (wanted : Nat) (requests : List (QueueRequest α)) :
    ∃ (answers : List (Option (QueueResponse α))) (list : WaitingList α)
      (given : List (Priority × α)),
      answersOf WaitingList.reply (.ofCapacity wanted) requests = (answers, list) ∧
      answersOf reply (ofCapacity wanted) requests = (answers, list.queue) ∧
      list.queue.length = list.entries.length ∧ list.capacity = max wanted 1 ∧
      given.map (·.2) = answers.filterMap QueueResponse.taken? ∧
      (∀ priority, (acceptedIn requests answers).filter (·.1 = priority) =
        given.filter (·.1 = priority) ++ list.entries.filter (·.1 = priority)) ∧
      (∀ request entry verdict,
        QueueRequest.insertion? request = some (entry, verdict) →
        (∀ error, (list.queue.reply request).1 = some (.refused error) ↔
            (∃ reason, verdict = some reason ∧ error = .rejected entry.label reason) ∨
              verdict = none ∧ list.queue.closed = true ∧ error = .queueClosed) ∧
          ((list.queue.reply request).1 = some .noRoom ↔
            request = .offer entry verdict ∧ verdict = none ∧ list.queue.closed = false ∧
              max wanted 1 ≤ list.queue.length) ∧
          ((request.attempt list.queue).2 = .waiting request ↔
            request = .put entry verdict ∧ verdict = none ∧ list.queue.closed = false ∧
              max wanted 1 ≤ list.queue.length) ∧
          ((list.queue.reply request).1 ≠ some .inserted →
            (list.queue.reply request).2 = list.queue)) ∧
      (list.queue.closed = true → ∀ further,
        (answersOf reply list.queue
            (List.replicate (list.queue.length + further) .get)).1 =
          (list.lane .immediate ++ list.lane .normal ++ list.lane .shutdown).map
              (fun item => some (.taken (some item))) ++
            List.replicate further (some (.taken none))) := by
  obtain ⟨given, gives, lines⟩ := (WaitingList.ofCapacity wanted).lines_of_answers requests
  have capacity := (WaitingList.ofCapacity wanted).capacity_answers requests
  have alike := (WaitingList.ofCapacity wanted).answers_queue requests
  generalize answersOf WaitingList.reply (.ofCapacity wanted) requests = result at *
  obtain ⟨answers, list⟩ := result
  refine ⟨answers, list, given, rfl, alike, rfl, capacity, gives, lines, ?_, ?_⟩
  · intro request entry verdict inserts
    have lacks : list.Lacks verdict ↔ verdict = none ∧ list.queue.closed = false ∧
        max wanted 1 ≤ list.queue.length := by
      rw [WaitingList.Lacks, show list.capacity = max wanted 1 from capacity]
      rfl
    obtain ⟨refused, told, waits, kept⟩ := list.reply_insertion inserts
    rw [lacks] at told waits
    rw [attempt_waiting_iff, list.reply_queue]
    exact ⟨refused, told, waits, fun unmoved => congrArg WaitingList.queue (kept unmoved)⟩
  · intro closed further
    rw [← length_items]
    exact answers_of_closed closed further

end Queue
end BulkTransfer
