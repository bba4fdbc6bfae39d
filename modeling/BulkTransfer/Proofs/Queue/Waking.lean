import BulkTransfer.Proofs.Queue.Items
import BulkTransfer.Queue.Monitor
import Mathlib.Algebra.GroupWithZero.Nat
import Mathlib.Algebra.Order.BigOperators.Group.List
import Mathlib.Algebra.Order.Group.Nat

/-!
# No thread is forgotten

Signals are sent outside the lock, one at a time, and any thread may come in between. Still no
thread waits for what is there: as long as a queue is open, a side of which threads wait has no more
to take than there are threads of it that a signal has reached and signals to it that are about to
be sent; and when the queue is closed, nobody waits on a side that has been told so
(`Monitor.vigilant_of_steps`). So where nobody can go on, threads wait only for an item of an empty
queue, or for room in a full one (`Monitor.Vigilant.of_stuck`).
-/

namespace BulkTransfer

variable {α : Type}

/-- What there is of that for which the threads of a side wait: items for the consumers, and room
for the producers. -/
def Queue.supply (queue : Queue α) : WaitingSide → Nat
  | .consumers => queue.length
  | .producers => queue.capacity - queue.length

/-- Whether a request is for an item, or for room for an entry that the policy admits. -/
def QueueRequest.Earnest (request : QueueRequest α) : Prop :=
  request = .get ∨ ∃ entry, request = .put entry none

namespace ThreadStage

variable {side : WaitingSide}

/-- Whether a signal to a side has reached a thread that has not the lock yet. -/
def isNotified (side : WaitingSide) : ThreadStage α → Bool
  | .woken request => request.side? = some side
  | _ => false

/-- How many signals to one thread of a side a thread is about to send. -/
def notifications (side : WaitingSide) : ThreadStage α → Nat
  | .leaving signals _ => signals.count ⟨side, false⟩
  | _ => 0

/-- Whether a thread has closed the queue and is about to say so to a side. -/
def willTellClosed (side : WaitingSide) : ThreadStage α → Bool
  | .leaving signals .closed => ⟨side, true⟩ ∈ signals
  | _ => false

/-- What a thread does for the supply of a side: it takes of it, or it calls another that will. -/
def care (side : WaitingSide) (stage : ThreadStage α) : Nat :=
  (if stage.isNotified side then 1 else 0) + stage.notifications side

@[simp]
lemma care_entering (request : QueueRequest α) : (entering request).care side = 0 := rfl

@[simp]
lemma care_waiting (request : QueueRequest α) : (waiting request).care side = 0 := rfl

@[simp]
lemma care_woken (request : QueueRequest α) :
    (woken request).care side = if request.side? = some side then 1 else 0 := by
  simp [care, isNotified, notifications]

@[simp]
lemma care_leaving (signals : List Signal) (response : QueueResponse α) :
    (leaving signals response).care side = signals.count ⟨side, false⟩ := by
  simp [care, isNotified, notifications]

@[simp]
lemma care_returned (response : QueueResponse α) : (returned response).care side = 0 := rfl

/-- Whether a thread that waits, or has waited, does so for something that it can get. -/
def Earnest : ThreadStage α → Prop
  | .waiting request | .woken request => request.Earnest
  | _ => True

end ThreadStage

namespace Monitor

/-- The number of threads of a side that a signal has reached and that have not the lock yet. -/
def notified (monitor : Monitor α) (side : WaitingSide) : Nat :=
  monitor.threads.countP (·.isNotified side)

/-- The number of signals to one thread of a side that are about to be sent. -/
def notifications (monitor : Monitor α) (side : WaitingSide) : Nat :=
  (monitor.threads.map (·.notifications side)).sum

/-- Whether a thread of a side waits that no signal has reached. -/
def Waits (side : WaitingSide) (threads : List (ThreadStage α)) : Prop :=
  ∃ stage ∈ threads, stage.waitsOn side = true

/-- Whether somebody has closed the queue and is about to say so to a side. -/
def WillTellClosed (side : WaitingSide) (threads : List (ThreadStage α)) : Prop :=
  ∃ stage ∈ threads, stage.willTellClosed side = true

/-- What the threads do for the supply of a side. -/
def care (side : WaitingSide) (threads : List (ThreadStage α)) : Nat :=
  (threads.map (·.care side)).sum

/-- Whether no thread of a side waits for what is there, or for a queue that is closed, without
somebody who sees to it. -/
structure Vigilant (monitor : Monitor α) : Prop where
  supply : monitor.queue.closed = false → ∀ side, Waits side monitor.threads →
    monitor.queue.supply side ≤ care side monitor.threads
  closed : monitor.queue.closed = true → ∀ side, Waits side monitor.threads →
    WillTellClosed side monitor.threads
  earnest : ∀ stage ∈ monitor.threads, stage.Earnest

variable {monitor next : Monitor α} {threads others : List (ThreadStage α)} {thread : Nat}
variable {before later : ThreadStage α} {side : WaitingSide}

/-! ## One thread goes over to another stage -/

lemma care_eq (monitor : Monitor α) (side : WaitingSide) :
    care side monitor.threads = monitor.notified side + monitor.notifications side := by
  unfold care notified notifications
  induction monitor.threads with
  | nil => rfl
  | cons stage threads ih =>
      rw [List.map_cons, List.sum_cons, ih, List.countP_cons, List.map_cons, List.sum_cons,
        ThreadStage.care]
      omega

lemma care_set (there : threads[thread]? = some before) (later : ThreadStage α)
    (side : WaitingSide) :
    care side (threads.set thread later) + before.care side =
      care side threads + later.care side := by
  obtain ⟨inside, rfl⟩ := List.getElem?_eq_some_iff.1 there
  have now := ((List.getElem_cons_eraseIdx_perm inside).map (·.care side)).sum_eq
  have then_ := ((List.set_perm_cons_eraseIdx inside later).map (·.care side)).sum_eq
  simp only [List.map_cons, List.sum_cons] at now then_
  unfold care
  omega

lemma waits_of_set (waits : Waits side (threads.set thread later)) :
    Waits side threads ∨ later.waitsOn side = true := by
  obtain ⟨stage, there, waiting⟩ := waits
  obtain old | rfl := List.mem_or_eq_of_mem_set there
  · exact .inl ⟨stage, old, waiting⟩
  · exact .inr waiting

/-- Who is about to tell a side goes on to be, unless it is the thread itself that has told it. -/
lemma WillTellClosed.set (tells : WillTellClosed side threads)
    (there : threads[thread]? = some before)
    (own : before.willTellClosed side = true → later.willTellClosed side = true) :
    WillTellClosed side (threads.set thread later) := by
  obtain ⟨stage, member, telling⟩ := tells
  obtain ⟨index, found⟩ := List.mem_iff_getElem?.1 member
  by_cases same : thread = index
  · subst same
    obtain rfl := Option.some.inj (there.symm.trans found)
    have inside := (List.getElem?_eq_some_iff.1 there).1
    exact ⟨later, List.mem_iff_getElem?.2 ⟨thread, List.getElem?_set_self inside⟩, own telling⟩
  · refine ⟨stage, List.mem_iff_getElem?.2 ⟨index, ?_⟩, telling⟩
    rw [List.getElem?_set_ne same, found]

/-- A thread that does not touch the queue may go over to a stage in which it waits no more than
before and does no less for anybody. -/
lemma Vigilant.pass (vigilant : monitor.Vigilant)
    (there : monitor.threads[thread]? = some before)
    (waits : ∀ side, later.waitsOn side = true → before.waitsOn side = true)
    (cares : ∀ side, before.care side ≤ later.care side)
    (tells : ∀ side, before.willTellClosed side = true → later.willTellClosed side = true)
    (earnest : later.Earnest) :
    { monitor with threads := monitor.threads.set thread later : Monitor α }.Vigilant where
  supply stillOpen side waiting := by
    have was : Waits side monitor.threads := (waits_of_set waiting).elim id fun own =>
      ⟨before, List.mem_of_getElem? there, waits side own⟩
    have enough := vigilant.supply stillOpen side was
    have changed := care_set there later side
    have own := cares side
    dsimp only
    omega
  closed isClosed side waiting := by
    have was : Waits side monitor.threads := (waits_of_set waiting).elim id fun own =>
      ⟨before, List.mem_of_getElem? there, waits side own⟩
    exact (vigilant.closed isClosed side was).set there (tells side)
  earnest stage member := by
    obtain old | rfl := List.mem_or_eq_of_mem_set member
    · exact vigilant.earnest stage old
    · exact earnest

/-! ## A thread has the lock -/

/-- What a thread that has the lock can find, what becomes of the queue, and how it goes on. -/
inductive Attempted (queue : Queue α) : QueueRequest α → Queue α → ThreadStage α → Prop where
  | inserted {request : QueueRequest α} (priority : Priority) (item : α)
      (stillOpen : queue.closed = false) (other : request.side? ≠ some .consumers)
      (room : request.side? = some .producers → queue.length < queue.capacity) :
      Attempted queue request (queue.push priority item) (.leaving [⟨.consumers, false⟩] .inserted)
  | full (entry : Entry α) (stillOpen : queue.closed = false)
      (noRoom : queue.capacity ≤ queue.length) :
      Attempted queue (.put entry none) queue (.waiting (.put entry none))
  | turnedAway {request : QueueRequest α} (response : QueueResponse α)
      (why : request.Earnest → queue.closed = true) :
      Attempted queue request queue (.returned response)
  | taken {item : α} {rest : Queue α} (taken : queue.take? = some (item, rest)) :
      Attempted queue .get rest (.leaving [⟨.producers, false⟩] (.taken (some item)))
  | empty (stillOpen : queue.closed = false) (nothing : queue.length = 0) :
      Attempted queue .get queue (.waiting .get)
  | closed :
      Attempted queue .close queue.close
        (.leaving [⟨.consumers, true⟩, ⟨.producers, true⟩] .closed)

lemma attempted (queue : Queue α) (request : QueueRequest α) :
    Attempted queue request (request.attempt queue).1 (request.attempt queue).2 := by
  cases request with
  | put entry verdict =>
      obtain ⟨rfl, stillOpen, room, found⟩ | ⟨rfl, stillOpen, noRoom, found⟩ |
        ⟨error, found, closed⟩ := queue.insert_cases entry verdict
      · simp only [QueueRequest.attempt, found]
        exact .inserted _ _ stillOpen (by simp [QueueRequest.side?]) fun _ => room
      · simp only [QueueRequest.attempt, found]
        exact .full entry stillOpen noRoom
      · simp only [QueueRequest.attempt, found]
        refine .turnedAway _ fun earnest => closed ?_
        obtain other | ⟨_, same⟩ := earnest
        · cases other
        · exact (QueueRequest.put.inj same).2
  | offer entry verdict =>
      obtain ⟨rfl, stillOpen, room, found⟩ | ⟨rfl, stillOpen, noRoom, found⟩ |
        ⟨error, found, closed⟩ := queue.insert_cases entry verdict
      · simp only [QueueRequest.attempt, found]
        exact .inserted _ _ stillOpen (by simp [QueueRequest.side?]) fun _ => room
      · simp only [QueueRequest.attempt, found]
        exact .turnedAway _ (by simp [QueueRequest.Earnest])
      · simp only [QueueRequest.attempt, found]
        exact .turnedAway _ (by simp [QueueRequest.Earnest])
  | followUp entry verdict =>
      obtain ⟨rfl, stillOpen, found⟩ | ⟨error, found, closed⟩ :=
        queue.insertAnyway_cases entry verdict
      · simp only [QueueRequest.attempt, found]
        exact .inserted _ _ stillOpen (by simp [QueueRequest.side?]) (by simp [QueueRequest.side?])
      · simp only [QueueRequest.attempt, found]
        exact .turnedAway _ (by simp [QueueRequest.Earnest])
  | get =>
      cases took : queue.take? with
      | some taken =>
          simp only [QueueRequest.attempt, took]
          exact .taken took
      | none =>
          have nothing : queue.length = 0 := by
            by_contra some
            have present : queue.items ≠ [] := fun none => some (by
              rw [← Queue.length_items, none, List.length_nil])
            have found := Queue.take?_isSome present
            rw [took] at found
            cases found
          simp only [QueueRequest.attempt, took]
          split
          · next closed => exact .turnedAway _ fun _ => closed
          · next notClosed => exact .empty (Bool.eq_false_iff.2 notClosed) nothing
  | close => exact .closed

/-- A thread that enters the lock finds nothing that its side waits for, or it leaves the supply of
each side as well seen to as before. -/
lemma care_of_attempted {queue after : Queue α} {request : QueueRequest α}
    (ready : before = .entering request ∨ before = .woken request) (earnest : before.Earnest)
    (attempted : Attempted queue request after later) (stillOpen : after.closed = false)
    (side : WaitingSide) :
    after.supply side = 0 ∨
      later.waitsOn side = false ∧
        after.supply side + before.care side ≤ queue.supply side + later.care side := by
  -- only a thread that a signal has reached is counted on, and only by its own side
  have own : before.care side = 0 ∨
      before = .woken request ∧ request.side? = some side ∧ before.care side = 1 := by
    obtain rfl | rfl := ready
    · exact .inl rfl
    · by_cases same : request.side? = some side
      · exact .inr ⟨rfl, same, by simp [same]⟩
      · exact .inl (by simp [same])
  cases attempted with
  | inserted priority item _ other room =>
      have length := Queue.length_push queue priority item
      have capacity := Queue.capacity_push queue priority item
      refine .inr ⟨rfl, ?_⟩
      cases side with
      | consumers =>
          obtain none | ⟨-, mine, -⟩ := own
          · simp [Queue.supply, length, none]
          · exact absurd mine other
      | producers =>
          simp only [Queue.supply, length, capacity]
          obtain none | ⟨-, mine, one⟩ := own
          · omega
          · have := room mine
            omega
  | full entry _ noRoom =>
      cases side with
      | producers => exact .inl (Nat.sub_eq_zero_of_le noRoom)
      | consumers =>
          obtain none | ⟨-, mine, -⟩ := own
          · exact .inr ⟨rfl, by simp [none]⟩
          · cases mine
  | turnedAway response why =>
      obtain none | ⟨rfl, -, -⟩ := own
      · exact .inr ⟨rfl, by simp [none]⟩
      · rw [why earnest] at stillOpen
        cases stillOpen
  | taken took =>
      have length := Queue.length_of_take? took
      have capacity := Queue.capacity_of_take? took
      refine .inr ⟨rfl, ?_⟩
      cases side with
      | consumers =>
          simp only [Queue.supply, length]
          obtain none | ⟨-, -, one⟩ := own <;> omega
      | producers =>
          obtain none | ⟨-, mine, -⟩ := own
          · simp only [Queue.supply, capacity, length, ThreadStage.care_leaving,
              List.count_cons_self, List.count_nil]
            omega
          · cases mine
  | empty _ nothing =>
      cases side with
      | consumers => exact .inl nothing
      | producers =>
          obtain none | ⟨-, mine, -⟩ := own
          · exact .inr ⟨rfl, by simp [none]⟩
          · cases mine
  | closed => cases stillOpen

/-- Nobody comes to wait at a queue that is closed. -/
lemma closed_of_attempted {queue after : Queue α} {request : QueueRequest α}
    (attempted : Attempted queue request after later) (isClosed : after.closed = true) :
    (∀ side, later.waitsOn side = false) ∧
      (queue.closed = true ∨ ∀ side, later.willTellClosed side = true) := by
  cases attempted with
  | inserted priority item stillOpen =>
      have same : (queue.push priority item).closed = queue.closed := by cases priority <;> rfl
      exact ⟨fun _ => rfl, .inl (same ▸ isClosed)⟩
  | full entry stillOpen => simp [stillOpen] at isClosed
  | turnedAway => exact ⟨fun _ => rfl, .inl isClosed⟩
  | taken took => exact ⟨fun _ => rfl, .inl ((Queue.lanes_of_take? took).2.2.2.1 ▸ isClosed)⟩
  | empty stillOpen => simp [stillOpen] at isClosed
  | closed => exact ⟨fun _ => rfl, .inr fun side => by cases side <;> rfl⟩

/-- A closed queue stays closed. -/
lemma closed_of_closed {queue after : Queue α} {request : QueueRequest α}
    (attempted : Attempted queue request after later) (wasClosed : queue.closed = true) :
    after.closed = true := by
  cases attempted with
  | inserted _ _ stillOpen => simp [stillOpen] at wasClosed
  | full _ stillOpen => exact wasClosed
  | turnedAway => exact wasClosed
  | taken took => exact (Queue.lanes_of_take? took).2.2.2.1.trans wasClosed
  | empty => exact wasClosed
  | closed => rfl

lemma earnest_of_attempted {queue after : Queue α} {request : QueueRequest α}
    (attempted : Attempted queue request after later) : later.Earnest := by
  cases attempted with
  | full entry => exact .inr ⟨entry, rfl⟩
  | empty => exact .inl rfl
  | inserted | turnedAway | taken | closed => trivial

/-- A thread that has the lock does its part. -/
lemma Vigilant.attempt {after : Queue α} {request : QueueRequest α}
    (vigilant : monitor.Vigilant) (there : monitor.threads[thread]? = some before)
    (ready : before = .entering request ∨ before = .woken request)
    (attempted : Attempted monitor.queue request after later) :
    (⟨after, monitor.threads.set thread later⟩ : Monitor α).Vigilant where
  supply stillOpen side waiting := by
    have earnest := vigilant.earnest before (List.mem_of_getElem? there)
    obtain none | ⟨passes, enough⟩ := care_of_attempted ready earnest attempted stillOpen side
    · rw [none]
      exact Nat.zero_le _
    · have was : Waits side monitor.threads :=
        (waits_of_set waiting).resolve_right (by simp [passes])
      have wasOpen : monitor.queue.closed = false := by
        by_contra isClosed
        rw [closed_of_closed attempted (Bool.not_eq_false _ ▸ isClosed)] at stillOpen
        cases stillOpen
      have before := vigilant.supply wasOpen side was
      have changed := care_set there later side
      dsimp only
      omega
  closed isClosed side waiting := by
    obtain ⟨passes, wasClosed | tells⟩ := closed_of_attempted attempted isClosed
    · have was : Waits side monitor.threads :=
        (waits_of_set waiting).resolve_right (by simp [passes])
      refine (vigilant.closed wasClosed side was).set there fun tells => ?_
      obtain rfl | rfl := ready <;> cases tells
    · have inside := (List.getElem?_eq_some_iff.1 there).1
      exact ⟨later, List.mem_iff_getElem?.2 ⟨thread, List.getElem?_set_self inside⟩, tells side⟩
  earnest stage member := by
    obtain old | rfl := List.mem_or_eq_of_mem_set member
    · exact vigilant.earnest stage old
    · exact earnest_of_attempted attempted

/-! ## A thread sends a signal -/

/-- What a signal does to the threads. -/
structure Heard (signal : Signal) (threads others : List (ThreadStage α)) : Prop where
  waits : ∀ side, Waits side others → Waits side threads ∧ signal ≠ ⟨side, true⟩
  cares : ∀ side, care side threads ≤ care side others
  called : ∀ side, signal = ⟨side, false⟩ → Waits side others →
    care side threads + 1 ≤ care side others
  tells : ∀ side, WillTellClosed side threads → WillTellClosed side others
  earnest : (∀ stage ∈ threads, stage.Earnest) → ∀ stage ∈ others, stage.Earnest
  leaving : ∀ (thread : Nat) signals response,
    threads[thread]? = some (.leaving signals response) →
      others[thread]? = some (.leaving signals response)

lemma eq_waiting_of_waitsOn (waits : before.waitsOn side = true) :
    ∃ request, before = .waiting request ∧ request.side? = some side := by
  cases before with
  | waiting request => exact ⟨request, rfl, of_decide_eq_true waits⟩
  | _ => cases waits

/-- A signal to all of a side leaves nobody of it waiting. -/
lemma heard_all (side : WaitingSide) (threads : List (ThreadStage α)) :
    Heard ⟨side, true⟩ threads
      (threads.map fun stage => if stage.waitsOn side then stage.wakened else stage) := by
  -- a stage that is not waiting stays as it is, and one that waits on the side is woken
  have becomes (stage : ThreadStage α) :
      (if stage.waitsOn side then stage.wakened else stage) = stage ∧ stage.waitsOn side = false ∨
        ∃ request, stage = .waiting request ∧ request.side? = some side ∧
          (if stage.waitsOn side then stage.wakened else stage) = .woken request := by
    by_cases waits : stage.waitsOn side = true
    · obtain ⟨request, rfl, own⟩ := eq_waiting_of_waitsOn waits
      exact .inr ⟨request, rfl, own, if_pos waits⟩
    · exact .inl ⟨if_neg waits, Bool.eq_false_iff.2 waits⟩
  constructor
  case waits =>
    rintro other ⟨stage, member, waiting⟩
    obtain ⟨old, there, rfl⟩ := List.mem_map.1 member
    obtain ⟨same, passes⟩ | ⟨request, rfl, -, woken⟩ := becomes old
    · rw [same] at waiting
      refine ⟨⟨old, there, waiting⟩, ?_⟩
      rintro ⟨⟩
      rw [passes] at waiting
      cases waiting
    · rw [woken] at waiting
      cases waiting
  case cares =>
    intro other
    unfold care
    rw [List.map_map]
    refine List.sum_le_sum fun stage _ => ?_
    obtain ⟨same, -⟩ | ⟨request, rfl, -, -⟩ := becomes stage
    · exact Nat.le_of_eq (congrArg (·.care other) same.symm)
    · exact Nat.zero_le _
  case called => rintro _ ⟨⟩
  case tells =>
    rintro other ⟨stage, member, tells⟩
    refine ⟨stage, List.mem_map.2 ⟨stage, member, ?_⟩, tells⟩
    obtain ⟨same, -⟩ | ⟨request, rfl, -, -⟩ := becomes stage
    · exact same
    · cases tells
  case earnest =>
    intro earnest stage member
    obtain ⟨old, there, rfl⟩ := List.mem_map.1 member
    have was := earnest old there
    obtain ⟨same, -⟩ | ⟨request, rfl, -, woken⟩ := becomes old
    · rw [same]
      exact was
    · rw [woken]
      exact was
  case leaving =>
    intro thread signals response there
    rw [List.getElem?_map, there]
    rfl

/-- A signal to one thread of a side reaches one that waits. -/
lemma heard_one {receiver : Nat} {request : QueueRequest α}
    (there : threads[receiver]? = some (.waiting request)) (own : request.side? = some side) :
    Heard ⟨side, false⟩ threads (threads.set receiver (.woken request)) where
  waits other waiting :=
    ⟨(waits_of_set waiting).resolve_right (by simp [ThreadStage.waitsOn]), by simp⟩
  cares other := by
    have changed := care_set there (.woken request) other
    rw [ThreadStage.care_waiting] at changed
    omega
  called other same _ := by
    obtain rfl := (Signal.mk.inj same).1
    have changed := care_set there (.woken request) side
    rw [ThreadStage.care_waiting, ThreadStage.care_woken, if_pos own] at changed
    omega
  tells other tells := tells.set there fun own => by cases own
  earnest earnest stage member := by
    obtain old | rfl := List.mem_or_eq_of_mem_set member
    · exact earnest stage old
    · exact earnest (.waiting request) (List.mem_of_getElem? there)
  leaving thread signals response found := by
    have apart : receiver ≠ thread := by
      rintro rfl
      rw [there] at found
      cases found
    rw [List.getElem?_set_ne apart, found]

/-- A signal to one thread of a side is lost if nobody waits. -/
lemma heard_none (nobody : ¬Waits side threads) : Heard ⟨side, false⟩ threads threads where
  waits other waiting := ⟨waiting, by simp⟩
  cares other := Nat.le_refl _
  called other same waiting := absurd ((Signal.mk.inj same).1 ▸ waiting) nobody
  tells other tells := tells
  earnest earnest := earnest
  leaving thread signals response found := found

lemma heard_of_send? {signal : Signal} {receiver : Nat}
    (sent : send? threads signal receiver = some others) : Heard signal threads others := by
  obtain ⟨side, toAll⟩ := signal
  unfold send? at sent
  cases toAll with
  | true =>
      obtain rfl := Option.some.inj sent
      exact heard_all side threads
  | false =>
      simp only [Bool.false_eq_true, if_false] at sent
      split at sent
      · split at sent
        · next stage there =>
            split at sent
            · next waits =>
                obtain ⟨request, rfl, own⟩ := eq_waiting_of_waitsOn waits
                obtain rfl := Option.some.inj sent
                exact heard_one there own
            · cases sent
        · cases sent
      · next nobody =>
          obtain rfl := Option.some.inj sent
          refine heard_none fun waits => nobody (List.any_eq_true.2 ?_)
          exact waits

/-- A thread that sends a signal does its part. -/
lemma Vigilant.signal {signal : Signal} {signals : List Signal} {response : QueueResponse α}
    (vigilant : monitor.Vigilant)
    (there : monitor.threads[thread]? = some (.leaving (signal :: signals) response))
    (heard : Heard signal monitor.threads others) :
    { monitor with threads := others.set thread (.leaving signals response) :
      Monitor α }.Vigilant where
  supply stillOpen side waiting := by
    have there := heard.leaving _ _ _ there
    have waiting := (waits_of_set waiting).resolve_right (by simp [ThreadStage.waitsOn])
    have enough := vigilant.supply stillOpen side (heard.waits side waiting).1
    have changed := care_set there (.leaving signals response) side
    have cares := heard.cares side
    simp only [ThreadStage.care_leaving, List.count_cons] at changed
    dsimp only
    split at changed
    · next same =>
        have called := heard.called side (eq_of_beq same) waiting
        omega
    · omega
  closed isClosed side waiting := by
    have there := heard.leaving _ _ _ there
    have waiting := (waits_of_set waiting).resolve_right (by simp [ThreadStage.waitsOn])
    obtain ⟨was, other⟩ := heard.waits side waiting
    refine (heard.tells side (vigilant.closed isClosed side was)).set there fun tells => ?_
    cases response <;> simp [ThreadStage.willTellClosed, Ne.symm other] at tells ⊢
    exact tells
  earnest stage member := by
    obtain old | rfl := List.mem_or_eq_of_mem_set member
    · exact heard.earnest vigilant.earnest stage old
    · trivial

/-! ## Every state that threads come to -/

/-- No step of a thread makes the others less vigilant. -/
lemma Vigilant.step {event : MonitorEvent α} (vigilant : monitor.Vigilant)
    (step : monitor.step event = some next) : next.Vigilant := by
  cases event with
  | ask thread request =>
      have idle : ∃ before, monitor.threads[thread]? = some before ∧
          (∀ side, before.care side = 0) ∧ (∀ side, before.willTellClosed side = false) ∧
            next = { monitor with threads := monitor.threads.set thread (.entering request) } := by
        simp only [Monitor.step] at step
        split at step
        · next there => exact ⟨_, there, fun _ => rfl, fun _ => rfl, (Option.some.inj step).symm⟩
        · next there => exact ⟨_, there, fun _ => rfl, fun _ => rfl, (Option.some.inj step).symm⟩
        · cases step
      obtain ⟨before, there, careless, silent, rfl⟩ := idle
      refine vigilant.pass there ?_ ?_ ?_ trivial
      · intro side waits
        cases waits
      · exact fun side => (careless side).le
      · intro side tells
        rw [silent side] at tells
        cases tells
  | wake thread =>
      simp only [Monitor.step] at step
      split at step
      · next request there =>
          obtain rfl := Option.some.inj step
          refine vigilant.pass there ?_ (fun side => Nat.le_refl _) (fun side tells => ?_) trivial
          · intro side waits
            cases waits
          · cases tells
      · cases step
  | goOn thread receiver =>
      simp only [Monitor.step] at step
      split at step
      · next request there =>
          obtain rfl := Option.some.inj step
          exact vigilant.attempt there (.inl rfl) (attempted _ _)
      · next request there =>
          obtain rfl := Option.some.inj step
          exact vigilant.attempt there (.inr rfl) (attempted _ _)
      · next signal signals response there =>
          obtain ⟨others, sent, rfl⟩ := Option.map_eq_some_iff.1 step
          exact vigilant.signal there (heard_of_send? sent)
      · next response there =>
          obtain rfl := Option.some.inj step
          refine vigilant.pass there ?_ ?_ ?_ trivial
          · intro side waits
            cases waits
          · intro side
            simp
          · intro side tells
            cases response <;> cases tells
      · cases step

/-- The monitor after events, if each is possible in its turn. -/
def steps (monitor : Monitor α) (events : List (MonitorEvent α)) : Option (Monitor α) :=
  events.foldlM step monitor

lemma vigilant_start (queue : Queue α) (threads : Nat) : (start queue threads).Vigilant := by
  have outside : ∀ stage ∈ (start queue threads).threads, stage = .outside := fun stage member =>
    (List.mem_replicate.1 member).2
  have nobody (side : WaitingSide) : ¬Waits side (start queue threads).threads := by
    rintro ⟨stage, member, waits⟩
    rw [outside stage member] at waits
    cases waits
  exact ⟨fun _ side waits => absurd waits (nobody side),
    fun _ side waits => absurd waits (nobody side),
    fun stage member => outside stage member ▸ trivial⟩

lemma Vigilant.steps {events : List (MonitorEvent α)} (vigilant : monitor.Vigilant)
    (reached : monitor.steps events = some next) : next.Vigilant := by
  induction events generalizing monitor with
  | nil => exact Option.some.inj reached ▸ vigilant
  | cons event events ih =>
      obtain ⟨between, first, rest⟩ := Option.bind_eq_some_iff.1 reached
      exact ih (vigilant.step first) rest

/-- No wake-up is lost, however the threads at a queue interleave. While the queue is open, the
items in it are no more than the consumers that a signal has reached and the signals to consumers
that are about to be sent, if a consumer waits that none has reached; and so it is with the free
places and the producers. When it is closed, nobody waits on a side who no signal has reached,
unless a thread that has closed it has yet to tell that side. -/
theorem vigilant_of_steps {queue : Queue α} {number : Nat} {events : List (MonitorEvent α)}
    (reached : (start queue number).steps events = some monitor) :
    (monitor.queue.closed = false →
      (Waits .consumers monitor.threads →
        monitor.queue.length ≤ monitor.notified .consumers + monitor.notifications .consumers) ∧
      (Waits .producers monitor.threads →
        monitor.queue.capacity - monitor.queue.length ≤
          monitor.notified .producers + monitor.notifications .producers)) ∧
    (monitor.queue.closed = true → ∀ side, Waits side monitor.threads →
      WillTellClosed side monitor.threads) := by
  have vigilant := (vigilant_start queue number).steps reached
  refine ⟨fun stillOpen => ⟨fun waits => ?_, fun waits => ?_⟩, vigilant.closed⟩
  · exact care_eq monitor .consumers ▸ vigilant.supply stillOpen .consumers waits
  · exact care_eq monitor .producers ▸ vigilant.supply stillOpen .producers waits

/-- Two consumers wait at a queue for one item. A thread puts an item in and calls one of them;
before that one has the lock, the thread has put in another item, above the capacity, and is about
to send the next signal. -/
theorem vigilant_twoItems :
    let monitor : Monitor Nat :=
      ⟨{ capacity := 1, immediate := [2], normal := [1], length := 2, counted := rfl },
        [.woken .get, .waiting .get, .leaving [⟨.consumers, false⟩] .inserted]⟩
    (start (Queue.ofCapacity 1) 3).steps
        [.ask 0 .get, .goOn 0 0, .ask 1 .get, .goOn 1 0,
          .ask 2 (.put ⟨1, .normal, "first"⟩ none), .goOn 2 0, .goOn 2 0, .goOn 2 0,
          .ask 2 (.followUp ⟨2, .immediate, "second"⟩ none), .goOn 2 0] = some monitor ∧
      Waits .consumers monitor.threads ∧
        monitor.queue.length ≤ monitor.notified .consumers + monitor.notifications .consumers := by
  intro monitor
  have reached : (start (Queue.ofCapacity 1) 3).steps
      [.ask 0 .get, .goOn 0 0, .ask 1 .get, .goOn 1 0,
        .ask 2 (.put ⟨1, .normal, "first"⟩ none), .goOn 2 0, .goOn 2 0, .goOn 2 0,
        .ask 2 (.followUp ⟨2, .immediate, "second"⟩ none), .goOn 2 0] = some monitor := by decide
  have waits : Waits .consumers monitor.threads := ⟨.waiting .get, by decide, rfl⟩
  exact ⟨reached, waits, ((vigilant_of_steps reached).1 rfl).1 waits⟩

/-! ## Nobody can go on -/

lemma exists_send? (threads : List (ThreadStage α)) (signal : Signal) :
    ∃ receiver others, send? threads signal receiver = some others := by
  by_cases all : signal.toAll = true
  · exact ⟨0, _, if_pos all⟩
  · by_cases somebody : threads.any (·.waitsOn signal.side) = true
    · obtain ⟨stage, member, waits⟩ := List.any_eq_true.1 somebody
      obtain ⟨receiver, there⟩ := List.mem_iff_getElem?.1 member
      exact ⟨receiver, _, by simp only [send?, all, somebody, there, waits]; rfl⟩
    · exact ⟨0, threads, by simp only [send?, all, somebody]; rfl⟩

/-- A thread that cannot go on waits, or has nothing to do at the queue. -/
lemma care_eq_zero_of_stuck
    (stuck : ∀ thread receiver, monitor.step (.goOn thread receiver) = none)
    {stage : ThreadStage α} (member : stage ∈ monitor.threads) :
    (∀ side, stage.care side = 0) ∧ ∀ side, stage.willTellClosed side = false := by
  obtain ⟨thread, there⟩ := List.mem_iff_getElem?.1 member
  cases stage with
  | outside | waiting | returned => exact ⟨fun _ => rfl, fun _ => rfl⟩
  | entering request | woken request =>
      have goes := stuck thread 0
      simp [Monitor.step, there] at goes
  | leaving signals response =>
      cases signals with
      | nil =>
          have goes := stuck thread 0
          simp [Monitor.step, there] at goes
      | cons signal signals =>
          obtain ⟨receiver, others, sent⟩ := exists_send? monitor.threads signal
          have goes := stuck thread receiver
          simp [Monitor.step, there, sent] at goes

/-- Where no thread can go on, a thread waits for an item only if the queue is empty, for room only
if there is none, and not at all if the queue is closed. -/
theorem Vigilant.of_stuck (vigilant : monitor.Vigilant)
    (stuck : ∀ thread receiver, monitor.step (.goOn thread receiver) = none) :
    (Waits .consumers monitor.threads → monitor.queue.length = 0) ∧
      (Waits .producers monitor.threads → monitor.queue.capacity ≤ monitor.queue.length) ∧
        (monitor.queue.closed = true → ∀ side, ¬Waits side monitor.threads) := by
  have silent (side : WaitingSide) : ¬WillTellClosed side monitor.threads := by
    rintro ⟨stage, member, tells⟩
    rw [(care_eq_zero_of_stuck stuck member).2 side] at tells
    cases tells
  have nobody (isClosed : monitor.queue.closed = true) (side : WaitingSide) :
      ¬Waits side monitor.threads := fun waits => silent side (vigilant.closed isClosed side waits)
  have nothing (side : WaitingSide) (waits : Waits side monitor.threads) :
      monitor.queue.supply side = 0 := by
    have none : care side monitor.threads = 0 := List.sum_eq_zero fun count member => by
      obtain ⟨stage, there, rfl⟩ := List.mem_map.1 member
      exact (care_eq_zero_of_stuck stuck there).1 side
    cases closed : monitor.queue.closed with
    | true => exact absurd waits (nobody closed side)
    | false => exact Nat.le_zero.1 (none ▸ vigilant.supply closed side waits)
  exact ⟨nothing .consumers, fun waits => Nat.le_of_sub_eq_zero (nothing .producers waits), nobody⟩

end Monitor
end BulkTransfer
