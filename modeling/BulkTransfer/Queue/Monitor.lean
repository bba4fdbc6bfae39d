import BulkTransfer.Queue

/-!
# Threads at the queue

How threads share one queue. A thread that asks for something enters the queue's lock, and
either gets its response or waits, as a producer for room or as a consumer for items. Whoever
changed the queue leaves the lock first and then sends a signal; a signal wakes one waiting
thread of its side, or all of them, or is lost if nobody waits. A woken thread enters the lock
again and decides anew. A waiting thread may also wake without a signal, and then comes to the lock
like one that has just asked.
-/

namespace BulkTransfer

/-- The two sides on which threads wait. -/
inductive WaitingSide where
  | producers
  | consumers
  deriving DecidableEq, Repr

/-- What a thread asks of the queue. An insertion comes with the verdict of the admission
policy. -/
inductive QueueRequest (α : Type) where
  | put (entry : Entry α) (verdict : Option String)
  | followUp (entry : Entry α) (verdict : Option String)
  | offer (entry : Entry α) (verdict : Option String)
  | get
  | close
  deriving DecidableEq, Repr

/-- What a thread is told. -/
inductive QueueResponse (α : Type) where
  | inserted
  | noRoom
  | refused (error : Failure)
  | taken (item : Option α)
  | closed
  deriving DecidableEq, Repr

/-- A signal to the waiting threads of a side. -/
structure Signal where
  side : WaitingSide
  toAll : Bool
  deriving DecidableEq, Repr

/-- Where a thread is. It is woken from when a signal has reached it until it has the lock. -/
inductive ThreadStage (α : Type) where
  | outside
  | entering (request : QueueRequest α)
  | waiting (request : QueueRequest α)
  | woken (request : QueueRequest α)
  | leaving (signals : List Signal) (response : QueueResponse α)
  | returned (response : QueueResponse α)
  deriving DecidableEq, Repr

/-- A queue and the threads around it. -/
structure Monitor (α : Type) where
  queue : Queue α
  threads : List (ThreadStage α)
  deriving DecidableEq, Repr

/-- Something that happens at a monitor: a thread asks for something, a thread goes on (and, if
it sends a signal to one thread, to which), or a waiting thread wakes by itself. -/
inductive MonitorEvent (α : Type) where
  | ask (thread : Nat) (request : QueueRequest α)
  | goOn (thread : Nat) (receiver : Nat)
  | wake (thread : Nat)
  deriving DecidableEq, Repr

namespace QueueRequest

variable {α : Type}

/-- The side on which a thread with this request waits, if it may have to. -/
def side? : QueueRequest α → Option WaitingSide
  | .put _ _ => some .producers
  | .get => some .consumers
  | _ => none

/-- What a thread finds when it has the lock: the queue afterwards and where the thread is. -/
def attempt (queue : Queue α) (request : QueueRequest α) : Queue α × ThreadStage α :=
  let filled : Insertion α → ThreadStage α → Queue α × ThreadStage α := fun insertion noRoom =>
    match insertion with
    | .accepted queue => (queue, .leaving [⟨.consumers, false⟩] .inserted)
    | .full => (queue, noRoom)
    | .refused error => (queue, .returned (.refused error))
  match request with
  | .put entry verdict => filled (queue.insert entry verdict) (.waiting (.put entry verdict))
  | .offer entry verdict => filled (queue.insert entry verdict) (.returned .noRoom)
  | .followUp entry verdict => filled (queue.insertAnyway entry verdict) (.returned .noRoom)
  | .get =>
      match queue.take? with
      | some (item, queue) => (queue, .leaving [⟨.producers, false⟩] (.taken (some item)))
      | none => (queue, if queue.closed then .returned (.taken none) else .waiting .get)
  | .close => (queue.close, .leaving [⟨.consumers, true⟩, ⟨.producers, true⟩] .closed)

end QueueRequest

namespace ThreadStage

variable {α : Type}

/-- Whether a thread waits on a side and no signal has reached it. -/
def waitsOn (side : WaitingSide) : ThreadStage α → Bool
  | .waiting request => request.side? = some side
  | _ => false

/-- A waiting thread after a signal has reached it. -/
def wakened : ThreadStage α → ThreadStage α
  | .waiting request => .woken request
  | stage => stage

end ThreadStage

namespace Monitor

variable {α : Type}

/-- A monitor whose threads are all outside. -/
def start (queue : Queue α) (threads : Nat) : Monitor α :=
  ⟨queue, List.replicate threads .outside⟩

/-- The threads after a signal. A signal to one thread reaches the chosen one if it waits on the
side, and must not be lost while another thread does. -/
def send? (threads : List (ThreadStage α)) (signal : Signal) (receiver : Nat) :
    Option (List (ThreadStage α)) :=
  if signal.toAll then
    some (threads.map fun stage => if stage.waitsOn signal.side then stage.wakened else stage)
  else if threads.any (·.waitsOn signal.side) then
    match threads[receiver]? with
    | some stage =>
        if stage.waitsOn signal.side then some (threads.set receiver stage.wakened) else none
    | none => none
  else some threads

/-- The monitor after an event, if the event is possible. -/
def step (monitor : Monitor α) : MonitorEvent α → Option (Monitor α)
  | .ask thread request =>
      match monitor.threads[thread]? with
      | some .outside | some (.returned _) =>
          some { monitor with threads := monitor.threads.set thread (.entering request) }
      | _ => none
  | .wake thread =>
      match monitor.threads[thread]? with
      | some (.waiting request) =>
          some { monitor with threads := monitor.threads.set thread (.entering request) }
      | _ => none
  | .goOn thread receiver =>
      match monitor.threads[thread]? with
      | some (.entering request) | some (.woken request) =>
          let result := QueueRequest.attempt monitor.queue request
          some ⟨result.1, monitor.threads.set thread result.2⟩
      | some (.leaving (signal :: signals) response) =>
          (send? monitor.threads signal receiver).map fun threads =>
            { monitor with threads := threads.set thread (.leaving signals response) }
      | some (.leaving [] response) =>
          some { monitor with threads := monitor.threads.set thread (.returned response) }
      | _ => none

/-- The first step of any thread that is possible; a signal goes to the first thread that waits
for it. -/
def anyStep? (monitor : Monitor α) : Option (Monitor α) :=
  let all := List.range monitor.threads.length
  all.findSome? fun thread => all.findSome? fun receiver => monitor.step (.goOn thread receiver)

/-- The monitor after at most `fuel` steps of its threads, in a fixed order. -/
def settle (monitor : Monitor α) : Nat → Monitor α
  | 0 => monitor
  | fuel + 1 =>
      match monitor.anyStep? with
      | some next => next.settle fuel
      | none => monitor

/-- The steps that one request can cause: its thread enters, sends two signals and returns, and
every other thread does so at most once. -/
def stepsOfRequest (monitor : Monitor α) : Nat :=
  5 * monitor.threads.length

/-- The monitor after a thread has asked for something and everybody has gone on as far as they
can. -/
def request (monitor : Monitor α) (thread : Nat) (request : QueueRequest α) : Monitor α :=
  match monitor.step (.ask thread request) with
  | some asked => asked.settle asked.stepsOfRequest
  | none => monitor

/-- What a thread was told last. -/
def response? (monitor : Monitor α) (thread : Nat) : Option (QueueResponse α) :=
  match monitor.threads[thread]? with
  | some (.returned response) => some response
  | _ => none

/-- What two threads at a queue are told when one makes a request and then the other, and the
queue afterwards. If the first is still waiting then, the second closes the queue. -/
def meet (queue : Queue α) (first second : QueueRequest α) :
    Option (QueueResponse α) × Option (QueueResponse α) × Queue α :=
  let met := ((start queue 2).request 0 first).request 1 second
  let ended := if (met.response? 0).isSome then met else met.request 1 .close
  (ended.response? 0, met.response? 1, ended.queue)

end Monitor
end BulkTransfer
