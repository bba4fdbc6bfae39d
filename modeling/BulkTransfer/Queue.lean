import BulkTransfer.Error

/-!
# The task queue

A bounded queue with one line per priority. The next item is the oldest one of the highest
priority present, so items of equal priority never overtake each other. How many items there are
is counted beside the lines, and whether there is room is read off that count. An insertion
passes an admission policy first, whose verdict is given with it, and then depends on the queue
alone: a closed queue refuses it, and a full one has no room, unless the item is a follow-up of
work already under way.
-/

namespace BulkTransfer

/-- The priorities of queued items, highest first. -/
inductive Priority where
  | immediate
  | normal
  | shutdown
  deriving DecidableEq, Repr

/-- An item to be queued, with its priority and the name under which it may be refused. -/
structure Entry (α : Type) where
  item : α
  priority : Priority
  label : String
  deriving DecidableEq, Repr

/-- A queue: its capacity, its three lines, the count of the items in them, and whether it is
closed. -/
structure Queue (α : Type) where
  capacity : Nat
  immediate : List α := []
  normal : List α := []
  shutdown : List α := []
  length : Nat := 0
  closed : Bool := false
  counted : length = immediate.length + normal.length + shutdown.length
  deriving DecidableEq, Repr

/-- What becomes of an insertion. -/
inductive Insertion (α : Type) where
  | accepted (queue : Queue α)
  | full
  | refused (error : Failure)
  deriving DecidableEq, Repr

namespace Queue

variable {α : Type}

/-- An empty queue for the wanted number of items, but at least for one. -/
def ofCapacity (wanted : Nat) : Queue α :=
  { capacity := max wanted 1, counted := rfl }

/-- Whether the queue holds as many items as it should or more. -/
def isFull (queue : Queue α) : Bool :=
  queue.capacity ≤ queue.length

/-- The queue with an item at the end of the line of its priority. -/
def push (queue : Queue α) (priority : Priority) (item : α) : Queue α :=
  match priority with
  | .immediate =>
      { queue with
        immediate := queue.immediate ++ [item]
        length := queue.length + 1
        counted := by grind [queue.counted] }
  | .normal =>
      { queue with
        normal := queue.normal ++ [item]
        length := queue.length + 1
        counted := by grind [queue.counted] }
  | .shutdown =>
      { queue with
        shutdown := queue.shutdown ++ [item]
        length := queue.length + 1
        counted := by grind [queue.counted] }

/-- The next item and the queue without it, if there is one. -/
def take? (queue : Queue α) : Option (α × Queue α) :=
  match immediate : queue.immediate, normal : queue.normal, shutdown : queue.shutdown with
  | item :: rest, _, _ =>
      some (item, { queue with
        immediate := rest
        length := queue.length - 1
        counted := by grind [queue.counted] })
  | [], item :: rest, _ =>
      some (item, { queue with
        normal := rest
        length := queue.length - 1
        counted := by grind [queue.counted] })
  | [], [], item :: rest =>
      some (item, { queue with
        shutdown := rest
        length := queue.length - 1
        counted := by grind [queue.counted] })
  | [], [], [] => none

/-- Inserts an entry whether or not there is room, for work already under way. -/
def insertAnyway (queue : Queue α) (entry : Entry α) (verdict : Option String) : Insertion α :=
  match verdict with
  | some reason => .refused (.rejected entry.label reason)
  | none =>
      if queue.closed then .refused .queueClosed
      else .accepted (queue.push entry.priority entry.item)

/-- Inserts an entry if there is room. Where there is none, one caller waits and another gives
up; the queue is the same for both. -/
def insert (queue : Queue α) (entry : Entry α) (verdict : Option String) : Insertion α :=
  match queue.insertAnyway entry verdict with
  | .accepted filled => if queue.isFull then .full else .accepted filled
  | other => other

/-- The queue closed for insertions; what it holds can still be taken. -/
def close (queue : Queue α) : Queue α :=
  { queue with closed := true }

end Queue
end BulkTransfer
