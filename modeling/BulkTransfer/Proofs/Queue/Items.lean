import BulkTransfer.Queue
import Mathlib.Tactic.Lemma

/-!
# The items of a queue

What a queue holds, in the order in which it is taken. An insertion puts one item more among the
others, and what is taken is the first of them. The queue's own count is that of its items
(`Queue.length_items`).
-/

namespace BulkTransfer

/-- The items of a queue in the order in which they are taken. -/
def Queue.items {α : Type} (queue : Queue α) : List α :=
  queue.immediate ++ queue.normal ++ queue.shutdown

namespace Queue

variable {α : Type} {queue rest : Queue α} {item : α}

/-- The first item of the first lane that is not empty is taken, and counted off. -/
lemma take?_eq_some_of_lanes {rest : Queue α}
    (lanes : queue.immediate = item :: rest.immediate ∧ rest.normal = queue.normal ∧
        rest.shutdown = queue.shutdown ∨
      queue.immediate = [] ∧ rest.immediate = [] ∧
        (queue.normal = item :: rest.normal ∧ rest.shutdown = queue.shutdown ∨
          queue.normal = [] ∧ rest.normal = [] ∧ queue.shutdown = item :: rest.shutdown))
    (length : queue.length = rest.length + 1) (capacity : rest.capacity = queue.capacity)
    (closed : rest.closed = queue.closed) : queue.take? = some (item, rest) := by
  obtain ⟨_, _, _, _, _, _, _⟩ := queue
  obtain ⟨_, _, _, _, _, _, _⟩ := rest
  obtain ⟨rfl, rfl, rfl⟩ | ⟨rfl, rfl, ⟨rfl, rfl⟩ | ⟨rfl, rfl, rfl⟩⟩ := lanes
  all_goals
    obtain rfl := capacity
    obtain rfl := closed
    obtain rfl := length
    rfl

lemma items_of_take? (h : queue.take? = some (item, rest)) :
    queue.items = item :: rest.items := by
  unfold take? at h
  split at h
  · next i r hi =>
      obtain ⟨rfl, rfl⟩ := Prod.mk.inj (Option.some.inj h)
      simp [items, hi]
  · next i r hi hn =>
      obtain ⟨rfl, rfl⟩ := Prod.mk.inj (Option.some.inj h)
      simp [items, hi, hn]
  · next i r hi hn hs =>
      obtain ⟨rfl, rfl⟩ := Prod.mk.inj (Option.some.inj h)
      simp [items, hi, hn, hs]
  · cases h

/-- An item is the first of its lane, and the lanes before that are empty. -/
lemma lane_of_take? (h : queue.take? = some (item, rest)) :
    queue.immediate = item :: rest.immediate ∧ rest.normal = queue.normal ∨
      queue.immediate = [] ∧ rest.immediate = [] ∧
        (queue.normal = item :: rest.normal ∨
          rest.normal = queue.normal ∧ queue.shutdown = item :: rest.shutdown ∧
            queue.normal = []) := by
  unfold take? at h
  split at h
  · next first others immediate =>
      obtain ⟨rfl, rfl⟩ := Prod.mk.inj (Option.some.inj h)
      exact .inl ⟨immediate, rfl⟩
  · next first others immediate normal =>
      obtain ⟨rfl, rfl⟩ := Prod.mk.inj (Option.some.inj h)
      exact .inr ⟨immediate, immediate, .inl normal⟩
  · next first others immediate normal shutdown =>
      obtain ⟨rfl, rfl⟩ := Prod.mk.inj (Option.some.inj h)
      exact .inr ⟨immediate, immediate, .inr ⟨rfl, shutdown, normal⟩⟩
  · cases h

/-- Taking an item leaves a part of every lane, and only an item of the last lane is taken when
the others are empty. -/
lemma lanes_of_take? (h : queue.take? = some (item, rest)) :
    rest.immediate.Sublist queue.immediate ∧ rest.normal.Sublist queue.normal ∧
      rest.shutdown.Sublist queue.shutdown ∧ rest.closed = queue.closed ∧
        ((∀ other ∈ queue.immediate ++ queue.normal, other ≠ item) →
          rest.immediate = [] ∧ rest.normal = []) := by
  unfold take? at h
  split at h
  · next i r hi =>
      obtain ⟨rfl, rfl⟩ := Prod.mk.inj (Option.some.inj h)
      exact ⟨by simp [hi], .refl _, .refl _, rfl,
        fun apart => absurd rfl (apart i (by simp [hi]))⟩
  · next i r hi hn =>
      obtain ⟨rfl, rfl⟩ := Prod.mk.inj (Option.some.inj h)
      exact ⟨.refl _, by simp [hn], .refl _, rfl,
        fun apart => absurd rfl (apart i (by simp [hn]))⟩
  · next i r hi hn hs =>
      obtain ⟨rfl, rfl⟩ := Prod.mk.inj (Option.some.inj h)
      simp [hi, hn, hs]
  · cases h

lemma items_push_perm (queue : Queue α) (priority : Priority) (item : α) :
    (queue.push priority item).items.Perm (item :: queue.items) := by
  cases priority
  · simp [items, push]
  · have moved := @List.perm_middle _ item (queue.immediate ++ queue.normal) queue.shutdown
    simpa [items, push] using moved
  · simpa [items, push] using
      List.perm_append_singleton item (queue.immediate ++ queue.normal ++ queue.shutdown)

lemma capacity_push (queue : Queue α) (priority : Priority) (item : α) :
    (queue.push priority item).capacity = queue.capacity := by
  cases priority <;> rfl

lemma capacity_of_take? (taken : queue.take? = some (item, rest)) :
    rest.capacity = queue.capacity := by
  unfold take? at taken
  split at taken
  all_goals cases taken
  all_goals rfl

theorem length_items (queue : Queue α) : queue.items.length = queue.length := by
  rw [items, List.length_append, List.length_append, queue.counted]

lemma length_push (queue : Queue α) (priority : Priority) (item : α) :
    (queue.push priority item).length = queue.length + 1 := by
  cases priority <;> rfl

lemma length_of_take? (taken : queue.take? = some (item, rest)) :
    queue.length = rest.length + 1 := by
  rw [← length_items, items_of_take? taken, List.length_cons, length_items]

lemma take?_eq_none_iff : queue.take? = none ↔ queue.items = [] := by
  constructor
  · intro nothing
    unfold take? at nothing
    split at nothing
    · cases nothing
    · cases nothing
    · cases nothing
    · next immediate normal shutdown =>
        rw [items, immediate, normal, shutdown]
        rfl
  · intro empty
    cases taken : queue.take? with
    | none => rfl
    | some result => cases (items_of_take? taken).symm.trans empty

lemma take?_isSome (present : queue.items ≠ []) : queue.take?.isSome = true :=
  Option.isSome_iff_ne_none.2 (mt take?_eq_none_iff.1 present)

/-- What becomes of an insertion that needs no room. -/
lemma insertAnyway_cases (queue : Queue α) (entry : Entry α) (verdict : Option String) :
    (verdict = none ∧ queue.closed = false ∧
      queue.insertAnyway entry verdict =
        .accepted (queue.push entry.priority entry.item)) ∨
    ∃ error, queue.insertAnyway entry verdict = .refused error ∧
      (verdict = none → queue.closed = true) := by
  cases verdict with
  | some reason => exact .inr ⟨_, rfl, fun none => by cases none⟩
  | none =>
      cases closed : queue.closed with
      | false => exact .inl ⟨rfl, rfl, by simp [insertAnyway, closed]⟩
      | true => exact .inr ⟨.queueClosed, by simp [insertAnyway, closed], fun _ => rfl⟩

/-- What becomes of an insertion that needs room. -/
lemma insert_cases (queue : Queue α) (entry : Entry α) (verdict : Option String) :
    (verdict = none ∧ queue.closed = false ∧ queue.length < queue.capacity ∧
      queue.insert entry verdict = .accepted (queue.push entry.priority entry.item)) ∨
    (verdict = none ∧ queue.closed = false ∧ queue.capacity ≤ queue.length ∧
      queue.insert entry verdict = .full) ∨
    ∃ error, queue.insert entry verdict = .refused error ∧
      (verdict = none → queue.closed = true) := by
  obtain ⟨admitted, stillOpen, accepted⟩ | ⟨error, refused, closed⟩ :=
    queue.insertAnyway_cases entry verdict
  · by_cases room : queue.length < queue.capacity
    · exact .inl ⟨admitted, stillOpen, room, by simp [insert, accepted, isFull, room]⟩
    · exact .inr (.inl ⟨admitted, stillOpen, Nat.le_of_not_lt room,
        by simp [insert, accepted, isFull, Nat.le_of_not_lt room]⟩)
  · exact .inr (.inr ⟨error, by simp [insert, refused], closed⟩)

/-- An insertion puts the item at the end of its line. -/
lemma eq_push_of_insertAnyway {filled : Queue α} {entry : Entry α} {verdict : Option String}
    (inserted : queue.insertAnyway entry verdict = .accepted filled) :
    filled = queue.push entry.priority entry.item := by
  obtain ⟨-, -, accepted⟩ | ⟨error, refused, -⟩ := queue.insertAnyway_cases entry verdict
  · exact (Insertion.accepted.inj (accepted.symm.trans inserted)).symm
  · cases refused.symm.trans inserted

lemma eq_push_of_insert {filled : Queue α} {entry : Entry α} {verdict : Option String}
    (inserted : queue.insert entry verdict = .accepted filled) :
    filled = queue.push entry.priority entry.item := by
  obtain ⟨-, -, -, accepted⟩ | ⟨-, -, -, full⟩ | ⟨error, refused, -⟩ :=
    queue.insert_cases entry verdict
  · exact (Insertion.accepted.inj (accepted.symm.trans inserted)).symm
  · cases full.symm.trans inserted
  · cases refused.symm.trans inserted

/-- An insertion that needs room is accepted only if there is some. -/
lemma length_lt_of_insert {filled : Queue α} {entry : Entry α} {verdict : Option String}
    (inserted : queue.insert entry verdict = .accepted filled) :
    queue.length < queue.capacity := by
  obtain ⟨-, -, room, -⟩ | ⟨-, -, -, full⟩ | ⟨error, refused, -⟩ :=
    queue.insert_cases entry verdict
  · exact room
  · cases full.symm.trans inserted
  · cases refused.symm.trans inserted

end Queue

end BulkTransfer
