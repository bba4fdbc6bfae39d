import BulkTransfer.Bytes

/-!
# Readers

A reader is what a source hands out, one delivery per attempt to read: a piece of its bytes, an
interruption after which one tries again, or a failure. It ends with its last delivery, and an
empty piece ends it as well. Readers that deliver the same bytes in different pieces cannot be
told apart by what is read from them.
-/

namespace BulkTransfer

/-- What one attempt to read gives. -/
inductive Delivery where
  | piece (bytes : Bytes)
  | interrupted
  | failure (message : String)
  deriving DecidableEq, Repr

/-- The deliveries of a source, first to last. -/
abbrev Reader := List Delivery

namespace Reader

/-- The reader that hands out `bytes` at once. -/
def ofBytes (bytes : Bytes) : Reader :=
  if bytes.isEmpty then [] else [.piece bytes]

/-- The reader that hands out a byte string in pieces of at most `size` bytes. -/
def inPieces (size : Nat) (bytes : Bytes) : Reader :=
  (Bytes.chunks size bytes).map .piece

/-- A reader that is interrupted before each of its deliveries and before its end. -/
def interruptedEach (reader : Reader) : Reader :=
  reader.flatMap (fun delivery => [.interrupted, delivery]) ++ [.interrupted]

/-- What is read at once from bytes that are handed out at once. -/
theorem ofBytes_cases (bytes : Bytes) :
    (bytes = [] ∧ ofBytes bytes = []) ∨ (bytes ≠ [] ∧ ofBytes bytes = [.piece bytes]) := by
  by_cases none : bytes = []
  · exact .inl ⟨none, if_pos (List.isEmpty_iff.2 none)⟩
  · exact .inr ⟨none, if_neg fun empty => none (List.isEmpty_iff.1 empty)⟩

/-- All bytes that a reader hands out before it ends or fails. -/
def delivered : Reader → Bytes
  | .piece bytes :: rest => if bytes.isEmpty then [] else bytes ++ delivered rest
  | .interrupted :: rest => delivered rest
  | .failure _ :: _ => []
  | [] => []

/-- The failure that ends a reader, if one does. -/
def failure? : Reader → Option String
  | .piece bytes :: rest => if bytes.isEmpty then none else failure? rest
  | .interrupted :: rest => failure? rest
  | .failure message :: _ => some message
  | [] => none

/-- What is left of a reader after an attempt to take bytes from it: nothing once it has ended,
and a failure again once it has failed. -/
def spent : Reader → Reader
  | .failure message :: _ => [.failure message]
  | _ => []

/-- The first `count` bytes of a reader, or all of them if there are fewer, and the reader
afterwards. A failure is met only if fewer than `count` bytes come before it. -/
def take (count : Nat) : Reader → Except String Bytes × Reader
  | .piece bytes :: rest =>
      if count = 0 then (.ok [], .piece bytes :: rest)
      else if bytes.isEmpty then (.ok [], [])
      else if count < bytes.length then
        (.ok (bytes.take count), .piece (bytes.drop count) :: rest)
      else
        let more := take (count - bytes.length) rest
        (more.1.map (bytes ++ ·), more.2)
  | .interrupted :: rest =>
      if count = 0 then (.ok [], .interrupted :: rest) else take count rest
  | .failure message :: rest =>
      if count = 0 then (.ok [], .failure message :: rest)
      else (.error message, [.failure message])
  | [] => (.ok [], [])

/-- What is taken and what can be taken later are all bytes that a reader hands out. -/
theorem delivered_of_take {count : Nat} {reader rest : Reader} {taken : Bytes}
    (took : reader.take count = (.ok taken, rest)) :
    taken ++ rest.delivered = reader.delivered := by
  fun_induction take count reader generalizing taken rest with
  | case1 bytes others =>
      cases took
      rfl
  | case2 count bytes others some empty =>
      cases took
      rw [delivered, if_pos empty]
      rfl
  | case3 count bytes others some filled within =>
      cases took
      have left : ¬(bytes.drop count).isEmpty = true := by
        rw [List.isEmpty_iff, List.drop_eq_nil_iff]
        omega
      rw [delivered, if_neg left, delivered, if_neg filled, ← List.append_assoc,
        List.take_append_drop]
  | case4 count bytes others some filled beyond more =>
      rename_i ih
      obtain ⟨gave, rfl⟩ := Prod.mk.inj took
      cases read : more.1 with
      | error message =>
          rw [read] at gave
          cases gave
      | ok later =>
          rw [read] at gave
          obtain rfl := Except.ok.inj gave
          rw [delivered, if_neg filled, List.append_assoc, ih (Prod.ext read rfl)]
  | case5 others =>
      cases took
      rfl
  | case6 count others some ih => exact ih took
  | case7 message others =>
      cases took
      rfl
  | case8 count message others some => cases took
  | case9 count =>
      cases took
      rfl

end Reader
end BulkTransfer
