import BulkTransfer.Number.Word
import BulkTransfer.Reader
import BulkTransfer.Remote.ContentType
import BulkTransfer.Settings.Params
import BulkTransfer.Stream.Session

/-!
# Streamed uploads

A stream is read in chunks of one size, each when the one before it has been sent. One that is
shorter than a chunk is put as a whole. A longer one is uploaded in parts of one chunk each, and
completed with their tags; a part that fails, or a chunk that cannot be read, aborts the upload.
-/

namespace BulkTransfer.Stream

/-- Where and how a stream is uploaded. -/
structure Upload where
  object : ObjectName
  chunksize : Nat
  params : Params := {}
  overflow : Word.Overflow := .wraps
  deriving DecidableEq, Repr

namespace Upload

variable {σ : Type}

/-- The content type of the object: the given one, or one guessed from the key. -/
def contentType (upload : Upload) : Option String :=
  match upload.params.contentType with
  | some contentType => some contentType
  | none =>
      if upload.params.guessContentType then ContentType.guess? upload.object.key else none

/-- What the object is given. -/
def attributes (upload : Upload) : ObjectAttributes :=
  ⟨upload.contentType, upload.params.acl, upload.params.storageClass⟩

/-- Uploads a chunk and those that can still be read as parts from a number on, until a chunk is
empty, and gives the finished parts. -/
def sendParts (service : Service σ) (upload : Upload) (uploadId : String) (number : UInt32)
    (chunk : Bytes) (source : Reader) (session : Session σ) :
    Except Halt (List FinishedPart) × Session σ :=
  if _ : chunk = [] then (.ok [], session)
  else
    match session.ask service
        (.uploadPart upload.object uploadId number.toNat chunk) with
    | (.error halt, session) => (.error halt, session)
    | (.ok (.part (some tag)), session) =>
        match upload.overflow.next? number with
        | none => (.error .panicked, session)
        | some next =>
            match _ : source.take upload.chunksize with
            | (.error message, _) => (.error (.failed (.stream message)), session)
            | (.ok following, rest) =>
                let more := sendParts service upload uploadId next following rest session
                (more.1.map (⟨number.toNat, tag⟩ :: ·), more.2)
    | (.ok _, session) => (.error (.failed (.missingField "UploadPart" "ETag")), session)
termination_by chunk.length + source.delivered.length
decreasing_by
  have left := congrArg List.length (Reader.delivered_of_take ‹_›)
  have sent : 0 < chunk.length := List.length_pos_iff.2 ‹_›
  rw [List.length_append] at left
  omega

/-- Creates the multipart upload and gives its identifier. -/
def create (service : Service σ) (upload : Upload) (session : Session σ) :
    Except Halt String × Session σ :=
  match session.ask service (.createUpload upload.object upload.attributes) with
  | (.error halt, session) => (.error halt, session)
  | (.ok (.created (some uploadId)), session) => (.ok uploadId, session)
  | (.ok _, session) =>
      (.error (.failed (.missingField "CreateMultipartUpload" "UploadId")), session)

/-- Aborts the upload after a failure, which stays the outcome even if the abort fails. -/
def abort (service : Service σ) (upload : Upload) (uploadId : String) (error : Failure)
    (session : Session σ) : Except Halt Unit × Session σ :=
  match session.ask service (.abortUpload upload.object uploadId) with
  | (.error .panicked, session) => (.error .panicked, session)
  | (_, session) => (.error (.failed error), session)

/-- Uploads a stream in parts, of which the first chunk has been read: all of it and the completion,
or some of it and the abort. -/
def runParts (service : Service σ) (upload : Upload) (first : Bytes) (source : Reader)
    (session : Session σ) : Except Halt Unit × Session σ :=
  match upload.create service session with
  | (.error halt, session) => (.error halt, session)
  | (.ok uploadId, session) =>
      match upload.sendParts service uploadId 1 first source session with
      | (.ok parts, session) =>
          let completed := session.ask service (.completeUpload upload.object uploadId parts)
          (completed.1.map fun _ => (), completed.2)
      | (.error (.failed error), session) => upload.abort service uploadId error session
      | (.error .panicked, session) => (.error .panicked, session)

/-- Puts a short stream as a whole. -/
def runWhole (service : Service σ) (upload : Upload) (body : Bytes) (session : Session σ) :
    Except Halt Unit × Session σ :=
  let stored := session.ask service (.putObject upload.object body upload.attributes)
  (stored.1.map fun _ => (), stored.2)

/-- Uploads what a reader delivers. -/
def run (service : Service σ) (upload : Upload) (source : Reader) (session : Session σ) :
    Except Halt Unit × Session σ :=
  match source.take upload.chunksize with
  | (.error message, _) => (.error (.failed (.stream message)), session)
  | (.ok first, rest) =>
      if first.length < upload.chunksize then upload.runWhole service first session
      else upload.runParts service first rest session

end Upload
end BulkTransfer.Stream
