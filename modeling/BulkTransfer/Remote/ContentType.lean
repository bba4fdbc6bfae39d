import BulkTransfer.Text.Cut
import BulkTransfer.Text.Uppercase

/-!
# Content types

The content type of a file is guessed from what follows the last point of its name, in any case.
-/

namespace BulkTransfer.ContentType

/-- The known extensions, grouped by their type. -/
def known : List (List String × String) :=
  [(["txt", "text", "log"], "text/plain"), (["htm", "html"], "text/html"), (["css"], "text/css"),
   (["csv"], "text/csv"), (["js", "mjs"], "application/javascript"),
   (["json"], "application/json"), (["xml"], "application/xml"), (["pdf"], "application/pdf"),
   (["zip"], "application/zip"), (["gz", "tgz"], "application/gzip"),
   (["tar"], "application/x-tar"), (["png"], "image/png"), (["jpg", "jpeg"], "image/jpeg"),
   (["gif"], "image/gif"), (["svg"], "image/svg+xml"), (["webp"], "image/webp"),
   (["mp3"], "audio/mpeg"), (["mp4"], "video/mp4"), (["wasm"], "application/wasm")]

/-- The content type of a file with the given name, if its extension is known. -/
def guess? (name : String) : Option String := do
  let (_, extension) ← Text.cutLast? '.' name.toList
  let extension := String.ofList (Text.asciiLowercase extension)
  (known.find? fun entry => extension ∈ entry.1).map Prod.snd

end BulkTransfer.ContentType
