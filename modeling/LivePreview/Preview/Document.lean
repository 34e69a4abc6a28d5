import LivePreview.Console.Journal
import LivePreview.Files
import LivePreview.Preview.Session

/-!
# Documents in files

A document that is a file is read anew for every cycle. A file that cannot be read counts as no
document, and unless it is just not there, a note tells why.
-/

namespace LivePreview.Preview

open Console (Journal)

/-- The text of a file, if it can be read. -/
def readDocument {m : Type → Type} [Monad m] [Files m] [Journal m] (path : String) :
    m (Option String) := do
  match Files.textOf (← Files.read path) with
  | .ok text => return some text
  | .error .notFound =>
    Journal.detail Session.topic ("no document at " ++ path)
    return none
  | .error e =>
    Journal.note "error" ("failed to read " ++ path ++ ": " ++ e.message)
    return none

end LivePreview.Preview
