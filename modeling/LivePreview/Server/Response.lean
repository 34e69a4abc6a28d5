import LivePreview.Console.Journal
import LivePreview.Page
import LivePreview.Surface.Blobs

/-!
# Answering requests

1. `GET` and `HEAD` are answered: the shell page under the root, blobs under their addresses. What
   stands behind a question mark or a number sign in the target does not count.
2. A blob is sent with its tag, and only the tag is sent to one who has it already.
3. A server that is shutting down answers nothing.
-/

namespace LivePreview.Server

open Console (Journal)
open Surface (Blob Blobs)

/-- What a client asks for. -/
structure Request where
  method : String
  target : String
  headers : List (String × String)
deriving DecidableEq, Repr

/-- What a client is answered. -/
structure Response where
  status : Nat
  headers : List (String × String)
  /-- The data that is given to be sent. -/
  data : String
deriving DecidableEq, Repr

/-- What a server has to give. -/
structure Site where
  title : String
  /-- The port of the reload messages. -/
  reloadPort : Nat
  blobs : Blobs
deriving DecidableEq, Repr

namespace Request

/-- The request for the head of an answer alone. -/
def isHead (r : Request) : Bool := r.method == "HEAD"

/-- A request that is answered. -/
def isAnswered (r : Request) : Bool := r.method == "GET" || r.isHead

/-- The target without what does not count. -/
def path (r : Request) : List Char := r.target.toList.takeWhile fun c => c != '?' && c != '#'

/-- The value of a header, whose name counts without regard to ASCII case. -/
def header? (r : Request) (name : String) : Option String :=
  (r.headers.find? fun h => h.1.map Char.toLower == name).map Prod.snd

end Request

namespace Response

/-- The type of pages. -/
def html : String := "text/html; charset=utf-8"

/-- The type of plain texts. -/
def plain : String := "text/plain; charset=utf-8"

/-- A plain text. -/
def text (status : Nat) (data : String) : Response := ⟨status, [("Content-Type", plain)], data⟩

/-- The answer when the server is shutting down. -/
def unavailable : Response := text 503 "503 Service Unavailable"

/-- The answer to other methods. -/
def methodNotAllowed : Response := text 405 "405 Method Not Allowed"

/-- The answer where there is nothing. -/
def notFound : Response := text 404 "404 Not Found"

/-- The answer with the shell page of a site. -/
def shell (site : Site) : Response :=
  let source :=
    match site.blobs.active with
    | some blob => blob.url
    | none => "about:blank"
  ⟨200, [("Content-Type", html), ("Cache-Control", "no-store")],
    Page.shell site.title source site.reloadPort⟩

/-- The answer with a blob. -/
def blob (r : Request) (b : Blob) : Response :=
  if r.header? "if-none-match" = some b.tag then ⟨304, [("ETag", b.tag)], ""⟩
  else
    ⟨200, [("Content-Type", html), ("ETag", b.tag), ("Cache-Control", "no-cache")],
      if r.isHead then "" else b.body⟩

/-- The length that is told of an answer's data. -/
def length (r : Response) : Nat := Text.byteLength r.data.toList

/-- What a client receives of the data: nothing for the head alone, nor where nothing is new. -/
def received (request : Request) (r : Response) : String :=
  if request.isHead || r.status == 304 then "" else r.data

end Response

namespace Site

/-- The answer under a path. -/
def answerAt (site : Site) (r : Request) : Response :=
  if r.path = "/".toList ∨ r.path = "/index.html".toList then .shell site
  else
    match Blob.ofUrl? r.path with
    | none => .notFound
    | some id =>
      match site.blobs.get? id with
      | none => .notFound
      | some b => .blob r b

/-- The answer to a request. -/
def respond (site : Site) (closing : Bool) (r : Request) : Response :=
  if closing then .unavailable
  else if r.isAnswered then site.answerAt r
  else .methodNotAllowed

/-- The topic of notes on requests. -/
def topic : String := "serve"

/-- Notes a request that is answered, and answers it. -/
def answer {m : Type → Type} [Monad m] [Journal m] (site : Site) (closing : Bool) (r : Request) :
    m Response := do
  if !closing && r.isAnswered then
    Journal.detail topic (r.method ++ " " ++ String.ofList r.path)
  return site.respond closing r

end Site

end LivePreview.Server
