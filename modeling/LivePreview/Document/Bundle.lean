import LivePreview.Document.Fence

/-!
# The bundle of a document

The bodies of a document's blocks, sorted into four channels by their tags. Blank bodies and
unknown tags contribute nothing; the bodies of one channel are joined by a line feed, in document
order.
-/

namespace LivePreview.Document

/-- What a block's body is put to. -/
inductive Channel where
  | markup
  | style
  | plainScript
  | typedScript
deriving DecidableEq, Repr

/-- The channel of a tag, which counts without regard to ASCII case. -/
def Channel.ofTag? (tag : List Char) : Option Channel :=
  match tag.map Char.toLower with
  | ['h', 't', 'm', 'l'] => some .markup
  | ['c', 's', 's'] => some .style
  | ['j', 's'] => some .plainScript
  | ['j', 'a', 'v', 'a', 's', 'c', 'r', 'i', 'p', 't'] => some .plainScript
  | ['t', 's'] => some .typedScript
  | ['t', 'y', 'p', 'e', 's', 'c', 'r', 'i', 'p', 't'] => some .typedScript
  | _ => none

/-- A document's bodies by channel. -/
structure Bundle where
  markup : List Char
  style : List Char
  plainScript : List Char
  typedScript : List Char
deriving DecidableEq, Repr

namespace Bundle

/-- The bundle of a document without blocks. -/
def empty : Bundle := ⟨[], [], [], []⟩

/-- The text of one channel. -/
def get (b : Bundle) : Channel → List Char
  | .markup => b.markup
  | .style => b.style
  | .plainScript => b.plainScript
  | .typedScript => b.typedScript

/-- The bundle with the text of one channel replaced. -/
def set (b : Bundle) (text : List Char) : Channel → Bundle
  | .markup => { b with markup := text }
  | .style => { b with style := text }
  | .plainScript => { b with plainScript := text }
  | .typedScript => { b with typedScript := text }

/-- The text with a body appended on a line of its own. -/
def appendLine (text body : List Char) : List Char :=
  if text.isEmpty then body else text ++ '\n' :: body

/-- A block's trimmed body goes to the end of its channel. -/
def push (b : Bundle) (block : Block) : Bundle :=
  match Channel.ofTag? block.tag with
  | none => b
  | some channel =>
    let body := Text.trim block.body
    if body.isEmpty then b else b.set (appendLine (b.get channel) body) channel

/-- No block contributed. -/
def isEmpty (b : Bundle) : Bool :=
  b.markup.isEmpty && b.style.isEmpty && b.plainScript.isEmpty && b.typedScript.isEmpty

/-- The whole script: plain blocks before typed ones. -/
def script (b : Bundle) : List Char :=
  if b.plainScript.isEmpty then b.typedScript
  else if b.typedScript.isEmpty then b.plainScript
  else b.plainScript ++ '\n' :: b.typedScript

/-- The channels that hold text, with the names shown for them, in the order shown. -/
def sections (b : Bundle) : List (String × List Char) :=
  [("markup", b.markup), ("style", b.style), ("behavior (plain)", b.plainScript),
    ("behavior (typed)", b.typedScript)].filter fun s => !s.2.isEmpty

end Bundle

/-- The bundle of a document. -/
def extract (text : List Char) : Bundle := (blocks text).foldl Bundle.push .empty

end LivePreview.Document
