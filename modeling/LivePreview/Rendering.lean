import LivePreview.Document.Bundle
import LivePreview.Page
import LivePreview.Transform

/-!
# Rendering a document

The blocks of a document are bundled, its script is transformed, and the parts make a page: the
preview, or the diagnostic of a script that could not be transformed.
-/

namespace LivePreview

/-- What a document renders to. -/
inductive Rendered where
  | preview (page : String)
  | diagnostic (page : String) (error : EngineError)
deriving DecidableEq, Repr

namespace Rendered

/-- The page to show. -/
def page : Rendered → String
  | preview page => page
  | diagnostic page _ => page

/-- The error that a diagnostic shows. -/
def error? : Rendered → Option EngineError
  | preview _ => none
  | diagnostic _ e => some e

end Rendered

/-- The page of a document's text. -/
def renderIn {m : Type → Type} [Monad m] (engine : EngineIn m) (guard : Guard.LoopGuard)
    (text : List Char) : m Rendered := do
  let bundle := Document.extract text
  match ← transformIn engine guard bundle.script with
  | .ok script =>
    return .preview (Page.preview (String.ofList bundle.markup) (String.ofList bundle.style)
      (String.ofList script))
  | .error e => return .diagnostic (Page.diagnostic e.message) e

/-- The page of a document's text, for an engine that only answers. -/
def render (engine : Engine) (guard : Guard.LoopGuard) (text : List Char) : Rendered :=
  Id.run (renderIn (engine.within Id) guard text)

end LivePreview
