import LivePreview.Page.Template
import LivePreview.Text.Entity
import LivePreview.Text.Numeral
import LivePreview.Text.Template

/-!
# Pages

1. `preview` puts a document's parts into the preview skeleton, verbatim.
2. `diagnostic` is the preview of a failure: its message, escaped, in place of the markup.
3. `shell` is the page that frames the preview and follows its address.
-/

namespace LivePreview.Page

open Text (fill escape escapeAttribute)

/-- The preview page of a document's style, markup and script. -/
def preview (markup style script : String) : String :=
  fill previewTemplate
    [("__FENCEPLAY_STYLE__", style), ("__FENCEPLAY_MARKUP__", markup),
      ("__FENCEPLAY_BEHAVIOR__", script)]

/-- The preview page that shows a failure's message. -/
def diagnostic (message : String) : String :=
  preview ("<pre style=\"color: red; padding: 1rem;\">" ++ escape message ++ "</pre>") "" ""

/-- The shell page for a title, the frame's address and the port of the reload messages. -/
def shell (title source : String) (port : Nat) : String :=
  let script := fill reloadScript [("__FENCEPLAY_WS_PORT__", String.ofList (Text.decimal port))]
  fill shellTemplate
    [("__FENCEPLAY_TITLE__", escape title), ("__FENCEPLAY_SHELL_CSS__", shellStyle),
      ("__FENCEPLAY_SRC__", escapeAttribute source), ("__FENCEPLAY_HOTRELOAD_JS__", script)]

end LivePreview.Page
