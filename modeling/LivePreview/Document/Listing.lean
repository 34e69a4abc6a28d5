import LivePreview.Console.Style
import LivePreview.Document.Bundle
import LivePreview.Json.Value

/-!
# Listings

A bundle as it is shown to people, and as it is given to programs.
-/

namespace LivePreview.Document.Bundle

/-- The channels that hold text, each under a bold heading, with a blank line between them. -/
def listing (b : Bundle) : String :=
  "\n\n".intercalate <| b.sections.map fun (name, text) =>
    Console.bold ("== " ++ name ++ " ==") ++ "\n" ++ String.ofList text

/-- All channels as an object. -/
def json (b : Bundle) : String :=
  String.ofList <| Json.pretty
    [("markup".toList, b.markup), ("style".toList, b.style),
      ("behavior_typed".toList, b.typedScript), ("behavior_plain".toList, b.plainScript)]

end LivePreview.Document.Bundle
