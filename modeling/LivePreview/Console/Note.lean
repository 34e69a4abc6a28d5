import LivePreview.Console.Style

/-!
# Notes

A note is one line on what happens: a topic in brackets, whose colour tells how much it matters,
and a text. Details are shown only to those who asked for them.
-/

namespace LivePreview.Console

/-- One line on what happens. -/
structure Note where
  topic : String
  text : String
  /-- Shown only on request. -/
  isDetail : Bool
deriving DecidableEq, Repr

namespace Note

/-- The colour of a topic, which counts without regard to ASCII case. -/
def topicColor (topic : String) : Color :=
  match topic.map Char.toLower with
  | "serve" => .brightBlue
  | "watch" | "preview" => .brightGreen
  | "error" => .brightRed
  | "warning" | "config" => .yellow
  | _ => .brightYellow

/-- A topic in brackets. -/
def heading (topic : String) : String :=
  bold (colored (topicColor topic) ("[" ++ topic ++ "]"))

/-- The line of a note. What was on the line before is cleared first. -/
def line (n : Note) : String := "\x1b[K" ++ heading n.topic ++ " " ++ n.text ++ "\n"

/-- What is printed for a note. -/
def shown (verbose : Bool) (n : Note) : String := if n.isDetail && !verbose then "" else n.line

end Note

end LivePreview.Console
