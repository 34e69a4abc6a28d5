/-!
# Character entities

Text put into a page writes the characters that the page would read as its own as entities, one
character at a time: all five of them in running text, only `&` and `"` in a quoted attribute.
-/

namespace LivePreview.Text

/-- The entity that stands for a character of running text, if it needs one. -/
def textEntity : Char → Option (List Char)
  | '<' => some ['&', 'l', 't', ';']
  | '>' => some ['&', 'g', 't', ';']
  | '&' => some ['&', 'a', 'm', 'p', ';']
  | '"' => some ['&', 'q', 'u', 'o', 't', ';']
  | '\'' => some ['&', '#', '3', '9', ';']
  | _ => none

/-- The entity that stands for a character of an attribute in double quotes, if it needs one. -/
def attributeEntity : Char → Option (List Char)
  | '&' => some ['&', 'a', 'm', 'p', ';']
  | '"' => some ['&', 'q', 'u', 'o', 't', ';']
  | _ => none

/-- The clean start of a text is kept as it is; from the first special character on, each
character is written by its entity or as itself. -/
def escapeWith (entity : Char → Option (List Char)) (cs : List Char) : List Char :=
  let clean := cs.takeWhile fun c => (entity c).isNone
  let rest := cs.dropWhile fun c => (entity c).isNone
  clean ++ rest.flatMap fun c => (entity c).getD [c]

/-- Running text as page source. -/
def escape (s : String) : String := String.ofList (escapeWith textEntity s.toList)

/-- An attribute's value, without its double quotes, as page source. -/
def escapeAttribute (s : String) : String := String.ofList (escapeWith attributeEntity s.toList)

end LivePreview.Text
