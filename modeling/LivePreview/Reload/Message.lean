import LivePreview.Json.Value

/-!
# Reload messages

What a shell page is told: the address to show, that nothing is shown any more, or, first of all,
whom it is connected to. A message is written as an object with its kind under `type`; it is also
read from an array of its kind and its field.
-/

namespace LivePreview.Reload

/-- What a shell page is told. -/
inductive Message where
  | navigate (url : List Char)
  | closed
  | connected (version : List Char)
deriving DecidableEq, Repr

namespace Message

/-- The version that the program tells. -/
def version : List Char := "0.3.0".toList

/-- What a shell page is told first. -/
def greeting : Message := connected version

/-- The text of a message. -/
def toJson : Message → List Char
  | navigate url => Json.compact [("type".toList, "navigate".toList), ("url".toList, url)]
  | closed => Json.compact [("type".toList, "closed".toList)]
  | connected version =>
    Json.compact [("type".toList, "connected".toList), ("version".toList, version)]

/-- The one value that a list holds. -/
def only? {α : Type} : List α → Option α
  | [a] => some a
  | _ => none

/-- A message of a kind that has no field or the given text. -/
def ofKind? (kind : List Char) (field : String → Option (List Char)) : Option Message :=
  if kind = "navigate".toList then (field "url").map navigate
  else if kind = "connected".toList then (field "version").map connected
  else if kind = "closed".toList then some closed
  else none

/-- The text of a value that is a string. -/
def text? : Json.Value → Option (List Char)
  | .string text => some text
  | _ => none

/-- The values of the members of a name. -/
def membersOf (name : List Char) (members : List (List Char × Json.Value)) : List Json.Value :=
  (members.filter fun m => m.1 = name).map Prod.snd

/-- The message that a value is. A kind or a field given twice is none. -/
def ofValue? : Json.Value → Option Message
  | .object members => do
    let kind ← text? (← only? (membersOf "type".toList members))
    ofKind? kind fun name => do text? (← only? (membersOf name.toList members))
  | .array [.string kind] => if kind = "closed".toList then some closed else none
  | .array [.string kind, .string field] =>
    if kind = "closed".toList then none else ofKind? kind fun _ => some field
  | _ => none

/-- The message that a text is. -/
def ofJson? (cs : List Char) : Option Message := do ofValue? (← Json.read cs)

end Message

end LivePreview.Reload
