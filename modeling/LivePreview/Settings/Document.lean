import LivePreview.Settings.Basic
import LivePreview.Text.Printable
import LivePreview.Toml.Document

/-!
# Settings documents

A settings document names up to three settings at its top. Other names there are told but do not
count; a setting of the wrong kind is refused.
-/

namespace LivePreview.Settings

open Toml (Node Entry)

/-- Why a settings document cannot be used. -/
inductive DocumentError where
  | malformed (refusal : Toml.Refusal)
  /-- A setting of the wrong kind. -/
  | wrongKind (extent : Toml.Extent) (found expected : String)
deriving DecidableEq, Repr

/-- A character of a text between quotes, in messages. -/
def quoteChar (c : Char) : List Char :=
  match c with
  | '"' => ['\\', '"']
  | '\\' => ['\\', '\\']
  | '\n' => ['\\', 'n']
  | '\r' => ['\\', 'r']
  | '\t' => ['\\', 't']
  | '\x00' => ['\\', '0']
  | c =>
    if Text.isPrintable c then [c]
    else '\\' :: 'u' :: '\x7b' :: Text.hexadecimal c.toNat ++ ['\x7d']

/-- How messages tell what was found. -/
def shown : Node → String
  | .string text => "string \"" ++ String.ofList (text.toList.flatMap quoteChar) ++ "\""
  | .integer n => "integer `" ++ String.ofList (Text.signed n) ++ "`"
  | .float text => "floating point `" ++ text ++ "`"
  | .boolean b => "boolean `" ++ (if b then "true" else "false") ++ "`"
  | .array _ | .tables _ => "sequence"
  | .dateTime | .table _ => "map"

/-- The integer that an entry holds. -/
def integer (e : Entry) : Except DocumentError Int :=
  match e.node with
  | .integer n => .ok n
  | n => .error (.wrongKind e.extent (shown n) "i64")

/-- The truth value that an entry holds. -/
def boolean (e : Entry) : Except DocumentError Bool :=
  match e.node with
  | .boolean b => .ok b
  | n => .error (.wrongKind e.extent (shown n) "a boolean")

/-- The layer with one more entry, or the entry's name added to those that do not count. -/
def takeEntry (read : Layer × List String) (e : Entry) :
    Except DocumentError (Layer × List String) := do
  let (layer, ignored) := read
  if e.key.text = debounceField then return ({ layer with debounce := some (← integer e) }, ignored)
  else if e.key.text = loopGuardField then
    return ({ layer with loopGuard := some (← integer e) }, ignored)
  else if e.key.text = saveOnlyField then
    return ({ layer with saveOnly := some (← boolean e) }, ignored)
  else return (layer, ignored ++ [e.key.text])

/-- The layer of a document, and the names in it that do not count. -/
def readDocument (source : List Char) : Except DocumentError (Layer × List String) :=
  match Toml.read source with
  | .error refusal => .error (.malformed refusal)
  | .ok table => table.entries.foldlM takeEntry (.empty, [])

/-- The message of an error, below the line of the document that it is about. -/
def DocumentError.shown (source : List Char) : DocumentError → String
  | malformed refusal => refusal.shown source
  | wrongKind extent found expected =>
    Toml.showAt source extent.start extent.stop
      ("invalid type: " ++ found ++ ", expected " ++ expected)

end LivePreview.Settings
