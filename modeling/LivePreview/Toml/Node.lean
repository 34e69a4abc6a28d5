/-!
# The tree of a settings document

A document is a table of named nodes. A table notes how it came about, since that decides what may
be added to it later: in braces, under a header of its own, or only as part of a longer name.
-/

namespace LivePreview.Toml

/-- The bytes from `start` up to `stop`. -/
structure Extent where
  start : Nat
  stop : Nat
deriving DecidableEq, Repr

/-- A name, with the bytes that it was read from. -/
structure Key where
  text : String
  /-- The name as it was written. -/
  source : String
  extent : Extent
deriving DecidableEq, Repr

/-- How a table came about. -/
structure Shape where
  /-- In braces. -/
  isInline : Bool
  /-- Only as part of a longer name or header. -/
  isImplicit : Bool
  /-- As part of a dotted name. -/
  isDotted : Bool
deriving DecidableEq, Repr

mutual

/-- What a name stands for. -/
inductive Node where
  | string (text : String)
  | integer (value : Int)
  /-- A number with a fraction or an exponent, as messages show it. -/
  | float (shown : String)
  | boolean (value : Bool)
  | dateTime
  | array (items : List Node)
  | table (t : Table)
  /-- Tables under headers in double brackets. -/
  | tables (ts : List Table)

/-- Named nodes, in the order in which they were first named. -/
inductive Table where
  | mk (shape : Shape) (entries : List Entry)

/-- A name, the bytes of what it stands for, and what that is. -/
inductive Entry where
  | mk (key : Key) (extent : Option Extent) (node : Node)

end

instance : Inhabited Node := ⟨.dateTime⟩

/-- How messages name the kind of a node. -/
def Node.kindName : Node → String
  | string _ => "string"
  | integer _ => "integer"
  | float _ => "float"
  | boolean _ => "boolean"
  | dateTime => "datetime"
  | array _ => "array"
  | table _ => "inline table"
  | tables _ => "array of tables"

namespace Entry

/-- The name of an entry. -/
def key : Entry → Key
  | mk key _ _ => key

/-- What an entry's name stands for. -/
def node : Entry → Node
  | mk _ _ node => node

/-- The bytes that stand for an entry: its value's, or else its name's. -/
def extent : Entry → Extent
  | mk key extent _ => extent.getD key.extent

end Entry

namespace Table

/-- How a table came about. -/
def shape : Table → Shape
  | mk shape _ => shape

/-- The entries of a table. -/
def entries : Table → List Entry
  | mk _ entries => entries

/-- A table without entries. -/
def empty (shape : Shape) : Table := mk shape []

/-- The entry of a name. -/
def find? (t : Table) (name : String) : Option Entry :=
  t.entries.find? fun e => e.key.text == name

/-- The table with an entry put in: in place of the one of its name, or else last. -/
def put (t : Table) (e : Entry) : Table :=
  if (t.find? e.key.text).isSome then
    mk t.shape (t.entries.map fun old => if old.key.text == e.key.text then e else old)
  else mk t.shape (t.entries ++ [e])

/-- The table without the entry of a name. -/
def erase (t : Table) (name : String) : Table :=
  mk t.shape (t.entries.filter fun e => e.key.text != name)

end Table

end LivePreview.Toml
