import LivePreview.Text.Numeral

/-!
# Styled text

Text for a terminal, between the sequence that turns a style on and the one that turns it off.
-/

namespace LivePreview.Console

/-- A foreground colour. -/
inductive Color where
  | red
  | green
  | yellow
  | cyan
  | brightRed
  | brightGreen
  | brightYellow
  | brightBlue
deriving DecidableEq, Repr

/-- The number that selects a colour. -/
def Color.code : Color → Nat
  | red => 31
  | green => 32
  | yellow => 33
  | cyan => 36
  | brightRed => 91
  | brightGreen => 92
  | brightYellow => 93
  | brightBlue => 94

/-- The sequence that selects a style by its number. -/
def select (code : Nat) : String := "\x1b[" ++ String.ofList (Text.decimal code) ++ "m"

/-- Text in a colour. -/
def colored (c : Color) (s : String) : String := select c.code ++ s ++ select 39

/-- Bold text. -/
def bold (s : String) : String := select 1 ++ s ++ select 0

/-- Dim text. -/
def dim (s : String) : String := select 2 ++ s ++ select 0

end LivePreview.Console
