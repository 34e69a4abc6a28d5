import LivePreview.Text.Numeral

/-!
# Quoted strings

Between quotes a quote, a backslash and every control character below U+0020 are written as
escapes; all other characters stand for themselves. `encode` writes the text between the quotes,
and `decode` reads up to the quote that ends it; it also reads the escapes that are never needed.
-/

namespace LivePreview.Json

/-- A character as it is written between quotes. -/
def escape (c : Char) : List Char :=
  match c with
  | '"' => ['\\', '"']
  | '\\' => ['\\', '\\']
  | '\x08' => ['\\', 'b']
  | '\x0c' => ['\\', 'f']
  | '\n' => ['\\', 'n']
  | '\r' => ['\\', 'r']
  | '\t' => ['\\', 't']
  | c => if c < ' ' then '\\' :: 'u' :: Text.fixedDigits 16 4 c.toNat else [c]

/-- The text between the quotes. -/
def encode (cs : List Char) : List Char := cs.flatMap escape

/-- A text in quotes. -/
def quote (cs : List Char) : List Char := '"' :: encode cs ++ ['"']

/-- The number of four hexadecimal digits, and what is behind them. -/
def unit? : List Char → Option (Nat × List Char)
  | a :: b :: c :: d :: rest => do
    let a ← Text.digitValue? a
    let b ← Text.digitValue? b
    let c ← Text.digitValue? c
    let d ← Text.digitValue? d
    return (a * 4096 + b * 256 + c * 16 + d, rest)
  | _ => none

/-- The character that an escape stands for, read behind its backslash. A character above U+FFFF is
written as two units. -/
def unescape : List Char → Option (Char × List Char)
  | '"' :: rest => some ('"', rest)
  | '\\' :: rest => some ('\\', rest)
  | '/' :: rest => some ('/', rest)
  | 'b' :: rest => some ('\x08', rest)
  | 'f' :: rest => some ('\x0c', rest)
  | 'n' :: rest => some ('\n', rest)
  | 'r' :: rest => some ('\r', rest)
  | 't' :: rest => some ('\t', rest)
  | 'u' :: rest =>
    match unit? rest with
    | none => none
    | some (high, rest) =>
      if high < 0xD800 ∨ 0xDFFF < high then some (Char.ofNat high, rest)
      else if 0xDC00 ≤ high then none
      else
        match rest with
        | '\\' :: 'u' :: rest =>
          match unit? rest with
          | none => none
          | some (low, rest) =>
            if 0xDC00 ≤ low ∧ low ≤ 0xDFFF then
              some (Char.ofNat (0x10000 + (high - 0xD800) * 0x400 + (low - 0xDC00)), rest)
            else none
        | _ => none
  | _ => none

/-- The text up to the quote that ends it, and what is behind the quote; `fuel` bounds its
length. -/
def decodeAux : Nat → List Char → Option (List Char × List Char)
  | _, '"' :: rest => some ([], rest)
  | fuel + 1, '\\' :: rest => do
    let (c, rest) ← unescape rest
    let (cs, rest) ← decodeAux fuel rest
    return (c :: cs, rest)
  | fuel + 1, c :: rest =>
    if c < ' ' then none
    else do
      let (cs, rest) ← decodeAux fuel rest
      return (c :: cs, rest)
  | _, _ => none

/-- The text up to the quote that ends it, and what is behind the quote. -/
def decode (cs : List Char) : Option (List Char × List Char) := decodeAux cs.length cs

end LivePreview.Json
