import LivePreview.Text.Numeral

/-!
# Network addresses

1. An address of version 4 is written as four numbers between dots. One of version 6 is written as
   eight groups of hexadecimal digits between colons; two colons stand for the longest run of zero
   groups, and the last two groups may be written as an address of version 4.
2. `shown` writes an address and `read?` reads one; what stands behind it is refused.
-/

namespace LivePreview.Server

/-- An internet address. -/
inductive Ip where
  | v4 (a b c d : Nat)
  /-- Eight groups. -/
  | v6 (groups : List Nat)
deriving DecidableEq, Repr

/-- An internet address with a port. -/
structure SocketAddress where
  ip : Ip
  /-- The zone of an address of version 6; 0 for none. -/
  zone : Nat
  port : Nat
deriving DecidableEq, Repr

/-! ## Reading -/

/-- The digits of a base at the front of a text, as values, and what is behind them. -/
def takeDigits (base : Nat) : List Char → List Nat × List Char
  | [] => ([], [])
  | c :: cs =>
    match Text.digitValue? c with
    | none => ([], c :: cs)
    | some d =>
      if d < base then
        let (ds, rest) := takeDigits base cs
        (d :: ds, rest)
      else ([], c :: cs)

/-- The number that digits of a base denote. -/
def ofDigits (base : Nat) (ds : List Nat) : Nat := ds.foldl (fun n d => base * n + d) 0

/-- A number below a limit at the front of a text. -/
def takeBounded (limit : Nat) (cs : List Char) : Option (Nat × List Char) :=
  match takeDigits 10 cs with
  | ([], _) => none
  | (ds, rest) => if ofDigits 10 ds < limit then some (ofDigits 10 ds, rest) else none

/-- A number below 256 at the front of a text: at most three digits, the first of several not 0. -/
def takeByte (cs : List Char) : Option (Nat × List Char) :=
  match takeDigits 10 cs with
  | ([], _) => none
  | (ds, rest) =>
    if ds.length ≤ 3 && (ds.length == 1 || ds.head? != some 0) && ofDigits 10 ds < 256 then
      some (ofDigits 10 ds, rest)
    else none

/-- A group of one to four hexadecimal digits at the front of a text. -/
def takeGroup (cs : List Char) : Option (Nat × List Char) :=
  match takeDigits 16 cs with
  | ([], _) => none
  | (ds, rest) => if ds.length ≤ 4 then some (ofDigits 16 ds, rest) else none

/-- What is behind a character at the front of a text. -/
def takeChar (c : Char) : List Char → Option (List Char)
  | [] => none
  | d :: cs => if d == c then some cs else none

/-- The four numbers of an address of version 4 at the front of a text. -/
def takeFour (cs : List Char) : Option ((Nat × Nat × Nat × Nat) × List Char) := do
  let (a, cs) ← takeByte cs
  let (b, cs) ← takeByte (← takeChar '.' cs)
  let (c, cs) ← takeByte (← takeChar '.' cs)
  let (d, cs) ← takeByte (← takeChar '.' cs)
  return ((a, b, c, d), cs)

/-- Groups at the front of a text, at most `limit`, with a colon before each but the first of all,
and whether they end in an address of version 4. -/
def takeGroups : Nat → Bool → List Char → (List Nat × Bool) × List Char
  | 0, _, cs => (([], false), cs)
  | limit + 1, first, cs =>
    match if first then some cs else takeChar ':' cs with
    | none => (([], false), cs)
    | some inner =>
      match if limit = 0 then none else takeFour inner with
      | some ((a, b, c, d), rest) => (([256 * a + b, 256 * c + d], true), rest)
      | none =>
        match takeGroup inner with
        | none => (([], false), cs)
        | some (group, rest) =>
          let ((groups, four), rest) := takeGroups limit false rest
          ((group :: groups, four), rest)

/-- The groups of an address of version 6 at the front of a text. -/
def takeEight (cs : List Char) : Option (List Nat × List Char) := do
  let ((front, four), cs) := takeGroups 8 true cs
  if front.length = 8 then return (front, cs)
  if four then none
  let cs ← takeChar ':' (← takeChar ':' cs)
  let ((back, _), cs) := takeGroups (7 - front.length) true cs
  return (front ++ List.replicate (8 - front.length - back.length) 0 ++ back, cs)

/-- What was read, if it is all. -/
def whole? {α : Type} : Option (α × List Char) → Option α
  | some (a, []) => some a
  | _ => none

/-- The address that a text is. -/
def Ip.read? (cs : List Char) : Option Ip :=
  match whole? (takeFour cs) with
  | some (a, b, c, d) => some (.v4 a b c d)
  | none => (whole? (takeEight cs)).map .v6

/-- The zone at the front of a text, if there is one. -/
def takeZone (cs : List Char) : Option (Nat × List Char) :=
  match takeChar '%' cs with
  | none => some (0, cs)
  | some rest => takeBounded (Nat.pow 2 32) rest

/-- A colon and a port. -/
def takePort (cs : List Char) : Option (Nat × List Char) := do
  takeBounded (Nat.pow 2 16) (← takeChar ':' cs)

/-- The address with a port that a text is. -/
def SocketAddress.read? (cs : List Char) : Option SocketAddress :=
  let four : Option (SocketAddress × List Char) := do
    let ((a, b, c, d), cs) ← takeFour cs
    let (port, cs) ← takePort cs
    return (⟨.v4 a b c d, 0, port⟩, cs)
  let eight : Option (SocketAddress × List Char) := do
    let (groups, cs) ← takeEight (← takeChar '[' cs)
    let (zone, cs) ← takeZone cs
    let (port, cs) ← takePort (← takeChar ']' cs)
    return (⟨.v6 groups, zone, port⟩, cs)
  whole? four <|> whole? eight

/-! ## Writing -/

/-- A run of zero groups. -/
structure Run where
  start : Nat
  length : Nat
deriving DecidableEq, Repr

/-- The first of the longest runs of zeros. `here` is the run that ends before `index`. -/
def longestRun : Nat → Run → Run → List Nat → Run
  | _, _, best, [] => best
  | index, here, best, g :: gs =>
    if g = 0 then
      let here : Run := if here.length = 0 then ⟨index, 1⟩ else ⟨here.start, here.length + 1⟩
      longestRun (index + 1) here (if best.length < here.length then here else best) gs
    else longestRun (index + 1) ⟨0, 0⟩ best gs

/-- Numbers between dots. -/
def dotted (ns : List Nat) : List Char := ['.'].intercalate (ns.map Text.decimal)

/-- Groups between colons. -/
def grouped (gs : List Nat) : List Char := [':'].intercalate (gs.map Text.hexadecimal)

/-- The text of an address. -/
def Ip.shown : Ip → List Char
  | v4 a b c d => dotted [a, b, c, d]
  | v6 [0, 0, 0, 0, 0, 0xffff, high, low] =>
    "::ffff:".toList ++ dotted [high / 256, high % 256, low / 256, low % 256]
  | v6 groups =>
    let run := longestRun 0 ⟨0, 0⟩ ⟨0, 0⟩ groups
    if run.length < 2 then grouped groups
    else
      grouped (groups.take run.start) ++ "::".toList ++
        grouped (groups.drop (run.start + run.length))

/-- The text of an address with a port. -/
def SocketAddress.shown (a : SocketAddress) : List Char :=
  match a.ip with
  | .v4 .. => a.ip.shown ++ ':' :: Text.decimal a.port
  | .v6 _ =>
    let zone := if a.zone = 0 then [] else '%' :: Text.decimal a.zone
    '[' :: a.ip.shown ++ zone ++ ']' :: ':' :: Text.decimal a.port

/-- An address that stands for all of a machine's own. -/
def Ip.isUnspecified : Ip → Bool
  | v4 a b c d => a == 0 && b == 0 && c == 0 && d == 0
  | v6 groups => groups.all (· == 0)

/-- The text under which a server can be reached from its own machine. -/
def SocketAddress.reachable (a : SocketAddress) : List Char :=
  if a.ip.isUnspecified then "localhost:".toList ++ Text.decimal a.port else a.shown

end LivePreview.Server
