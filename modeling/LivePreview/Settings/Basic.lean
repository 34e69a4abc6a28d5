import LivePreview.Console.Style
import LivePreview.Duration

/-!
# Settings

1. A layer holds what one source says of the settings, any of which may be absent; `Layer.onto`
   puts one layer over another, field by field.
2. `Settings.ofLayer` makes settings of a layer: a number out of range is replaced by the default,
   with a warning, and so is one that is absent, without.
-/

namespace LivePreview

/-- How a preview behaves; times are in milliseconds. -/
structure Settings where
  /-- How long a change waits for the next one. -/
  debounce : Nat
  /-- How long a loop may run. -/
  loopGuard : Nat
  /-- Only saved changes count, and they do not wait. -/
  saveOnly : Bool
deriving DecidableEq, Repr

namespace Settings

/-- The time that a loop may take. -/
def budget (s : Settings) : Duration := .ofMilliseconds s.loopGuard

@[simp] theorem milliseconds_budget (s : Settings) : s.budget.milliseconds = s.loopGuard :=
  Duration.milliseconds_ofMilliseconds s.loopGuard

/-- What a number has to be between, and what is taken instead of one that is not. -/
structure Range where
  least : Nat
  most : Nat
  fallback : Nat
deriving DecidableEq, Repr

/-- The range of `debounce`. -/
def debounceRange : Range := ⟨100, 2000, 500⟩

/-- The range of `loopGuard`. -/
def loopGuardRange : Range := ⟨50, 1000, 100⟩

/-- The settings where nothing is said. -/
def default : Settings := ⟨debounceRange.fallback, loopGuardRange.fallback, false⟩

/-- The name of `debounce` in files. -/
def debounceField : String := "debounce_milliseconds"

/-- The name of `loopGuard` in files. -/
def loopGuardField : String := "loop_guard_milliseconds"

/-- The name of `saveOnly` in files. -/
def saveOnlyField : String := "update_on_save_only"

/-- What one source says of the settings. -/
structure Layer where
  debounce : Option Int
  loopGuard : Option Int
  saveOnly : Option Bool
deriving DecidableEq, Repr

namespace Layer

/-- Says nothing. -/
def empty : Layer := ⟨none, none, none⟩

/-- What the upper layer says, and where it says nothing, the lower one. -/
def onto (upper lower : Layer) : Layer :=
  ⟨upper.debounce <|> lower.debounce, upper.loopGuard <|> lower.loopGuard,
    upper.saveOnly <|> lower.saveOnly⟩

end Layer

/-- A number that was out of range. -/
structure Warning where
  field : String
  value : Int
  range : Range
deriving DecidableEq, Repr

/-- The text of a warning. -/
def Warning.text (w : Warning) : String :=
  let number (n : Nat) : String := String.ofList (Text.decimal n)
  Console.dim "[" ++ Console.colored .cyan w.field ++ Console.dim "]" ++ " " ++
    String.ofList (Text.signed w.value) ++ " is outside " ++ number w.range.least ++ "..=" ++
    number w.range.most ++ ", using " ++ number w.range.fallback

/-- The number for what is said of a field, and the warning it calls for. -/
def Range.settle (r : Range) (field : String) (value : Option Int) : Nat × List Warning :=
  match value with
  | none => (r.fallback, [])
  | some v =>
    if (r.least : Int) ≤ v ∧ v ≤ r.most then (v.toNat, []) else (r.fallback, [⟨field, v, r⟩])

/-- The settings that a layer makes, with warnings. -/
def ofLayer (l : Layer) : Settings × List Warning :=
  let (debounce, warnings) := debounceRange.settle debounceField l.debounce
  let (loopGuard, more) := loopGuardRange.settle loopGuardField l.loopGuard
  (⟨debounce, loopGuard, l.saveOnly.getD false⟩, warnings ++ more)

/-- The layer that says all of some settings. -/
def toLayer (s : Settings) : Layer := ⟨some s.debounce, some s.loopGuard, some s.saveOnly⟩

end Settings

end LivePreview
