/-!
# Spans of time

Budgets are spans of any length; settings and messages tell them by whole milliseconds.
-/

namespace LivePreview

/-- A span of time: whole milliseconds, and nanoseconds that do not make another one. -/
structure Duration where
  milliseconds : Nat
  nanoseconds : Fin 1000000
deriving DecidableEq, Repr

namespace Duration

/-- The span of so many milliseconds. -/
def ofMilliseconds (n : Nat) : Duration := ⟨n, 0⟩

@[simp] theorem milliseconds_ofMilliseconds (n : Nat) : (ofMilliseconds n).milliseconds = n := rfl

/-- A span without a fraction of a millisecond. -/
def IsWhole (d : Duration) : Prop := d.nanoseconds = 0

instance : DecidablePred IsWhole := fun d => decEq d.nanoseconds 0

theorem isWhole_ofMilliseconds (n : Nat) : (ofMilliseconds n).IsWhole := rfl

/-- Of the spans with the same milliseconds, one has no fraction. -/
theorem eq_ofMilliseconds_iff {d : Duration} {n : Nat} (h : d.milliseconds = n) :
    d = ofMilliseconds n ↔ d.IsWhole := by
  obtain ⟨_, fraction⟩ := d
  subst h
  simp [ofMilliseconds, IsWhole]

end Duration

end LivePreview
