import LivePreview.Text.Numeral

/-!
# Numerals

A number is read back from its decimal digits (`readDecimal_decimal`), and a hexadecimal digit has
the value it is written for (`digitValue?_digitChar`).
-/

namespace LivePreview.Text

theorem digitChar_spec {d : Nat} (h : d < 10) :
    isDecimal (digitChar d) = true ∧ (digitChar d).toNat - '0'.toNat = d := by
  have hall : ∀ d < 10, isDecimal (digitChar d) = true ∧ (digitChar d).toNat - '0'.toNat = d := by
    decide
  exact hall d h

theorem digitValue?_digitChar {d : Nat} (h : d < 16) :
    digitValue? (digitChar d) = some d ∧ ' ' ≤ digitChar d := by
  have hall : ∀ d < 16, digitValue? (digitChar d) = some d ∧ ' ' ≤ digitChar d := by decide
  exact hall d h

/-- With enough fuel, reading goes on behind the digits of a number as it would behind the number
itself. -/
theorem foldl_decimalAux {fuel n : Nat} (h : n < fuel) (acc : List Char) :
    (decimalAux fuel n acc).foldl (fun acc c => 10 * acc + (c.toNat - '0'.toNat)) 0 =
      acc.foldl (fun acc c => 10 * acc + (c.toNat - '0'.toNat)) n := by
  induction fuel generalizing n acc with
  | zero => exact absurd h (Nat.not_lt_zero n)
  | succ fuel ih =>
    rw [decimalAux]
    by_cases hn : n < 10
    · rw [if_pos hn, List.foldl_cons, (digitChar_spec hn).2, Nat.mul_zero, Nat.zero_add]
    · have hdigit := (digitChar_spec (Nat.mod_lt n (by decide : 0 < 10))).2
      rw [if_neg hn, ih (by omega), List.foldl_cons, hdigit, Nat.div_add_mod]

theorem readDecimal_decimal (n : Nat) : readDecimal (decimal n) = n :=
  foldl_decimalAux (Nat.lt_succ_self n) []

theorem isDecimal_of_mem_decimalAux {fuel n : Nat} {acc : List Char}
    (hacc : ∀ c ∈ acc, isDecimal c = true) : ∀ c ∈ decimalAux fuel n acc, isDecimal c = true := by
  induction fuel generalizing n acc with
  | zero => exact hacc
  | succ fuel ih =>
    have hcons : ∀ d < 10, ∀ c ∈ digitChar d :: acc, isDecimal c = true := by
      intro d hd c hc
      rcases List.mem_cons.mp hc with rfl | hc
      · exact (digitChar_spec hd).1
      · exact hacc c hc
    rw [decimalAux]
    split
    · rename_i hn
      exact hcons n hn
    · exact ih (hcons (n % 10) (Nat.mod_lt n (by decide)))

/-- Decimal numerals are digits. -/
theorem isDecimal_of_mem_decimal {n : Nat} {c : Char} (h : c ∈ decimal n) : isDecimal c = true :=
  isDecimal_of_mem_decimalAux (fun _ hc => absurd hc List.not_mem_nil) c h

/-- Numerals of a fixed width are digits of their base. -/
theorem exists_of_mem_fixedDigits {base width n : Nat} {c : Char} (hbase : 0 < base)
    (h : c ∈ fixedDigits base width n) : ∃ d < base, c = digitChar d := by
  induction width generalizing n with
  | zero => cases h
  | succ width ih =>
    rw [fixedDigits, List.mem_append, List.mem_singleton] at h
    rcases h with h | rfl
    · exact ih h
    · exact ⟨n % base, Nat.mod_lt n hbase, rfl⟩

theorem isDecimal_of_mem_fixedDigits {width n : Nat} {c : Char} (h : c ∈ fixedDigits 10 width n) :
    isDecimal c = true := by
  obtain ⟨d, hd, rfl⟩ := exists_of_mem_fixedDigits (by decide) h
  exact (digitChar_spec hd).1

theorem decimalAux_ne_nil {fuel n : Nat} {acc : List Char} (h : acc ≠ []) :
    decimalAux fuel n acc ≠ [] := by
  induction fuel generalizing n acc with
  | zero => exact h
  | succ fuel ih =>
    rw [decimalAux]
    split
    · exact List.cons_ne_nil _ _
    · exact ih (List.cons_ne_nil _ _)

theorem decimal_ne_nil (n : Nat) : decimal n ≠ [] := by
  rw [decimal, decimalAux]
  split
  · exact List.cons_ne_nil _ _
  · exact decimalAux_ne_nil (List.cons_ne_nil _ _)

end LivePreview.Text
