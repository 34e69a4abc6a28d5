import LivePreview.Json.Quoted
import LivePreview.Proofs.Text.Numeral

/-!
# Quoted strings

Text in quotes is read back by the reader, which is written apart from it.

1. What is written for a character is the character itself, or a backslash and an escape that is
   read as the character (`escape_cases`). The escape is one letter, or four hexadecimal digits.
2. Hence quoted text has no control character (`le_quote`), and one step of the reader takes
   what was written for one character (`decodeAux_escape`).
3. The reader therefore stops at the quote behind the text, with all of the text and whatever stands
   behind the quote (`decode_encode`).
-/

namespace LivePreview.Json

/-! ## Escapes -/

/-- Four hexadecimal digits are read as the number they were written for. -/
theorem unit?_fixedDigits {n : Nat} (h : n < 65536) (rest : List Char) :
    unit? (Text.fixedDigits 16 4 n ++ rest) = some (n, rest) := by
  have hdigit : ∀ m, Text.digitValue? (Text.digitChar (m % 16)) = some (m % 16) := fun m =>
    (Text.digitValue?_digitChar (Nat.mod_lt m (by decide))).1
  have hsum : n / 16 / 16 / 16 % 16 * 4096 + n / 16 / 16 % 16 * 256 + n / 16 % 16 * 16 + n % 16 =
      n := by
    omega
  simp only [Text.fixedDigits, List.nil_append, List.cons_append, unit?, hdigit,
    Option.bind_eq_bind, Option.bind_some, hsum]
  rfl

/-- A character below the surrogates is read from its number. -/
theorem unescape_number {c : Char} (h : c.toNat < 0xD800) (rest : List Char) :
    unescape ('u' :: Text.fixedDigits 16 4 c.toNat ++ rest) = some (c, rest) := by
  have hunit : unit? (Text.fixedDigits 16 4 c.toNat ++ rest) = some (c.toNat, rest) :=
    unit?_fixedDigits (Nat.lt_trans h (by decide)) rest
  rw [List.cons_append, unescape, hunit]
  simp only [h, true_or, if_true, Char.ofNat_toNat]

/-- What is written for a character: a backslash and an escape that is read as the character, or
else the character itself. -/
theorem escape_cases (c : Char) :
    (∃ e, escape c = '\\' :: e ∧ (∀ d ∈ e, ' ' ≤ d) ∧
      ∀ rest, unescape (e ++ rest) = some (c, rest)) ∨
    (escape c = [c] ∧ c ≠ '"' ∧ c ≠ '\\' ∧ ' ' ≤ c) := by
  unfold escape
  split
  · exact .inl ⟨['"'], rfl, List.forall_mem_singleton.mpr (by decide), fun _ => rfl⟩
  · exact .inl ⟨['\\'], rfl, List.forall_mem_singleton.mpr (by decide), fun _ => rfl⟩
  · exact .inl ⟨['b'], rfl, List.forall_mem_singleton.mpr (by decide), fun _ => rfl⟩
  · exact .inl ⟨['f'], rfl, List.forall_mem_singleton.mpr (by decide), fun _ => rfl⟩
  · exact .inl ⟨['n'], rfl, List.forall_mem_singleton.mpr (by decide), fun _ => rfl⟩
  · exact .inl ⟨['r'], rfl, List.forall_mem_singleton.mpr (by decide), fun _ => rfl⟩
  · exact .inl ⟨['t'], rfl, List.forall_mem_singleton.mpr (by decide), fun _ => rfl⟩
  · rename_i hquote hbackslash _ _ _ _ _
    split
    · -- a control character without a letter of its own is written by its number
      rename_i hlt
      refine .inl ⟨_, rfl, fun d hd => ?_, unescape_number (Nat.lt_trans hlt (by decide))⟩
      rcases List.mem_cons.mp hd with rfl | hd
      · decide
      · obtain ⟨k, hk, rfl⟩ := Text.exists_of_mem_fixedDigits (by decide) hd
        exact (Text.digitValue?_digitChar hk).2
    · rename_i hle
      exact .inr ⟨rfl, hquote, hbackslash, Char.not_lt.mp hle⟩

/-! ## Control characters -/

theorem le_escape (c : Char) : ∀ d ∈ escape c, ' ' ≤ d := by
  rcases escape_cases c with ⟨e, he, hle, -⟩ | ⟨he, -, -, hle⟩
  · rw [he, List.forall_mem_cons]
    exact ⟨by decide, hle⟩
  · rw [he, List.forall_mem_singleton]
    exact hle

/-- Text in quotes has no control character. -/
theorem le_quote (cs : List Char) : ∀ c ∈ quote cs, ' ' ≤ c := by
  have hle : ∀ c ∈ encode cs, ' ' ≤ c := by
    intro c hc
    obtain ⟨d, -, hd⟩ := List.mem_flatMap.mp hc
    exact le_escape d c hd
  rw [quote, List.cons_append, List.forall_mem_cons, List.forall_mem_append,
    List.forall_mem_singleton]
  exact ⟨by decide, hle, by decide⟩

/-! ## Reading -/

/-- One step of the reader takes what is written for one character. -/
theorem decodeAux_escape {fuel : Nat} {c : Char} {cs text rest : List Char}
    (h : decodeAux fuel text = some (cs, rest)) :
    decodeAux (fuel + 1) (escape c ++ text) = some (c :: cs, rest) := by
  rcases escape_cases c with ⟨e, he, -, hread⟩ | ⟨he, hquote, hbackslash, hle⟩
  · rw [he, List.cons_append, decodeAux, hread text]
    simp only [Option.bind_eq_bind, Option.bind_some, h]
    rfl
  · rw [he, List.singleton_append, decodeAux, if_neg (Char.not_lt.mpr hle), h]
    · rfl
    · exact hquote
    · exact hbackslash

theorem decodeAux_encode {fuel : Nat} (cs rest : List Char) (h : cs.length ≤ fuel) :
    decodeAux fuel (encode cs ++ '"' :: rest) = some (cs, rest) := by
  induction cs generalizing fuel with
  | nil =>
    rw [encode, List.flatMap_nil, List.nil_append, decodeAux]
  | cons c cs ih =>
    cases fuel with
    | zero => exact absurd h (Nat.not_succ_le_zero _)
    | succ fuel =>
      rw [encode, List.flatMap_cons, List.append_assoc]
      exact decodeAux_escape (ih (Nat.le_of_succ_le_succ h))

theorem length_le_encode (cs : List Char) : cs.length ≤ (encode cs).length := by
  induction cs with
  | nil => exact Nat.le_refl 0
  | cons c cs ih =>
    have hpos : 0 < (escape c).length := by
      rcases escape_cases c with ⟨e, he, -, -⟩ | ⟨he, -, -, -⟩
      · rw [he]
        exact Nat.succ_pos _
      · rw [he]
        exact Nat.succ_pos _
    rw [encode] at ih ⊢
    rw [List.flatMap_cons, List.length_append, List.length_cons]
    omega

theorem quote_append (cs rest : List Char) :
    quote cs ++ rest = '"' :: (encode cs ++ '"' :: rest) := by
  rw [quote, List.cons_append, List.cons_append, List.append_assoc]
  rfl

/-- The reader stops at the quote behind a text, with the text. -/
theorem decode_encode (cs rest : List Char) :
    decode (encode cs ++ '"' :: rest) = some (cs, rest) := by
  refine decodeAux_encode cs rest ?_
  have hle := length_le_encode cs
  rw [List.length_append]
  omega

end LivePreview.Json
