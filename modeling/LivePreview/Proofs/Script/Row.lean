import LivePreview.Proofs.Text.Numeral
import LivePreview.Script.Lexer

/-!
# Rows of tokens

1. `rowOf` reads a text token by token, as far as that does not hang on the grammar: a slash is read
   as the mark, and so is a brace behind a template's substitution.
2. `Reads text row rest` says that a text reads as a row and leaves a rest, wherever it stands. What
   reads so reads so in front of any other rest (`Reads.append`), and is read by `rowOf`
   (`Reads.rowOf_eq`).
3. What stands in a text for sure is read by computing; what depends on a number is read by
   `reads_name`, `reads_number` and `reads_string`.
-/

namespace LivePreview.Script

open Lexer
open Text (Cursor)

/-- What the grammar sees of tokens: their kinds and texts. -/
abbrev Row := List (Token.Kind × String)

/-- The tokens from a place on; `fuel` bounds their number. -/
def rowFrom : Nat → Cursor → Row
  | 0, _ => []
  | fuel + 1, c =>
    let read := next c false false
    if read.token.kind = .endOfText then []
    else (read.token.kind, read.token.text) :: rowFrom fuel read.behind

/-- The tokens of a text. -/
def rowOf (text : List Char) : Row := rowFrom (text.length + 1) (.start text)

/-- A token is read that leaves a rest, wherever the text stands. -/
def Yields (text : List Char) (kind : Token.Kind) (shown : String) (rest : List Char) : Prop :=
  ∀ n, (next ⟨text, n⟩ false false).token.kind = kind ∧
    (next ⟨text, n⟩ false false).token.text = shown ∧
    (next ⟨text, n⟩ false false).behind.rest = rest

/-- A space in front of a token is skipped. -/
theorem Yields.space {text rest : List Char} {kind : Token.Kind} {shown : String}
    (h : Yields text kind shown rest) : Yields (' ' :: text) kind shown rest := fun n => h (n + 1)

/-- Tokens are read that leave a rest, wherever the text stands. -/
inductive Reads : List Char → Row → List Char → Prop where
  | done (text : List Char) : Reads text [] text
  | token {text rest : List Char} {kind : Token.Kind} {shown : String} {row : Row}
      (between : List Char) (hy : Yields text kind shown between) (hk : kind ≠ .endOfText)
      (h : Reads between row rest) : Reads text ((kind, shown) :: row) rest

namespace Reads

variable {text between rest : List Char} {row row' : Row}

theorem one {kind : Token.Kind} {shown : String} (hy : Yields text kind shown rest)
    (hk : kind ≠ .endOfText) : Reads text [(kind, shown)] rest := .token rest hy hk (.done rest)

/-- A space in front of tokens is skipped. -/
theorem space {kind : Token.Kind} {shown : String} (h : Reads text ((kind, shown) :: row) rest) :
    Reads (' ' :: text) ((kind, shown) :: row) rest := by
  cases h with
  | token between hy hk h => exact .token between hy.space hk h

theorem append (h : Reads text row between) (h' : Reads between row' rest) :
    Reads text (row ++ row') rest := by
  induction h with
  | done => exact h'
  | token between hy hk _ ih => exact .token between hy hk (ih h')

theorem rowFrom_eq (h : Reads text row []) {fuel : Nat} (hf : row.length < fuel) (n : Nat) :
    rowFrom fuel ⟨text, n⟩ = row := by
  generalize hrest : ([] : List Char) = rest at h
  induction h generalizing fuel n with
  | done text =>
    subst hrest
    cases fuel with
    | zero => exact absurd hf (Nat.not_lt_zero _)
    | succ fuel => rfl
  | @token text rest kind shown row between hy hk h ih =>
    cases fuel with
    | zero => exact absurd hf (Nat.not_lt_zero _)
    | succ fuel =>
      obtain ⟨hkind, hshown, hbehind⟩ := hy n
      unfold rowFrom
      dsimp only
      rw [hkind, if_neg hk, hshown]
      have hnext := ih (Nat.lt_of_succ_lt_succ hf) (next ⟨text, n⟩ false false).behind.offset hrest
      rw [← hbehind] at hnext
      exact congrArg _ hnext

/-- What reads as a row without a rest has that row, which is no longer than the text. -/
theorem rowOf_eq (h : Reads text row []) (hl : row.length ≤ text.length) : rowOf text = row :=
  h.rowFrom_eq (Nat.lt_succ_of_le hl) 0

end Reads

/-! ## Runs of characters -/

/-- The decimal digits. -/
def digitChars : List Char := ['0', '1', '2', '3', '4', '5', '6', '7', '8', '9']

theorem mem_digitChars {c : Char} (h : Text.isDecimal c = true) : c ∈ digitChars := by
  have hall : ∀ n < 58, 48 ≤ n → Char.ofNat n ∈ digitChars := by decide
  unfold Text.isDecimal at h
  simp only [Bool.and_eq_true, decide_eq_true_eq] at h
  have hmem := hall c.toNat (Nat.lt_succ_of_le h.2) h.1
  rwa [Char.ofNat_toNat] at hmem

theorem isNamePart_of_isDecimal {c : Char} (h : Text.isDecimal c = true) :
    Text.isNamePart c = true := by
  have hall : digitChars.all Text.isNamePart = true := by decide
  exact List.all_eq_true.mp hall c (mem_digitChars h)

theorem takeWhile_run {p : Char → Bool} {run : List Char} (h : ∀ c ∈ run, p c = true) {d : Char}
    (hd : p d = false) (rest : List Char) (n : Nat) :
    Cursor.takeWhile p ⟨run ++ d :: rest, n⟩ =
      (run, ⟨d :: rest, n + Text.byteLength run⟩) := by
  have htake : (run ++ d :: rest).takeWhile p = run := by
    rw [List.takeWhile_append_of_pos h, List.takeWhile_cons_of_neg (by simp [hd]), List.append_nil]
  have hdrop : (run ++ d :: rest).dropWhile p = d :: rest := by
    rw [List.dropWhile_append_of_pos h, List.dropWhile_cons_of_neg (by simp [hd])]
  unfold Cursor.takeWhile
  simp only [htake, hdrop]

/-! ## Names -/

/-- A name ends in front of what no name goes on with. -/
theorem scanName_run {name : List Char} (hn : ∀ c ∈ name, Text.isNamePart c = true) {d : Char}
    (hd : Text.isNamePart d = false) (hb : d ≠ '\\') (rest : List Char) (n : Nat) :
    scanName .word ⟨name ++ d :: rest, n⟩ =
      .plain .word name ⟨d :: rest, n + Text.byteLength name⟩ := by
  have hsees : Cursor.sees ⟨d :: rest, n + Text.byteLength name⟩ '\\' = false :=
    beq_eq_false_iff_ne.mpr fun he => hb (Option.some.inj he)
  unfold scanName
  rw [takeWhile_run hn hd]
  simp only [hsees, Bool.false_eq_true, if_false]

/-- A name that starts with an underscore. -/
theorem yields_name {name : List Char} (hn : ∀ c ∈ name, Text.isNamePart c = true) {d : Char}
    (hd : Text.isNamePart d = false) (hb : d ≠ '\\') (rest : List Char) :
    Yields ('_' :: name ++ d :: rest) .word (String.ofList ('_' :: name)) (d :: rest) := by
  intro n
  have hall : ∀ c ∈ '_' :: name, Text.isNamePart c = true :=
    List.forall_mem_cons.mpr ⟨by decide, hn⟩
  have hnext : next ⟨'_' :: name ++ d :: rest, n⟩ false false =
      let s := scanName .word ⟨'_' :: name ++ d :: rest, n⟩
      ⟨tokenOf s n false, ⟨'_' :: name ++ d :: rest, n⟩, s.cursor, [], s.report?.toList⟩ := rfl
  rw [hnext, scanName_run hall hd hb]
  exact ⟨rfl, rfl, rfl⟩

/-! ## Numbers -/

theorem ne_underscore_of_isDecimal {c : Char} (h : Text.isDecimal c = true) : c ≠ '_' := by
  rintro rfl
  exact absurd h (by decide)

/-- Digits are read up to a parenthesis. -/
theorem scanDigits_run {digits : List Char} (hne : digits ≠ [])
    (hd : ∀ c ∈ digits, Text.isDecimal c = true) (rest : List Char) (n : Nat) :
    scanDigits Text.isDecimal ⟨digits ++ ')' :: rest, n⟩ =
      (digits, ⟨')' :: rest, n + Text.byteLength digits⟩, none) := by
  obtain ⟨first, digits, rfl⟩ := List.exists_cons_of_ne_nil hne
  have hfirst : Text.isDecimal first = true := hd first List.mem_cons_self
  have hsome : ∀ c ∈ first :: digits, (Text.isDecimal c || c == '_') = true := fun c hc => by
    rw [hd c hc, Bool.true_or]
  have hrun := takeWhile_run hsome (by decide : (Text.isDecimal ')' || ')' == '_') = false) rest n
  have hdoubled : (((first :: digits).zip ((first :: digits).drop 1)).any
      fun pair => pair.1 == '_' && pair.2 == '_') = false := by
    rw [List.any_eq_false]
    rintro ⟨a, b⟩ hab
    have ha := ne_underscore_of_isDecimal (hd a (List.of_mem_zip hab).1)
    simp [ha]
  have hlast : ((first :: digits).getLast? == some '_') = false := by
    rw [beq_eq_false_iff_ne]
    intro he
    exact ne_underscore_of_isDecimal (hd _ (List.mem_of_getLast? he)) rfl
  unfold scanDigits
  rw [List.cons_append] at hrun ⊢
  simp only [Cursor.peek, List.head?_cons, hfirst, Bool.not_true, Bool.false_eq_true, if_false,
    hrun, hdoubled, hlast]

/-- A parenthesis starts no fraction and no exponent. -/
theorem scanFraction_done (run rest : List Char) (n : Nat) :
    scanFraction run ⟨')' :: rest, n⟩ none = .plain .number run ⟨')' :: rest, n⟩ := by
  show Scanned.plain .number (run ++ [] ++ []) ⟨')' :: rest, n⟩ = _
  rw [List.append_nil, List.append_nil]

/-- Digits in front of a parenthesis are a number, also those that start with a zero. -/
theorem scanNumber_digits {digits : List Char} (hne : digits ≠ [])
    (hd : ∀ c ∈ digits, Text.isDecimal c = true) (rest : List Char) (n : Nat) :
    scanNumber ⟨digits ++ ')' :: rest, n⟩ =
      .plain .number digits ⟨')' :: rest, n + Text.byteLength digits⟩ := by
  obtain ⟨first, digits, rfl⟩ := List.exists_cons_of_ne_nil hne
  have hrun := scanDigits_run hne hd rest n
  have hfirst := mem_digitChars (hd first List.mem_cons_self)
  unfold digitChars at hfirst
  simp only [List.mem_cons, List.not_mem_nil, or_false] at hfirst
  by_cases hzero : first = '0'
  · subst hzero
    cases digits with
    | nil => rfl
    | cons second digits =>
      have hsecond := mem_digitChars (hd second (by simp))
      have hled : scanNumber ⟨'0' :: second :: digits ++ ')' :: rest, n⟩ =
          scanZeroLed ⟨'0' :: second :: digits ++ ')' :: rest, n⟩ := by
        unfold digitChars at hsecond
        simp only [List.mem_cons, List.not_mem_nil, or_false] at hsecond
        rcases hsecond with rfl | rfl | rfl | rfl | rfl | rfl | rfl | rfl | rfl | rfl <;> rfl
      rw [hled]
      unfold scanZeroLed
      rw [takeWhile_run hd (by decide)]
      dsimp only
      split <;> rfl
  · have hplain : scanNumber ⟨first :: digits ++ ')' :: rest, n⟩ =
        let s := scanDigits Text.isDecimal ⟨first :: digits ++ ')' :: rest, n⟩
        if !s.1.isEmpty && s.2.1.sees 'n' then
          finishNumber .bigint (s.1 ++ ['n']) (s.2.1.skip 1) s.2.2
        else scanFraction s.1 s.2.1 s.2.2 := by
      rcases hfirst with rfl | rfl | rfl | rfl | rfl | rfl | rfl | rfl | rfl | rfl
      · exact absurd rfl hzero
      all_goals rfl
    rw [hplain, hrun]
    exact scanFraction_done (first :: digits) rest _

/-- A number in front of a parenthesis. -/
theorem yields_number {digits : List Char} (hne : digits ≠ [])
    (hd : ∀ c ∈ digits, Text.isDecimal c = true) (rest : List Char) :
    Yields (digits ++ ')' :: rest) .number (String.ofList digits) (')' :: rest) := by
  intro n
  have hnext : next ⟨digits ++ ')' :: rest, n⟩ false false =
      let s := scanNumber ⟨digits ++ ')' :: rest, n⟩
      ⟨tokenOf s n false, ⟨digits ++ ')' :: rest, n⟩, s.cursor, [], s.report?.toList⟩ := by
    obtain ⟨first, digits, rfl⟩ := List.exists_cons_of_ne_nil hne
    have hfirst := mem_digitChars (hd first List.mem_cons_self)
    unfold digitChars at hfirst
    simp only [List.mem_cons, List.not_mem_nil, or_false] at hfirst
    rcases hfirst with rfl | rfl | rfl | rfl | rfl | rfl | rfl | rfl | rfl | rfl <;> rfl
  rw [hnext, scanNumber_digits hne hd]
  exact ⟨rfl, rfl, rfl⟩

/-! ## Strings -/

/-- A character that stands for itself in a string between double quotes. -/
def IsPlain (c : Char) : Prop := c ≠ '\\' ∧ c ≠ '"' ∧ c ≠ '\n' ∧ c ≠ '\r'

instance (c : Char) : Decidable (IsPlain c) := inferInstanceAs (Decidable (_ ∧ _))

theorem scanStringBody_run {text : List Char} (ht : ∀ c ∈ text, IsPlain c) (rest : List Char)
    {fuel : Nat} (hf : text.length < fuel) (acc : List Nat) (n : Nat) :
    ∃ acc' n', scanStringBody '"' fuel acc none ⟨text ++ '"' :: rest, n⟩ =
      some (acc', none, ⟨rest, n'⟩) := by
  induction text generalizing fuel acc n with
  | nil =>
    obtain ⟨fuel, rfl⟩ := Nat.exists_eq_succ_of_ne_zero (Nat.ne_of_gt hf)
    exact ⟨acc, n + 1, rfl⟩
  | cons c text ih =>
    obtain ⟨fuel, rfl⟩ := Nat.exists_eq_succ_of_ne_zero (Nat.ne_of_gt (Nat.zero_lt_of_lt hf))
    obtain ⟨hslash, hquote, hfeed, hreturn⟩ := ht c List.mem_cons_self
    have hnext : scanStringBody '"' (fuel + 1) acc none ⟨c :: text ++ '"' :: rest, n⟩ =
        scanStringBody '"' fuel (c.toNat :: acc) none ⟨text ++ '"' :: rest, n + c.utf8Size⟩ := by
      rw [scanStringBody.eq_def]
      simp only [List.cons_append, beq_iff_eq, hquote, if_false, Bool.or_eq_true, hfeed, hreturn,
        or_self]
      rfl
    rw [hnext]
    exact ih (fun c hc => ht c (List.mem_cons_of_mem _ hc)) (Nat.lt_of_succ_lt_succ hf) _ _

/-- A string between double quotes. -/
theorem yields_string {text : List Char} (ht : ∀ c ∈ text, IsPlain c) (rest : List Char) :
    Yields ('"' :: text ++ '"' :: rest) .string (String.ofList text) rest := by
  intro n
  have hlength : text.length < ('"' :: text ++ '"' :: rest).length + 1 := by simp; omega
  obtain ⟨points, n', hbody⟩ := scanStringBody_run ht rest hlength [] (n + 1)
  have hraw : (text ++ '"' :: rest).take ((text ++ '"' :: rest).length - rest.length - 1) =
      text := by
    rw [show (text ++ '"' :: rest).length - rest.length - 1 = text.length by simp; omega]
    exact List.take_left
  have hnext : next ⟨'"' :: text ++ '"' :: rest, n⟩ false false =
      let s := scanString '"' ⟨'"' :: text ++ '"' :: rest, n⟩
      ⟨tokenOf s n false, ⟨'"' :: text ++ '"' :: rest, n⟩, s.cursor, [], s.report?.toList⟩ := rfl
  have hscan : scanString '"' ⟨'"' :: text ++ '"' :: rest, n⟩ =
      ⟨.string, text, ⟨rest, n'⟩, joinSurrogates points.reverse, false, none⟩ := by
    unfold scanString
    have hskip : Cursor.skip 1 ⟨'"' :: text ++ '"' :: rest, n⟩ = ⟨text ++ '"' :: rest, n + 1⟩ := rfl
    rw [hskip, hbody]
    dsimp only
    rw [hraw]
    rfl
  rw [hnext, hscan]
  exact ⟨rfl, rfl, rfl⟩

end LivePreview.Script
