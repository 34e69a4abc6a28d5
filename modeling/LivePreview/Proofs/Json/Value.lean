import LivePreview.Json.Value
import LivePreview.Proofs.Json.Quoted

/-!
# Objects of texts

An object whose members are texts, written on one line, is read as that object and nothing else, for
any number of members (`read_compact`).

1. There are no blanks to skip, and one step of the reader takes a member with the comma or the
   brace behind it (`members_more`, `members_last`).
2. By induction on the members the reader takes all of them (`members_written`). Its fuel lasts,
   since every member takes up room (`length_le_written`).
-/

namespace LivePreview.Json

/-- The object that has texts as its members. -/
def ofTexts (ms : List (List Char × List Char)) : Value :=
  .object (ms.map fun m => (m.1, .string m.2))

/-- A member as it is written on one line. -/
def member (m : List Char × List Char) : List Char := quote m.1 ++ ':' :: quote m.2

/-- Members as they are written on one line. -/
def written (ms : List (List Char × List Char)) : List Char := [','].intercalate (ms.map member)

theorem compact_eq (ms : List (List Char × List Char)) :
    compact ms = '\x7b' :: (written ms ++ ['\x7d']) := rfl

theorem written_singleton (m : List Char × List Char) : written [m] = member m :=
  List.intercalate_singleton

theorem written_cons_cons (m m' : List Char × List Char) (ms : List (List Char × List Char)) :
    written (m :: m' :: ms) = member m ++ ',' :: written (m' :: ms) := by
  rw [written, List.map_cons, List.map_cons, List.intercalate_cons_cons, List.append_assoc]
  rfl

/-! ## Reading -/

theorem skipBlanks_cons {c : Char}
    (h : (c == ' ' || c == '\n' || c == '\t' || c == '\r') = false) (cs : List Char) :
    skipBlanks (c :: cs) = c :: cs := by
  rw [skipBlanks, List.dropWhile_cons_of_neg (by rw [h]; decide)]

/-- A member starts with the quote of its name. -/
theorem skipBlanks_member (m : List Char × List Char) (text : List Char) :
    skipBlanks (member m ++ text) = '"' :: (encode m.1 ++ '"' :: ':' :: (quote m.2 ++ text)) := by
  rw [member, List.append_assoc, quote_append, skipBlanks_cons rfl, List.cons_append]

theorem value_quote (fuel depth : Nat) (cs rest : List Char) :
    value (fuel + 1) depth (quote cs ++ rest) = some (.string cs, rest) := by
  rw [quote_append, value, skipBlanks_cons rfl]
  simp only [decode_encode, Option.map_some]

theorem members_last (fuel depth : Nat) (m : List Char × List Char) (rest : List Char) :
    members (fuel + 2) depth (member m ++ '\x7d' :: rest) = some ([(m.1, .string m.2)], rest) := by
  rw [members, skipBlanks_member]
  simp only [decode_encode, skipBlanks_cons (c := ':') rfl, value_quote,
    skipBlanks_cons (c := '\x7d') rfl]

/-- One step of the reader takes a member with the comma behind it. -/
theorem members_more {fuel depth : Nat} {text rest : List Char} {ms : List (List Char × Value)}
    (h : members (fuel + 1) depth text = some (ms, rest)) (m : List Char × List Char) :
    members (fuel + 2) depth (member m ++ ',' :: text) = some ((m.1, .string m.2) :: ms, rest) := by
  rw [members, skipBlanks_member]
  simp only [decode_encode, skipBlanks_cons (c := ':') rfl, value_quote,
    skipBlanks_cons (c := ',') rfl, h, Option.map_some]

/-- The reader takes all members up to the brace behind them. -/
theorem members_written {fuel depth : Nat} (m : List Char × List Char)
    (ms : List (List Char × List Char)) (rest : List Char) (h : ms.length < fuel) :
    members (fuel + 1) depth (written (m :: ms) ++ '\x7d' :: rest) =
      some ((m :: ms).map fun m => (m.1, .string m.2), rest) := by
  induction ms generalizing fuel m with
  | nil =>
    obtain ⟨fuel, rfl⟩ := Nat.exists_eq_add_one_of_ne_zero (Nat.ne_of_gt h)
    rw [written_singleton]
    exact members_last fuel depth m rest
  | cons m' ms ih =>
    obtain ⟨fuel, rfl⟩ := Nat.exists_eq_add_one_of_ne_zero (Nat.ne_of_gt (Nat.zero_lt_of_lt h))
    rw [written_cons_cons, List.append_assoc]
    exact members_more (ih m' (Nat.lt_of_succ_lt_succ h)) m

theorem exists_written (m : List Char × List Char) (ms : List (List Char × List Char)) :
    ∃ text, written (m :: ms) = '"' :: text := by
  cases ms with
  | nil => exact ⟨_, written_singleton m⟩
  | cons m' ms => exact ⟨_, written_cons_cons m m' ms⟩

theorem value_compact {fuel depth : Nat} (ms : List (List Char × List Char)) (rest : List Char)
    (hfuel : ms.length < fuel) (hdepth : 1 < depth) :
    value (fuel + 1) depth (compact ms ++ rest) = some (ofTexts ms, rest) := by
  rw [compact_eq, List.cons_append, List.append_assoc, List.singleton_append, value,
    skipBlanks_cons rfl]
  simp only [Nat.not_le.mpr hdepth, if_false]
  cases ms with
  | nil =>
    rw [written, List.map_nil, List.intercalate_nil, List.nil_append, skipBlanks_cons rfl]
    rfl
  | cons m ms =>
    obtain ⟨fuel, rfl⟩ := Nat.exists_eq_add_one_of_ne_zero (Nat.ne_of_gt (Nat.zero_lt_of_lt hfuel))
    have hread : members (fuel + 1) (depth - 1) (written (m :: ms) ++ '\x7d' :: rest) =
        some ((m :: ms).map fun m => (m.1, .string m.2), rest) :=
      members_written m ms rest (Nat.lt_of_succ_lt_succ hfuel)
    -- what starts with a quote is not the brace of an object without members
    obtain ⟨text, htext⟩ := exists_written m ms
    rw [htext, List.cons_append] at hread ⊢
    rw [skipBlanks_cons rfl]
    exact congrArg (Option.map fun found => (Value.object found.1, found.2)) hread

theorem length_le_written (ms : List (List Char × List Char)) :
    ms.length ≤ (written ms).length := by
  induction ms with
  | nil => exact Nat.zero_le _
  | cons m ms ih =>
    cases ms with
    | nil => exact Nat.succ_pos _
    | cons m' ms =>
      rw [written_cons_cons]
      simp only [List.length_append, List.length_cons] at ih ⊢
      omega

/-- An object of texts is read as what it is. -/
theorem read_compact (ms : List (List Char × List Char)) :
    read (compact ms) = some (ofTexts ms) := by
  have hle := length_le_written ms
  have hlength : (compact ms).length = (written ms).length + 2 := by
    rw [compact_eq, List.length_cons, List.length_append, List.length_singleton]
  have hvalue : value (2 * (compact ms).length + 1 + 1) maxDepth (compact ms ++ []) =
      some (ofTexts ms, []) :=
    value_compact ms [] (by omega) (by decide)
  rw [List.append_nil] at hvalue
  rw [read, hvalue]
  rfl

/-! ## Control characters -/

theorem le_member (m : List Char × List Char) : ∀ c ∈ member m, ' ' ≤ c := by
  rw [member, List.forall_mem_append, List.forall_mem_cons]
  exact ⟨le_quote m.1, by decide, le_quote m.2⟩

theorem le_written (ms : List (List Char × List Char)) : ∀ c ∈ written ms, ' ' ≤ c := by
  induction ms with
  | nil => exact fun _ h => absurd h List.not_mem_nil
  | cons m ms ih =>
    cases ms with
    | nil =>
      rw [written_singleton]
      exact le_member m
    | cons m' ms =>
      rw [written_cons_cons, List.forall_mem_append, List.forall_mem_cons]
      exact ⟨le_member m, by decide, ih⟩

/-- An object of texts that is written on one line has no control character. -/
theorem le_compact (ms : List (List Char × List Char)) : ∀ c ∈ compact ms, ' ' ≤ c := by
  rw [compact_eq, List.forall_mem_cons, List.forall_mem_append, List.forall_mem_singleton]
  exact ⟨by decide, le_written ms, by decide⟩

end LivePreview.Json
