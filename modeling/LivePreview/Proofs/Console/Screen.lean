import LivePreview.Console.Status
import LivePreview.Proofs.Text.Numeral

/-!
# Reports on a screen

What is on a screen behind a run of reports.

1. A terminal reads characters one by one. It knows line feeds, and the sequences that take the
   cursor up and that clear what is from it on (`Mode.read`, `Screen.act`); other sequences show
   nothing. What it does with any other character is a parameter that may change the cursor's row
   and column, and nothing else.
2. A text without the two sequences is `Steady`. What it shows does not depend on the rows above
   (`Screen.print_under`), and it goes down one row for each line feed
   (`Screen.length_above_print`).
3. The head of a block is on one row (`Board.inline_heading`). So a block takes one row more than
   its text has line feeds (`print_block`, `length_rowsOf`), and the rows that are taken away are as
   many as the height of the report (`Screen.print_clear`).
4. That height is too small by one exactly for a text that ends in a line feed (`height_add`). Hence
   each report but the latest leaves its first row if its text ends so, and nothing else
   (`screen_shows_latest`, `screen_keeps_row`).
-/

namespace LivePreview.Console

/-! ## A terminal -/

/-- Where a terminal is in a control sequence. -/
inductive Mode where
  | plain
  /-- Behind the character that starts a sequence. -/
  | escape
  /-- Among the parameters of a sequence. -/
  | sequence (parameters : List Char)
deriving DecidableEq

/-- What a terminal does. -/
inductive Act where
  | nothing
  | put (c : Char)
  | lineFeed
  | rise (n : Nat)
  | clearBelow
deriving DecidableEq

/-- The first number among parameters; 0 if there is none. -/
def firstNumber (parameters : List Char) : Nat :=
  Text.readDecimal (parameters.takeWhile Text.isDecimal)

/-- What a sequence stands for that ends in a character. -/
def endSequence (parameters : List Char) (c : Char) : Act :=
  if c = 'A' then .rise (max 1 (firstNumber parameters))
  else if c = 'J' ∧ firstNumber parameters = 0 then .clearBelow
  else .nothing

/-- What a terminal does on a character, and where it is then. -/
def Mode.read (m : Mode) (c : Char) : Act × Mode :=
  if c = '\n' then (.lineFeed, .plain)
  else if c = '\x1b' then (.nothing, .escape)
  else
    match m with
    | .plain => (.put c, .plain)
    | .escape => (.nothing, if c = '[' then .sequence [] else .plain)
    | .sequence parameters =>
      if ' ' ≤ c ∧ c ≤ '?' then (.nothing, .sequence (parameters ++ [c]))
      else (endSequence parameters c, .plain)

/-- A screen, with the rows above the cursor nearest first. -/
structure Screen where
  above : List (List Char)
  row : List Char
  below : List (List Char)
  column : Nat
  mode : Mode
deriving DecidableEq

namespace Screen

/-- All rows, from the top. -/
def rows (s : Screen) : List (List Char) := s.above.reverse ++ s.row :: s.below

/-- The cursor is at the start of a last row that is empty. -/
def ready (above : List (List Char)) : Screen := ⟨above, [], [], 0, .plain⟩

/-- The screen with the cursor at the start of the next row. -/
def lineFeed (s : Screen) : Screen :=
  { s with above := s.row :: s.above, row := s.below.headD [], below := s.below.tail, column := 0 }

/-- The screen with the cursor some rows up, or in the top row. -/
def rise : Nat → Screen → Screen
  | 0, s => s
  | n + 1, s =>
    match s.above with
    | [] => s
    | row :: above => rise n { s with above := above, row := row, below := s.row :: s.below }

/-- The screen without what is from the cursor on. -/
def clearBelow (s : Screen) : Screen := { s with row := s.row.take s.column, below := [] }

variable (put : Char → List Char × Nat → List Char × Nat)

/-- What a terminal does to its screen. -/
def act (s : Screen) : Act → Screen
  | .nothing => s
  | .put c => { s with row := (put c (s.row, s.column)).1, column := (put c (s.row, s.column)).2 }
  | .lineFeed => s.lineFeed
  | .rise n => s.rise n
  | .clearBelow => s.clearBelow

/-- The screen when a character has been read. -/
def read (s : Screen) (c : Char) : Screen :=
  { s.act put (s.mode.read c).1 with mode := (s.mode.read c).2 }

/-- The screen when a text has been read. -/
def print (s : Screen) (text : List Char) : Screen := text.foldl (read put) s

theorem print_append (s : Screen) (a b : List Char) :
    s.print put (a ++ b) = (s.print put a).print put b := List.foldl_append

theorem print_cons (s : Screen) (c : Char) (cs : List Char) :
    s.print put (c :: cs) = (s.read put c).print put cs := rfl

end Screen

/-! ## Steady texts -/

/-- What leaves the rows above alone. -/
def Act.isSteady : Act → Bool
  | .nothing | .put _ | .lineFeed => true
  | .rise _ | .clearBelow => false

/-- Where a terminal is behind a text. -/
def Mode.behind (m : Mode) (text : List Char) : Mode := text.foldl (fun m c => (m.read c).2) m

/-- A text holds no sequence that takes the cursor up or clears. -/
def Steady : Mode → List Char → Prop
  | _, [] => True
  | m, c :: cs => (m.read c).1.isSteady = true ∧ Steady (m.read c).2 cs

instance : ∀ (m : Mode) (text : List Char), Decidable (Steady m text)
  | _, [] => isTrue trivial
  | m, c :: cs =>
    have := instDecidableSteady (m.read c).2 cs
    inferInstanceAs (Decidable (_ ∧ _))

theorem steady_append {m : Mode} {a b : List Char} :
    Steady m (a ++ b) ↔ Steady m a ∧ Steady (m.behind a) b := by
  induction a generalizing m with
  | nil => simp [Steady, Mode.behind]
  | cons c cs ih =>
    simp only [List.cons_append, Steady, ih, and_assoc]
    rfl

theorem steady_lineFeed (m : Mode) : Steady m ['\n'] := ⟨rfl, trivial⟩

/-- A text without the character that starts sequences is steady, and starts none. -/
theorem steady_of_not_mem {text : List Char} (h : '\x1b' ∉ text) :
    Steady .plain text ∧ Mode.plain.behind text = .plain := by
  induction text with
  | nil => exact ⟨trivial, rfl⟩
  | cons c cs ih =>
    rw [List.mem_cons, not_or] at h
    have hread : (Mode.plain.read c).2 = .plain ∧ (Mode.plain.read c).1.isSteady = true := by
      unfold Mode.read
      split
      · exact ⟨rfl, rfl⟩
      · rw [if_neg (Ne.symm h.1)]
        exact ⟨rfl, rfl⟩
    obtain ⟨hsteady, hplain⟩ := ih h.2
    refine ⟨⟨hread.2, ?_⟩, ?_⟩
    · rw [hread.1]
      exact hsteady
    · show Mode.behind (Mode.plain.read c).2 cs = .plain
      rw [hread.1]
      exact hplain

namespace Screen

variable {put : Char → List Char × Nat → List Char × Nat}

/-- The screen with more rows on top. -/
def under (s : Screen) (rows : List (List Char)) : Screen := { s with above := s.above ++ rows }

theorem act_under (s : Screen) (rows : List (List Char)) {a : Act} (h : a.isSteady = true) :
    (s.under rows).act put a = (s.act put a).under rows := by
  cases a with
  | nothing | put | lineFeed => rfl
  | rise | clearBelow => cases h

/-- What a steady text shows does not depend on the rows above. -/
theorem print_under {text : List Char} {s : Screen} (h : Steady s.mode text)
    (rows : List (List Char)) :
    (s.under rows).print put text = (s.print put text).under rows := by
  induction text generalizing s with
  | nil => rfl
  | cons c cs ih =>
    have hread : (s.under rows).read put c = (s.read put c).under rows := by
      show { (s.under rows).act put (s.mode.read c).1 with mode := (s.mode.read c).2 } = _
      rw [act_under s rows h.1]
      rfl
    rw [print_cons, hread, ih h.2]
    rfl

/-- A steady text keeps the rows below free. -/
theorem below_print {text : List Char} {s : Screen} (h : Steady s.mode text) (hb : s.below = []) :
    (s.print put text).below = [] := by
  induction text generalizing s with
  | nil => exact hb
  | cons c cs ih =>
    refine ih (s := s.read put c) h.2 ?_
    have hs := h.1
    show (s.act put (s.mode.read c).1).below = []
    cases ha : (s.mode.read c).1 with
    | nothing | put => exact hb
    | lineFeed =>
      show s.below.tail = []
      rw [hb]
      rfl
    | rise | clearBelow =>
      rw [ha] at hs
      cases hs

theorem endSequence_ne_lineFeed (parameters : List Char) (c : Char) :
    endSequence parameters c ≠ .lineFeed := by
  unfold endSequence
  split
  · exact nofun
  · split <;> exact nofun

/-- Only line feeds make a terminal go down. -/
theorem act_eq_lineFeed {m : Mode} {c : Char} : (m.read c).1 = .lineFeed ↔ c = '\n' := by
  unfold Mode.read
  by_cases hc : c = '\n'
  · rw [if_pos hc]
    exact iff_of_true rfl hc
  · rw [if_neg hc]
    refine iff_of_false ?_ hc
    split
    · exact nofun
    · cases m with
      | plain | escape => exact nofun
      | sequence parameters =>
        dsimp only
        split
        · exact nofun
        · exact endSequence_ne_lineFeed parameters c

/-- A steady text goes down one row for each line feed. -/
theorem length_above_print {text : List Char} {s : Screen} (h : Steady s.mode text) :
    (s.print put text).above.length = s.above.length + text.count '\n' := by
  induction text generalizing s with
  | nil => rfl
  | cons c cs ih =>
    have hs := h.1
    have hread : (s.read put c).above.length =
        s.above.length + if c = '\n' then 1 else 0 := by
      show (s.act put (s.mode.read c).1).above.length = _
      have hfeed := act_eq_lineFeed (m := s.mode) (c := c)
      cases ha : (s.mode.read c).1 with
      | nothing | put =>
        rw [ha] at hfeed
        rw [if_neg fun hc => nomatch hfeed.mpr hc]
        rfl
      | lineFeed =>
        rw [if_pos (hfeed.mp ha)]
        rfl
      | rise | clearBelow =>
        rw [ha] at hs
        cases hs
    rw [print_cons, ih h.2, hread, List.count_cons]
    simp only [beq_iff_eq]
    omega

/-- Behind a steady text that ends in a line feed the cursor is in a last row that is empty. -/
theorem print_lineFeed {text : List Char} {s : Screen} (h : Steady s.mode text)
    (hb : s.below = []) :
    s.print put (text ++ ['\n']) = ready (s.print put (text ++ ['\n'])).above := by
  rw [print_append]
  show { (s.print put text).act put ((s.print put text).mode.read '\n').1 with
    mode := ((s.print put text).mode.read '\n').2 } = _
  unfold Mode.read
  rw [if_pos rfl]
  show ({ (s.print put text).lineFeed with mode := .plain } : Screen) = _
  unfold lineFeed ready
  rw [below_print h hb]
  rfl

/-- Going up as many rows as there are above some others. -/
theorem rise_length (s : Screen) (taken above : List (List Char)) (h : s.above = taken ++ above) :
    (s.rise taken.length).above = above ∧ (s.rise taken.length).column = s.column ∧
      (s.rise taken.length).mode = s.mode := by
  induction taken generalizing s with
  | nil => exact ⟨h, rfl, rfl⟩
  | cons row taken ih =>
    rw [List.length_cons, rise, h]
    exact ih _ rfl

end Screen

/-! ## The head of a block -/

/-- A text that stays in one row and is no part of a sequence. -/
structure Inline (text : List Char) : Prop where
  steady : Steady .plain text
  plain : Mode.plain.behind text = .plain
  noFeed : '\n' ∉ text

theorem Inline.append {a b : List Char} (ha : Inline a) (hb : Inline b) : Inline (a ++ b) where
  steady := steady_append.mpr ⟨ha.steady, by rw [ha.plain]; exact hb.steady⟩
  plain := by
    show (a ++ b).foldl _ Mode.plain = .plain
    rw [List.foldl_append]
    exact (congrArg (Mode.behind · b) ha.plain).trans hb.plain
  noFeed h := (List.mem_append.mp h).elim ha.noFeed hb.noFeed

/-- A text without control characters is in one row. -/
theorem Inline.of_forall {text : List Char} (h : ∀ c ∈ text, ' ' ≤ c) : Inline text := by
  have hescape : '\x1b' ∉ text := fun hm => absurd (h _ hm) (by decide)
  obtain ⟨hsteady, hplain⟩ := steady_of_not_mem hescape
  exact ⟨hsteady, hplain, fun hm => absurd (h _ hm) (by decide)⟩

/-- The same for a text that is known. -/
theorem Inline.of_all {text : List Char} (h : (text.all fun c => decide (' ' ≤ c)) = true) :
    Inline text :=
  .of_forall fun c hc => of_decide_eq_true (List.all_eq_true.mp h c hc)

theorem le_of_isDecimal {c : Char} (h : Text.isDecimal c = true) : ' ' ≤ c ∧ c ≤ '?' := by
  unfold Text.isDecimal at h
  simp only [Bool.and_eq_true, decide_eq_true_eq] at h
  exact ⟨Char.le_trans (by decide) h.1, Char.le_trans h.2 (by decide)⟩

/-- Digits are parameters of a sequence. -/
theorem read_of_isDecimal (parameters : List Char) {c : Char} (h : Text.isDecimal c = true) :
    (Mode.sequence parameters).read c = (.nothing, .sequence (parameters ++ [c])) := by
  have hrange := le_of_isDecimal h
  have hfeed : c ≠ '\n' := by
    rintro rfl
    exact absurd hrange.1 (by decide)
  have hescape : c ≠ '\x1b' := by
    rintro rfl
    exact absurd hrange.1 (by decide)
  unfold Mode.read
  rw [if_neg hfeed, if_neg hescape]
  dsimp only
  rw [if_pos hrange]

theorem steady_digits (parameters : List Char) {digits : List Char}
    (h : ∀ c ∈ digits, Text.isDecimal c = true) :
    Steady (.sequence parameters) digits ∧
      (Mode.sequence parameters).behind digits = .sequence (parameters ++ digits) := by
  induction digits generalizing parameters with
  | nil => exact ⟨trivial, by rw [List.append_nil]; rfl⟩
  | cons c cs ih =>
    have hread := read_of_isDecimal parameters (h c List.mem_cons_self)
    obtain ⟨hs, hb⟩ := ih (parameters ++ [c]) fun c hc =>
      h c (List.mem_cons_of_mem _ hc)
    refine ⟨⟨by rw [hread]; rfl, by rw [hread]; exact hs⟩, ?_⟩
    show Mode.behind ((Mode.sequence parameters).read c).2 cs = _
    rw [hread, hb, List.append_assoc]
    rfl

/-- What selects a style stays in its row. -/
theorem inline_select (code : Nat) : Inline (select code).toList := by
  have htext : (select code).toList = ['\x1b', '['] ++ (Text.decimal code ++ ['m']) := by
    unfold select
    simp only [String.toList_append, String.toList_ofList, List.append_assoc]
    rfl
  obtain ⟨hs, hb⟩ := steady_digits [] fun c (hc : c ∈ Text.decimal code) =>
    Text.isDecimal_of_mem_decimal hc
  have hend : (Mode.sequence (Text.decimal code)).read 'm' = (.nothing, .plain) := rfl
  rw [htext]
  refine ⟨⟨rfl, rfl, ?_⟩, ?_, ?_⟩
  · show Steady (.sequence []) (Text.decimal code ++ ['m'])
    rw [steady_append, hb]
    exact ⟨hs, by rw [List.nil_append, hend]; rfl, trivial⟩
  · show (Mode.sequence []).behind (Text.decimal code ++ ['m']) = .plain
    rw [Mode.behind, List.foldl_append]
    show Mode.behind ((Mode.sequence []).behind (Text.decimal code)) ['m'] = .plain
    rw [hb]
    rfl
  · simp only [List.mem_append, List.mem_cons, List.not_mem_nil, or_false, not_or]
    refine ⟨by decide, fun hm => ?_, by decide⟩
    exact absurd (Text.isDecimal_of_mem_decimal hm) (by decide)

theorem Inline.of_isDecimal {text : List Char} (h : ∀ c ∈ text, Text.isDecimal c = true) :
    Inline text := .of_forall fun c hc => (le_of_isDecimal (h c hc)).1

/-- The time of day stays in its row. -/
theorem inline_clock (seconds : Nat) : Inline (clock seconds).toList := by
  unfold clock
  simp only [String.toList_append, String.toList_ofList]
  have htwo : ∀ n, Inline (Text.fixedDigits 10 2 n) := fun n =>
    .of_isDecimal fun c hc => Text.isDecimal_of_mem_fixedDigits hc
  have hcolon : Inline ":".toList := .of_all rfl
  exact ((((htwo _).append hcolon).append (htwo _)).append hcolon).append (htwo _)

namespace Board

/-- What stands in front of the text of a block. -/
def heading (b : Board) (clock : String) (severity : Severity) : String :=
  dim ("[" ++ clock ++ " #" ++ String.ofList (Text.decimal (b.count + 1)) ++ "]") ++ " " ++
    severity.symbol ++ " "

theorem toList_block (b : Board) (clock : String) (r : Report) :
    (b.block clock r).toList =
      (b.heading clock r.severity).toList ++ r.body.toList ++ ['\n'] := by
  show (b.heading clock r.severity ++ r.body ++ "\n").toList = _
  rw [String.toList_append, String.toList_append]
  rfl

/-- The head of a block is on one row. -/
theorem inline_heading (b : Board) (time : Nat) (severity : Severity) :
    Inline (b.heading (clock time) severity).toList := by
  have hcount : Inline (Text.decimal (b.count + 1)) :=
    .of_isDecimal fun c hc => Text.isDecimal_of_mem_decimal hc
  have hblank : Inline " ".toList := .of_all rfl
  have hsymbol : Inline severity.symbol.toList := by
    cases severity <;> unfold Severity.symbol colored <;>
      simp only [String.toList_append] <;>
      exact ((inline_select _).append (.of_all rfl)).append (inline_select _)
  unfold heading dim
  simp only [String.toList_append, String.toList_ofList]
  have hopen : Inline "[".toList := .of_all rfl
  have hnumber : Inline " #".toList := .of_all rfl
  have hclose : Inline "]".toList := .of_all rfl
  exact (((((inline_select 2).append ((((hopen.append (inline_clock time)).append hnumber).append
    hcount).append hclose)).append (inline_select 0)).append hblank).append hsymbol).append hblank

end Board

/-! ## Blocks and what takes them away -/

theorem firstNumber_decimal (n : Nat) : firstNumber (Text.decimal n) = n := by
  have hall : (Text.decimal n ++ []).takeWhile Text.isDecimal = Text.decimal n ++ [] :=
    List.takeWhile_append_of_pos fun c hc => Text.isDecimal_of_mem_decimal hc
  rw [List.append_nil] at hall
  rw [firstNumber, hall, Text.readDecimal_decimal]

section

variable (put : Char → List Char × Nat → List Char × Nat)

namespace Screen

/-- Digits change nothing on the screen. -/
theorem print_digits (s : Screen) {parameters digits : List Char}
    (hm : s.mode = .sequence parameters) (h : ∀ c ∈ digits, Text.isDecimal c = true) :
    s.print put digits = { s with mode := .sequence (parameters ++ digits) } := by
  induction digits generalizing s parameters with
  | nil =>
    rw [List.append_nil, ← hm]
    rfl
  | cons c cs ih =>
    have hread : s.read put c = { s with mode := .sequence (parameters ++ [c]) } := by
      unfold read
      rw [hm, read_of_isDecimal parameters (h c List.mem_cons_self)]
      rfl
    rw [print_cons, hread, ih _ rfl fun c hc => h c (List.mem_cons_of_mem _ hc), List.append_assoc]
    rfl

/-- What a sequence with a number does. -/
theorem print_sequence (s : Screen) {digits : List Char} {c : Char}
    (h : ∀ c ∈ digits, Text.isDecimal c = true) (hc : c ∈ ['A', 'J']) :
    s.print put ('\x1b' :: '[' :: (digits ++ [c])) =
      { ({ s with mode := .sequence digits } : Screen).act put (endSequence digits c) with
        mode := .plain } := by
  have hstart : (s.read put '\x1b').read put '[' = { s with mode := .sequence [] } := rfl
  have hend : (Mode.sequence digits).read c = (endSequence digits c, .plain) := by
    unfold Mode.read
    simp only [List.mem_cons, List.not_mem_nil, or_false] at hc
    rcases hc with rfl | rfl <;>
      rw [if_neg (by decide), if_neg (by decide)] <;> dsimp only <;> rw [if_neg (by decide)]
  rw [print_cons, print_cons, hstart, print_append, print_digits put _ rfl h]
  show read put { s with mode := .sequence digits } c = _
  unfold read
  rw [hend]

/-- Going up and clearing takes the rows away that are passed. -/
theorem print_clear (taken above : List (List Char)) {b : Board}
    (hb : b.height ≤ Board.maxRise) (ht : taken.length = b.height) :
    (ready (taken ++ above)).print put b.clear.toList = ready above := by
  unfold Board.clear
  by_cases h0 : (b.height == 0) = true
  · rw [if_pos h0]
    rw [beq_iff_eq] at h0
    rw [List.length_eq_zero_iff.mp (ht.trans h0)]
    rfl
  · rw [if_neg h0]
    have hpos : b.height ≠ 0 := by simpa using h0
    have htext : ("\x1b[" ++ String.ofList (Text.decimal (min b.height Board.maxRise)) ++
          "A\x1b[J").toList =
        ('\x1b' :: '[' :: (Text.decimal b.height ++ ['A'])) ++
          ('\x1b' :: '[' :: ([] ++ ['J'])) := by
      rw [Nat.min_eq_left hb]
      simp [String.toList_append]
    have hup : endSequence (Text.decimal b.height) 'A' = .rise taken.length := by
      unfold endSequence
      rw [if_pos rfl, firstNumber_decimal, ht, Nat.max_eq_right (Nat.one_le_iff_ne_zero.mpr hpos)]
    have hdown : endSequence [] 'J' = .clearBelow := rfl
    obtain ⟨habove, hcolumn, -⟩ := rise_length
      ({ ready (taken ++ above) with mode := .sequence (Text.decimal b.height) } : Screen)
      taken above rfl
    rw [htext, print_append,
      print_sequence put _ (fun c hc => Text.isDecimal_of_mem_decimal hc) (by simp),
      print_sequence put _ (fun c hc => absurd hc List.not_mem_nil) (by simp), hup, hdown]
    show (⟨(rise taken.length _).above, (rise taken.length _).row.take (rise taken.length _).column,
      [], (rise taken.length _).column, .plain⟩ : Screen) = ready above
    rw [habove, hcolumn]
    rfl

end Screen

section

variable {put} {head body : List Char} (hh : Inline head) (hs : Steady .plain body)

include hh hs

theorem steady_line : Steady .plain (head ++ body) ∧ Steady .plain (head ++ body ++ ['\n']) := by
  have hsteady : Steady .plain (head ++ body) := by
    rw [steady_append, hh.plain]
    exact ⟨hh.steady, hs⟩
  exact ⟨hsteady, steady_append.mpr ⟨hsteady, steady_lineFeed _⟩⟩

/-- What is printed behind a head goes below the rows that are there. -/
theorem print_line (above : List (List Char)) :
    (Screen.ready above).print put (head ++ body ++ ['\n']) =
      .ready (((Screen.ready []).print put (head ++ body ++ ['\n'])).above ++ above) := by
  obtain ⟨hfront, hall⟩ := steady_line hh hs
  have hstart : Screen.ready above = (Screen.ready []).under above := rfl
  rw [hstart, Screen.print_under hall, Screen.print_lineFeed hfront rfl]
  rfl

/-- It takes one row more than it has line feeds. -/
theorem length_print_line :
    ((Screen.ready []).print put (head ++ body ++ ['\n'])).above.length =
      body.count '\n' + 1 := by
  rw [Screen.length_above_print (steady_line hh hs).2, List.count_append, List.count_append,
    List.count_eq_zero.mpr hh.noFeed]
  simp [Screen.ready]

end

/-- The rows of a block, the last one first: what it shows on an empty screen. -/
def rowsOf (b : Board) (time : Nat) (r : Report) : List (List Char) :=
  ((Screen.ready []).print put (b.block (clock time) r).toList).above

variable {put} {r : Report} (hs : Steady .plain r.body.toList) (b : Board) (time : Nat)

include hs

/-- A block goes below the rows that are there. -/
theorem print_block (above : List (List Char)) :
    (Screen.ready above).print put (b.block (clock time) r).toList =
      .ready (rowsOf put b time r ++ above) := by
  unfold rowsOf
  rw [Board.toList_block]
  exact print_line (b.inline_heading time r.severity) hs above

variable (put)

/-- A block takes one row more than its text has line feeds. -/
theorem length_rowsOf : (rowsOf put b time r).length = r.body.toList.count '\n' + 1 := by
  unfold rowsOf
  rw [Board.toList_block]
  exact length_print_line (b.inline_heading time r.severity) hs

end

/-- The text of a report ends in a line feed. -/
def Report.endsInFeed (r : Report) : Bool := r.body.toList.getLast? == some '\n'

/-- The height of a report falls short by one if its text ends in a line feed. -/
theorem height_add (r : Report) :
    r.height + (if r.endsInFeed then 1 else 0) = r.body.toList.count '\n' + 1 := by
  unfold Report.height Report.endsInFeed Text.lineCount
  cases h : r.body.toList.getLast? with
  | none => simp [List.getLast?_eq_none_iff.mp h]
  | some c =>
    by_cases hc : c = '\n'
    · subst hc
      have hmem : '\n' ∈ r.body.toList := List.mem_of_getLast? h
      have hcount := List.one_le_count_iff.mpr hmem
      simp
      omega
    · simp [hc]

/-! ## Runs of reports -/

/-- The board behind reports, latest first. -/
def Board.behind : List (Nat × Report) → Board
  | [] => .empty
  | (_, r) :: past => (behind past).next r

theorem Board.toList_shown (b : Board) (clock : String) (r : Report) :
    (b.shown clock r).toList = b.clear.toList ++ (b.block clock r).toList := by
  unfold Board.shown
  rw [String.toList_append]

section

variable (put : Char → List Char × Nat → List Char × Nat) (above : List (List Char))

/-- The screen behind reports, latest first, with their times of day. -/
def Screen.behind : List (Nat × Report) → Screen
  | [] => .ready above
  | (time, r) :: past =>
    (behind past).print put ((Board.behind past).shown (clock time) r).toList

/-- The rows that a report leaves when the next one is made, on the board that it was made with. -/
def leftBy (b : Board) (time : Nat) (r : Report) : List (List Char) :=
  if r.endsInFeed then (rowsOf put b time r).getLast?.toList else []

/-- The rows that reports leave, the last one first. -/
def leftRows : List (Nat × Report) → List (List Char)
  | [] => []
  | (time, r) :: past => leftBy put (Board.behind past) time r ++ leftRows past

variable {time : Nat} {r : Report} {past : List (Nat × Report)}

/-- Of the rows of a report as many are taken away as it is high. -/
theorem exists_taken (hs : Steady .plain r.body.toList) (b : Board) (time : Nat) :
    ∃ taken, rowsOf put b time r = taken ++ leftBy put b time r ∧ taken.length = r.height := by
  have hlength := length_rowsOf put hs b time
  have hheight := height_add r
  unfold leftBy
  by_cases he : r.endsInFeed = true
  · rw [if_pos he] at hheight ⊢
    cases hl : (rowsOf put b time r).getLast? with
    | none =>
      rw [List.getLast?_eq_none_iff.mp hl] at hlength
      cases hlength
    | some row =>
      obtain ⟨taken, hrows⟩ := List.getLast?_eq_some_iff.mp hl
      rw [hrows, List.length_append, List.length_singleton] at hlength
      exact ⟨taken, hrows, by omega⟩
  · rw [if_neg he] at hheight ⊢
    exact ⟨rowsOf put b time r, (List.append_nil _).symm, by omega⟩

theorem leftRows_eq_nil_iff (hp : ∀ p ∈ past, Steady .plain p.2.body.toList) :
    leftRows put past = [] ↔ ∀ p ∈ past, p.2.endsInFeed = false := by
  induction past with
  | nil => simp [leftRows]
  | cons p past ih =>
    obtain ⟨time, r⟩ := p
    have hleft : leftBy put (Board.behind past) time r = [] ↔ r.endsInFeed = false := by
      unfold leftBy
      by_cases he : r.endsInFeed = true
      · have hlength := length_rowsOf put (hp (time, r) List.mem_cons_self)
          (Board.behind past) time
        have hne : rowsOf put (Board.behind past) time r ≠ [] := by
          intro h
          rw [h] at hlength
          cases hlength
        simp [he, hne]
      · simp [he]
    rw [leftRows, List.append_eq_nil_iff, hleft, ih fun p hm => hp p (List.mem_cons_of_mem _ hm),
      List.forall_mem_cons]

variable {put above}

/-- Each report goes below what the ones before have left. -/
theorem behind_eq_ready (hp : ∀ p ∈ (time, r) :: past,
    Steady .plain p.2.body.toList ∧ p.2.height ≤ Board.maxRise) :
    Screen.behind put above ((time, r) :: past) =
      .ready (rowsOf put (Board.behind past) time r ++ (leftRows put past ++ above)) := by
  have hs := (hp (time, r) List.mem_cons_self).1
  -- what the board takes away of the screen before
  have hclear : (Screen.behind put above past).print put (Board.behind past).clear.toList =
      .ready (leftRows put past ++ above) := by
    induction past generalizing time r with
    | nil => exact Screen.print_clear put [] above (Nat.zero_le _) rfl
    | cons p past ih =>
      obtain ⟨time', r'⟩ := p
      have hp' := fun p hm => hp p (List.mem_cons_of_mem _ hm)
      obtain ⟨hs', hheight⟩ := hp' (time', r') List.mem_cons_self
      obtain ⟨taken, hrows, htaken⟩ :=
        exists_taken put hs' (Board.behind past) time'
      have hbehind : Screen.behind put above ((time', r') :: past) =
          .ready (taken ++ (leftRows put ((time', r') :: past) ++ above)) := by
        rw [Screen.behind, Board.toList_shown, Screen.print_append, ih hp' hs', print_block hs',
          hrows, leftRows, List.append_assoc, List.append_assoc]
      rw [hbehind]
      exact Screen.print_clear put taken _ hheight htaken
  rw [Screen.behind, Board.toList_shown, Screen.print_append, hclear, print_block hs]

end

/-- **Reports on a screen.** For every terminal, behind every run of reports whose texts hold no
sequence that goes up or clears and that are not too high: the screen shows the rows that were there
before, a row for each earlier report whose text ends in a line feed, and the rows of the latest
report, one more than its text has line feeds. So nothing is left of earlier reports exactly if
none of their texts ends in a line feed. -/
theorem screen_shows_latest (put : Char → List Char × Nat → List Char × Nat)
    (above : List (List Char)) (past : List (Nat × Report)) (time : Nat) (r : Report)
    (hp : ∀ p ∈ (time, r) :: past,
      Steady .plain p.2.body.toList ∧ p.2.height ≤ Board.maxRise) :
    let s := Screen.behind put above ((time, r) :: past)
    let latest := (rowsOf put (Board.behind past) time r).reverse
    s.rows = above.reverse ++ (leftRows put past).reverse ++ latest ++ [[]] ∧
      latest.length = r.body.toList.count '\n' + 1 ∧
      (s.rows = above.reverse ++ latest ++ [[]] ↔ ∀ p ∈ past, p.2.endsInFeed = false) := by
  intro s latest
  have hrows : s.rows = above.reverse ++ (leftRows put past).reverse ++ latest ++ [[]] := by
    show (Screen.behind put above ((time, r) :: past)).rows = _
    rw [behind_eq_ready hp]
    simp [Screen.rows, Screen.ready, latest]
  refine ⟨hrows, ?_, ?_⟩
  · rw [List.length_reverse]
    exact length_rowsOf put (hp (time, r) List.mem_cons_self).1 (Board.behind past) time
  · rw [hrows, ← leftRows_eq_nil_iff put fun p hm => (hp p (List.mem_cons_of_mem _ hm)).1]
    simp

/-- A terminal that writes over what is in a row, and goes back on a carriage return. -/
def typed (c : Char) : List Char × Nat → List Char × Nat
  | (row, column) =>
    if c = '\r' then (row, 0)
    else (row.take column ++ c :: row.drop (column + 1), column + 1)

/-- Of reports of one, three and one row the last one stays, below what was there. -/
theorem screen_shows_latest_typed :
    let above := ["live".toList]
    let past : List (Nat × Report) := [(1, ⟨.failure, "x", "1\r\n\n2"⟩), (0, ⟨.success, "", ""⟩)]
    let r : Report := ⟨.warning, "y", ""⟩
    (∀ p ∈ (2, r) :: past, Steady .plain p.2.body.toList ∧ p.2.height ≤ Board.maxRise) ∧
      (Screen.behind typed above ((2, r) :: past)).rows =
        ["live".toList, "[00:00:02 #3] ⚠ y".toList, []] := by
  intro above past r
  have hp : ∀ p ∈ (2, r) :: past, Steady .plain p.2.body.toList ∧ p.2.height ≤ Board.maxRise := by
    decide +kernel
  refine ⟨hp, ?_⟩
  rw [(screen_shows_latest typed above past 2 r hp).2.2.mpr (by decide +kernel)]
  decide +kernel

/-- Of a report whose text ends in a line feed the first row is left on screen. -/
theorem screen_keeps_row :
    let past : List (Nat × Report) := [(0, ⟨.failure, "settings not reloaded", "invalid key\n"⟩)]
    let r : Report := ⟨.success, "note.md", ""⟩
    (Screen.behind typed [] ((1, r) :: past)).rows =
        ["[00:00:00 #1] ✗ settings not reloaded".toList, "[00:00:01 #2] ✓ note.md".toList, []] ∧
      rowsOf typed (Board.behind past) 1 r = ["[00:00:01 #2] ✓ note.md".toList] := by
  decide +kernel

end LivePreview.Console
