import LivePreview.Proofs.Guard.Weaving
import LivePreview.Proofs.Script.Row

/-!
# The names that the loop guard brings in

1. What is put in is read token by token (`rowOf_opening`, `rowOf_check`). In front of a loop it
   declares one variable, and it uses that variable and two others (`namesOf_opening`,
   `namesOf_check`).
2. All loops of a script together declare the numbered variables, one for each
   (`declaredBy_loopTexts`), and what is put in for a loop uses the variable of no other
   (`namesOf_mem_loopTexts`).
-/

namespace LivePreview.Guard

open Script (Row Reads Token rowOf)

/-! ## Names in rows of tokens -/

/-- A word that names a variable, where `let` is the word that declares one. -/
def isVariable (word : String) : Bool := !Token.reservedWords.contains word && word != "let"

/-- The names of variables in a row of tokens; `isMember` tells that a point stands before it. -/
def variablesIn (isMember : Bool) : Row → List String
  | [] => []
  | (kind, shown) :: row =>
    let rest := variablesIn (kind == .mark && shown == ".") row
    if kind == .word && isVariable shown && !isMember then shown :: rest else rest

/-- The names that `let` declares in a row of tokens; `isDeclared` tells that `let` stands before
it. -/
def declarationsIn (isDeclared : Bool) : Row → List String
  | [] => []
  | (kind, shown) :: row =>
    let rest := declarationsIn (kind == .word && shown == "let") row
    if isDeclared then shown :: rest else rest

/-- The names of variables in a text. -/
def namesOf (text : List Char) : List String := variablesIn false (rowOf text)

/-- The names that a text declares. -/
def declaredBy (text : List Char) : List String := declarationsIn false (rowOf text)

/-- The variable that notes when loop `seq` started. -/
def bindingOf (seq : Nat) : String := String.ofList (bindingName seq)

theorem bindingName_eq (seq : Nat) :
    bindingName seq = '_' :: ("_loopGuard".toList ++ Text.decimal seq) := rfl

/-- Loops have variables of their own. -/
theorem bindingOf_inj {seq seq' : Nat} (h : bindingOf seq = bindingOf seq') : seq = seq' := by
  have hname : bindingName seq = bindingName seq' := by
    have hlist := congrArg String.toList h
    unfold bindingOf at hlist
    rwa [String.toList_ofList, String.toList_ofList] at hlist
  unfold bindingName at hname
  have hdigits := congrArg Text.readDecimal (List.append_cancel_left hname)
  rwa [Text.readDecimal_decimal, Text.readDecimal_decimal] at hdigits

/-- No word of the language starts with an underscore. -/
theorem isVariable_bindingOf (seq : Nat) : isVariable (bindingOf seq) = true := by
  have hhead : (bindingOf seq).toList.head? = some '_' := by
    unfold bindingOf
    rw [String.toList_ofList, bindingName_eq]
    rfl
  have hwords : ∀ w ∈ "let" :: Token.reservedWords, w.toList.head? ≠ some '_' := by decide
  have hnot : ∀ w ∈ "let" :: Token.reservedWords, bindingOf seq ≠ w := fun w hw he =>
    hwords w hw (he ▸ hhead)
  unfold isVariable
  rw [Bool.and_eq_true, Bool.not_eq_true', bne_iff_ne]
  refine ⟨?_, hnot "let" List.mem_cons_self⟩
  rw [List.contains_eq_mem, decide_eq_false_iff_not]
  exact fun hmem => hnot _ (List.mem_cons_of_mem _ hmem) rfl

/-! ## What is put in, token by token -/

theorem isNamePart_binding (seq : Nat) :
    ∀ c ∈ "_loopGuard".toList ++ Text.decimal seq, Text.isNamePart c = true := by
  intro c hc
  rcases List.mem_append.mp hc with hc | hc
  · have hall : "_loopGuard".toList.all Text.isNamePart = true := by decide
    exact List.all_eq_true.mp hall c hc
  · exact Script.isNamePart_of_isDecimal (Text.isDecimal_of_mem_decimal hc)

/-- The variable of a loop, in front of a space. -/
theorem reads_binding (seq : Nat) (rest : List Char) :
    Reads (bindingName seq ++ ' ' :: rest) [(.word, bindingOf seq)] (' ' :: rest) :=
  .one (Script.yields_name (isNamePart_binding seq) (by decide) (by decide) rest) (by decide)

/-- The time. -/
def nowRow : Row :=
  [(.word, "Date"), (.mark, "."), (.word, "now"), (.mark, "("), (.mark, ")")]

theorem reads_now (rest : List Char) : Reads ("Date.now()".toList ++ rest) nowRow rest := by
  refine .token (".now()".toList ++ rest) (fun _ => ⟨rfl, rfl, rfl⟩) (by decide) ?_
  refine .token ("now()".toList ++ rest) (fun _ => ⟨rfl, rfl, rfl⟩) (by decide) ?_
  refine .token ("()".toList ++ rest) (fun _ => ⟨rfl, rfl, rfl⟩) (by decide) ?_
  refine .token (")".toList ++ rest) (fun _ => ⟨rfl, rfl, rfl⟩) (by decide) ?_
  exact .one (fun _ => ⟨rfl, rfl, rfl⟩) (by decide)

theorem reads_let (rest : List Char) :
    Reads ("\x7blet".toList ++ ' ' :: rest) [(.mark, "\x7b"), (.word, "let")] (' ' :: rest) := by
  refine .token ("let".toList ++ ' ' :: rest) (fun _ => ⟨rfl, rfl, rfl⟩) (by decide) ?_
  exact .one (fun _ => ⟨rfl, rfl, rfl⟩) (by decide)

theorem reads_if (rest : List Char) :
    Reads ("if (".toList ++ rest) [(.word, "if"), (.mark, "(")] rest := by
  refine .token (" (".toList ++ rest) (fun _ => ⟨rfl, rfl, rfl⟩) (by decide) ?_
  exact .one (fun _ => ⟨rfl, rfl, rfl⟩) (by decide)

/-- Up to the message. -/
def throwRow : Row :=
  [(.mark, ")"), (.mark, "\x7b"), (.word, "throw"), (.word, "new"), (.word, "Error"), (.mark, "(")]

theorem reads_throw (rest : List Char) :
    Reads (") \x7b throw new Error(\"".toList ++ rest) throwRow ('"' :: rest) := by
  refine .token (" \x7b throw new Error(\"".toList ++ rest) (fun _ => ⟨rfl, rfl, rfl⟩)
    (by decide) ?_
  refine .token (" throw new Error(\"".toList ++ rest) (fun _ => ⟨rfl, rfl, rfl⟩) (by decide) ?_
  refine .token (" new Error(\"".toList ++ rest) (fun _ => ⟨rfl, rfl, rfl⟩) (by decide) ?_
  refine .token (" Error(\"".toList ++ rest) (fun _ => ⟨rfl, rfl, rfl⟩) (by decide) ?_
  refine .token ("(\"".toList ++ rest) (fun _ => ⟨rfl, rfl, rfl⟩) (by decide) ?_
  exact .one (fun _ => ⟨rfl, rfl, rfl⟩) (by decide)

theorem reads_end (rest : List Char) :
    Reads ("); \x7d".toList ++ rest) [(.mark, ")"), (.mark, ";"), (.mark, "\x7d")] rest := by
  refine .token ("; \x7d".toList ++ rest) (fun _ => ⟨rfl, rfl, rfl⟩) (by decide) ?_
  refine .token (" \x7d".toList ++ rest) (fun _ => ⟨rfl, rfl, rfl⟩) (by decide) ?_
  exact .one (fun _ => ⟨rfl, rfl, rfl⟩) (by decide)

/-- The message of the error that a loop ends with. -/
def messageOf (line : Nat) : List Char :=
  "Infinite loop detected on line ".toList ++ Text.decimal line

theorem isPlain_messageOf (line : Nat) : ∀ c ∈ messageOf line, Script.IsPlain c := by
  intro c hc
  rcases List.mem_append.mp hc with hc | hc
  · have hall : "Infinite loop detected on line ".toList.all Script.IsPlain = true := by decide
    exact of_decide_eq_true (List.all_eq_true.mp hall c hc)
  · have hall : Script.digitChars.all Script.IsPlain = true := by decide
    exact of_decide_eq_true
      (List.all_eq_true.mp hall c (Script.mem_digitChars (Text.isDecimal_of_mem_decimal hc)))

/-- What is put in front of a loop. -/
def openingRow (seq : Nat) : Row :=
  (.mark, "\x7b") :: (.word, "let") :: (.word, bindingOf seq) :: (.mark, "=") ::
    (nowRow ++ [(.mark, ";")])

theorem reads_opening (seq : Nat) (rest : List Char) :
    Reads (opening seq ++ rest) (openingRow seq) rest := by
  have hset (rest : List Char) : Reads ('=' :: ' ' :: rest) [(.mark, "=")] (' ' :: rest) :=
    .one (fun _ => ⟨rfl, rfl, rfl⟩) (by decide)
  have hend : Reads (';' :: rest) [(.mark, ";")] rest :=
    .one (fun _ => ⟨rfl, rfl, rfl⟩) (by decide)
  have htext : opening seq ++ rest = "\x7blet".toList ++ (' ' :: (bindingName seq ++ ' ' ::
      ('=' :: ' ' :: ("Date.now()".toList ++ (';' :: rest))))) := by
    unfold opening
    simp only [List.append_assoc]
    rfl
  rw [htext]
  exact ((((reads_let _).append (reads_binding seq _).space).append (hset _).space).append
    (reads_now _).space).append hend

/-- What is put into the body of a loop. -/
def checkRow (guard : LoopGuard) (seq line : Nat) : Row :=
  (.word, "if") :: (.mark, "(") :: (nowRow ++ (.mark, "-") :: (.word, bindingOf seq) ::
    (.mark, ">") :: (.number, String.ofList (Text.decimal guard.milliseconds)) :: (throwRow ++
      [(.string, String.ofList (messageOf line)), (.mark, ")"), (.mark, ";"), (.mark, "\x7d")]))

theorem reads_check (guard : LoopGuard) (seq line : Nat) (rest : List Char) :
    Reads (guard.check seq line ++ rest) (checkRow guard seq line) rest := by
  have hminus (rest : List Char) : Reads ('-' :: ' ' :: rest) [(.mark, "-")] (' ' :: rest) :=
    .one (fun _ => ⟨rfl, rfl, rfl⟩) (by decide)
  have hmore (rest : List Char) : Reads ('>' :: ' ' :: rest) [(.mark, ">")] (' ' :: rest) :=
    .one (fun _ => ⟨rfl, rfl, rfl⟩) (by decide)
  have hbudget (rest : List Char) : Reads (Text.decimal guard.milliseconds ++ ')' :: rest)
      [(.number, String.ofList (Text.decimal guard.milliseconds))] (')' :: rest) :=
    .one (Script.yields_number (Text.decimal_ne_nil _)
      (fun _ hc => Text.isDecimal_of_mem_decimal hc) rest) (by decide)
  have hmessage (rest : List Char) : Reads ('"' :: messageOf line ++ '"' :: rest)
      [(.string, String.ofList (messageOf line))] rest :=
    .one (Script.yields_string (isPlain_messageOf line) rest) (by decide)
  have htext : guard.check seq line ++ rest = "if (".toList ++ ("Date.now()".toList ++ (' ' ::
      ('-' :: ' ' :: (bindingName seq ++ ' ' :: ('>' :: ' ' :: (Text.decimal guard.milliseconds ++
        (") \x7b throw new Error(\"".toList ++ (messageOf line ++
          '"' :: ("); \x7d".toList ++ rest))))))))) := by
    have hstart : "if (Date.now() - ".toList =
        "if (".toList ++ ("Date.now()".toList ++ [' ', '-', ' ']) := by decide
    have hmiddle : ") \x7b throw new Error(\"Infinite loop detected on line ".toList =
        ") \x7b throw new Error(\"".toList ++ "Infinite loop detected on line ".toList := by
      decide
    unfold LoopGuard.check messageOf
    rw [hstart, hmiddle]
    simp only [List.append_assoc]
    rfl
  rw [htext]
  exact ((((((((reads_if _).append (reads_now _)).append (hminus _).space).append
    (reads_binding seq _).space).append (hmore _).space).append (hbudget _).space).append
    (reads_throw _)).append (hmessage _)).append (reads_end rest)

/-! ## The names of what is put in -/

theorem rowOf_opening (seq : Nat) : rowOf (opening seq) = openingRow seq := by
  have h := reads_opening seq []
  rw [List.append_nil] at h
  have hlength : 10 ≤ (opening seq).length := by
    have hnow : 10 ≤ " = Date.now();".toList.length := by decide
    unfold opening
    rw [List.length_append]
    omega
  exact h.rowOf_eq hlength

theorem length_check (guard : LoopGuard) (seq line : Nat) :
    (checkRow guard seq line).length ≤ (guard.check seq line).length := by
  have hthrow : 21 ≤
      ") \x7b throw new Error(\"Infinite loop detected on line ".toList.length := by decide
  show 21 ≤ _
  unfold LoopGuard.check
  simp only [List.length_append]
  omega

theorem rowOf_check (guard : LoopGuard) (seq line : Nat) :
    rowOf (guard.check seq line) = checkRow guard seq line := by
  have h := reads_check guard seq line []
  rw [List.append_nil] at h
  exact h.rowOf_eq (length_check guard seq line)

theorem bindingOf_ne_let (seq : Nat) : bindingOf seq ≠ "let" := by
  intro he
  have hvar := isVariable_bindingOf seq
  rw [he] at hvar
  exact absurd hvar (by decide)

theorem namesOf_opening (seq : Nat) : namesOf (opening seq) = [bindingOf seq, "Date"] := by
  unfold namesOf
  rw [rowOf_opening]
  show (if isVariable (bindingOf seq) && true then bindingOf seq :: ["Date"] else ["Date"]) = _
  rw [isVariable_bindingOf]
  rfl

theorem declaredBy_opening (seq : Nat) : declaredBy (opening seq) = [bindingOf seq] := by
  unfold declaredBy
  rw [rowOf_opening]
  show bindingOf seq :: (if bindingOf seq == "let" then "=" :: [] else []) = _
  rw [if_neg fun he => bindingOf_ne_let seq (eq_of_beq he)]

theorem namesOf_check (guard : LoopGuard) (seq line : Nat) :
    namesOf (guard.check seq line) = ["Date", bindingOf seq, "Error"] := by
  unfold namesOf
  rw [rowOf_check]
  show "Date" :: (if isVariable (bindingOf seq) && true then bindingOf seq :: ["Error"]
    else ["Error"]) = _
  rw [isVariable_bindingOf]
  rfl

theorem declaredBy_check (guard : LoopGuard) (seq line : Nat) :
    declaredBy (guard.check seq line) = [] := by
  unfold declaredBy
  rw [rowOf_check]
  show (if bindingOf seq == "let" then ">" :: [] else []) = _
  rw [if_neg fun he => bindingOf_ne_let seq (eq_of_beq he)]

/-- A brace in front of a check brings in no names. -/
theorem rowOf_braced (guard : LoopGuard) (seq line : Nat) :
    rowOf ('\x7b' :: guard.check seq line) = (.mark, "\x7b") :: rowOf (guard.check seq line) := by
  have hbrace (rest : List Char) : Reads ('\x7b' :: rest) [(.mark, "\x7b")] rest :=
    .one (fun _ => ⟨rfl, rfl, rfl⟩) (by decide)
  have h := (hbrace _).append (reads_check guard seq line [])
  rw [List.append_nil] at h
  have hlength := length_check guard seq line
  rw [rowOf_check]
  exact h.rowOf_eq (Nat.succ_le_succ hlength)

theorem namesOf_braced (guard : LoopGuard) (seq line : Nat) :
    namesOf ('\x7b' :: guard.check seq line) = namesOf (guard.check seq line) := by
  unfold namesOf
  rw [rowOf_braced]
  generalize rowOf (guard.check seq line) = row
  rfl

theorem declaredBy_braced (guard : LoopGuard) (seq line : Nat) :
    declaredBy ('\x7b' :: guard.check seq line) = declaredBy (guard.check seq line) := by
  unfold declaredBy
  rw [rowOf_braced]
  generalize rowOf (guard.check seq line) = row
  rfl

/-! ## The names of all loops -/

def Landmark.isLoop : Landmark → Bool
  | .loop .. => true
  | .labelled .. => false

/-- The number of loops of an outline. -/
def loopsIn (outline : List Landmark) : Nat := outline.countP Landmark.isLoop

section

variable (guard : LoopGuard) (source : List Char) (seq : Nat) (span body : Script.Span)
  (isBlock : Bool) (outline : List Landmark)

theorem range_loopsIn : List.range' seq (loopsIn (.loop span body isBlock :: outline)) =
    seq :: List.range' (seq + 1) (loopsIn outline) := by
  unfold loopsIn
  rw [List.countP_cons_of_pos rfl, List.range'_succ]

theorem declaredBy_loop :
    (loopTexts guard source seq (.loop span body isBlock :: outline)).flatMap declaredBy =
      bindingOf seq :: (loopTexts guard source (seq + 1) outline).flatMap declaredBy := by
  have hclose : declaredBy ['\x7d'] = [] := rfl
  cases isBlock <;>
    simp [loopTexts, declaredBy_opening, declaredBy_check, declaredBy_braced, hclose]

theorem namesOf_loop :
    (loopTexts guard source seq (.loop span body isBlock :: outline)).flatMap namesOf =
      [bindingOf seq, "Date", "Date", bindingOf seq, "Error"] ++
        (loopTexts guard source (seq + 1) outline).flatMap namesOf := by
  have hclose : namesOf ['\x7d'] = [] := rfl
  cases isBlock <;>
    simp [loopTexts, namesOf_opening, namesOf_check, namesOf_braced, hclose]

end

/-- What is put in declares one variable for each loop. -/
theorem declaredBy_loopTexts (guard : LoopGuard) (source : List Char) (seq : Nat)
    (outline : List Landmark) :
    (loopTexts guard source seq outline).flatMap declaredBy =
      (List.range' seq (loopsIn outline)).map bindingOf := by
  induction outline generalizing seq with
  | nil => rfl
  | cons landmark outline ih =>
    cases landmark with
    | labelled span bodyStart => exact ih seq
    | loop span body isBlock => rw [declaredBy_loop, range_loopsIn, List.map_cons, ih]

/-- What is put in for a loop uses the variable of no other loop. -/
theorem namesOf_mem_loopTexts (guard : LoopGuard) (source : List Char) (seq : Nat)
    (outline : List Landmark) :
    ∀ text ∈ loopTexts guard source seq outline, ∃ k < loopsIn outline,
      ∀ name ∈ namesOf text, name ∈ [bindingOf (seq + k), "Date", "Error"] := by
  induction outline generalizing seq with
  | nil => exact fun _ ht => nomatch ht
  | cons landmark outline ih =>
    cases landmark with
    | labelled span bodyStart => exact ih seq
    | loop span body isBlock =>
      have hcount : loopsIn (.loop span body isBlock :: outline) = loopsIn outline + 1 :=
        List.countP_cons_of_pos rfl
      intro text ht
      rw [loopTexts, List.mem_append] at ht
      rcases ht with hown | hrest
      · refine ⟨0, by omega, fun name hn => ?_⟩
        have hmem :
            name ∈ (loopTexts guard source seq [.loop span body isBlock]).flatMap namesOf := by
          rw [loopTexts, loopTexts, List.append_nil]
          exact List.mem_flatMap.mpr ⟨text, hown, hn⟩
        rw [namesOf_loop] at hmem
        simp only [loopTexts, List.flatMap_nil, List.append_nil, List.mem_cons, List.not_mem_nil,
          or_false] at hmem ⊢
        grind
      · obtain ⟨k, hk, hnames⟩ := ih (seq + 1) text hrest
        refine ⟨k + 1, by omega, fun name hn => ?_⟩
        rw [show seq + (k + 1) = seq + 1 + k by omega]
        exact hnames name hn

end LivePreview.Guard
