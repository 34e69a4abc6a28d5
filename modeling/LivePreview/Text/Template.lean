/-!
# Filling a template

Every occurrence of a key in a template is replaced by its value, from left to right; what has
been put in is never searched. `fill` looks for the key whose first occurrence comes earliest and
goes on behind it, and of two keys at one place the first listed wins.
-/

namespace LivePreview.Text

/-- The text before the first occurrence of `key`, and the text behind it. -/
def splitAtFirst (key : List Char) : List Char → Option (List Char × List Char)
  | [] => if key.isEmpty then some ([], []) else none
  | c :: cs =>
    if key.isPrefixOf (c :: cs) then some ([], (c :: cs).drop key.length)
    else (splitAtFirst key cs).map fun (before, behind) => (c :: before, behind)

/-- What is known of the earliest occurrence of a key, and one more variable looked for: the text
before it, the key's value, the text behind it. -/
def earlier (cs : List Char) (best : Option (List Char × List Char × List Char))
    (kv : List Char × List Char) : Option (List Char × List Char × List Char) :=
  match splitAtFirst kv.1 cs, best with
  | none, _ => best
  | some (before, behind), none => some (before, kv.2, behind)
  | some (before, behind), some (least, value, tail) =>
    if before.length < least.length then some (before, kv.2, behind) else some (least, value, tail)

/-- The earliest occurrence of any key: the text before it, the key's value, the text behind it. -/
def earliest (vars : List (List Char × List Char)) (cs : List Char) :
    Option (List Char × List Char × List Char) := vars.foldl (earlier cs) none

/-- The filled template; `fuel` bounds the number of replacements, of which there are no more than
characters when no key is empty. -/
def fillAux (vars : List (List Char × List Char)) : Nat → List Char → List Char
  | 0, cs => cs
  | fuel + 1, cs =>
    match earliest vars cs with
    | none => cs
    | some (before, value, behind) => before ++ value ++ fillAux vars fuel behind

/-- The template with each key replaced by its value. -/
def fillChars (template : List Char) (vars : List (List Char × List Char)) : List Char :=
  fillAux vars (template.length + 1) template

/-- The template with each key replaced by its value. -/
def fill (template : String) (vars : List (String × String)) : String :=
  String.ofList (fillChars template.toList (vars.map fun (k, v) => (k.toList, v.toList)))

end LivePreview.Text
