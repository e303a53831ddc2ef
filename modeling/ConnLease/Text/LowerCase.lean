import ConnLease.Text.CaseTable
import ConnLease.Text.CaseClasses

/-!
# Lower case

Text in lower case by the full Unicode mapping. Two letters need more than a table of partners:
the capital I with a dot becomes two characters, and a capital sigma becomes the final form when it
ends a word.
-/

namespace ConnLease.Text

/-- The lower-case form of one character, out of context. -/
def lowerChar (c : Char) : List Char :=
  if c = '\u0130' then ['i', '\u0307']
  else
    match caseRuns.find? (·.covers c.toNat) with
    | some r => [Char.ofNat (c.toNat + r.shift).toNat]
    | none => [c]

/-- Whether the first character that is not case-ignorable is cased. -/
def meetsCased (s : List Char) : Bool :=
  match s.dropWhile isCaseIgnorable with
  | c :: _ => isCased c
  | [] => false

/-- A sigma ends a word when a cased letter stands before it and none after it; `before` holds
what precedes it, nearest first. -/
def endsWord (before after : List Char) : Bool := meetsCased before && !meetsCased after

/-- Lower case of a text whose earlier part, nearest first, is `before`. -/
def lowerFrom (before : List Char) : List Char → List Char
  | [] => []
  | c :: rest =>
    (if c = 'Σ' then [if endsWord before rest then 'ς' else 'σ'] else lowerChar c)
      ++ lowerFrom (c :: before) rest

def lowerCase (s : List Char) : List Char := lowerFrom [] s

end ConnLease.Text
