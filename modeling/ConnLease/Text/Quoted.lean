import ConnLease.Text.Unprintable

/-!
# Quoted text

Text between double quotes, as diagnostic output shows it. The quote and the backslash are written
behind a backslash, four controls have short forms, and every other character that would not be
visible stands as its hexadecimal code point in braces.
-/

namespace ConnLease.Text

/-- The code point of a character in braces, in lower-case hexadecimal digits. -/
def codePoint (c : Char) : List Char :=
  "\\u\x7b".toList ++ Nat.toDigits 16 c.toNat ++ ['\x7d']

/-- How one character is written between the quotes. -/
def quotedChar (c : Char) : List Char :=
  if c = '\x00' then ['\\', '0']
  else if c = '\t' then ['\\', 't']
  else if c = '\r' then ['\\', 'r']
  else if c = '\n' then ['\\', 'n']
  else if c = '\\' then ['\\', '\\']
  else if c = '\"' then ['\\', '\"']
  else if isUnprintable c then codePoint c
  else [c]

def quoted (s : String) : String :=
  String.ofList ('\"' :: s.toList.flatMap quotedChar ++ ['\"'])

/-- Quoted text, or the word for its absence. -/
def quotedOption : Option String → String
  | some s => "Some(" ++ quoted s ++ ")"
  | none => "None"

end ConnLease.Text
