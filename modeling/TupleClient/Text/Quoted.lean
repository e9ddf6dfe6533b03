import TupleClient.Text.Printable

/-!
# Quoted text

Text quoted inside a message stands between double quotes. A quote and a backslash are preceded by
a backslash, the four commonest controls have an escape of one letter or digit, and every other
character that is not printable is written as its code point in hexadecimal between braces.

## Main definitions

* `Text.quoted` — a text with its quotes and escapes
* `Text.quotedList` — a list of texts between brackets, each of them quoted
-/

namespace TupleClient.Text

/-- The characters that write one character inside quotes. -/
def escaped (c : Char) : List Char :=
  if c = '"' || c = '\\' then ['\\', c]
  else if c = '\t' then ['\\', 't']
  else if c = '\n' then ['\\', 'n']
  else if c = '\r' then ['\\', 'r']
  else if c.toNat = 0 then ['\\', '0']
  else if isPrintable c then [c]
  else ['\\', 'u', '\x7b'] ++ Nat.toDigits 16 c.toNat ++ ['\x7d']

/-- A text between double quotes, with its escapes. -/
def quoted (s : String) : String :=
  String.ofList ('"' :: s.toList.flatMap escaped ++ ['"'])

/-- Quoted texts between brackets, separated by a comma and a space. -/
def quotedList (texts : List String) : String :=
  "[" ++ ", ".intercalate (texts.map quoted) ++ "]"

end TupleClient.Text
