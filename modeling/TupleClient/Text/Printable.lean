import TupleClient.Text.Assigned
import TupleClient.Text.Mark

/-!
# Printable characters

A character is written as itself only if it can stand alone on paper: it is assigned, it is not a
control, a format character, a private-use character or a separator other than the space, it does
not extend the character before it, and it does not vanish where it is not supported.

## Main definitions

* `Text.isPrintable` — the character may be written as itself
-/

namespace TupleClient.Text

/-- The controls, the format characters, the characters for private use, and the separators other
than the space. -/
def controls : CharSet := CharSet.ofTable
  ["0-1F 7F-A0 AD 600-605 61C 6DD 70F 890-891 8E2 1680 180E 2000-200F 2028-202F 205F-2064",
    "2066-206F 3000 E000-F8FF FEFF FFF9-FFFB 110BD 110CD 13430-1343F 1BCA0-1BCA3 1D173-1D17A",
    "E0001 E0020-E007F F0000-FFFFD 100000-10FFFD"]

/-- The letters that stand for nothing. -/
def fillers : CharSet := CharSet.ofTable
  ["115F-1160 3164 FFA0"]

/-- Whether a character may be written as itself. -/
def isPrintable (c : Char) : Bool :=
  if c.toNat < 0x7F then 0x20 ≤ c.toNat
  else !(controls.contains c || fillers.contains c || isExtending c || unassigned.contains c)

end TupleClient.Text
