import TupleClient.Text.Direction
import TupleClient.Text.Joining
import TupleClient.Text.Utf8
import TupleClient.Url.Folding
import TupleClient.Url.Written

/-!
# Domains

A domain consists of labels between dots. Before it is judged it is folded. A label that then starts
with `xn--` is the written form of other letters and has to stand for some. The letters of a label
have to make sense together: none is a mark at the beginning, characters that join letters or keep
them apart are where they make a difference, and where some letters of the domain run to the left,
the directions in each label are in order.

## Main definitions

* `Url.labelLetters?` — the letters of a label
* `Url.isLabel` — letters that make sense together
* `Url.isOrdered` — the directions of letters are in order
* `Url.foldDomain?` — a domain folded, if it is one
-/

namespace TupleClient.Url

open Text

/-- Whether no domain has a character below 128. -/
def isForbidden (c : Char) : Bool :=
  c.toNat ≤ 0x20 || c.toNat = 0x7F || "#/:<>?@[\\]^|%".toList.contains c

/-! ### Letters -/

/-- What shows that a label is a written form. -/
def writtenMark : List Char := "xn--".toList

/-- The greatest number of characters of a written form. -/
def longestWritten : Nat := 2000

/-- The greatest number of letters that have a written form. -/
def longestLetters : Nat := 1000

/-- The letters of a folded label. A written form stands for letters that are folded, that are not
all ASCII and that are not a written form again. -/
def labelLetters? (label : List Char) : Option (List Char) :=
  if writtenMark.isPrefixOf label then
    let digits := label.drop writtenMark.length
    if longestWritten < digits.length || !label.all (·.toNat < 0x80) then none
    else
      (writtenLetters? digits).filter fun letters =>
        isFolded letters && !(letters.all (·.toNat < 0x80)) && !writtenMark.isPrefixOf letters
  else some label

/-! ### Joining -/

/-- The place of the signs that take away the vowel of a letter. -/
def vowelKiller : Nat := 9

/-- Whether every character that joins letters or keeps them apart makes a difference, after some
letters, last one first. It may follow a sign that takes away a vowel; one that keeps apart may also
stand between letters that would be joined. -/
def areJoinersMeant (before : List Char) : List Char → Bool
  | [] => true
  | c :: rest =>
    let meant :=
      if c.toNat = 0x200C || c.toNat = 0x200D then
        match before.head? with
        | some last => place last = vowelKiller || (c.toNat = 0x200C && wouldJoin before rest)
        | none => false
      else true
    meant && areJoinersMeant (c :: before) rest

/-- Whether letters make sense together as a label. -/
def isLabel (letters : List Char) : Bool :=
  !(letters.head?.any isMark) && areJoinersMeant [] letters &&
    (letters.all (·.toNat < 0x80) || letters.length ≤ longestLetters)

/-! ### Directions -/

/-- Whether a character runs to the left or is part of what does. -/
def isLeftward (c : Char) : Bool :=
  direction c = .leftward || direction c = .arabicDigit

/-- Whether the directions of a label that runs to the right are in order: nothing in it runs to the
left, and it ends in a letter or digit. -/
def isOrderedRightward (middle : List Direction) (last : Direction) : Bool :=
  (last = .rightward || last = .europeanDigit) &&
    middle.all fun d => d ≠ .leftward && d ≠ .arabicDigit

/-- Whether the directions of a label that runs to the left are in order: nothing in it runs to the
right, its digits are of one kind, and it ends in a letter or digit. -/
def isOrderedLeftward (middle : List Direction) (last : Direction) : Bool :=
  let all := middle ++ [last]
  (last = .leftward || last = .europeanDigit || last = .arabicDigit) &&
    middle.all (· ≠ .rightward) && !(all.contains .europeanDigit && all.contains .arabicDigit)

/-- Whether the directions of letters are in order. A label starts with a letter, which tells how it
runs. Marks at its end do not count. -/
def isOrdered (letters : List Char) : Bool :=
  match letters.map direction with
  | [] => true
  | first :: rest =>
    let rest := rest.reverse.dropWhile (· = .mark)
    (first = .rightward || first = .leftward) &&
      match rest with
      | [] => true
      | last :: middle =>
        if first = .rightward then isOrderedRightward middle last
        else isOrderedLeftward middle last

/-! ### Whole domains -/

/-- A domain folded, if its characters may be in a domain and every label makes sense. -/
def foldDomain? (domain : List Char) : Option (List Char) :=
  (fold? domain).bind fun folded =>
    if folded.any isForbidden then none
    else
      ((splitAt (· = '.') folded).mapM labelLetters?).bind fun labels =>
        let isMixed := labels.any fun letters => letters.any isLeftward
        if labels.all isLabel && (!isMixed || labels.all isOrdered) then some folded else none

end TupleClient.Url
