import Mathlib.Data.List.Lex
import TupleClient.Text.Utf8

/-!
# The order of texts by their bytes

Texts are compared by code points. Written as bytes they have the same order: the bytes of a smaller
character are smaller at the first place where two characters differ, for the first byte tells how
many bytes a character has, and further bytes only refine it.

## Main results

* `Utf8.encodeChar_append_lt` — a smaller character is written with smaller bytes
* `Utf8.encode_lt_of_lt` — so is a smaller text
-/

namespace TupleClient.Utf8

/-- The bytes of a smaller character are smaller, whatever comes after them. -/
theorem encodeChar_append_lt {c d : Char} (smaller : c < d) (rest others : List ℕ) :
    encodeChar c ++ rest < encodeChar d ++ others := by
  have points : c.toNat < d.toNat := smaller
  simp only [encodeChar]
  -- With equally many bytes, the first ones that differ decide; with fewer, the first one does.
  split_ifs <;> simp only [List.cons_append, List.nil_append, List.cons_lt_cons_iff] <;> omega

theorem nil_lt_encodeChar_append (c : Char) (rest : List ℕ) : [] < encodeChar c ++ rest := by
  simp only [encodeChar]
  split_ifs <;> exact List.nil_lt_cons _ _

/-- The bytes of a smaller text are smaller. -/
theorem encode_lt_of_lt {s t : String} (smaller : s < t) : encode s < encode t := by
  have characters : s.toList < t.toList := String.lt_iff.mp smaller
  simp only [encode]
  -- Induction on both texts, up to the first place where they differ.
  generalize s.toList = cs at characters
  generalize t.toList = ds at characters
  induction cs generalizing ds with
  | nil =>
    cases ds with
    | nil => exact absurd characters (List.lt_irrefl _)
    | cons d ds => exact nil_lt_encodeChar_append d _
  | cons c cs ih =>
    cases ds with
    | nil => exact absurd characters (List.not_lt_nil _)
    | cons d ds =>
      rw [List.flatMap_cons, List.flatMap_cons]
      rcases List.cons_lt_cons_iff.mp characters with first | ⟨rfl, later⟩
      · exact encodeChar_append_lt first _ _
      · exact List.append_left_lt (ih ds later)

end TupleClient.Utf8
