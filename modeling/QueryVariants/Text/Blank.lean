/-!
# Blank characters

Texts are scanned as lists of characters. This module fixes which characters count as blank and how
they are cut off either end of a text; every reader of the library trims in this sense.
-/

namespace QueryVariants.Text

/-- The characters with the Unicode property `White_Space`. -/
def isBlank (c : Char) : Bool :=
  let n := c.toNat
  (9 ≤ n && n ≤ 13) || n == 0x20 || n == 0x85 || n == 0xA0 || n == 0x1680 ||
    (0x2000 ≤ n && n ≤ 0x200A) || n == 0x2028 || n == 0x2029 || n == 0x202F || n == 0x205F ||
    n == 0x3000

def trimStart (s : List Char) : List Char :=
  s.dropWhile isBlank

def trimEnd (s : List Char) : List Char :=
  (s.reverse.dropWhile isBlank).reverse

def trim (s : List Char) : List Char :=
  trimEnd (trimStart s)

theorem length_trimStart_le (s : List Char) : (trimStart s).length ≤ s.length :=
  (List.dropWhile_sublist _).length_le

theorem length_trimEnd_le (s : List Char) : (trimEnd s).length ≤ s.length := by
  simpa [trimEnd] using (List.dropWhile_sublist (l := s.reverse) isBlank).length_le

theorem length_trim_le (s : List Char) : (trim s).length ≤ s.length :=
  Nat.le_trans (length_trimEnd_le _) (length_trimStart_le s)

end QueryVariants.Text
