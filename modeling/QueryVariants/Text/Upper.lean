import QueryVariants.Text.UpperTable

/-!
# Upper case

Names are compared in upper case. The map is the full one of Unicode: it may turn one character into
several, so it is a map from texts to texts.
-/

namespace QueryVariants.Text

/-- The capital form of one character. -/
def capital (c : Char) : List Char :=
  let n := c.toNat
  if n < 0x80 then [c.toUpper]
  else match capitalExpansions.lookup n with
    | some codes => codes.map Char.ofNat
    | none =>
      match capitalShifts.find? fun (first, last, step, _) =>
          first ≤ n && n ≤ last && (n - first) % step == 0 with
      | some (_, _, _, shift) => [Char.ofNat ((n : Int) + shift).toNat]
      | none => [c]

def upper (s : List Char) : List Char :=
  s.flatMap capital

/-- The same map on strings. -/
def upperString (s : String) : String :=
  String.ofList (upper s.toList)

/-- Lower case for ASCII letters only. -/
def asciiLower (s : List Char) : List Char :=
  s.map Char.toLower

end QueryVariants.Text
