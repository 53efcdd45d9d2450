import QueryVariants.Text.AlphanumericTable
import QueryVariants.Text.CodeRanges

/-!
# Letters and numbers

The letters and numbers of every script, ASCII among them.
-/

namespace QueryVariants.Text

def isAlphanumeric (c : Char) : Bool :=
  c.isAlphanum || inRanges alphanumericRanges c

end QueryVariants.Text
