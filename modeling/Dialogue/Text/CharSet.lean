/-!
# Sets of characters

A set of characters is a list of ranges of code points, ends included.
-/

namespace Dialogue.Text

abbrev CharSet := List (Nat × Nat)

def CharSet.contains (set : CharSet) (c : Char) : Bool :=
  set.any fun (first, last) => first ≤ c.toNat && c.toNat ≤ last

end Dialogue.Text
