/-!
Classes of characters, given by ranges of code points.
-/

namespace Inertial.Text

/-- The characters whose code points lie in one of the ranges, bounds included. -/
structure CharClass where
  ranges : List (Nat × Nat)

def CharClass.contains (charClass : CharClass) (character : Char) : Bool :=
  charClass.ranges.any fun (first, last) => first ≤ character.toNat && character.toNat ≤ last

end Inertial.Text
