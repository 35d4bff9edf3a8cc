/-
This file looks characters up in lists of ranges.
-/

namespace ResourceApi.Text

/-- The ranges rise, so only those that begin before the character can hold it. -/
def isWithin (ranges : List (Nat × Nat)) (character : Char) : Bool :=
  (ranges.takeWhile fun (first, _) => first ≤ character.toNat).any fun (_, last) =>
    character.toNat ≤ last

end ResourceApi.Text
