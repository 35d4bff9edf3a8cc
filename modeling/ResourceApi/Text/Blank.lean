/-
This file says which characters are white space, and removes them at the ends of a text.
-/

namespace ResourceApi.Text

/-- A blank is a character with the Unicode property White_Space. -/
def isBlank (character : Char) : Bool :=
  let code := character.toNat
  (0x09 ≤ code && code ≤ 0x0D) || code == 0x20 || code == 0x85 || code == 0xA0 ||
    code == 0x1680 || (0x2000 ≤ code && code ≤ 0x200A) || code == 0x2028 || code == 0x2029 ||
    code == 0x202F || code == 0x205F || code == 0x3000

def dropEnd (removed : Char → Bool) (characters : List Char) : List Char :=
  (characters.reverse.dropWhile removed).reverse

/-- Trimming removes the blanks at both ends and nothing inside. -/
def trim (characters : List Char) : List Char :=
  dropEnd isBlank (characters.dropWhile isBlank)

end ResourceApi.Text
