import Dialogue.Text.CharSet

/-!
# White space

The characters with the property `White_Space`, and texts trimmed of them.
-/

namespace Dialogue.Text

def whiteSpace : CharSet :=
  [(0x9, 0xD), (0x20, 0x20), (0x85, 0x85), (0xA0, 0xA0), (0x1680, 0x1680),
    (0x2000, 0x200A), (0x2028, 0x2029), (0x202F, 0x202F), (0x205F, 0x205F),
    (0x3000, 0x3000)]

def trimEnd (drop : Char → Bool) (text : List Char) : List Char :=
  (text.reverse.dropWhile drop).reverse

def trim (text : List Char) : List Char :=
  trimEnd whiteSpace.contains (text.dropWhile whiteSpace.contains)

end Dialogue.Text
