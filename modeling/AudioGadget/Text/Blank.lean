/-!
# Blank — what counts as white space

White space is the Unicode property of that name: the ASCII blanks, the
next-line and no-break characters, and the spaces and separators of the
general punctuation blocks. `trim` takes it off both ends of a text.
-/

namespace AudioGadget.Text

/-- Whether a character has the Unicode property White_Space. -/
def isBlank (c : Char) : Bool :=
  let n := c.toNat
  (0x09 ≤ n && n ≤ 0x0D) || n = 0x20 || n = 0x85 || n = 0xA0 || n = 0x1680 ||
    (0x2000 ≤ n && n ≤ 0x200A) || n = 0x2028 || n = 0x2029 || n = 0x202F || n = 0x205F ||
    n = 0x3000

/-- A text without the white space at its ends. -/
def trim (text : List Char) : List Char :=
  (((text.dropWhile isBlank).reverse).dropWhile isBlank).reverse

end AudioGadget.Text
