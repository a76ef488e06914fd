/-!
# Blank characters

The characters with the Unicode property `White_Space`, and the text that is left when they are
taken off both ends.

* `Text.isBlank`: membership in the property.
* `Text.trim`: both ends bare of blank characters, the middle untouched.
-/

namespace Postroom.Text

/-- The ranges, both ends included, of the Unicode property `White_Space`. -/
def blankRanges : List (Nat × Nat) :=
  [(0x9, 0xD), (0x20, 0x20), (0x85, 0x85), (0xA0, 0xA0), (0x1680, 0x1680), (0x2000, 0x200A),
   (0x2028, 0x2029), (0x202F, 0x202F), (0x205F, 0x205F), (0x3000, 0x3000)]

/-- A character with the Unicode property `White_Space`. -/
def isBlank (c : Char) : Bool :=
  blankRanges.any fun r => r.1 ≤ c.toNat && c.toNat ≤ r.2

/-- The characters without the blank ones at either end. -/
def trimChars (cs : List Char) : List Char :=
  ((cs.dropWhile isBlank).reverse.dropWhile isBlank).reverse

/-- The text without the blank characters at either end. -/
def trim (s : String) : String :=
  String.ofList (trimChars s.toList)

/-- A text of blank characters only. -/
def isAllBlank (s : String) : Bool :=
  s.toList.all isBlank

end Postroom.Text
