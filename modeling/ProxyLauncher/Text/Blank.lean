import ProxyLauncher.Text.Ranges

/-!
# White space

The characters with the white-space property, as they may stand around a
number. The separators U+001C to U+001F do not have the property, and neither
does the zero-width space U+200B.
-/

namespace ProxyLauncher.Text

/-- The code points of the white-space property. -/
def blankRanges : Ranges :=
  [(0x09, 0x0D), (0x20, 0x20), (0x85, 0x85), (0xA0, 0xA0), (0x1680, 0x1680), (0x2000, 0x200A),
   (0x2028, 0x2029), (0x202F, 0x202F), (0x205F, 0x205F), (0x3000, 0x3000)]

/-- A character is blank when it has the white-space property. -/
def isBlank (character : Char) : Bool :=
  blankRanges.contains character.toNat

/-- The text without the blanks before and after it. -/
def trimBlanks (text : List Char) : List Char :=
  ((text.dropWhile isBlank).reverse.dropWhile isBlank).reverse

theorem blankRanges_ascending : blankRanges.ascending = true := by decide

theorem isBlank_iff {character : Char} :
    isBlank character = true ↔
      ∃ range ∈ blankRanges, range.1 ≤ character.toNat ∧ character.toNat ≤ range.2 :=
  Ranges.contains_iff blankRanges_ascending character.toNat

end ProxyLauncher.Text
