/-!
# ManagementModel — blank characters

Names, values and settings are trimmed, and tested for being blank, by the Unicode property
White_Space. It holds no-break and ideographic spaces; the zero width space is not in it.
-/

namespace ManagementModel.Text

/-- The code points with the property White_Space. -/
def isBlankChar (c : Char) : Bool :=
  let n := c.toNat
  (9 ≤ n && n ≤ 13) || n == 0x20 || n == 0x85 || n == 0xa0 || n == 0x1680 ||
    (0x2000 ≤ n && n ≤ 0x200a) || n == 0x2028 || n == 0x2029 || n == 0x202f || n == 0x205f ||
    n == 0x3000

/-- What remains without the blanks at both ends. -/
def trimChars (s : List Char) : List Char :=
  ((s.dropWhile isBlankChar).reverse.dropWhile isBlankChar).reverse

/-- A text without the blanks at both ends. -/
def trim (s : String) : String :=
  String.ofList (trimChars s.toList)

/-- A text is blank when no character of it is visible; the empty text is. -/
def isBlank (s : String) : Bool :=
  s.toList.all isBlankChar

end ManagementModel.Text
