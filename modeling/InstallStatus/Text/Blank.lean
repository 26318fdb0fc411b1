/-!
White space, and text with its white space cut off at both ends. The class is the Unicode
property of that name, so it holds the no-break and the ideographic space as well.
-/

namespace InstallStatus.Text

/-- The characters with the Unicode property `White_Space`. -/
def isBlank (c : Char) : Bool :=
  let n := c.toNat
  (9 ≤ n && n ≤ 13) || n == 0x20 || n == 0x85 || n == 0xA0 || n == 0x1680 ||
    (0x2000 ≤ n && n ≤ 0x200A) || n == 0x2028 || n == 0x2029 || n == 0x202F || n == 0x205F ||
    n == 0x3000

def trimStart (cs : List Char) : List Char :=
  cs.dropWhile isBlank

def trimEnd (cs : List Char) : List Char :=
  (cs.reverse.dropWhile isBlank).reverse

/-- The text without the white space at its two ends. -/
def trim (cs : List Char) : List Char :=
  trimEnd (trimStart cs)

/-- Text that holds nothing but white space; the empty text is blank. -/
def Blank (s : String) : Prop :=
  s.toList.all isBlank = true

instance (s : String) : Decidable (Blank s) :=
  inferInstanceAs (Decidable (_ = true))

end InstallStatus.Text
