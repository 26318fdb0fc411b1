/-!
The `application/x-www-form-urlencoded` form of a text: letters, digits and four marks stay, a space
becomes a plus sign, and every other octet of the UTF-8 form is written as a percent sign and two
upper-case hexadecimal digits.
-/

namespace InstallStatus.Text

/-- The sixteen digits, in upper case. -/
def hexDigit (n : Nat) : Char :=
  if n < 10 then Char.ofNat (48 + n) else Char.ofNat (55 + n)

/-- Octets that a form writes as they are. -/
def isFormPlain (octet : UInt8) : Bool :=
  let n := octet.toNat
  (48 ≤ n && n ≤ 57) || (65 ≤ n && n ≤ 90) || (97 ≤ n && n ≤ 122) ||
    n == 0x2A || n == 0x2D || n == 0x2E || n == 0x5F

def formOctet (octet : UInt8) : List Char :=
  if isFormPlain octet then [Char.ofNat octet.toNat]
  else if octet.toNat = 0x20 then ['+']
  else ['%', hexDigit (octet.toNat / 16), hexDigit (octet.toNat % 16)]

def formEncode (s : String) : String :=
  String.ofList (s.toUTF8.toList.flatMap formOctet)

end InstallStatus.Text
