import Mathlib.Data.List.DropRight

/-!
# Text functions of the Rust standard library

`str::trim`, `str::len` and `str::to_uppercase` as the request validation uses
them. Lean's own `String.trim` strips ASCII blanks only, Rust's strips the
Unicode `White_Space` characters.
-/

namespace Koupang.Text

/-- `char::is_whitespace`: the Unicode property `White_Space`. -/
def isWhitespace (c : Char) : Bool :=
  let n := c.toNat
  (0x09 ≤ n && n ≤ 0x0D) || n = 0x20 || n = 0x85 || n = 0xA0 || n = 0x1680 ||
    (0x2000 ≤ n && n ≤ 0x200A) || n = 0x2028 || n = 0x2029 || n = 0x202F ||
    n = 0x205F || n = 0x3000

/-- `str::trim` -/
def trim (s : String) : String :=
  String.ofList ((s.toList.dropWhile isWhitespace).rdropWhile isWhitespace)

/-- `str::len`: the number of bytes, not of characters. -/
def len (s : String) : Nat := s.utf8ByteSize

/-- `char::to_uppercase`, as far as its result is ASCII. The uppercase form of any
    other character is not ASCII, and neither is the character itself. -/
def charToUppercase (c : Char) : List Char :=
  match c.toNat with
  | 0xDF => ['S', 'S']
  | 0x131 => ['I']
  | 0x17F => ['S']
  | 0xFB00 => ['F', 'F']
  | 0xFB01 => ['F', 'I']
  | 0xFB02 => ['F', 'L']
  | 0xFB03 => ['F', 'F', 'I']
  | 0xFB04 => ['F', 'F', 'L']
  | 0xFB05 => ['S', 'T']
  | 0xFB06 => ['S', 'T']
  | _ => [c.toUpper]

/-- `str::to_uppercase`, up to characters whose uppercase form is not ASCII. -/
def toUppercase (s : String) : String :=
  String.ofList (s.toList.flatMap charToUppercase)

/-- `char::is_ascii_uppercase` -/
def isAsciiUppercase (c : Char) : Bool := 'A' ≤ c && c ≤ 'Z'

end Koupang.Text
