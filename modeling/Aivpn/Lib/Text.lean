import Mathlib.Tactic.Common

/-!
# Text as lists of characters

Trimming and prefixes, and the characters that Rust counts as white space.
-/

set_option autoImplicit false

namespace Aivpn.Lib

/-- A string, character by character. -/
abbrev Text := List Char

/-- `char::is_whitespace`: the characters of the Unicode property `White_Space`. -/
def isWhitespace (c : Char) : Bool :=
  let n := c.toNat
  9 ≤ n && n ≤ 13 || n == 0x20 || n == 0x85 || n == 0xa0 || n == 0x1680 ||
    0x2000 ≤ n && n ≤ 0x200a || n == 0x2028 || n == 0x2029 || n == 0x202f || n == 0x205f ||
    n == 0x3000

/-- The list without the elements at both ends that satisfy `p`. -/
def trimBy {α : Type} (p : α → Bool) (l : List α) : List α :=
  ((l.dropWhile p).reverse.dropWhile p).reverse

/-- `str::strip_prefix`. -/
def stripPrefix (pre s : Text) : Option Text :=
  if pre.isPrefixOf s then some (s.drop pre.length) else none

end Aivpn.Lib
