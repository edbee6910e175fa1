/-!
# ASCII case and alphanumerics

Header names and the disable words fold ASCII letters only, and shortnames are
ASCII alphanumerics; every other character is left as it is or refused.
-/

namespace SplitTest.Text

/-- Whether `c` is an ASCII letter or digit. -/
def isAlphanumeric (c : Char) : Bool :=
  ('0' ≤ c && c ≤ '9') || ('a' ≤ c && c ≤ 'z') || ('A' ≤ c && c ≤ 'Z')

/-- The lower-case form of an ASCII letter; any other character is left alone. -/
def foldAscii (c : Char) : Char :=
  if 'A' ≤ c ∧ c ≤ 'Z' then Char.ofNat (c.toNat + 32) else c

/-- `foldAscii` on every character. -/
def foldedAscii (s : String) : String := .ofList (s.toList.map foldAscii)

/-- Whether two texts agree up to the case of ASCII letters. -/
def equalFolded (s t : String) : Bool := foldedAscii s == foldedAscii t

end SplitTest.Text
