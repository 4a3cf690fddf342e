/-! # Escaped characters

How a message shows one character so that it can be told whatever it is: printable ASCII stands for
itself, with a backslash before quotes and the backslash; tab, return and newline have short names; every
other character is given by its code point in hexadecimal. -/

namespace TurtleGraphics.Text

/-- The visible form of a character. -/
def escape (c : Char) : String :=
  if c = '\t' then "\\t"
  else if c = '\r' then "\\r"
  else if c = '\n' then "\\n"
  else if c = '\'' ∨ c = '"' ∨ c = '\\' then String.ofList ['\\', c]
  else if ' ' ≤ c ∧ c ≤ '~' then c.toString
  else "\\u\x7b" ++ String.ofList (Nat.toDigits 16 c.toNat) ++ "\x7d"

end TurtleGraphics.Text
