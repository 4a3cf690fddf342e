/-! # Colors

A color is red, green and blue, a byte each, and is written `#` and six hexadecimal digits. Reading takes
digits of either case; writing gives upper case. -/

namespace TurtleGraphics

/-- A pen color. -/
structure Color where
  red : UInt8
  green : UInt8
  blue : UInt8
deriving Repr, DecidableEq

namespace Color

/-- The color of a new pen: blue. -/
def initial : Color := ⟨0x00, 0x00, 0xFF⟩

instance : Inhabited Color := ⟨initial⟩

/-- The value of a hexadecimal digit of either case. -/
def digitValue? (c : Char) : Option UInt8 :=
  if '0' ≤ c ∧ c ≤ '9' then some (c.toNat - '0'.toNat).toUInt8
  else if 'A' ≤ c ∧ c ≤ 'F' then some (c.toNat - 'A'.toNat + 10).toUInt8
  else if 'a' ≤ c ∧ c ≤ 'f' then some (c.toNat - 'a'.toNat + 10).toUInt8
  else none

/-- Whether a character is a hexadecimal digit of either case. -/
def isHexDigit (c : Char) : Bool :=
  (digitValue? c).isSome

/-- The two upper-case hexadecimal digits of a byte. -/
def byteDigits (b : UInt8) : List Char :=
  [(b / 16).toNat.digitChar.toUpper, (b % 16).toNat.digitChar.toUpper]

/-- The byte that two hexadecimal digits stand for. -/
def byteOfDigits? (high low : Char) : Option UInt8 := do
  return 16 * (← digitValue? high) + (← digitValue? low)

/-- The color as it is written. -/
def text (c : Color) : String :=
  String.ofList ('#' :: (byteDigits c.red ++ byteDigits c.green ++ byteDigits c.blue))

/-- The color that a literal stands for. -/
def ofText? (literal : String) : Option Color :=
  match literal.toList with
  | ['#', r₁, r₀, g₁, g₀, b₁, b₀] => do
    return ⟨← byteOfDigits? r₁ r₀, ← byteOfDigits? g₁ g₀, ← byteOfDigits? b₁ b₀⟩
  | _ => none

theorem byteOfDigits?_byteDigits (b : UInt8) :
    ∃ high low, byteDigits b = [high, low] ∧ byteOfDigits? high low = some b := by
  have every : ∀ n : Fin 256, byteOfDigits? ((UInt8.ofFin n / 16).toNat.digitChar.toUpper)
      ((UInt8.ofFin n % 16).toNat.digitChar.toUpper) = some (UInt8.ofFin n) := by decide +kernel
  exact ⟨_, _, rfl, every b.toFin⟩

/-- Reading gives back what was written. -/
theorem ofText?_text (c : Color) : ofText? c.text = some c := by
  obtain ⟨r₁, r₀, red, readsRed⟩ := byteOfDigits?_byteDigits c.red
  obtain ⟨g₁, g₀, green, readsGreen⟩ := byteOfDigits?_byteDigits c.green
  obtain ⟨b₁, b₀, blue, readsBlue⟩ := byteOfDigits?_byteDigits c.blue
  simp [ofText?, text, red, green, blue, readsRed, readsGreen, readsBlue]

/-- What is said of a literal that is no color. -/
def invalidMessage (literal : String) : String :=
  "invalid color '" ++ literal ++ "', expected '#' followed by 6 hex digits"

end Color

end TurtleGraphics
