/-
The limits of words, and how integers are written. Hexadecimal text carries `0x` and lower-case
digits without leading zeros; a negative number is a minus sign before the text of its magnitude.
-/

namespace ValueLattice

/-- Unsigned words are the numbers below `2 ^ 64`. -/
def unsignedLimit : Nat := 0x10000000000000000

/-- Signed words are the numbers below `2 ^ 63` and not below `-2 ^ 63`. -/
def signedLimit : Nat := 0x8000000000000000

end ValueLattice

namespace ValueLattice.Numeral

/-- The lower-case hexadecimal digits of `n`, without a mark. -/
def hexDigits (n : Nat) : String :=
  String.ofList (Nat.toDigits 16 n)

/-- Marked hexadecimal text, such as `0x1f`. -/
def hex (n : Nat) : String :=
  "0x" ++ hexDigits n

/-- Marked hexadecimal text with zeros in front up to sixteen digits. -/
def hexWide (n : Nat) : String :=
  let digits := Nat.toDigits 16 n
  "0x" ++ String.ofList (List.replicate (16 - digits.length) '0' ++ digits)

/-- Hexadecimal text with a minus sign in front of a negative number, such as `-0x5`. -/
def signedHex (n : Int) : String :=
  if n < 0 then "-" ++ hex n.natAbs else hex n.natAbs

/-- Decimal text of a natural number. -/
def decimalNat (n : Nat) : String :=
  String.ofList (Nat.toDigits 10 n)

/-- Decimal text with a minus sign in front of a negative number. -/
def decimal (n : Int) : String :=
  if n < 0 then "-" ++ decimalNat n.natAbs else decimalNat n.natAbs

/-- The two's-complement bit pattern of a word in marked hexadecimal. -/
def bitsHex (v : Int64) : String :=
  hex v.toUInt64.toNat

end ValueLattice.Numeral
