/-
The grammar of integer literals and what each literal denotes, without a reader. A hexadecimal
literal starts with `0x` or `0X`, any other unsigned one is decimal, and one plus sign may stand in
front of the digits of either. A signed literal is an unsigned one after a minus sign, a hexadecimal
bit pattern, or a decimal number. An operand is a signed literal after a minus sign and an unsigned
one otherwise.
-/
import ValueLattice.Numeral
import ValueLattice.Text.Blank

namespace ValueLattice.Numeral

/-- Whether a character stands for a digit below the radix; letters may be of either case. -/
def IsDigit (radix : Nat) (c : Char) (d : Nat) : Prop :=
  d < radix ∧ (c = Nat.digitChar d ∨ c = (Nat.digitChar d).toUpper)

/-- A run of at least one digit and its value. -/
inductive Digits (radix : Nat) : List Char → Nat → Prop
  | first {c : Char} {d : Nat} : IsDigit radix c d → Digits radix [c] d
  | next {cs : List Char} {c : Char} {n d : Nat} :
      Digits radix cs n → IsDigit radix c d → Digits radix (cs ++ [c]) (n * radix + d)

/-- Digits with at most one plus sign in front. -/
inductive Number (radix : Nat) : List Char → Nat → Prop
  | bare {cs : List Char} {n : Nat} : Digits radix cs n → Number radix cs n
  | plus {cs : List Char} {n : Nat} : Digits radix cs n → Number radix ('+' :: cs) n

inductive HexLiteral : List Char → Nat → Prop
  | lower {cs : List Char} {n : Nat} : Number 16 cs n → HexLiteral ('0' :: 'x' :: cs) n
  | upper {cs : List Char} {n : Nat} : Number 16 cs n → HexLiteral ('0' :: 'X' :: cs) n

inductive UnsignedLiteral : List Char → Nat → Prop
  | hex {cs : List Char} {n : Nat} : HexLiteral cs n → UnsignedLiteral cs n
  | decimal {cs : List Char} {n : Nat} : Number 10 cs n → UnsignedLiteral cs n

/-- A literal of a signed word. Blanks may stand after the minus sign. -/
inductive SignedLiteral : List Char → Int64 → Prop
  | minus {cs body : List Char} {m : Nat} {v : Int64} :
      Text.Trimmed cs body → UnsignedLiteral body m → m ≤ signedLimit → v.toInt = -m →
      SignedLiteral ('-' :: cs) v
  | hexLow {cs : List Char} {m : Nat} {v : Int64} :
      HexLiteral cs m → m < signedLimit → v.toInt = m → SignedLiteral cs v
  | hexHigh {cs : List Char} {m : Nat} {v : Int64} :
      HexLiteral cs m → signedLimit ≤ m → m < unsignedLimit → v.toInt = m - unsignedLimit →
      SignedLiteral cs v
  | decimal {cs : List Char} {m : Nat} {v : Int64} :
      Number 10 cs m → m < signedLimit → v.toInt = m → SignedLiteral cs v

inductive OperandLiteral : List Char → Int → Prop
  | minus {cs : List Char} {v : Int64} :
      SignedLiteral ('-' :: cs) v → OperandLiteral ('-' :: cs) v.toInt
  | unsigned {cs : List Char} {m : Nat} :
      UnsignedLiteral cs m → m < unsignedLimit → OperandLiteral cs m

end ValueLattice.Numeral
