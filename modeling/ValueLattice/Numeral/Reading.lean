/-
Integer literals. A literal is decimal, or hexadecimal after `0x` or `0X`; one plus sign may stand
in front of the digits. `readUnsigned` reads 64-bit words, `readInteger` signed words (hexadecimal
literals are bit patterns there, and a minus sign may come first), and `readOperand` reads signed
after a minus sign and unsigned otherwise. Digits are examined from the left and the first fault
is reported.
-/
import ValueLattice.Numeral
import ValueLattice.Text.Blank

namespace ValueLattice.Numeral

/-! ## Faults -/

/-- Why a run of digits denotes no number of the expected width. -/
inductive DigitFault
  | empty
  | invalidDigit
  | tooLarge
  deriving DecidableEq, Repr

def DigitFault.message : DigitFault → String
  | .empty => "cannot parse integer from empty string"
  | .invalidDigit => "invalid digit found in string"
  | .tooLarge => "number too large to fit in target type"

/-- Why a text is no literal; each case carries the text as it was read. -/
inductive LiteralError
  | hexadecimal (text : String) (fault : DigitFault)
  | decimal (text : String) (fault : DigitFault)
  | outOfRange (text : String)
  | range (text : String)
  deriving DecidableEq, Repr

def LiteralError.message : LiteralError → String
  | .hexadecimal text fault => "Invalid hexadecimal integer '" ++ text ++ "': " ++ fault.message
  | .decimal text fault => "Invalid integer '" ++ text ++ "': " ++ fault.message
  | .outOfRange text => "Integer '" ++ text ++ "' is out of range"
  | .range text => "Invalid range '" ++ text ++ "', expected start:end[:step]"

/-! ## Digits -/

/-- The value of a digit below `radix`; letters of either case count from ten. -/
def digitValue? (radix : Nat) (c : Char) : Option Nat :=
  let n := c.toNat
  let value :=
    if 48 ≤ n ∧ n ≤ 57 then some (n - 48)
    else if 97 ≤ n ∧ n ≤ 122 then some (n - 87)
    else if 65 ≤ n ∧ n ≤ 90 then some (n - 55)
    else none
  value.bind fun v => if v < radix then some v else none

/-- Continues the number `acc` with the digits `cs`; every number on the way must be below `limit`. -/
def readDigits (radix limit : Nat) : Nat → List Char → Except DigitFault Nat
  | acc, [] => .ok acc
  | acc, c :: cs =>
    match digitValue? radix c with
    | none => .error .invalidDigit
    | some d =>
      if acc * radix + d < limit then readDigits radix limit (acc * radix + d) cs
      else .error .tooLarge

/-- Digits with at most one plus sign in front. -/
def readNumber (radix limit : Nat) (cs : List Char) : Except DigitFault Nat :=
  match cs with
  | [] => .error .empty
  | ['+'] => .error .invalidDigit
  | '+' :: digits => readDigits radix limit 0 digits
  | digits => readDigits radix limit 0 digits

/-! ## Literals -/

/-- The text after a hexadecimal mark. -/
def hexMarked? : List Char → Option (List Char)
  | '0' :: 'x' :: rest => some rest
  | '0' :: 'X' :: rest => some rest
  | _ => none

/-- A number below `2 ^ 64`. -/
def readUnsignedChars (text : List Char) : Except LiteralError UInt64 :=
  let cs := Text.trim text
  match hexMarked? cs with
  | some digits =>
    match readNumber 16 unsignedLimit digits with
    | .ok n => .ok (UInt64.ofNat n)
    | .error fault => .error (.hexadecimal (String.ofList cs) fault)
  | none =>
    match readNumber 10 unsignedLimit cs with
    | .ok n => .ok (UInt64.ofNat n)
    | .error fault => .error (.decimal (String.ofList cs) fault)

/-- A signed word: after a minus sign an unsigned literal up to `2 ^ 63`, a hexadecimal bit
pattern, or a decimal number below `2 ^ 63`. -/
def readIntegerChars (text : List Char) : Except LiteralError Int64 :=
  let cs := Text.trim text
  match cs with
  | '-' :: rest =>
    match readUnsignedChars rest with
    | .error e => .error e
    | .ok magnitude =>
      if magnitude.toNat ≤ signedLimit then .ok (-magnitude.toInt64)
      else .error (.outOfRange (String.ofList cs))
  | _ =>
    match hexMarked? cs with
    | some _ => (readUnsignedChars cs).map UInt64.toInt64
    | none =>
      match readNumber 10 signedLimit cs with
      | .ok n => .ok (Int64.ofNat n)
      | .error fault => .error (.decimal (String.ofList cs) fault)

/-- A signed word after a minus sign, an unsigned word otherwise. -/
def readOperandChars (text : List Char) : Except LiteralError Int :=
  let cs := Text.trim text
  match cs with
  | '-' :: _ => (readIntegerChars cs).map Int64.toInt
  | _ => (readUnsignedChars cs).map fun v => (v.toNat : Int)

def readUnsigned (text : String) : Except LiteralError UInt64 :=
  readUnsignedChars text.toList

def readInteger (text : String) : Except LiteralError Int64 :=
  readIntegerChars text.toList

def readOperand (text : String) : Except LiteralError Int :=
  readOperandChars text.toList

/-! ## Ranges -/

/-- Bounds separated by a colon, with an optional unsigned step after a second colon. -/
def readRange {α : Type} (bound : List Char → Except LiteralError α) (text : List Char) :
    Except LiteralError (α × α × UInt64) :=
  match Text.splitWhere (· == ':') text with
  | [first, last] => do
    let start ← bound first
    let stop ← bound last
    return (start, stop, 1)
  | [first, last, stride] => do
    let start ← bound first
    let stop ← bound last
    let step ← readUnsignedChars stride
    return (start, stop, step)
  | _ => .error (.range (String.ofList text))

end ValueLattice.Numeral
