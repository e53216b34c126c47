/-
Half-open ranges with a positive step. The bounds are signed or unsigned words; the members are
the numbers `start`, `start + step`, `start + 2 * step`, … below `stop`.
-/
import ValueLattice.Hashing
import ValueLattice.ValueError

namespace ValueLattice

/-- Words that can bound a range. -/
class Bound (α : Type) extends Hashed α where
  /-- The number a bound stands for. -/
  toInt : α → Int

instance : Bound Int64 where
  feed v := [.signed v]
  toInt := Int64.toInt

instance : Bound UInt64 where
  feed v := [.word64 v]
  toInt v := v.toNat

@[simp] theorem Bound.toInt_signed (v : Int64) : Bound.toInt v = v.toInt := rfl

@[simp] theorem Bound.toInt_unsigned (v : UInt64) : Bound.toInt v = (v.toNat : Int) := rfl

structure Range (α : Type) where
  start : α
  stop : α
  step : UInt64
  step_ne_zero : step ≠ 0
  deriving DecidableEq

namespace Range

variable {α : Type}

/-! ## Building and changing -/

/-- The range with the given bounds, refused if the step is zero. -/
def build (start stop : α) (step : UInt64) : Except ValueError (Range α) :=
  if h : step ≠ 0 then .ok ⟨start, stop, step, h⟩ else .error .invalidStep

def setStart (r : Range α) (start : α) : Range α :=
  { r with start }

def setStop (r : Range α) (stop : α) : Range α :=
  { r with stop }

/-- The range with another step, refused if that is zero. -/
def setStep (r : Range α) (step : UInt64) : Except ValueError (Range α) :=
  if h : step ≠ 0 then .ok { r with step, step_ne_zero := h } else .error .invalidStep

/-- A call that changes a range in place. -/
inductive Change (α : Type)
  | start (v : α)
  | stop (v : α)
  | step (k : UInt64)
  deriving DecidableEq, Repr

/-- The answer to a change and the range after it; a refused change leaves the range as it was. -/
def change (r : Range α) : Change α → Except ValueError Unit × Range α
  | .start v => (.ok (), r.setStart v)
  | .stop v => (.ok (), r.setStop v)
  | .step k =>
    match r.setStep k with
    | .ok changed => (.ok (), changed)
    | .error e => (.error e, r)

/-- The range after several changes, the first of them made first. -/
def changeAll (r : Range α) (changes : List (Change α)) : Range α :=
  changes.foldl (fun r c => (r.change c).2) r

/-- The ranges with the given bounds and steps; the first zero step is refused. -/
def buildAll (rows : List (α × α × UInt64)) : Except ValueError (List (Range α)) :=
  rows.mapM fun row => build row.1 row.2.1 row.2.2

/-! ## Members and text -/

variable [Bound α]

/-- How far a number that lies between the bounds is from the first of them. -/
def distance? (r : Range α) (x : Int) : Option Nat :=
  if Bound.toInt r.start ≤ x ∧ x < Bound.toInt r.stop then
    some (x - Bound.toInt r.start).toNat
  else none

/-- Whether a number lies between the bounds and a multiple of the step away from the first. -/
def contains (r : Range α) (x : Int) : Bool :=
  (r.distance? x).any fun d => d % r.step.toNat == 0

/-- The bounds in signed hexadecimal, and the step unless it is one. -/
def text (r : Range α) : String :=
  let bounds := Numeral.signedHex (Bound.toInt r.start) ++ " to " ++
    Numeral.signedHex (Bound.toInt r.stop)
  if r.step = 1 then "<range: " ++ bounds ++ ">"
  else "<range: " ++ bounds ++ ", step " ++ Numeral.hex r.step.toNat ++ ">"

instance : Hashed (Range α) where
  feed r := feed r.start ++ feed r.stop ++ [.word64 r.step]

end Range

end ValueLattice
