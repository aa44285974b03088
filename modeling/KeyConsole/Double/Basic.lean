/-!
# Doubles

A double is carried as its sixty-four bits, so that it is stored and read back
unchanged.  Equality of the structure is equality of the bits; `numEq` is the
comparison of the numbers, which tells every NaN from itself and does not tell
the two zeros apart.
-/

namespace KeyConsole

/-- A number in the binary format with sixty-four bits. -/
structure Double where
  /-- The sign bit, eleven exponent bits and fifty-two fraction bits. -/
  bits : UInt64
  deriving DecidableEq, Repr, Inhabited

namespace Double

/-- Positive zero. -/
def zero : Double := ⟨0⟩

/-- The value of the sign bit. -/
def signBit : Nat := 0x8000000000000000

/-- One more than the greatest fraction. -/
def fractionBound : Nat := 0x10000000000000

/-- Whether the sign bit is set. -/
def isNegative (d : Double) : Bool :=
  signBit ≤ d.bits.toNat

/-- The bits without the sign. -/
def magnitude (d : Double) : Nat :=
  d.bits.toNat % signBit

/-- The eleven exponent bits. -/
def exponentField (d : Double) : Nat :=
  d.magnitude / fractionBound

/-- The fifty-two fraction bits. -/
def fraction (d : Double) : Nat :=
  d.magnitude % fractionBound

/-- The bits of infinity without the sign. -/
def infinityBits : Nat := 0x7FF * fractionBound

/-- Not a number: all exponent bits set and a fraction. -/
def isNaN (d : Double) : Bool :=
  infinityBits < d.magnitude

/-- Either infinity. -/
def isInfinite (d : Double) : Bool :=
  d.magnitude == infinityBits

/-- Either zero. -/
def isZero (d : Double) : Bool :=
  d.magnitude == 0

/-- Equality of the numbers. -/
def numEq (a b : Double) : Bool :=
  !a.isNaN && !b.isNaN && (a == b || (a.isZero && b.isZero))

/-- The integer `m` of a finite double of size `m * 2 ^ q`. -/
def significand (d : Double) : Nat :=
  if d.exponentField = 0 then d.fraction else fractionBound + d.fraction

/-- The integer `q` of a finite double of size `m * 2 ^ q`. -/
def exponent (d : Double) : Int :=
  if d.exponentField = 0 then -1074 else (d.exponentField : Int) - 1075

theorem numEq_comm (a b : Double) : a.numEq b = b.numEq a := by
  unfold numEq
  rw [Bool.and_comm (!a.isNaN), BEq.comm (a := a), Bool.and_comm a.isZero]

theorem numEq_self_iff (d : Double) : d.numEq d = true ↔ d.isNaN = false := by
  simp [numEq]

end Double

end KeyConsole
