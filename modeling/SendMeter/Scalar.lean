namespace SendMeter

/-- Why a number could not be computed. -/
inductive ArithmeticError where
  /-- The divisor was zero. -/
  | divisionByZero
  /-- An integer has no finite neighbour among the scalars. -/
  | integerTooLarge
deriving DecidableEq, Repr

def ArithmeticError.message : ArithmeticError → String
  | .divisionByZero => "float division by zero"
  | .integerTooLarge => "int too large to convert to float"

/-- An ordered arithmetic in which division and the reading of an integer may fail. Nothing is
assumed of the order: a float that is not a number is below no other number. -/
class Scalar (α : Type) extends Add α, Sub α, Mul α, LT α, LE α where
  zero : α
  one : α
  decidableLT : DecidableLT α
  decidableLE : DecidableLE α
  /-- Division, which fails exactly on a zero divisor. -/
  divide : α → α → Except ArithmeticError α
  /-- The scalar nearest to an integer. -/
  ofInt : Int → Except ArithmeticError α
  /-- The number above all others, where there is one. -/
  top? : Option α
  /-- The number below all others, where there is one. -/
  bottom? : Option α

namespace Scalar

variable {α : Type} [Scalar α]

instance : DecidableLT α := Scalar.decidableLT

instance : DecidableLE α := Scalar.decidableLE

/-- The second number only if it is strictly above the first. -/
def maximum (a b : α) : α :=
  if a < b then b else a

/-- The second number only if it is strictly below the first. -/
def minimum (a b : α) : α :=
  if b < a then b else a

def two : α :=
  one + one

/-- A number of events as a scalar. -/
def ofCount (n : Nat) : Except ArithmeticError α :=
  ofInt n

end Scalar

/-- Floats: an integer that would round beyond the largest finite float is refused, division
overflows to infinity, and only a zero divisor is refused. -/
instance : Scalar Float where
  zero := 0
  one := 1
  decidableLT := inferInstance
  decidableLE := inferInstance
  divide a b := if b == 0 then .error .divisionByZero else .ok (a / b)
  ofInt n :=
    let x := Float.ofInt n
    if x.isFinite then .ok x else .error .integerTooLarge
  top? := some (1 / 0)
  bottom? := some (-1 / 0)

instance : Scalar Rat where
  zero := 0
  one := 1
  decidableLT := inferInstance
  decidableLE := inferInstance
  divide a b := if b = 0 then .error .divisionByZero else .ok (a / b)
  ofInt n := .ok n
  top? := none
  bottom? := none

end SendMeter
