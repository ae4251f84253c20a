namespace SendMeter.Decimal

/-- What a float stands for. The mantissa of a finite one is below 2 ^ 53. -/
inductive Shape where
  | notANumber
  | infinite (negative : Bool)
  | finite (negative : Bool) (mantissa : Nat) (exponent : Int)
deriving DecidableEq, Repr

def Shape.ofBits (bits : Nat) : Shape :=
  let negative := bits / Nat.pow 2 63 % 2 == 1
  let exponent : Nat := bits / Nat.pow 2 52 % 2048
  let fraction := bits % Nat.pow 2 52
  if exponent = 2047 then
    if fraction = 0 then .infinite negative else .notANumber
  else if exponent = 0 then .finite negative fraction (-1074)
  else .finite negative (Nat.pow 2 52 + fraction) ((exponent : Int) - 1075)

def Shape.of (x : Float) : Shape :=
  .ofBits x.toBits.toNat

/-- A nonnegative fraction of whole numbers. -/
structure Fraction where
  numerator : Nat
  denominator : Nat

/-- The fraction `n * base ^ e`. -/
def Fraction.scaled (n base : Nat) : Int → Fraction
  | .ofNat e => ⟨n * Nat.pow base e, 1⟩
  | .negSucc e => ⟨n, Nat.pow base (e + 1)⟩

/-- The fraction times a power of ten. -/
def Fraction.shift (f : Fraction) : Int → Fraction
  | .ofNat e => ⟨f.numerator * Nat.pow 10 e, f.denominator⟩
  | .negSucc e => ⟨f.numerator, f.denominator * Nat.pow 10 (e + 1)⟩

/-- The integer that a finite number without a fractional part is. -/
def Shape.integer? : Shape → Option Int
  | .finite negative mantissa exponent =>
    let size := Fraction.scaled mantissa 2 exponent
    if size.numerator % size.denominator = 0 then
      let whole : Int := (size.numerator / size.denominator : Nat)
      some (if negative then -whole else whole)
    else none
  | _ => none

/-- The number that a fraction stands for. -/
def Fraction.value (f : Fraction) : Rat :=
  f.numerator / f.denominator

end SendMeter.Decimal
