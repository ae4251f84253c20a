namespace SendMeter.Yaml

/-- The value of a digit of base 64. -/
def base64Digit? (c : Char) : Option Nat :=
  let n := c.toNat
  if c.isUpper then some (n - 'A'.toNat)
  else if c.isLower then some (n - 'a'.toNat + 26)
  else if c.isDigit then some (n - '0'.toNat + 52)
  else if c = '+' then some 62
  else if c = '/' then some 63
  else none

/-- How far a group of four digits is read: the number of its digits, of the paddings that follow
them, and the bits that are not yet in a byte. -/
structure Base64Group where
  digits : Nat
  paddings : Nat
  bits : Nat
deriving DecidableEq, Repr

/-- The byte that one more digit completes, if it does, and the group with that digit. -/
def Base64Group.add (g : Base64Group) (digit : Nat) : Option UInt8 × Base64Group :=
  let byte (high low : Nat) := some (UInt8.ofNat (high + low))
  match g.digits with
  | 0 => (none, ⟨1, 0, digit⟩)
  | 1 => (byte (g.bits * 4) (digit / 16), ⟨2, 0, digit % 16⟩)
  | 2 => (byte (g.bits * 16) (digit / 4), ⟨3, 0, digit % 4⟩)
  | _ => (byte (g.bits * 64) digit, ⟨0, 0, 0⟩)

/-- The bytes of a text, behind bytes in reverse; none if a group is left open. -/
def base64From? (g : Base64Group) (done : List UInt8) : List Char → Option (List UInt8)
  | [] => if g.digits = 0 then some done.reverse else none
  | c :: rest =>
    if c = '=' then
      if 2 ≤ g.digits ∧ 4 ≤ g.digits + g.paddings + 1 then some done.reverse
      else base64From? { g with paddings := if 2 ≤ g.digits then g.paddings + 1 else g.paddings }
        done rest
    else match base64Digit? c with
      | none => base64From? g done rest
      | some digit =>
        let (byte, g) := g.add digit
        base64From? g (byte.toList ++ done) rest

def base64? (cs : List Char) : Option (List UInt8) :=
  base64From? ⟨0, 0, 0⟩ [] cs

end SendMeter.Yaml
