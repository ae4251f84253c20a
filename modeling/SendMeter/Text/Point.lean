import SendMeter.Text.Quoted

namespace SendMeter.Text

/-- A code point: a character, or a surrogate by its place among the surrogates. -/
inductive Point where
  | char (c : Char)
  | surrogate (n : Fin 2048)
deriving DecidableEq, Repr

def firstSurrogate : Nat := 0xD800

namespace Point

def code : Point → Nat
  | char c => c.toNat
  | surrogate n => firstSurrogate + n

def ofCode? (n : Nat) : Option Point :=
  if 0x10FFFF < n then none
  else if h : n - firstSurrogate < 2048 ∧ firstSurrogate ≤ n then
    some (.surrogate ⟨n - firstSurrogate, h.1⟩)
  else some (.char (Char.ofNat n))

def char? : Point → Option Char
  | char c => some c
  | surrogate _ => none

/-- The character that stands in for a surrogate where only characters can stand. -/
def replacement : Char := Char.ofNat 0xFFFD

def charOrReplacement (p : Point) : Char :=
  p.char?.getD replacement

end Point

/-- The code points of a text. -/
def points (cs : List Char) : List Point :=
  cs.map .char

def stringPoints (s : String) : List Point :=
  points s.toList

/-- The text with these code points, if there is one. -/
def characters? : List Point → Option (List Char)
  | [] => some []
  | .char c :: ps => (characters? ps).map (c :: ·)
  | .surrogate _ :: _ => none

theorem characters?_points (cs : List Char) : characters? (points cs) = some cs := by
  induction cs with
  | nil => rfl
  | cons c cs ih =>
    have htail : points (c :: cs) = .char c :: points cs := rfl
    simp [htail, characters?, ih]

/-- A function on texts, done to every run of characters between surrogates. The characters of the
run that is being read stand in reverse. -/
def mapRuns (f : List Char → List Char) (run : List Char) : List Point → List Point
  | [] => points (f run.reverse)
  | .char c :: ps => mapRuns f (c :: run) ps
  | .surrogate n :: ps => points (f run.reverse) ++ .surrogate n :: mapRuns f [] ps

/-- One code point between quotes. -/
def escapedPoint (quote : Char) : Point → List Char
  | .char c => escaped quote c
  | .surrogate n => '\\' :: 'u' :: hexDigits 4 (firstSurrogate + n)

/-- Code points in quotes. -/
def quotedPoints (ps : List Point) : List Char :=
  let quote := quoteFor (ps.filterMap Point.char?)
  quote :: ps.flatMap (escapedPoint quote) ++ [quote]

end SendMeter.Text
