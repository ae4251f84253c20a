namespace SendMeter.Text

variable {α : Type}

/-- A character in front of the first part. -/
def consPart (c : α) : List (List α) → List (List α)
  | [] => [[c]]
  | part :: parts => (c :: part) :: parts

/-- The parts between the characters of a class. There is one part more than separators. -/
def splitOn (separates : α → Bool) : List α → List (List α)
  | [] => [[]]
  | c :: cs => if separates c then [] :: splitOn separates cs else consPart c (splitOn separates cs)

end SendMeter.Text
