namespace SendMeter.Text

/-- A character in front of the first line. -/
def consLine (c : Char) : List (List Char) → List (List Char)
  | [] => [[c]]
  | line :: lines => (c :: line) :: lines

/-- Lines with their line feeds. The last line need not have one. -/
def lines : List Char → List (List Char)
  | [] => []
  | c :: cs => if c = '\n' then [c] :: lines cs else consLine c (lines cs)

/-- The lines that end with a line feed. -/
def wholeLines (cs : List Char) : List (List Char) :=
  (lines cs).filter (·.getLast? = some '\n')

end SendMeter.Text
