namespace SendMeter.Numeral

/-- Whether a number is negative, and the text behind its sign. -/
def splitSign : List Char → Bool × List Char
  | '-' :: rest => (true, rest)
  | '+' :: rest => (false, rest)
  | rest => (false, rest)

end SendMeter.Numeral
