namespace SendMeter.Text

/-- White space: the ASCII blanks and controls, the next-line control, and every space and line or
paragraph separator. -/
def isBlank (c : Char) : Bool :=
  let n := c.toNat
  (9 ≤ n && n ≤ 13) || n == 32 || n == 0x85 || n == 0xA0 || n == 0x1680 ||
    (0x2000 ≤ n && n ≤ 0x200A) || n == 0x2028 || n == 0x2029 || n == 0x202F || n == 0x205F ||
    n == 0x3000

/-- White space and the information separators U+001C to U+001F. -/
def isMargin (c : Char) : Bool :=
  isBlank c || (28 ≤ c.toNat && c.toNat ≤ 31)

def trimStart (drops : Char → Bool) (cs : List Char) : List Char :=
  cs.dropWhile drops

def trimEnd (drops : Char → Bool) (cs : List Char) : List Char :=
  (cs.reverse.dropWhile drops).reverse

/-- The text without the characters of a class at its two ends. -/
def trim (drops : Char → Bool) (cs : List Char) : List Char :=
  trimEnd drops (trimStart drops cs)

end SendMeter.Text
