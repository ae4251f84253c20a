import SendMeter.Yaml.Character
import SendMeter.Yaml.Fault

namespace SendMeter.Yaml

/-- What becomes of the line breaks at the end. -/
inductive Chomping where
  | strip
  | clip
  | keep
deriving DecidableEq, Repr

/-- Chomping, and how much deeper than their parent the lines are indented. -/
structure BlockHeader where
  chomping : Chomping
  increment : Option Nat
deriving DecidableEq, Repr

def chompingMark? : Char → Option Chomping
  | '-' => some .strip
  | '+' => some .keep
  | _ => none

def digitMark? (c : Char) : Option Nat :=
  if c.isDigit then some (c.toNat - '0'.toNat) else none

/-- The marks behind the sign of a block scalar, in either order. -/
def BlockHeader.scan (cs : List Char) : BlockHeader × List Char :=
  match cs with
  | [] => (⟨.clip, none⟩, [])
  | c :: rest =>
    match chompingMark? c, digitMark? c with
    | some chomping, _ =>
      match rest.head?.bind digitMark? with
      | some n => (⟨chomping, some n⟩, rest.tail)
      | none => (⟨chomping, none⟩, rest)
    | none, some n =>
      match rest.head?.bind chompingMark? with
      | some chomping => (⟨chomping, some n⟩, rest.tail)
      | none => (⟨.clip, some n⟩, rest)
    | none, none => (⟨.clip, none⟩, cs)

/-- The rest of a line that may only hold a comment, and what follows the line. -/
def scanIgnoredLine (cs : List Char) : Except Fault (List Char) :=
  let cs := cs.dropWhile (· = ' ')
  let cs := if cs.head? = some '#' then cs.dropWhile (!isBreak ·) else cs
  if atLineEnd cs then .ok (cs.drop 1) else .error .unreadable

/-- Blank lines in front of a line: their breaks in reverse, the deepest column reached, the
column in which the line starts, and the line itself. -/
structure BlankLines where
  breaks : List Char
  deepest : Nat
  column : Nat
  rest : List Char
deriving DecidableEq, Repr

/-- Blank lines and the indentation behind them; columns from a limit on belong to the line. -/
def BlankLines.scan (limit : Option Nat) (breaks : List Char) (deepest column : Nat) :
    List Char → BlankLines
  | [] => ⟨breaks, deepest, column, []⟩
  | c :: rest =>
    if c = ' ' ∧ limit.all (column < ·) then
      scan limit breaks (max deepest (column + 1)) (column + 1) rest
    else if isBreak c then scan limit (breakText c :: breaks) deepest 0 rest
    else ⟨breaks, deepest, column, c :: rest⟩

/-- The break between two lines. When lines are folded, one break between lines that start with no
blank is a space, and the first of several is left out. -/
def lineJoint (folded : Bool) (line : List Char) (ending : Char) (blanks : BlankLines) :
    List Char :=
  let flush (cs : List Char) := !(cs.head?.any isBlank)
  if folded && ending = '\n' && flush line && flush blanks.rest then
    if blanks.breaks.isEmpty then [' '] else []
  else [ending]

/-- The lines of a scalar that are indented to a column; at most `fuel` of them. Returns the text
of the lines in reverse, the break that ends the last one, and the blank lines behind it. -/
def scanLines (folded : Bool) (indent : Nat) : Nat → List Char → BlankLines →
    List Char × List Char × BlankLines
  | 0, done, blanks => (done, [], blanks)
  | fuel + 1, done, blanks =>
    if blanks.column ≠ indent || blanks.rest.isEmpty then (done, [], blanks)
    else
      let line := blanks.rest.takeWhile (!isBreak ·)
      let done := line.reverse ++ blanks.breaks ++ done
      match blanks.rest.dropWhile (!isBreak ·) with
      | [] => (done, [], ⟨[], 0, indent + line.length, []⟩)
      | ending :: rest =>
        let next := BlankLines.scan (some indent) [] 0 0 rest
        if next.column = indent && !next.rest.isEmpty then
          scanLines folded indent fuel (lineJoint folded line (breakText ending) next ++ done) next
        else (done, [breakText ending], next)

/-- The scalar behind its sign, and what follows it. The margin is the least column of its lines. -/
def scanBlock (folded : Bool) (margin : Nat) (cs : List Char) :
    Except Fault (List Char × List Char) :=
  let header := BlockHeader.scan cs
  if header.1.increment = some 0 || !atSpace header.2 then .error .unreadable
  else match scanIgnoredLine header.2 with
    | .error fault => .error fault
    | .ok body =>
      let least := max margin 1
      let blanks := BlankLines.scan (header.1.increment.map fun n => least + n - 1) [] 0 0 body
      let indent := match header.1.increment with
        | some n => least + n - 1
        | none => max least blanks.deepest
      let (done, ending, trailing) := scanLines folded indent body.length [] blanks
      let text := match header.1.chomping with
        | .strip => done
        | .clip => ending ++ done
        | .keep => trailing.breaks ++ ending ++ done
      .ok (text.reverse, trailing.rest)

end SendMeter.Yaml
