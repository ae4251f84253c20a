import SendMeter.Ini.Document
import SendMeter.Text.LetterCase

namespace SendMeter.Ini

/-- Part of a value as it is written. -/
inductive Part where
  | literal (c : Char)
  | reference (key : List Char)
  /-- A percent sign that starts no reference, with all that follows it. -/
  | loneSign (rest : List Char)
  /-- A reference that is not closed, with all that follows it. -/
  | openReference (rest : List Char)
deriving DecidableEq, Repr

/-- The key of a reference and what follows the reference, behind the bracket that opens it. -/
def reference? (cs : List Char) : Option (List Char × List Char) :=
  match cs.dropWhile (· ≠ ')') with
  | ')' :: 's' :: more =>
    let key := cs.takeWhile (· ≠ ')')
    if key.isEmpty then none else some (key, more)
  | _ => none

theorem length_lt_of_reference? {cs key more : List Char} (h : reference? cs = some (key, more)) :
    more.length < cs.length := by
  have hle := (List.dropWhile_sublist (· ≠ ')') (l := cs)).length_le
  simp only [reference?] at h
  split at h
  next rest heq =>
    rw [heq] at hle
    simp only [List.length_cons] at hle
    split at h
    · cases h
    · cases h
      omega
  · cases h

/-- The parts of a value; the first malformed one is the last. -/
def parts : List Char → List Part
  | [] => []
  | '%' :: '%' :: rest => .literal '%' :: parts rest
  | '%' :: '(' :: rest =>
    match h : reference? rest with
    | some (key, more) =>
      have := length_lt_of_reference? h
      .reference (Text.lower key) :: parts more
    | none => [.openReference ('%' :: '(' :: rest)]
  | '%' :: rest => [.loneSign ('%' :: rest)]
  | c :: rest => .literal c :: parts rest
termination_by cs => cs.length

/-- Why a value cannot be expanded. -/
inductive Obstacle where
  | unknownKey (key : List Char)
  | tooDeep
  | loneSign (rest : List Char)
  | openReference (rest : List Char)
deriving DecidableEq, Repr

def depthLimit : Nat := 10

/-- A value with references replaced, down to a number of levels. -/
def expand (values : List Char → Option (List Char)) : Nat → List Char →
    Except Obstacle (List Char)
  | 0, _ => .error .tooDeep
  | levels + 1, cs =>
    let texts : Except Obstacle (List (List Char)) := (parts cs).mapM fun part =>
      match part with
      | .literal c => .ok [c]
      | .loneSign rest => .error (.loneSign rest)
      | .openReference rest => .error (.openReference rest)
      | .reference key =>
        match values key with
        | none => .error (.unknownKey key)
        | some value => if value.contains '%' then expand values levels value else .ok value
    texts.map List.flatten

/-- An option whose value cannot be expanded. -/
structure ExpansionFault where
  header : String
  key : String
  raw : String
  obstacle : Obstacle
deriving DecidableEq, Repr

def ExpansionFault.message (f : ExpansionFault) : String :=
  let place := "option " ++ Text.quoted f.key ++ " in section " ++ Text.quoted f.header
  match f.obstacle with
  | .unknownKey key =>
    "Bad value substitution: " ++ place ++ " contains an interpolation key " ++
      String.ofList (Text.quotedChars key) ++
      " which is not a valid option name. Raw value: " ++ Text.quoted f.raw
  | .tooDeep =>
    "Recursion limit exceeded in value substitution: " ++ place ++
      s!" contains an interpolation key which cannot be substituted in {depthLimit} steps." ++
      " Raw value: " ++ Text.quoted f.raw
  | .loneSign rest =>
    "'%' must be followed by '%' or '(', found: " ++ String.ofList (Text.quotedChars rest)
  | .openReference rest =>
    "bad interpolation variable reference " ++ String.ofList (Text.quotedChars rest)

/-- The value of an option with its references replaced. -/
def Document.expanded? (d : Document) (header key : String) :
    Except ExpansionFault (Option String) :=
  match d.value? header key with
  | none => .ok none
  | some raw =>
    let values := fun name => (d.value? header (String.ofList name)).map String.toList
    match expand values depthLimit raw.toList with
    | .error obstacle => .error ⟨header, key, raw, obstacle⟩
    | .ok value => .ok (some (String.ofList value))

end SendMeter.Ini
