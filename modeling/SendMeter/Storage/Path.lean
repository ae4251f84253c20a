import SendMeter.Text.Split

namespace SendMeter.Storage

/-- Where a path starts: in the working folder, or at the top, which is written with one slash or
with exactly two. -/
inductive Root where
  | working
  | top
  | doubleTop
deriving DecidableEq, Repr

def Root.text : Root → String
  | .working => ""
  | .top => "/"
  | .doubleTop => "//"

def Root.ofChars : List Char → Root
  | '/' :: '/' :: '/' :: _ => .top
  | '/' :: '/' :: _ => .doubleTop
  | '/' :: _ => .top
  | _ => .working

structure Path where
  root : Root
  names : List String
deriving DecidableEq, Repr

namespace Path

def isName (name : String) : Bool :=
  name != "" && name != "."

/-- The name that leads to the folder above. -/
def above : String := ".."

def ofText (s : String) : Path :=
  { root := .ofChars s.toList
    names := ((Text.splitOn (· = '/') s.toList).map String.ofList).filter isName }

def text (p : Path) : String :=
  if p.root = .working ∧ p.names = [] then "." else p.root.text ++ "/".intercalate p.names

def parent (p : Path) : Path :=
  { p with names := p.names.dropLast }

def child (p : Path) (name : String) : Path :=
  { p with names := p.names ++ [name] }

theorem length_parent_lt {p : Path} (h : p.names ≠ []) :
    p.parent.names.length < p.names.length := by
  have := List.length_pos_iff.2 h
  simp only [parent, List.length_dropLast]
  omega

end Path

end SendMeter.Storage
