import Stencil.Text.Blank

/-! Paths in a normal form: no empty and no dot component, while parents stay as they are. -/

namespace Stencil

/-- Where a path starts: at the working directory, at the root, or at a doubled root. -/
inductive Anchor where
  | relative
  | root
  | doubleRoot
deriving DecidableEq, Repr

/-- Tests for the texts that can be a component: none is empty, a dot, or holds a slash. -/
def isComponent (part : String) : Bool :=
  part != "" && part != "." && !part.toList.contains '/'

/-- A path: its start, then its components from the outside in. -/
@[ext]
structure Path where
  anchor : Anchor
  parts : List String
  proper : ∀ part ∈ parts, isComponent part = true
deriving DecidableEq, Repr

namespace Path

/-- The components that a text names between slashes. -/
def partsOf (text : String) : List String :=
  (splitAt '/' text).filter fun part => part != "" && part != "."

/-- What a text names between slashes can be a component. -/
theorem partsOf_proper (text : String) : ∀ part ∈ partsOf text, isComponent part = true := by
  -- The cuts leave no slash, and the filter neither an empty text nor a dot.
  intro part member
  obtain ⟨piece, named⟩ := List.mem_filter.1 member
  obtain ⟨chars, cut, rfl⟩ := List.mem_map.1 piece
  have slashless : '/' ∉ chars := fun inside => by
    simpa using cutAt_clean (· == '/') cut '/' inside
  simp only [isComponent, named, Bool.true_and, String.toList_ofList]
  simpa using slashless

/-- The start that a text names: exactly two slashes keep their number, all others are one. -/
def anchorOf (text : String) : Anchor :=
  match (text.toList.takeWhile (· == '/')).length with
  | 0 => .relative
  | 2 => .doubleRoot
  | _ => .root

/-- The path without components. -/
def start (anchor : Anchor) : Path := ⟨anchor, [], by simp⟩

/-- A path with further components. -/
def extend (path : Path) (text : String) : Path :=
  ⟨path.anchor, path.parts ++ partsOf text, by
    intro part member
    rcases List.mem_append.1 member with old | new
    · exact path.proper part old
    · exact partsOf_proper text part new⟩

/-- The path of a text seen from another path, which an absolute text discards. -/
def join (path : Path) (text : String) : Path :=
  match anchorOf text with
  | .relative => path.extend text
  | anchor => (start anchor).extend text

/-- The path that a text names. -/
def ofString (text : String) : Path := (start .relative).join text

/-- Joins several texts in order. -/
def joinAll (path : Path) (texts : List String) : Path := texts.foldl join path

/-- The path without its last component. -/
def parent (path : Path) : Path :=
  ⟨path.anchor, path.parts.dropLast, fun part member =>
    path.proper part ((List.dropLast_sublist path.parts).subset member)⟩

/-- The text of a start. -/
def anchorText : Anchor → String
  | .relative => ""
  | .root => "/"
  | .doubleRoot => "//"

/-- The text of a path; the working directory itself is a dot. -/
def toText (path : Path) : String :=
  let text := anchorText path.anchor ++ "/".intercalate path.parts
  if text == "" then "." else text

/-- The part of a file name from its last dot on, unless that dot is first or last. -/
def suffixOf (name : String) : String :=
  let chars := name.toList
  let tail := (chars.reverse.takeWhile (· != '.')).reverse
  if tail.isEmpty || chars.length ≤ tail.length + 1 then ""
  else String.ofList ('.' :: tail)

end Path

end Stencil
