import Stencil.Text.LineBreak

/-! Manifests: lists of entries, one a line, into which each pass merges its own. -/

namespace Stencil

namespace Manifest

/-- The first occurrences of the items of a list, in order. -/
def firsts : List String → List String
  | [] => []
  | item :: rest => item :: (firsts rest).filter (· != item)

/-- Tests whether a line is a comment. -/
def isComment (line : String) : Bool := startsWith line "#"

/-- The entries that a manifest keeps from its earlier text: every line but the comments. -/
def kept (existing : String) : List String := (lines existing).filter fun line => !isComment line

/-- The entries of a manifest after a pass: earlier ones, then new ones, each once and none
empty. -/
def merge (earlier new : List String) : List String := (firsts (earlier ++ new)).filter (· != "")

/-- The line of an entry. -/
def line (entry : String) : String := entry ++ "\n"

/-- The text of a manifest. -/
def toText (entries : List String) : String := String.join (entries.map line)

/-- The text that merging new lines into an earlier text writes. -/
def update (existing : String) (new : List String) : String := toText (merge (kept existing) new)

end Manifest

end Stencil
