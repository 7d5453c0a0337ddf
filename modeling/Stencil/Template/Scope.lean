import Stencil.Table
import Stencil.Template.Value

/-! Scopes of templates: frames of names set so far, over a context that stays as it is. -/

namespace Stencil.Template

/-- The names that a template sees at a place: the frames of its bodies, innermost first, then its
context. The outermost frame may export names. -/
structure Scope where
  frames : List (List (String × Value))
  context : List (String × Value)
  home : String
  exports : List String

/-- The undefined value of a name that is nowhere. -/
def missingName (word : String) : Value := .undefined s!"{quote word} is undefined"

/-- Ties an open routine to the names around it. -/
def Value.tied (frames : List (List (String × Value))) (context : List (String × Value))
    (home : String) : Value → Value
  | .openRoutine routine => .closure routine frames context home
  | other => other

namespace Scope

/-- The scope at the start of a template. -/
def start (context : List (String × Value)) (home : String) : Scope := ⟨[[]], context, home, []⟩

/-- Looks a name up from the innermost frame outwards. A routine sees the frame that holds it and
those further out, as they are when it is looked up. -/
def findIn? (context : List (String × Value)) (home word : String) :
    List (List (String × Value)) → Option Value
  | [] => findEntry word context
  | frame :: outer =>
    match findEntry word frame with
    | some value => some (value.tied (frame :: outer) context home)
    | none => findIn? context home word outer

/-- The value of a name; one that is nowhere is undefined. -/
def find (scope : Scope) (word : String) : Value :=
  (findIn? scope.context scope.home word scope.frames).getD (missingName word)

/-- The scope of an inner body that starts with some names. -/
def enter (scope : Scope) (names : List (String × Value)) : Scope :=
  { scope with frames := names :: scope.frames }

/-- Sets a name in the innermost frame. -/
def put (scope : Scope) (word : String) (value : Value) : Scope :=
  match scope.frames with
  | [] => { scope with frames := [[(word, value)]] }
  | frame :: outer => { scope with frames := putEntry word value frame :: outer }

/-- Tests whether names that are set here can be exported. -/
def isOutermost (scope : Scope) : Bool := scope.frames.length ≤ 1

/-- Sets a name by a statement: the outermost frame exports it unless it starts with an
underscore. -/
def assign (scope : Scope) (word : String) (value : Value) : Scope :=
  let after := scope.put word value
  if scope.isOutermost && !startsWith word "_" && !scope.exports.contains word then
    { after with exports := scope.exports ++ [word] }
  else after

/-- Sets a name that was taken from another template, which is not exported again. -/
def adopt (scope : Scope) (word : String) (value : Value) : Scope :=
  let after := scope.put word value
  if scope.isOutermost then { after with exports := scope.exports.filter (· != word) } else after

/-- Puts the names of a frame over others. -/
def overlay (names : List (String × Value)) (frame : List (String × Value)) :
    List (String × Value) :=
  frame.foldl (fun names entry => putEntry entry.1 entry.2 names) names

/-- What frames over a context show as one context, routines tied to what they see. -/
def shownBy (context : List (String × Value)) (home : String) :
    List (List (String × Value)) → List (String × Value)
  | [] => context
  | frame :: outer =>
    overlay (shownBy context home outer) (frame.map fun entry =>
      (entry.1, entry.2.tied (frame :: outer) context home))

/-- All that is seen from a place, as one context. -/
def merged (scope : Scope) : List (String × Value) :=
  shownBy scope.context scope.home scope.frames

/-- The exported names with their values. -/
def exported (scope : Scope) : List (String × Value) :=
  scope.exports.map fun word => (word, scope.find word)

end Scope

end Stencil.Template
