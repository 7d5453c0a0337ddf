import Stencil.Decimal.Shortest
import Stencil.Table
import Stencil.Text.Quoted

/-! Data values: what configuration files and options hold, and the text that stands for each. -/

namespace Stencil

/-- A value of a configuration: the scalars, lists, and dictionaries keyed by text. -/
inductive Datum where
  | null
  | bool (value : Bool)
  | int (value : Int)
  | float (value : Float)
  | text (value : String)
  | list (items : List Datum)
  | dict (entries : List (String × Datum))

instance : Inhabited Datum := ⟨.null⟩

namespace Datum

/-- The text of a truth value. -/
def boolText (value : Bool) : String := if value then "True" else "False"

/-- Items separated by commas between two brackets. -/
def bracketed (opening closing : String) (items : List String) : String :=
  opening ++ ", ".intercalate items ++ closing

mutual

/-- The text of a value as it stands inside a list or a dictionary. -/
def shown : Datum → String
  | .null => "None"
  | .bool value => boolText value
  | .int value => toString value
  | .float value => floatText value
  | .text value => quote value
  | .list items => bracketed "[" "]" (shownItems items)
  | .dict entries => bracketed "\x7b" "\x7d" (shownEntries entries)

/-- The texts of the items of a list. -/
def shownItems : List Datum → List String
  | [] => []
  | item :: rest => item.shown :: shownItems rest

/-- The texts of the entries of a dictionary. -/
def shownEntries : List (String × Datum) → List String
  | [] => []
  | (key, value) :: rest => (quote key ++ ": " ++ value.shown) :: shownEntries rest

end

/-- The text of a value: a text stands for itself, all else is shown. -/
def toText : Datum → String
  | .text value => value
  | other => other.shown

end Datum

end Stencil
