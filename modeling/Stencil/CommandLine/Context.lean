import Stencil.Failure
import Stencil.Json.Reader
import Stencil.Text.LineBreak

/-! The template context: the values of a configuration file, overridden by options. -/

namespace Stencil

namespace Context

/-- Values by name, in the order in which the names were first given. -/
abbrev Values := Table String Datum

/-- The value of an option: what it says as JSON, or else its text. -/
def optionValue (raw : String) : Datum := ((Json.read raw).toOption).getD (.text raw)

/-- Cuts an option at its first equals sign. -/
def splitOption (item : String) : Option (String × String) :=
  let chars := item.toList
  match chars.dropWhile (· != '=') with
  | [] => none
  | _ :: raw => some (String.ofList (chars.takeWhile (· != '=')), String.ofList raw)

/-- The name and the value that an option gives, both without blanks around them. -/
def readOption (value : String → Datum) (item : String) : Except Failure (String × Datum) :=
  match splitOption item with
  | none => .error (.badValue (.badOption item))
  | some (name, raw) =>
    if isBlankText name then .error (.badValue (.badOption item))
    else .ok (strip name, value (strip raw))

/-- Adds options to values, a later one overriding earlier ones of its name. -/
def withOptions (value : String → Datum) : Values → List String → Except Failure Values
  | values, [] => .ok values
  | values, item :: rest => do
    let (name, datum) ← readOption value item
    withOptions value (values.put name datum) rest

/-- The values that the text of a configuration file gives. -/
def ofConfigText (path text : String) : Except Failure Values := do
  match ← (Json.read (unifyBreaks text)).mapError Failure.json with
  | .dict entries => .ok (.ofList entries)
  | _ => .error (.badValue (.configNotObject path))

/-- The values that a configuration file gives; an empty path stands for none. -/
def ofConfig (disk : Disk) (path : String) : Except Failure Values :=
  if path == "" then .ok .empty
  else do
    let bytes ← (disk.readFile (.ofString path)).mapError Failure.path
    let text ← (Encoding.utf8.decode bytes).mapError Failure.decode
    ofConfigText path text

/-- The context of a configuration file and options. -/
def build (disk : Disk) (config : Option String) (options : List String) :
    Except Failure Values := do
  let values ← match config with
    | none => .ok .empty
    | some path => ofConfig disk path
  withOptions optionValue values options

end Context

end Stencil
