import Stencil.CommandLine.Word

/-! The arguments of the program: what the words of the command line ask for when they are taken one
after the other. -/

namespace Stencil.CommandLine

/-- What the program is asked to do with its templates. -/
structure Arguments where
  templates : String
  out : Option String
  resourcesOut : Option String
  suffix : String
  incremental : Bool
  version : Option String
  report : Option String
  listTemplates : Bool
  config : Option String
  options : List String
  verbose : Bool
deriving DecidableEq, Repr

/-- What the command line asks for. -/
inductive Request where
  | help
  | run (arguments : Arguments)
deriving DecidableEq, Repr

/-- What the words so far have given: values, flags, and words that nothing takes. -/
structure Draft where
  values : List (OptionName × String)
  flags : List OptionName
  extras : List String
deriving DecidableEq, Repr

namespace Draft

/-- The draft before the first word. -/
def empty : Draft := ⟨[], [], []⟩

/-- Adds a value. -/
def give (draft : Draft) (name : OptionName) (value : String) : Draft :=
  { draft with values := draft.values ++ [(name, value)] }

/-- Adds flags and words that nothing takes. -/
def raise (draft : Draft) (flags : List OptionName) (extras : List String) : Draft :=
  { draft with flags := draft.flags ++ flags, extras := draft.extras ++ extras }

/-- All values of an option in order. -/
def allOf (draft : Draft) (name : OptionName) : List String :=
  (draft.values.filter fun entry => entry.1 == name).map Prod.snd

/-- The value of an option; the last one counts. -/
def last? (draft : Draft) (name : OptionName) : Option String := (draft.allOf name).getLast?

/-- Tests whether a flag was given. -/
def has (draft : Draft) (name : OptionName) : Bool := draft.flags.contains name

end Draft

/-- The suffix of sources unless one is given. -/
def defaultSuffix : String := ".py"

/-- The request of a draft with nothing left to read: it needs a template directory and takes all
words. -/
def Draft.finish (draft : Draft) : Except Fault Request :=
  match draft.last? .templates with
  | none => .error .templatesMissing
  | some templates =>
    if draft.extras.isEmpty then
      .ok (.run ⟨templates, draft.last? .out, draft.last? .resourcesOut,
        (draft.last? .suffix).getD defaultSuffix, draft.has .incremental, draft.last? .version,
        draft.last? .report, draft.has .listTemplates, draft.last? .config, draft.allOf .option,
        draft.has .verbose⟩)
    else .error (.unrecognized draft.extras)

/-- The flags that follow a short one in the same word, and the rest that names none. -/
def bundle (name : OptionName) : List Char → Except Fault (List OptionName × List String)
  | [] => .ok ([name], [])
  | c :: rest =>
    if c == '=' then .error (.valueRefused name (String.ofList rest))
    else if c == '-' then .error (.valueRefused name (String.ofList (c :: rest)))
    else match OptionName.ofSpelling? (String.ofList ['-', c]) with
      | none => .ok ([name], [String.ofList ('-' :: c :: rest)])
      | some next => do
        let (flags, extras) ← bundle next rest
        return (name :: flags, extras)

/-- The flags that one word gives, and the rest that names none. -/
def flagsOf (short : Bool) (name : OptionName) :
    Option Attachment → Except Fault (List OptionName × List String)
  | none => .ok ([name], [])
  | some ⟨byEquals, value⟩ =>
    if short && !byEquals then bundle name value.toList else .error (.valueRefused name value)

/-- Takes the words one after the other; a request for help is granted when it is reached. -/
def take : List Word → Draft → Except Fault Request
  | [], draft => draft.finish
  | .plain text :: rest, draft => take rest (draft.raise [] [text])
  | .divider :: rest, draft => take rest (draft.raise [] [dividerText])
  | .unknown text :: rest, draft => take rest (draft.raise [] [text])
  | .option short name attached :: rest, draft =>
    if name.takesValue then
      match attached with
      | some given => take rest (draft.give name given.value)
      | none =>
        match rest with
        | .plain value :: after => take after (draft.give name value)
        | _ => .error (.valueMissing name)
    else do
      let (flags, extras) ← flagsOf short name attached
      if flags.contains .help then .ok .help else take rest (draft.raise flags extras)

/-- The request of a command line. Words are read before any of them is taken. -/
def requestOf (words : List String) : Except Fault Request := do
  take (← readWords words) .empty

end Stencil.CommandLine
