import Stencil.Text.Quoted

/-! The options of the command line: how they are spelled and what is wrong with a use of them. -/

namespace Stencil.CommandLine

/-- The options of the command line. -/
inductive OptionName where
  | help
  | templates
  | out
  | resourcesOut
  | suffix
  | incremental
  | version
  | report
  | listTemplates
  | config
  | option
  | verbose
deriving DecidableEq, Repr

/-- Every spelling of an option, in the order in which they are listed. -/
def spellings : List (String × OptionName) :=
  [("-h", .help), ("--help", .help), ("--templates", .templates), ("--out", .out),
    ("--resources-out", .resourcesOut), ("--suffix", .suffix), ("--incremental", .incremental),
    ("--version", .version), ("--report", .report), ("--list-templates", .listTemplates),
    ("--config", .config), ("--option", .option), ("-v", .verbose), ("--verbose", .verbose)]

namespace OptionName

/-- The option of a spelling. -/
def ofSpelling? (spelling : String) : Option OptionName :=
  (spellings.find? fun entry => entry.1 == spelling).map Prod.snd

/-- Tests for the options that take a value. -/
def takesValue : OptionName → Bool
  | help | incremental | listTemplates | verbose => false
  | _ => true

/-- All spellings of an option. -/
def shown (name : OptionName) : String :=
  "/".intercalate ((spellings.filter fun entry => entry.2 == name).map Prod.fst)

end OptionName

/-- What is wrong with a command line. -/
inductive Fault where
  | ambiguous (word : String) (candidates : List String)
  | valueMissing (name : OptionName)
  | valueRefused (name : OptionName) (value : String)
  | templatesMissing
  | unrecognized (words : List String)
deriving DecidableEq, Repr

/-- The wording of a fault. -/
def Fault.message : Fault → String
  | ambiguous word candidates =>
    s!"ambiguous option: {word} could match " ++ ", ".intercalate candidates
  | valueMissing name => s!"argument {name.shown}: expected one argument"
  | valueRefused name value =>
    s!"argument {name.shown}: ignored explicit argument {quote value}"
  | templatesMissing => "the following arguments are required: --templates"
  | unrecognized words => "unrecognized arguments: " ++ " ".intercalate words

end Stencil.CommandLine
