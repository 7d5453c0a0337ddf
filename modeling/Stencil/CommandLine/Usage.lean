import Stencil.CommandLine.Option

/-! The texts with which the program explains its command line. -/

namespace Stencil.CommandLine

/-- The name under which the program is called. -/
def programName : String := "python -m codegen"

/-- The part of the help that shows the form of a command line. -/
def usageText : String :=
  "usage: python -m codegen [-h] --templates TEMPLATES [--out OUT]
                         [--resources-out RESOURCES_OUT] [--suffix SUFFIX]
                         [--incremental] [--version VERSION] [--report REPORT]
                         [--list-templates] [--config CONFIG]
                         [--option KEY=VALUE] [-v]
"

/-- The part of the help that tells what the program and its options do. -/
def optionsText : String :=
  "Render code generation templates into source files and service manifests.

options:
  -h, --help            show this help message and exit
  --templates TEMPLATES
                        Directory containing .jinja/.j2 templates.
  --out OUT             Output directory for generated source files.
  --resources-out RESOURCES_OUT
                        Output directory for service manifests (defaults to
                        --out).
  --suffix SUFFIX       File suffix of generated source files.
  --incremental         Treat generated sources left by a previous build as
                        already created.
  --version VERSION     Version exposed to templates. If omitted: git tag at
                        HEAD, else short commit, else 'undefined'.
  --report REPORT       Generation report file name (written under --out).
  --list-templates      List the templates that would be rendered and exit.
  --config CONFIG       Optional JSON config file providing template context
                        values.
  --option KEY=VALUE    Override or add a single template context value (may
                        be repeated).
  -v, --verbose         Enable debug logging.
"

/-- The help. -/
def helpText : String := usageText ++ "\n" ++ optionsText

/-- What the program says about a fault of its command line. -/
def Fault.report (fault : Fault) : String :=
  usageText ++ s!"{programName}: error: {fault.message}\n"

end Stencil.CommandLine
