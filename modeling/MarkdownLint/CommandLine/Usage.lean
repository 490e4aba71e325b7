/-!
What the program says about its own use.
-/
namespace MarkdownLint.CommandLine

/-- The lines that show how the program is called. -/
def usageLines : List String :=
  ["usage: mdlint [-h] [--config CONFIG_FILE] [--reports-dir REPORTS_DIR]",
   "              [--jobs JOBS] [--log-level \x7bDEBUG,INFO,WARNING,ERROR\x7d]",
   "              [root]"]

/-- The lines that explain the arguments. -/
def helpLines : List String :=
  ["",
   "Rule-based static analyzer for Markdown documents",
   "",
   "positional arguments:",
   "  root                  Project directory to scan (defaults to the current",
   "                        directory).",
   "",
   "options:",
   "  -h, --help            show this help message and exit",
   "  --config CONFIG_FILE, -c CONFIG_FILE",
   "                        YAML configuration file (defaults to markdownlint.yaml",
   "                        in the project directory if present).",
   "  --reports-dir REPORTS_DIR",
   "                        Directory for markdownlint.xml and markdownlint.html",
   "                        (defaults to build/reports/markdownlint).",
   "  --jobs JOBS, -j JOBS  Number of files to scan in parallel.",
   "  --log-level \x7bDEBUG,INFO,WARNING,ERROR\x7d",
   "                        Diagnostics written to stderr."]

/-- Lines as text. -/
def textOfLines (lines : List String) : String := String.join (lines.map (· ++ "\n"))

/-- The help text. -/
def helpText : String := textOfLines (usageLines ++ helpLines)

/-- What is said when the arguments are refused. -/
def refusalText (message : String) : String :=
  textOfLines (usageLines ++ ["mdlint: error: " ++ message])

end MarkdownLint.CommandLine
