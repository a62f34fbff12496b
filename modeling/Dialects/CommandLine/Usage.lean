import Dialects.CommandLine.Options

/-!
# Usage

The texts that explain the command line. The help shows all of them; a misuse shows the short one
and what was wrong.
-/

namespace Dialects

def usage : Text :=
  ("usage: md-scrapbox [-h] [-d \x7bmd2sb,sb2md\x7d | --sample] [-o OUTPUT] [-c CONFIG]\n" ++
    "                   [--swap] [--strict]\n" ++
    "                   [input]\n").toList

/-- How the program is called, what it does, and what its options are. -/
def help : Text :=
  usage ++
    ("\n" ++
      "Convert text between Markdown and Scrapbox notation.\n" ++
      "\n" ++
      "positional arguments:\n" ++
      "  input                 input file (default: stdin)\n" ++
      "\n" ++
      "options:\n" ++
      "  -h, --help            show this help message and exit\n" ++
      "  -d \x7bmd2sb,sb2md\x7d, --direction \x7bmd2sb,sb2md\x7d\n" ++
      "                        md2sb: Markdown to Scrapbox, sb2md: Scrapbox to\n" ++
      "                        Markdown (default: from config)\n" ++
      "  --sample              convert the built-in sample Markdown document to\n" ++
      "                        Scrapbox instead of INPUT (cannot be combined with -d)\n" ++
      "  -o OUTPUT, --output OUTPUT\n" ++
      "                        output file (default: stdout)\n" ++
      "  -c CONFIG, --config CONFIG\n" ++
      "                        YAML config file\n" ++
      "  --swap                convert the result back in the reverse direction\n" ++
      "  --strict              exit with status 1 when warnings are reported\n").toList

def Misuse.report (m : Misuse) : Text :=
  usage ++ "md-scrapbox: error: ".toList ++ m.message ++ ['\n']

end Dialects
