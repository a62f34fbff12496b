import Dialects.Text.Basic

/-!
# A sample document

A Markdown document with one of everything that has a counterpart in Scrapbox.
-/

namespace Dialects

def sampleMarkdown : Text :=
  ("## Markdown to Scrapbox\n" ++
    "A simple converter to switch between syntaxes.\n" ++
    "\n" ++
    "### Features\n" ++
    "- **Bold Text** is supported.\n" ++
    "- [Links like this](https://react.dev) are converted.\n" ++
    "- Lists are easy\n" ++
    "  - Indented lists too!\n" ++
    "-- Or this style for nesting.\n" ++
    "\n" ++
    "```javascript\n" ++
    "// This is a code block\n" ++
    "function greet(name) \x7b\n" ++
    "  return `Hello, $\x7bname\x7d!`;\n" ++
    "\x7d\n" ++
    "```").toList

end Dialects
