import TelemetryAutomation.Text.Alphanumeric
import TelemetryAutomation.Text.Blank
import TelemetryAutomation.Text.Lowercase

/-!
# Slugs

A slug is a text reduced to words of small letters and digits with `_` between them. The `@` sign
counts as the word `at`; blanks, `_` and `-` separate words, and all other characters are dropped.
-/

namespace TelemetryAutomation.Text

/-- Reads the `@` sign as a word. -/
def spellAt (cs : List Char) : List Char :=
  cs.flatMap fun c => if c = '@' then ['_', 'a', 't', '_'] else [c]

/-- Whether a character separates words. -/
def isSeparator (c : Char) : Bool := c = '_' || c = '-' || isBlank c

/-- Writes the words of a text. `started` says whether something was written before, and `pending`
whether a separator came after it. -/
def slugFrom (started pending : Bool) : List Char → List Char
  | [] => []
  | c :: rest =>
    if isAlphanumeric c then
      (if pending && started then ['_', c] else [c]) ++ slugFrom true false rest
    else slugFrom started (pending || isSeparator c) rest

/-- The slug of a text. -/
def slug (s : String) : String :=
  .ofList (slugFrom false false (lower (spellAt s.toList)))

end TelemetryAutomation.Text
