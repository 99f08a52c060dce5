import TelemetryAutomation.Text.Ranges

/-!
# Blanks

A blank is a character with the Unicode property `White_Space`. Trimming removes blanks at both ends
of a text and leaves those inside alone.
-/

namespace TelemetryAutomation.Text

/-- The code points of the property `White_Space`. -/
def blankRanges : List (Nat × Nat) :=
  [
    (0x9, 0xD), (0x20, 0x20), (0x85, 0x85), (0xA0, 0xA0), (0x1680, 0x1680), (0x2000, 0x200A),
    (0x2028, 0x2029), (0x202F, 0x202F), (0x205F, 0x205F), (0x3000, 0x3000)
  ]

/-- Whether a character is a blank. -/
def isBlank (c : Char) : Bool := inRanges blankRanges c

/-- Drops the blanks at the front. -/
def trimStart (cs : List Char) : List Char := cs.dropWhile isBlank

/-- Drops the blanks at the back. -/
def trimEnd (cs : List Char) : List Char := (cs.reverse.dropWhile isBlank).reverse

/-- Drops the blanks at both ends. -/
def trim (cs : List Char) : List Char := trimEnd (trimStart cs)

/-- A text without the blanks at its ends. -/
def trimmed (s : String) : String := String.ofList (trim s.toList)

end TelemetryAutomation.Text
