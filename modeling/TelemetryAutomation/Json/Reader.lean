import TelemetryAutomation.Decimal.Reading
import TelemetryAutomation.Json.Document

/-!
# Reading JSON text

`Document.read?` reads a whole text as one document. Each reader below takes the text from its
current place and gives back what it read together with the rest.

An integer literal that fits 64 bits is read as an integer and every other number as the nearest
double; a minus sign in front of zero makes a float, the only kind with a negative zero.

A text without the form of a document is refused as a whole. A number beyond the finite doubles, a
surrogate without its partner and a container that nests too deep have the form; they make the
smallest document around them flawed.
-/

namespace TelemetryAutomation.Document

open TelemetryAutomation.Text (isDigit)

/-- Drops the space between tokens. -/
def skipSpace (cs : List Char) : List Char :=
  cs.dropWhile fun c => c = ' ' || c = '\t' || c = '\n' || c = '\r'

/-! ### Strings -/

/-- The value of a hexadecimal digit. -/
def hexDigit? (c : Char) : Option Nat :=
  if isDigit c then some (c.toNat - '0'.toNat)
  else if 'a' ≤ c && c ≤ 'f' then some (c.toNat - 'a'.toNat + 10)
  else if 'A' ≤ c && c ≤ 'F' then some (c.toNat - 'A'.toNat + 10)
  else none

/-- The code unit of four hexadecimal digits. -/
def codeUnit? (a b c d : Char) : Option Nat := do
  return (((← hexDigit? a) * 16 + (← hexDigit? b)) * 16 + (← hexDigit? c)) * 16 + (← hexDigit? d)

/-- The character of an escape of one letter. -/
def escape? : Char → Option Char
  | '"' => some '"'
  | '\\' => some '\\'
  | '/' => some '/'
  | 'b' => some '\x08'
  | 'f' => some '\x0c'
  | 'n' => some '\n'
  | 'r' => some '\r'
  | 't' => some '\t'
  | _ => none

/-- A part of a string as it is written. -/
inductive StringPart
  | char (c : Char)
  /-- An escape that gives the code unit. -/
  | unit (n : Nat)

/-- Puts a part in front of the parts read so far. -/
def withPart (part : StringPart) (read : Option (List StringPart × List Char)) :
    Option (List StringPart × List Char) :=
  read.map fun (parts, rest) => (part :: parts, rest)

/-- Reads the parts of a string up to its closing quote. -/
def readParts : List Char → Option (List StringPart × List Char)
  | [] => none
  | '"' :: rest => some ([], rest)
  | '\\' :: 'u' :: a :: b :: c :: d :: rest =>
    match codeUnit? a b c d with
    | some n => withPart (.unit n) (readParts rest)
    | none => none
  | '\\' :: c :: rest =>
    match escape? c with
    | some c => withPart (.char c) (readParts rest)
    | none => none
  | c :: rest => if c < ' ' || c = '\\' then none else withPart (.char c) (readParts rest)

/-- Whether a code unit is the first half of a surrogate pair. -/
def isHigh (n : Nat) : Bool := 0xD800 ≤ n && n < 0xDC00

/-- Whether a code unit is the second half of a surrogate pair. -/
def isLow (n : Nat) : Bool := 0xDC00 ≤ n && n < 0xE000

/-- The text of the parts, in which each half of a surrogate pair needs the other. -/
def joinParts? : List StringPart → Option (List Char)
  | [] => some []
  | .char c :: rest => (joinParts? rest).map (c :: ·)
  | .unit high :: .unit low :: rest =>
    if isHigh high then
      if isLow low then
        (joinParts? rest).map (.ofNat (0x10000 + (high - 0xD800) * 0x400 + (low - 0xDC00)) :: ·)
      else none
    else if isLow high then none
    else (joinParts? (.unit low :: rest)).map (.ofNat high :: ·)
  | .unit n :: rest =>
    if isHigh n || isLow n then none else (joinParts? rest).map (.ofNat n :: ·)

/-- Reads a string up to its closing quote; the text is absent if it is flawed. -/
def readString (cs : List Char) : Option (Option String × List Char) :=
  (readParts cs).map fun (parts, rest) => ((joinParts? parts).map .ofList, rest)

/-! ### Numbers -/

/-- The whole digits of a number: a lone zero, or digits that do not start with one. -/
def wholeDigits? (cs : List Char) : Option (List Char × List Char) :=
  match cs.takeWhile isDigit, cs.dropWhile isDigit with
  | [], _ => none
  | '0' :: _ :: _, _ => none
  | digits, rest => some (digits, rest)

/-- The digits after a point, which are empty where there is none. -/
def fraction? : List Char → Option (List Char × List Char)
  | '.' :: rest =>
    let digits := rest.takeWhile isDigit
    if digits.isEmpty then none else some (digits, rest.dropWhile isDigit)
  | cs => some ([], cs)

/-- The exponent, absent where there is none. -/
def exponent? : List Char → Option (Option Int × List Char)
  | c :: rest =>
    if c = 'e' || c = 'E' then
      let (sign, rest) := match rest with
        | '-' :: rest => ((-1 : Int), rest)
        | '+' :: rest => (1, rest)
        | rest => (1, rest)
      let digits := rest.takeWhile isDigit
      if digits.isEmpty then none
      else some (some (sign * Nat.ofDigitChars 10 digits 0), rest.dropWhile isDigit)
    else some (none, c :: rest)
  | [] => some (none, [])

/-- The number of a literal, if it is finite. -/
def number? (negative : Bool) (whole fraction : List Char) (exponent : Option Int) :
    Option Number :=
  let n : Int := Nat.ofDigitChars 10 whole 0
  let n := if negative then -n else n
  let isWhole := fraction.isEmpty && exponent.isNone && !(negative && n = 0)
  if h : isWhole ∧ -0x8000000000000000 ≤ n ∧ n < 0x10000000000000000 then some (.int n h.2)
  else
    let size := Decimal.Parts.toFloat ⟨whole, fraction, exponent.getD 0⟩
    let x := if negative then -size else size
    if h : x.isFinite then some (.float x h) else none

/-- Reads a number. -/
def readNumber (cs : List Char) : Option (Document × List Char) := do
  let (negative, cs) := match cs with
    | '-' :: rest => (true, rest)
    | cs => (false, cs)
  let (whole, rest) ← wholeDigits? cs
  let (fraction, rest) ← fraction? rest
  let (exponent, rest) ← exponent? rest
  return (((number? negative whole fraction exponent).map .num).getD .flawed, rest)

/-! ### Documents -/

/-- What follows a token, if the text starts with it. -/
def afterToken? (token : String) (cs : List Char) : Option (List Char) :=
  token.toList.isPrefixOf? cs

/-- A container, which is flawed where no level is left for it. -/
def nested : (depth : Nat) → Document → Document
  | 0, _ => .flawed
  | _ + 1, container => container

/-- The fields under their names, if no name is flawed. -/
def named? (fields : List (Option String × Document)) : Option (List (String × Document)) :=
  fields.mapM fun (name, value) => name.map (·, value)

/-- The object of some fields, flawed where one of the names is. -/
def ofFields (fields : List (Option String × Document)) : Document :=
  ((named? fields).map .obj).getD .flawed

mutual

/-- Reads a document in which containers nest at most `depth` deep and are flawed below. Every step
takes one unit of `fuel`, and between two steps at least one character is read. -/
def readValue : (fuel depth : Nat) → List Char → Option (Document × List Char)
  | 0, _, _ => none
  | fuel + 1, depth, cs =>
    match skipSpace cs with
    | '"' :: rest => (readString rest).map fun (text, rest) => ((text.map .str).getD .flawed, rest)
    | '[' :: rest =>
      match skipSpace rest with
      | ']' :: rest => some (nested depth (.arr []), rest)
      | rest =>
        (readItems fuel (depth - 1) rest).map fun (items, rest) => (nested depth (.arr items), rest)
    | '{' :: rest =>
      match skipSpace rest with
      | '}' :: rest => some (nested depth (.obj []), rest)
      | rest =>
        (readFields fuel (depth - 1) rest).map fun (fields, rest) =>
          (nested depth (ofFields fields), rest)
    | cs =>
      match afterToken? "null" cs, afterToken? "true" cs, afterToken? "false" cs with
      | some rest, _, _ => some (.null, rest)
      | _, some rest, _ => some (.bool true, rest)
      | _, _, some rest => some (.bool false, rest)
      | _, _, _ => readNumber cs
termination_by structural fuel => fuel

/-- Reads the items of an array up to its closing bracket. -/
def readItems : (fuel depth : Nat) → List Char → Option (List Document × List Char)
  | 0, _, _ => none
  | fuel + 1, depth, cs => do
    let (item, rest) ← readValue fuel depth cs
    match skipSpace rest with
    | ']' :: rest => some ([item], rest)
    | ',' :: rest => (readItems fuel depth rest).map fun (items, rest) => (item :: items, rest)
    | _ => none
termination_by structural fuel => fuel

/-- Reads the fields of an object up to its closing brace. -/
def readFields :
    (fuel depth : Nat) → List Char → Option (List (Option String × Document) × List Char)
  | 0, _, _ => none
  | fuel + 1, depth, cs =>
    match skipSpace cs with
    | '"' :: rest => do
      let (name, rest) ← readString rest
      match skipSpace rest with
      | ':' :: rest =>
        let (value, rest) ← readValue fuel depth rest
        let field := (name, value)
        match skipSpace rest with
        | '}' :: rest => some ([field], rest)
        | ',' :: rest =>
          (readFields fuel depth rest).map fun (fields, rest) => (field :: fields, rest)
        | _ => none
      | _ => none
    | _ => none
termination_by structural fuel => fuel

end

/-- How deep a document may nest. -/
def maxDepth : Nat := 127

/-- Reads a whole text as one document, flawed where it nests more than `depth` deep. -/
def readWithin? (depth : Nat) (text : String) : Option Document :=
  let cs := text.toList
  match readValue (2 * cs.length + 2) depth cs with
  | some (document, rest) => if (skipSpace rest).isEmpty then some document else none
  | none => none

/-- Reads a whole text as one document. -/
def read? (text : String) : Option Document := readWithin? maxDepth text

end TelemetryAutomation.Document
