import TelemetryAutomation.Json.Path
import TelemetryAutomation.Json.Printer
import TelemetryAutomation.Text.Blank

/-!
# Templates

A template is a text with placeholders, written as a path between double braces. It is cut into
literal pieces and placeholders once, whatever it is rendered with; values are put in as they are and
never looked at again.

Where double braces open no placeholder, they stand for themselves, and the search goes on behind
them.

* `source_pieces`: the pieces of a template make up the template
-/

namespace TelemetryAutomation.Template

/-- A part of a template. -/
inductive Piece
  | literal (text : List Char)
  /-- A placeholder for the value at a path, with the text that writes it. -/
  | placeholder (source path : List Char)
deriving DecidableEq

/-- The text that a piece stands for in its template. -/
def Piece.source : Piece → List Char
  | literal text => text
  | placeholder source _ => source

/-- The characters of paths in placeholders. -/
def isPathChar (c : Char) : Bool :=
  Text.isPlainAlphanumeric c || c = '_' || c = '.' || c = '-'

/-- Reads a placeholder behind its opening braces; gives the path and the rest of the text. -/
def readPlaceholder (cs : List Char) : Option (List Char × List Char) :=
  let inner := Text.trimStart cs
  let path := inner.takeWhile isPathChar
  if path.isEmpty then none
  else
    match Text.trimStart (inner.dropWhile isPathChar) with
    | '\x7d' :: '\x7d' :: rest => some (path, rest)
    | _ => none

/-- What is left after a placeholder is the end of the text. -/
theorem suffix_of_readPlaceholder {cs path rest : List Char}
    (h : readPlaceholder cs = some (path, rest)) :
    ∃ read : List Char, cs = read ++ rest ∧ read ≠ [] := by
  simp only [readPlaceholder] at h
  split at h
  · contradiction
  · split at h
    · next rest' hr =>
      simp only [Option.some.injEq, Prod.mk.injEq] at h
      obtain ⟨-, rfl⟩ := h
      obtain ⟨blanks, hblanks⟩ := List.dropWhile_suffix (l := cs) Text.isBlank
      obtain ⟨path', hpath⟩ := List.dropWhile_suffix (l := Text.trimStart cs) isPathChar
      obtain ⟨blanks', hblanks'⟩ :=
        List.dropWhile_suffix (l := (Text.trimStart cs).dropWhile isPathChar) Text.isBlank
      refine ⟨blanks ++ path' ++ blanks' ++ ['\x7d', '\x7d'], ?_, by simp⟩
      have hr' : ((Text.trimStart cs).dropWhile isPathChar).dropWhile Text.isBlank = _ := hr
      have ht : Text.trimStart cs = cs.dropWhile Text.isBlank := rfl
      rw [← hblanks, ← ht, ← hpath, ← hblanks', hr']
      simp
    · contradiction

/-- Reading a placeholder leaves less than it was given. -/
theorem length_readPlaceholder_lt {cs path rest : List Char}
    (h : readPlaceholder cs = some (path, rest)) : rest.length < cs.length := by
  obtain ⟨read, rfl, hread⟩ := suffix_of_readPlaceholder h
  have := List.length_pos_iff.mpr hread
  simp only [List.length_append]
  omega

/-- Cuts a template into pieces; literal pieces are single characters or opening braces. -/
def pieces (cs : List Char) : List Piece :=
  match cs with
  | [] => []
  | '\x7b' :: '\x7b' :: rest =>
    match _h : readPlaceholder rest with
    | some (path, after) =>
      .placeholder (cs.take (cs.length - after.length)) path :: pieces after
    | none => .literal ['\x7b', '\x7b'] :: pieces rest
  | c :: rest => .literal [c] :: pieces rest
termination_by cs.length
decreasing_by
  · have := length_readPlaceholder_lt (by assumption)
    simp only [List.length_cons]
    omega
  · simp only [List.length_cons]
    omega
  · simp only [List.length_cons]
    omega

/-- The pieces of a template make up the template. -/
theorem source_pieces (cs : List Char) : (pieces cs).flatMap Piece.source = cs := by
  fun_induction pieces cs with
  | case1 => rfl
  | case2 rest path after h ih =>
    obtain ⟨read, rfl, -⟩ := suffix_of_readPlaceholder h
    simp only [List.flatMap_cons, Piece.source, ih]
    have hlen : ('\x7b' :: '\x7b' :: (read ++ after)).length - after.length =
        ('\x7b' :: '\x7b' :: read).length := by
      simp only [List.length_cons, List.length_append]
      omega
    rw [hlen, ← List.cons_append, ← List.cons_append, List.take_left]
  | case3 rest h ih => simp [Piece.source, ih]
  | case4 c rest h ih => simp [Piece.source, ih]

/-- A value as it appears in a text: scalars as they are, collections as JSON. -/
def valueText : Option Json → String
  | some (.str s) => s
  | some (.bool b) => if b then "1" else ""
  | some (.num n) => n.text
  | some .null | none => ""
  | some value => value.text

/-- A piece with its value put in. -/
def Piece.render (context : Json) : Piece → List Char
  | literal text => text
  | placeholder _ path => (valueText (context.lookupChars path)).toList

/-- A template with all its values put in. -/
def render (template : String) (context : Json) : String :=
  .ofList ((pieces template.toList).flatMap (Piece.render context))

end TelemetryAutomation.Template
