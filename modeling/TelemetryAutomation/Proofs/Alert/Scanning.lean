import TelemetryAutomation.Proofs.Alert.Placeholders

/-!
# Scanning a template

A template need not be cut into pieces before it is rendered. A scanner finds the next two opening braces,
puts out what stands before them, and goes on behind the placeholder that they open, or behind the braces. It
works with offsets in bytes, and a cut at an offset inside a character gives nothing.

In every turn the scanner keeps what it has put out together with what is left to render, and less is left
(`turn_cases`). So it ends on every template, never cuts inside a character, and renders the pieces of the
template (`scan_eq`).

Main result: `render_splits`.
-/

namespace TelemetryAutomation

/-! ## Offsets -/

namespace Text

/-- The number of bytes of a text. -/
def bytes (cs : List Char) : Nat := (String.ofList cs).utf8ByteSize

/-- Cuts a text at an offset in bytes, which has to lie between two characters. -/
def cutAt? (offset : Nat) (cs : List Char) : Option (List Char × List Char) :=
  if h : String.Pos.Raw.IsValid (String.ofList cs) ⟨offset⟩ then
    let place : (String.ofList cs).Pos := ⟨⟨offset⟩, h⟩
    some (((String.ofList cs).sliceTo place).copy.toList, ((String.ofList cs).sliceFrom place).copy.toList)
  else none

theorem bytes_append (front back : List Char) : bytes (front ++ back) = bytes front + bytes back := by
  rw [bytes, String.ofList_append, String.utf8ByteSize_append]
  rfl

/-- The end of a front part is a place to cut. -/
theorem cutAt?_append (front back : List Char) :
    cutAt? (bytes front) (front ++ back) = some (front, back) := by
  have hvalid : String.Pos.Raw.IsValid (String.ofList (front ++ back)) ⟨bytes front⟩ :=
    String.Pos.Raw.isValid_iff_exists_append.mpr
      ⟨.ofList front, .ofList back, String.ofList_append, rfl⟩
  have hsplits : (⟨⟨bytes front⟩, hvalid⟩ : (String.ofList (front ++ back)).Pos).Splits
      (.ofList front) (.ofList back) := ⟨String.ofList_append, rfl⟩
  rw [cutAt?, dif_pos hvalid]
  dsimp only
  rw [(String.Pos.splits _).eq_left hsplits, (String.Pos.splits _).eq_right hsplits, String.toList_ofList,
    String.toList_ofList]

end Text

/-! ## The scanner -/

namespace Template

/-- The offset of the first two opening braces that stand side by side. -/
def bracesAt? : List Char → Option Nat
  | [] => none
  | '\x7b' :: '\x7b' :: _ => some 0
  | c :: rest => (bracesAt? rest).map (Text.bytes [c] + ·)

/-- What stands behind two closing braces at the start of a text. -/
def closed? : List Char → Option (List Char)
  | '\x7d' :: '\x7d' :: after => some after
  | _ => none

/-- Reads a placeholder at the start of a text; gives its path and the number of its bytes. -/
def placeholderAt? (text : List Char) : Option (Option (List Char × Nat)) :=
  match text with
  | '\x7b' :: '\x7b' :: inner => do
    let inner := Text.trimStart inner
    let (path, rest) ← Text.cutAt? (Text.bytes (inner.takeWhile isPathChar)) inner
    if path.isEmpty then return none
    match closed? (Text.trimStart rest) with
    | some after => return some (path, Text.bytes text - Text.bytes after)
    | none => return none
  | _ => return none

/-- A scanner has put out a part of the result, and the rest of the template is left. -/
structure Scanner where
  rendered : List Char
  rest : List Char

/-- What comes of a turn. -/
inductive Turn
  | goesOn (scanner : Scanner)
  | ends (result : List Char)

namespace Scanner

variable (context : Json)

/-- One turn of the scanner; none if it would cut inside a character. -/
def turn (scanner : Scanner) : Option Turn :=
  match bracesAt? scanner.rest with
  | none => return .ends (scanner.rendered ++ scanner.rest)
  | some start => do
    let (before, candidate) ← Text.cutAt? start scanner.rest
    match ← placeholderAt? candidate with
    | some (path, consumed) =>
      let (_, rest) ← Text.cutAt? consumed candidate
      let value := (valueText (context.lookupChars path)).toList
      return .goesOn ⟨scanner.rendered ++ before ++ value, rest⟩
    | none =>
      let (_, rest) ← Text.cutAt? 2 candidate
      return .goesOn ⟨scanner.rendered ++ before ++ ['\x7b', '\x7b'], rest⟩

/-- The result of a scanner that ends within a number of turns. -/
def scan : Nat → Scanner → Option (List Char)
  | 0, _ => none
  | turns + 1, scanner => do
    match ← scanner.turn context with
    | .goesOn scanner => scan turns scanner
    | .ends result => return result

end Scanner

/-! ## What the scanner does -/

variable {context : Json}

/-- The scanner copies what stands before two opening braces, as the pieces do. -/
theorem bracesAt?_cases (context : Json) (cs : List Char) :
    (bracesAt? cs = none ∧ (pieces cs).flatMap (Piece.render context) = cs) ∨
      ∃ before rest, cs = before ++ '\x7b' :: '\x7b' :: rest ∧
        bracesAt? cs = some (Text.bytes before) ∧
        (pieces cs).flatMap (Piece.render context) =
          before ++ (pieces ('\x7b' :: '\x7b' :: rest)).flatMap (Piece.render context) := by
  fun_induction bracesAt? cs with
  | case1 => exact .inl ⟨rfl, by rw [pieces]; rfl⟩
  | case2 rest => exact .inr ⟨[], rest, rfl, rfl, rfl⟩
  | case3 c rest hbraces ih =>
    have hpieces : pieces (c :: rest) = .literal [c] :: pieces rest := by
      rw [pieces]
      exact hbraces
    rw [hpieces, List.flatMap_cons]
    rcases ih with ⟨hnone, hrest⟩ | ⟨before, more, rfl, hsome, hrest⟩
    · exact .inl ⟨by rw [hnone]; rfl, by rw [hrest]; rfl⟩
    · refine .inr ⟨c :: before, more, rfl, ?_, by rw [hrest]; rfl⟩
      rw [hsome, Option.map_some, ← Text.bytes_append]
      rfl

theorem closed?_eq_some_iff {cs after : List Char} :
    closed? cs = some after ↔ cs = '\x7d' :: '\x7d' :: after := by
  refine ⟨fun h => ?_, fun h => h ▸ rfl⟩
  unfold closed? at h
  split at h
  · rw [Option.some.inj h]
  · cases h

theorem readPlaceholder_eq (inner : List Char) :
    readPlaceholder inner =
      if ((Text.trimStart inner).takeWhile isPathChar).isEmpty then none
      else (closed? (Text.trimStart ((Text.trimStart inner).dropWhile isPathChar))).map fun after =>
        ((Text.trimStart inner).takeWhile isPathChar, after) := by
  unfold readPlaceholder
  dsimp only
  cases hclosed : closed? (Text.trimStart ((Text.trimStart inner).dropWhile isPathChar)) with
  | some after =>
    rw [closed?_eq_some_iff.mp hclosed]
    rfl
  | none =>
    have hnone (after : List Char) :
        Text.trimStart ((Text.trimStart inner).dropWhile isPathChar) ≠ '\x7d' :: '\x7d' :: after := by
      intro hclosing
      rw [closed?_eq_some_iff.mpr hclosing] at hclosed
      cases hclosed
    split
    · rfl
    · split
      · next after hclosing => exact absurd hclosing (hnone after)
      · rfl

theorem placeholderAt?_braces (inner : List Char) :
    placeholderAt? ('\x7b' :: '\x7b' :: inner) =
      some ((readPlaceholder inner).map fun (path, after) =>
        (path, Text.bytes ('\x7b' :: '\x7b' :: inner) - Text.bytes after)) := by
  have hcut : Text.cutAt? (Text.bytes ((Text.trimStart inner).takeWhile isPathChar)) (Text.trimStart inner) =
      some ((Text.trimStart inner).takeWhile isPathChar, (Text.trimStart inner).dropWhile isPathChar) := by
    have hboth := Text.cutAt?_append ((Text.trimStart inner).takeWhile isPathChar)
      ((Text.trimStart inner).dropWhile isPathChar)
    rwa [List.takeWhile_append_dropWhile] at hboth
  rw [readPlaceholder_eq]
  unfold placeholderAt?
  simp only [hcut, Option.bind_eq_bind, Option.bind_some]
  split
  · rfl
  · cases closed? (Text.trimStart ((Text.trimStart inner).dropWhile isPathChar)) with
    | some after => rfl
    | none => rfl

namespace Scanner

/-- A turn keeps what is put out and what is left to render, and leaves less. -/
theorem turn_cases (context : Json) (scanner : Scanner) :
    scanner.turn context =
        some (.ends (scanner.rendered ++ (pieces scanner.rest).flatMap (Piece.render context))) ∨
      ∃ next : Scanner, scanner.turn context = some (.goesOn next) ∧
        next.rest.length < scanner.rest.length ∧
        next.rendered ++ (pieces next.rest).flatMap (Piece.render context) =
          scanner.rendered ++ (pieces scanner.rest).flatMap (Piece.render context) := by
  obtain ⟨rendered, rest⟩ := scanner
  rcases bracesAt?_cases context rest with ⟨hnone, hpieces⟩ | ⟨before, inner, rfl, hsome, hpieces⟩
  · left
    rw [turn, hnone, hpieces]
    rfl
  right
  have hcut := Text.cutAt?_append before ('\x7b' :: '\x7b' :: inner)
  have hread := placeholderAt?_braces inner
  dsimp only
  rw [hpieces, pieces]
  cases hplaceholder : readPlaceholder inner with
  | none =>
    rw [hplaceholder, Option.map_none] at hread
    have hskip : Text.cutAt? 2 ('\x7b' :: '\x7b' :: inner) = some (['\x7b', '\x7b'], inner) :=
      Text.cutAt?_append ['\x7b', '\x7b'] inner
    refine ⟨⟨rendered ++ before ++ ['\x7b', '\x7b'], inner⟩, ?_, ?_, ?_⟩
    · simp [turn, hsome, hcut, hread, hskip]
    · simp only [List.length_append, List.length_cons]
      omega
    · simp [Piece.render]
  | some found =>
    obtain ⟨path, after⟩ := found
    obtain ⟨body, -, rfl⟩ := body_of_readPlaceholder hplaceholder
    have hskip : Text.cutAt? (Text.bytes ('\x7b' :: '\x7b' :: (body ++ after)) - Text.bytes after)
        ('\x7b' :: '\x7b' :: (body ++ after)) = some ('\x7b' :: '\x7b' :: body, after) := by
      rw [← List.cons_append, ← List.cons_append, Text.bytes_append, Nat.add_sub_cancel]
      exact Text.cutAt?_append _ _
    rw [hplaceholder, Option.map_some] at hread
    refine ⟨⟨rendered ++ before ++ (valueText (context.lookupChars path)).toList, after⟩, ?_, ?_, ?_⟩
    · simp [turn, hsome, hcut, hread, hskip]
    · simp only [List.length_append, List.length_cons]
      omega
    · simp [Piece.render]

theorem scan_eq {scanner : Scanner} {turns : Nat} (hturns : scanner.rest.length < turns) :
    scan context turns scanner =
      some (scanner.rendered ++ (pieces scanner.rest).flatMap (Piece.render context)) := by
  induction turns generalizing scanner with
  | zero => exact absurd hturns (Nat.not_lt_zero _)
  | succ turns ih =>
    rcases scanner.turn_cases context with hends | ⟨next, hnext, hless, hsame⟩
    · simp [scan, hends]
    · have hrest := @ih next (by omega)
      rw [scan, hnext, ← hsame, ← hrest]
      rfl

end Scanner

/-! ## Pieces -/

/-- What the pieces take for placeholders are placeholders. -/
theorem placeholder_of_mem_pieces {cs source path : List Char} (h : .placeholder source path ∈ pieces cs) :
    Placeholder path source := by
  fun_induction pieces cs with
  | case1 => cases h
  | case2 rest path' after hread ih =>
    rcases List.mem_cons.mp h with heq | hmore
    · obtain ⟨hsource, rfl⟩ := Piece.placeholder.inj heq
      obtain ⟨body, hbody, rfl⟩ := body_of_readPlaceholder hread
      refine ⟨body, hbody, ?_⟩
      have hlength : ('\x7b' :: '\x7b' :: (body ++ after)).length - after.length =
          ('\x7b' :: '\x7b' :: body).length := by
        simp only [List.length_cons, List.length_append]
        omega
      rw [hsource, hlength, ← List.cons_append, ← List.cons_append, List.take_left]
    · exact ih hmore
  | case3 rest hread ih =>
    rcases List.mem_cons.mp h with heq | hmore
    · cases heq
    · exact ih hmore
  | case4 c rest hbraces ih =>
    rcases List.mem_cons.mp h with heq | hmore
    · cases heq
    · exact ih hmore

/-- **Values are never looked at again.** A template is cut into literal pieces and placeholders in one way,
whatever it is rendered with. With any values, literal pieces stay and each placeholder becomes the value at its
path, so a text that looks like a placeholder itself is put in as it is. Scanning the template with offsets
in bytes gives the same: it ends, and every cut lies between two characters. -/
theorem render_splits (template : String) :
    ∃ parts : List Piece,
      parts.flatMap Piece.source = template.toList ∧
      (∀ source path, .placeholder source path ∈ parts → Placeholder path source) ∧
      ∀ context : Json,
        (render template context).toList = parts.flatMap (Piece.render context) ∧
        Scanner.scan context (template.length + 1) ⟨[], template.toList⟩ =
          some (render template context).toList ∧
        ∀ front source path back value, parts = front ++ .placeholder source path :: back →
          context.lookup (.ofList path) = some (.str value) →
          (render template context).toList =
            front.flatMap (Piece.render context) ++
              (value.toList ++ back.flatMap (Piece.render context)) := by
  refine ⟨pieces template.toList, source_pieces _, fun _ _ => placeholder_of_mem_pieces, fun context => ?_⟩
  have hrender : (render template context).toList =
      (pieces template.toList).flatMap (Piece.render context) := by
    rw [render, String.toList_ofList]
  refine ⟨hrender, ?_, ?_⟩
  · have hlength : template.toList.length < template.length + 1 := by
      rw [String.length_toList]
      exact Nat.lt_succ_self _
    rw [Scanner.scan_eq hlength, hrender]
    rfl
  · intro front source path back value hparts hvalue
    rw [Json.lookup, String.toList_ofList] at hvalue
    rw [hrender, hparts, List.flatMap_append, List.flatMap_cons, Piece.render, hvalue, valueText]

end Template

end TelemetryAutomation
