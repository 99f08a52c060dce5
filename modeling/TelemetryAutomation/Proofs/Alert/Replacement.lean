import Mathlib.Algebra.Group.Nat.Even
import TelemetryAutomation.Proofs.Alert.Placeholders
import TelemetryAutomation.Proofs.Json.Path

/-!
# Replacing placeholders

To replace the placeholders of a text, read it from left to right: a placeholder that starts here is replaced
by its value and passed as a whole, and any other character is copied. `Replaced` says this, for the
placeholders that count as such where they stand.

Templates are rendered in this way, but a placeholder counts only behind an even number of further opening
braces: braces that open no placeholder are passed two at a time. So rendering replaces all placeholders just
in those templates where none stands behind an odd number of them (`render_replaces`).
-/

namespace TelemetryAutomation

namespace Template

/-! ## Opening braces -/

/-- The number of opening braces at the end of a text. -/
def braces (before : List Char) : Nat := (before.reverse.takeWhile (· = '\x7b')).length

@[simp] theorem braces_concat_brace (before : List Char) :
    braces (before ++ ['\x7b']) = braces before + 1 := by
  simp [braces]

theorem braces_concat_of_ne (before : List Char) {c : Char} (h : c ≠ '\x7b') :
    braces (before ++ [c]) = 0 := by
  simp [braces, h]

/-- A placeholder ends with closing braces. -/
theorem braces_append_placeholder (before : List Char) {path source : List Char}
    (h : Placeholder path source) : braces (before ++ source) = 0 := by
  obtain ⟨_, ⟨⟩, rfl⟩ := h
  simp [braces]

/-- Behind an even number of opening braces. -/
def BehindPairs (before : List Char) : Prop := Even (braces before)

/-! ## Replacement -/

section

variable (context : Json) (counts : List Char → Prop)

/-- A text is what comes of another one if the placeholders that count are replaced; whether one does may
depend on what stands before it. -/
inductive Replaced : (before text result : List Char) → Prop
  | done {before : List Char} : Replaced before [] []
  | put {before text path source rest result : List Char} (htext : text = source ++ rest)
      (hsource : Placeholder path source) (hcounts : counts before)
      (hrest : Replaced (before ++ source) rest result) :
      Replaced before text ((valueText (context.lookupChars path)).toList ++ result)
  | copy {before rest result : List Char} {c : Char}
      (hnone : ∀ path source more, c :: rest = source ++ more → Placeholder path source → ¬ counts before)
      (hrest : Replaced (before ++ [c]) rest result) : Replaced before (c :: rest) (c :: result)

end

variable {context : Json} {counts : List Char → Prop}
  {before text rest path source result result' : List Char}

/-- There is only one way to replace placeholders. -/
theorem Replaced.unique (h : Replaced context counts before text result)
    (h' : Replaced context counts before text result') : result = result' := by
  induction h generalizing result' with
  | done =>
    cases h' with
    | done => rfl
    | put htext hsource =>
      obtain ⟨body, -, rfl⟩ := hsource
      cases htext
  | put htext hsource hcounts hrest ih =>
    cases h' with
    | done =>
      obtain ⟨body, -, rfl⟩ := hsource
      cases htext
    | put htext' hsource' _ hrest' =>
      obtain ⟨rfl, rfl, rfl⟩ := hsource.unique hsource' (htext.symm.trans htext')
      rw [ih hrest']
    | copy hnone => exact absurd hcounts (hnone _ _ _ htext hsource)
  | copy hnone hrest ih =>
    cases h' with
    | put htext hsource hcounts => exact absurd hcounts (hnone _ _ _ htext hsource)
    | copy _ hrest' => rw [ih hrest']

/-! ## Rendering -/

/-- Rendering replaces the placeholders behind pairs of braces, if it starts behind pairs of braces or at
another character. -/
theorem replaced_pieces (context : Json) (before cs : List Char)
    (hstart : BehindPairs before ∨ ∀ rest, cs ≠ '\x7b' :: rest) :
    Replaced context BehindPairs before cs ((pieces cs).flatMap (Piece.render context)) := by
  fun_induction pieces cs generalizing before with
  | case1 => exact .done
  | case2 rest path after hread ih =>
    have hpairs : BehindPairs before := hstart.resolve_right fun h => h _ rfl
    obtain ⟨body, hbody, rfl⟩ := body_of_readPlaceholder hread
    have hsource : Placeholder path ('\x7b' :: '\x7b' :: body) := ⟨body, hbody, rfl⟩
    refine .put rfl hsource hpairs (ih _ (.inl ?_))
    rw [BehindPairs, braces_append_placeholder before hsource]
    exact Even.zero
  | case3 rest hread ih =>
    have hpairs : BehindPairs before := hstart.resolve_right fun h => h _ rfl
    refine .copy ?_ (.copy ?_ (ih _ (.inl ?_)))
    · rintro path source more htext ⟨body, hbody, rfl⟩
      have hrest : rest = body ++ more := by simpa using htext
      rw [hrest, readPlaceholder_of_body hbody more] at hread
      cases hread
    · intro path source more _ _
      rw [BehindPairs, braces_concat_brace, Nat.even_add_one, not_not]
      exact hpairs
    · rw [BehindPairs, braces_concat_brace, braces_concat_brace, Nat.even_add_one, Nat.even_add_one, not_not]
      exact hpairs
  | case4 c rest hbraces ih =>
    refine .copy ?_ (ih _ ?_)
    · rintro path source more htext ⟨body, -, rfl⟩
      obtain ⟨rfl, hrest⟩ := List.cons.inj htext
      exact (hbraces _ rfl hrest).elim
    · by_cases hc : c = '\x7b'
      · exact .inr fun rest' hrest => hbraces rest' hc hrest
      · refine .inl ?_
        rw [BehindPairs, braces_concat_of_ne before hc]
        exact Even.zero

/-- A rendered template is its text with the placeholders behind pairs of braces replaced. -/
theorem replaced_iff_eq_render (template : String) :
    Replaced context BehindPairs [] template.toList result ↔ result = (render template context).toList := by
  have hrender : Replaced context BehindPairs [] template.toList (render template context).toList := by
    rw [render, String.toList_ofList]
    exact replaced_pieces context [] template.toList (.inl Even.zero)
  refine ⟨fun h => h.unique hrender, ?_⟩
  rintro rfl
  exact hrender

/-! ## Placeholders that do not count -/

namespace Replaced

variable {counts' : List Char → Prop}

/-- It only matters which of the placeholders in the text count. -/
theorem congr (h : Replaced context counts before text result)
    (hcounts : ∀ front path source back, text = front ++ (source ++ back) → Placeholder path source →
      (counts (before ++ front) ↔ counts' (before ++ front))) :
    Replaced context counts' before text result := by
  induction h with
  | done => exact .done
  | @put before text path source rest result htext hsource hhere hrest ih =>
    have hhere' : counts' before := by simpa [hhere] using hcounts [] path source rest htext hsource
    refine .put htext hsource hhere' (ih ?_)
    intro front path' source' back hback hsource'
    rw [List.append_assoc]
    exact hcounts _ path' source' back (by rw [htext, hback, List.append_assoc]) hsource'
  | @copy before rest result c hnone hrest ih =>
    refine .copy ?_ (ih ?_)
    · intro path source more htext hsource hhere'
      have hhere : counts before := by simpa [hhere'] using hcounts [] path source more htext hsource
      exact hnone path source more htext hsource hhere
    · intro front path source back hback hsource
      rw [List.append_assoc]
      exact hcounts (c :: front) path source back (by rw [hback]; rfl) hsource

/-- Where no placeholder starts, the text is copied. -/
theorem of_brace_not_mem {copied : List Char} (hcopied : '\x7b' ∉ copied)
    (h : Replaced context counts before (copied ++ rest) result) :
    ∃ more, result = copied ++ more ∧ Replaced context counts (before ++ copied) rest more := by
  induction copied generalizing before result with
  | nil => exact ⟨result, rfl, by simpa using h⟩
  | cons c copied ih =>
    obtain ⟨hc, hcopied⟩ := not_or.mp (mt List.mem_cons.mpr hcopied)
    cases h with
    | put htext hsource =>
      obtain ⟨body, -, rfl⟩ := hsource
      exact absurd (List.cons.inj htext).1.symm hc
    | copy _ hrest =>
      obtain ⟨more, rfl, hmore⟩ := ih hcopied hrest
      exact ⟨more, rfl, by simpa using hmore⟩

/-- A placeholder that does not count is copied. -/
theorem of_not_counts (hsource : Placeholder path source) (hcounts : ¬ counts before)
    (h : Replaced context counts before (source ++ rest) result) :
    ∃ more, result = source ++ more ∧ Replaced context counts (before ++ source) rest more := by
  obtain ⟨body, hbody, rfl⟩ := hsource
  cases h with
  | put _ _ hhere => exact absurd hhere hcounts
  | copy _ hrest =>
    cases hrest with
    | put htext hsource' =>
      -- behind the first brace stands only one more
      obtain ⟨body', -, rfl⟩ := hsource'
      obtain ⟨c, tail, rfl, hc⟩ := hbody.head
      exact absurd (List.cons.inj (List.cons.inj htext).2).1 hc
    | copy _ hrest =>
      obtain ⟨more, rfl, hmore⟩ := hrest.of_brace_not_mem hbody.brace_not_mem
      exact ⟨more, rfl, by simpa using hmore⟩

end Replaced

/-- No value is found in `null`, so every placeholder is replaced by nothing. -/
theorem valueText_null (path : List Char) : valueText (Json.null.lookupChars path) = "" := by
  by_cases hpath : path = []
  · rw [hpath]
    rfl
  · rw [Json.lookupChars_of_ne_nil _ hpath]
    obtain ⟨first, more, hpieces⟩ := List.exists_cons_of_ne_nil (Text.pieces_ne_nil '.' path)
    rw [hpieces, Json.follow_cons]
    rfl

/-- If values are empty, then a text becomes shorter with every placeholder that counts. -/
theorem Replaced.counts_of_eq (h : Replaced .null (fun _ => True) before text result)
    (h' : Replaced .null counts before text result') :
    result.length ≤ result'.length ∧
      (result = result' → ∀ front path source back, text = front ++ (source ++ back) →
        Placeholder path source → counts (before ++ front)) := by
  induction h generalizing result' with
  | done =>
    refine ⟨Nat.zero_le _, fun _ front path source back htext hsource => ?_⟩
    obtain ⟨body, -, rfl⟩ := hsource
    simp at htext
  | @put before text path source rest result htext hsource _ hrest ih =>
    rw [valueText_null, String.toList_empty, List.nil_append]
    by_cases hhere : counts before
    · cases h' with
      | done =>
        obtain ⟨body, -, rfl⟩ := hsource
        cases htext
      | copy hnone => exact absurd hhere (hnone _ _ _ htext hsource)
      | put htext' hsource' _ hrest' =>
        obtain ⟨rfl, rfl, rfl⟩ := hsource.unique hsource' (htext.symm.trans htext')
        rw [valueText_null, String.toList_empty, List.nil_append]
        obtain ⟨hlength, hcounts⟩ := ih hrest'
        refine ⟨hlength, fun heq front path' source' back hback hsource' => ?_⟩
        rw [htext] at hback
        by_cases hfront : front = []
        · simpa [hfront] using hhere
        · obtain ⟨front', rfl⟩ := hsource.exists_of_append hsource' hback hfront
          rw [← List.append_assoc]
          exact hcounts heq front' path' source' back (by simpa using hback) hsource'
    · subst htext
      obtain ⟨more, rfl, hmore⟩ := h'.of_not_counts hsource hhere
      obtain ⟨hlength, -⟩ := ih hmore
      have hpos : 0 < source.length := by
        obtain ⟨body, -, rfl⟩ := hsource
        exact Nat.succ_pos _
      rw [List.length_append]
      refine ⟨by omega, ?_⟩
      rintro rfl
      rw [List.length_append] at hlength
      omega
  | @copy before rest result c hnone hrest ih =>
    cases h' with
    | put htext hsource => exact absurd trivial (hnone _ _ _ htext hsource)
    | copy _ hrest' =>
      obtain ⟨hlength, hcounts⟩ := ih hrest'
      refine ⟨Nat.succ_le_succ hlength, fun heq front path source back htext hsource => ?_⟩
      cases front with
      | nil => exact absurd trivial (hnone path source back htext hsource)
      | cons c' front =>
        obtain ⟨rfl, hrest⟩ := List.cons.inj htext
        simpa using hcounts (List.cons.inj heq).2 front path source back hrest hsource

/-- **Rendering replaces placeholders.** The placeholders of a template that stand behind an even number of
opening braces are replaced from left to right by the values at their paths, and all other text is copied.
This is the replacement of all placeholders, whatever the values, just if no placeholder of the template
stands behind an odd number of opening braces. -/
theorem render_replaces (template : String) :
    (∀ context result, Replaced context BehindPairs [] template.toList result ↔
      result = (render template context).toList) ∧
    ((∀ context, Replaced context (fun _ => True) [] template.toList (render template context).toList) ↔
      ∀ front path source back, template.toList = front ++ (source ++ back) →
        Placeholder path source → BehindPairs front) := by
  refine ⟨fun context result => replaced_iff_eq_render template, fun hall => ?_, fun hpairs context => ?_⟩
  · have hrender : Replaced .null BehindPairs [] template.toList (render template .null).toList :=
      (replaced_iff_eq_render template).mpr rfl
    exact ((hall .null).counts_of_eq hrender).2 rfl
  · have hrender : Replaced context BehindPairs [] template.toList (render template context).toList :=
      (replaced_iff_eq_render template).mpr rfl
    refine hrender.congr fun front path source back htext hsource => ?_
    simpa using hpairs front path source back htext hsource

end Template

namespace Sample

/-- A document with one number. -/
def seven : Json := .object [("i", .ofInt64 7)]

/-- A template with a placeholder behind one more brace. -/
def tripleBrace : String := "\x7b\x7b\x7bi\x7d\x7d"

end Sample

/-- Behind a single brace, a placeholder is not replaced. -/
theorem Template.render_tripleBrace :
    render Sample.tripleBrace Sample.seven = Sample.tripleBrace ∧
      Replaced Sample.seven (fun _ => True) [] Sample.tripleBrace.toList ['\x7b', '7'] ∧
      ¬ Replaced Sample.seven (fun _ => True) [] Sample.tripleBrace.toList
        (render Sample.tripleBrace Sample.seven).toList := by
  have hrender : render Sample.tripleBrace Sample.seven = Sample.tripleBrace := by decide +kernel
  have hplaceholder : Placeholder ['i'] ['\x7b', '\x7b', 'i', '\x7d', '\x7d'] :=
    ⟨_, .mk (List.forall_mem_nil _) (List.cons_ne_nil _ _) (List.forall_mem_singleton.mpr rfl)
      (List.forall_mem_nil _), rfl⟩
  have hreplaced : Replaced Sample.seven (fun _ => True) [] Sample.tripleBrace.toList ['\x7b', '7'] := by
    refine .copy ?_ (.put (List.append_nil _).symm hplaceholder trivial .done)
    rintro path source more htext ⟨body, hbody, rfl⟩
    obtain ⟨c, tail, rfl, hc⟩ := hbody.head
    exact absurd (List.cons.inj (List.cons.inj (List.cons.inj htext).2).2).1.symm hc
  refine ⟨hrender, hreplaced, fun h => ?_⟩
  have heq := h.unique hreplaced
  rw [hrender] at heq
  exact absurd heq (by decide)

end TelemetryAutomation
