import NodeApi.Document.Basic
import NodeApi.Proofs.Json.Repetition

/-!
# Rendered texts

A template may make any text.  What is handed out is a normal form of this text: it means the same,
in the same order, and to render it once more does not change it.

Main results:

- Theorem `layOut_print`: the text of a value is laid out as a text of the same value.
- Theorem `render_normalForm`: a rendered text is the one normal form of the text of its template.
-/

namespace NodeApi

open Json (Exact)

namespace Document

/-- The text of a value, in either layout, is laid out as a text of the same value. -/
theorem layOut_print {value : Json} (h : value.Exact) (hdepth : value.depth ≤ Json.maxDepth)
    (layout other : Json.Layout) :
    layOut layout (value.print other) = .ok (value.print layout) :=
  layOut_eq_ok_iff.2 ⟨value, h.read_print other hdepth, rfl⟩

/-- A template has its text handed out exactly if this text can be laid out over several lines. -/
theorem render_eq_ok_iff {d : Document} {template : Document → String} {out : String} :
    d.render template = (.ok out, []) ↔ layOut .pretty (template d) = .ok out := by
  unfold render
  split <;> rename_i h <;> simp [h]

theorem layOut_of_render {d : Document} {template : Document → String} {out : String}
    (h : (d.render template).1 = .ok out) : layOut .pretty (template d) = .ok out := by
  unfold render at h
  split at h
  · rename_i htext
    rw [htext, Except.ok.inj h]
  · cases h

/-- A rendered text is a normal form of the text that its template has made, if there is no floating
point number in it.  It is read as the same value, its members in the same order; of a key that the
template repeats it has the first place and the last value, and it repeats no key itself.  To render
it again, whatever the document and the template are, does not change it, and its compact text is
that of the template and is laid out as the rendered text again. -/
theorem render_normalForm (d : Document) (template : Document → String) {out : String}
    (h : (d.render template).1 = .ok out)
    (hintegral : ∀ value, Json.read (template d) = .ok value → value.integral = true) :
    ∃ written value,
      Json.readWritten (template d) = .ok written ∧ written.Settles value ∧
      Json.read (template d) = .ok value ∧ Json.read out = .ok value ∧
      Json.readWritten out = .ok value ∧ value.distinctKeys = true ∧ out = value.pretty ∧
      (∀ (d' : Document) (template' : Document → String), template' d' = out →
        d'.render template' = (.ok out, [])) ∧
      ∃ text, layOut .compact (template d) = .ok text ∧ layOut .compact out = .ok text ∧
        layOut .pretty text = .ok out := by
  rcases layOut_eq_ok_iff.1 (layOut_of_render h) with ⟨value, hread, rfl⟩
  have hexact : value.Exact := Json.exact_of_read hread (hintegral value hread)
  have hdepth : value.depth ≤ Json.maxDepth := Json.depth_le_of_read hread
  have hdistinct : value.distinctKeys = true := Json.distinctKeys_of_read hread
  -- what is written in the template's text is settled when it is read
  obtain ⟨written, hwritten, hsettled⟩ : ∃ written, Json.readWritten (template d) = .ok written ∧
      written.settled = value := map_eq_ok_iff.1 (Json.read_eq (template d) ▸ hread)
  have hsettles : written.Settles value := hsettled ▸ written.settles_settled
  refine ⟨written, value, hwritten, hsettles, hread, hexact.read_print .pretty hdepth,
    hexact.readWritten_print .pretty hdepth, hdistinct, rfl, ?_, value.compact, ?_, ?_, ?_⟩
  · intro d' template' htemplate
    rw [render_eq_ok_iff, htemplate]
    exact layOut_print hexact hdepth .pretty .pretty
  · exact layOut_eq_ok_iff.2 ⟨value, hread, rfl⟩
  · exact layOut_print hexact hdepth .compact .pretty
  · exact layOut_print hexact hdepth .pretty .compact

/-- A text with blanks, an escape and a key that comes up again. -/
theorem render_normalForm_repeatedKey :
    let text := "\x7b\"a\": 1, \"b\": [ ],\t\"a\": \"\\u0041\"\x7d"
    let out := "\x7b\n  \"a\": \"A\",\n  \"b\": []\n\x7d"
    let d := ofParts [] .builtin []
    Json.readWritten text =
        .ok (.object [("a", .number (.integer 1)), ("b", .array []), ("a", .string "A")]) ∧
      Json.read text = .ok (.object [("a", .string "A"), ("b", .array [])]) ∧
      (d.render fun _ => text).1 = .ok out ∧
      (∀ (d' : Document) (template' : Document → String), template' d' = out →
        d'.render template' = (.ok out, [])) ∧
      layOut .compact out = layOut .compact text := by
  intro text out d
  have hwritten : Json.readWritten text =
      .ok (.object [("a", .number (.integer 1)), ("b", .array []), ("a", .string "A")]) := by
    decide +kernel
  have hread : Json.read text = .ok (.object [("a", .string "A"), ("b", .array [])]) := by
    decide +kernel
  have hrender : (d.render fun _ => text).1 = .ok out := by decide +kernel
  have hintegral : ∀ value, Json.read text = .ok value → value.integral = true := by
    intro value hvalue
    rw [← Except.ok.inj (hread.symm.trans hvalue)]
    rfl
  rcases render_normalForm d (fun _ => text) hrender hintegral with
    ⟨_, _, _, _, _, _, _, _, _, hagain, compact, htext, hout, _⟩
  exact ⟨hwritten, hread, hrender, hagain, hout.trans htext.symm⟩

end Document
end NodeApi
