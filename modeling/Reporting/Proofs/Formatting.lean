import Reporting.Mapping.Formatting
import Reporting.Proofs.Except

/-!
# What formatting leaves alone

Formatting sets texts and keeps values (`value_mapping`). It fails only on a timestamp whose pattern
asks for a time zone (`exists_mapping`).
-/

namespace Reporting

open Calendar (Directive Pattern Timestamp)

theorem Calendar.Pattern.exists_render {t : Timestamp} {p : Pattern} (h : Directive.zone ∉ p) :
    ∃ s, p.render? t = some s := by
  have hparts : ∃ parts, p.mapM (renderDirective? t) = some parts := by
    induction p with
    | nil => exact ⟨[], rfl⟩
    | cons d p ih =>
      rw [List.mem_cons, not_or] at h
      obtain ⟨hd, hp⟩ := h
      obtain ⟨parts, hparts⟩ := ih hp
      obtain ⟨part, hpart⟩ : ∃ part, renderDirective? t d = some part := by
        cases d with
        | zone => exact absurd rfl hd
        | literal c => exact ⟨_, rfl⟩
        | number field pad => exact ⟨_, rfl⟩
        | text field => exact ⟨_, rfl⟩
      exact ⟨part :: parts, by rw [List.mapM_cons, hpart, hparts]; rfl⟩
  obtain ⟨parts, hparts⟩ := hparts
  exact ⟨_, by rw [render?, hparts]; rfl⟩

namespace Formatting

theorem value_format {item : Item} {l : Locale} {c c' : Cell} (h : format item l c = .ok c') :
    c'.value = c.value := by
  obtain ⟨text, -, h⟩ := bind_eq_ok.1 h
  cases h
  rfl

/-- Without a record, formatting only sets texts. -/
theorem value_mapping {context : CellContext} {c c' : Cell} (hr : context.record = none)
    (h : mapping context c = .ok c') : c'.value = c.value := by
  unfold mapping at h
  rw [hr] at h
  exact value_format h

theorem exists_mapping {context : CellContext} (hzone : context.item.displayType.isDate →
      Directive.zone ∉ context.locale.timestampDirectives context.item.displayType
        context.item.formatPattern) (c : Cell) :
    ∃ c', mapping context c = .ok c' := by
  have hvalue : ∃ text, valueText? context.item context.locale c.value = .ok text := by
    unfold valueText?
    split
    · rename_i t _
      split
      · rename_i hdate
        obtain ⟨s, hs⟩ := Calendar.Pattern.exists_render (t := t) (hzone hdate)
        exact ⟨some s, by rw [Locale.formatTimestamp, hs]; rfl⟩
      · exact ⟨_, rfl⟩
    · split <;> exact ⟨_, rfl⟩
    all_goals exact ⟨_, rfl⟩
  have hformat : ∃ c', format context.item context.locale c = .ok c' := by
    obtain ⟨text, htext⟩ := hvalue
    exact ⟨_, bind_eq_ok.2 ⟨text, htext, rfl⟩⟩
  unfold mapping
  split
  · split
    · exact ⟨_, rfl⟩
    · exact hformat
  · exact hformat

end Formatting

end Reporting
