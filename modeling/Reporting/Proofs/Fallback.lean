import Reporting.Proofs.Directives
import Reporting.Proofs.Formatting

/-!
# Which date pattern is used

Of the patterns that a timestamp could take the first that is understood is used, and a timestamp
has a text exactly if no piece of this pattern asks for a time zone (`formatTimestamp_outcome`).
Whether a later pattern would have given a text is not looked at (`formatTimestamp_zoned`).
-/

namespace Reporting.Locale

open Calendar (Directive Pattern Timestamp)
open Calendar.Pattern (Pieces zoneParts)

/-- The patterns in the order they are tried: the item's, the locale's, the fixed one. -/
def candidates (l : Locale) (t : DisplayType) (pattern : Option String) : List String :=
  ((given pattern).map directives).toList ++ [l.timestampPattern t, plainPattern]

/-- The pieces that a pattern is cut into. -/
def IsCut (s : String) (parts : List (List Char)) : Prop :=
  parts.flatten = s.toList ∧ ∃ p, Pieces parts p

def Understood (s : String) : Prop := ∃ parts, IsCut s parts

theorem ofText?_eq_none_iff {s : String} : Pattern.ofText? s = none ↔ ¬Understood s := by
  rw [Option.eq_none_iff_forall_ne_some]
  simp only [Pattern.ofText?, ne_eq, Calendar.Pattern.read?_eq_some_iff]
  constructor
  · rintro h ⟨parts, hparts, p, hpieces⟩
    exact h p ⟨parts, hparts, hpieces⟩
  · rintro h p ⟨parts, hparts, hpieces⟩
    exact h ⟨parts, hparts, p, hpieces⟩

theorem plainPattern_understood : ∃ p, Pattern.ofText? plainPattern = some p := ⟨_, rfl⟩

theorem findSome?_candidates (l : Locale) (t : DisplayType) (pattern : Option String) :
    (l.candidates t pattern).findSome? Pattern.ofText?
      = some (l.timestampDirectives t pattern) := by
  obtain ⟨plain, hplain⟩ := plainPattern_understood
  have hlocale : [l.timestampPattern t, plainPattern].findSome? Pattern.ofText?
      = some ((Pattern.ofText? (l.timestampPattern t)).getD plain) := by
    cases h : Pattern.ofText? (l.timestampPattern t) <;> simp [h, hplain]
  rw [candidates, timestampDirectives, hplain, List.findSome?_append, hlocale]
  cases given pattern with
  | none => rfl
  | some s => cases h : Pattern.ofText? (directives s) <;> simp [h]

/-- The first pattern that is understood is used. -/
theorem exists_used (l : Locale) (t : DisplayType) (pattern : Option String) :
    ∃ before used after, l.candidates t pattern = before ++ used :: after
      ∧ (∀ s ∈ before, ¬Understood s)
      ∧ Pattern.ofText? used = some (l.timestampDirectives t pattern) := by
  obtain ⟨before, used, after, hsplit, hused, hbefore⟩ :=
    List.findSome?_eq_some_iff.1 (l.findSome?_candidates t pattern)
  exact ⟨before, used, after, hsplit, fun s hs => ofText?_eq_none_iff.1 (hbefore s hs), hused⟩

theorem formatTimestamp_outcome (l : Locale) (t : DisplayType) (pattern : Option String) :
    ∃ before used after parts, l.candidates t pattern = before ++ used :: after
      ∧ (∀ s ∈ before, ¬Understood s) ∧ IsCut used parts
      ∧ ∀ ts, ((∃ text, l.formatTimestamp t pattern ts = .ok text) ↔ ∀ s ∈ parts, s ∉ zoneParts)
        ∧ (l.formatTimestamp t pattern ts = .error .zoneNeeded ↔ ∃ s ∈ parts, s ∈ zoneParts) := by
  obtain ⟨before, used, after, hsplit, hbefore, hused⟩ := l.exists_used t pattern
  obtain ⟨parts, hparts, hpieces⟩ := Calendar.Pattern.read?_eq_some_iff.1 hused
  refine ⟨before, used, after, parts, hsplit, hbefore, ⟨hparts, _, hpieces⟩, fun ts => ?_⟩
  have hzone := Calendar.Pattern.zone_mem_pieces hpieces
  by_cases h : Directive.zone ∈ l.timestampDirectives t pattern
  · have hpart := hzone.1 h
    have hfail : l.formatTimestamp t pattern ts = .error .zoneNeeded := by
      unfold formatTimestamp
      rw [Calendar.Pattern.render?_eq_none ts h]
    simpa [hfail] using hpart
  · have hpart := mt hzone.2 h
    obtain ⟨text, htext⟩ := Calendar.Pattern.exists_render (t := ts) h
    have hok : l.formatTimestamp t pattern ts = .ok text := by
      unfold formatTimestamp
      rw [htext]
    simpa [hok] using hpart

/-- The zone is not noticed before the pattern is used. -/
theorem formatTimestamp_zoned :
    ¬∃ text, ({} : Locale).formatTimestamp .date (some "%Z")
      (.midnight ⟨2024, 3, 1, by decide⟩) = .ok text := by
  have hfail : ({} : Locale).formatTimestamp .date (some "%Z")
      (.midnight ⟨2024, 3, 1, by decide⟩) = .error .zoneNeeded := by cbv
  rintro ⟨text, h⟩
  rw [hfail] at h
  cases h

end Reporting.Locale
