import Reporting.Calendar.Pattern

/-!
# The language of date patterns

A date pattern is a row of pieces, each a character or a directive (`Piece`). Reading accepts
exactly these rows (`read?_eq_some_iff`), and the pieces that ask for a time zone are few
(`zone_mem_pieces`).
-/

namespace Reporting.Calendar.Pattern

section Letters

/-- The characters after a percent sign that say how the directive goes on. -/
def marks : List Char := ['-', '0', '_', '#', ':', '.', '3', '6', '9']

/-- What a percent sign and one letter stand for. -/
def letter? (c : Char) : Option Pattern := ((number? c).map ([·])).or (composite? c)

theorem letter?_of_mem_marks {c : Char} (h : c ∈ marks) : letter? c = none := by
  simp only [marks, List.mem_cons, List.not_mem_nil, or_false] at h
  rcases h with rfl | rfl | rfl | rfl | rfl | rfl | rfl | rfl | rfl <;> rfl

theorem read?_letter {c : Char} (h : c ∉ marks) (cs : List Char) :
    read? ('%' :: c :: cs) = (letter? c).bind fun p => (read? cs).map (p ++ ·) := by
  simp only [marks, List.mem_cons, List.not_mem_nil, or_false, not_or] at h
  rw [read?, letter?]
  · cases number? c <;> cases composite? c <;> cases read? cs <;> rfl
  all_goals
    intros
    simp_all

theorem read?_literal {c : Char} (h : c ≠ '%') (cs : List Char) :
    read? (c :: cs) = (read? cs).map (.literal c :: ·) := by
  rw [read?]
  · cases read? cs <;> rfl
  all_goals
    intros
    simp_all

end Letters

section Pieces

/-- The marks before the letter of a number that replace its padding. -/
def padMarks : List (Char × Pad) := [('-', .none), ('0', .zero), ('_', .blank)]

/-- The counts of fraction digits that have a directive. -/
def placeMarks : List (Char × Nat) := [('3', 3), ('6', 6), ('9', 9)]

/-- The texts of the pieces of a pattern, and what they stand for. -/
inductive Piece : List Char → Pattern → Prop
  | literal {c : Char} (h : c ≠ '%') : Piece [c] [.literal c]
  | letter {c : Char} {p : Pattern} (h : letter? c = some p) : Piece ['%', c] p
  | padded {mark c : Char} {pad : Pad} {d : Directive} (hmark : (mark, pad) ∈ padMarks)
      (h : padded? pad c = some d) : Piece ['%', mark, c] [d]
  | places {mark : Char} {count : Nat} (h : (mark, count) ∈ placeMarks) :
      Piece ['%', mark, 'f'] [.text (.places count false)]
  | pointPlaces {mark : Char} {count : Nat} (h : (mark, count) ∈ placeMarks) :
      Piece ['%', '.', mark, 'f'] [.text (.places count true)]
  | fraction : Piece ['%', '.', 'f'] [.text .fraction]
  | offset {colons : Nat} (h : colons ∈ [1, 2, 3]) :
      Piece ('%' :: List.replicate colons ':' ++ ['z']) [.zone]
  | shortOffset : Piece ['%', '#', 'z'] [.zone]

/-- A row of pieces. -/
inductive Pieces : List (List Char) → Pattern → Prop
  | nil : Pieces [] []
  | cons {s : List Char} {p : Pattern} {parts : List (List Char)} {q : Pattern} (h : Piece s p)
      (hrest : Pieces parts q) : Pieces (s :: parts) (p ++ q)

theorem Pieces.append {parts parts' : List (List Char)} {p p' : Pattern} (h : Pieces parts p)
    (h' : Pieces parts' p') : Pieces (parts ++ parts') (p ++ p') := by
  induction h with
  | nil => exact h'
  | cons hpiece _ ih =>
    rw [List.append_assoc]
    exact .cons hpiece ih

theorem read?_piece_append {s cs : List Char} {p q : Pattern} (h : Piece s p)
    (hq : read? cs = some q) : read? (s ++ cs) = some (p ++ q) := by
  cases h with
  | literal h => simp [read?_literal h, hq]
  | @letter c p h =>
    have hc : c ∉ marks := by
      intro hmark
      simp [letter?_of_mem_marks hmark] at h
    simp [read?_letter hc, h, hq]
  | padded hmark h =>
    simp only [padMarks, List.mem_cons, List.not_mem_nil, or_false, Prod.mk.injEq] at hmark
    rcases hmark with ⟨rfl, rfl⟩ | ⟨rfl, rfl⟩ | ⟨rfl, rfl⟩ <;> simp [read?, h, hq]
  | places h =>
    simp only [placeMarks, List.mem_cons, List.not_mem_nil, or_false, Prod.mk.injEq] at h
    rcases h with ⟨rfl, rfl⟩ | ⟨rfl, rfl⟩ | ⟨rfl, rfl⟩ <;> simp [read?, hq]
  | pointPlaces h =>
    simp only [placeMarks, List.mem_cons, List.not_mem_nil, or_false, Prod.mk.injEq] at h
    rcases h with ⟨rfl, rfl⟩ | ⟨rfl, rfl⟩ | ⟨rfl, rfl⟩ <;> simp [read?, hq]
  | fraction => simp [read?, hq]
  | offset h =>
    simp only [List.mem_cons, List.not_mem_nil, or_false] at h
    rcases h with rfl | rfl | rfl <;> simp [read?, hq]
  | shortOffset => simp [read?, hq]

theorem read?_flatten {parts : List (List Char)} {p : Pattern} (h : Pieces parts p) :
    read? parts.flatten = some p := by
  induction h with
  | nil => rfl
  | cons hpiece _ ih => exact read?_piece_append hpiece ih

theorem exists_pieces {cs : List Char} {p : Pattern} (h : read? cs = some p) :
    ∃ parts, parts.flatten = cs ∧ Pieces parts p := by
  have hcons {s rest : List Char} {q p : Pattern} (hpiece : Piece s q)
      (hrest : ∀ {r : Pattern}, read? rest = some r →
        ∃ parts, parts.flatten = rest ∧ Pieces parts r)
      (h : (do return q ++ (← read? rest)) = some p) :
      ∃ parts, parts.flatten = s ++ rest ∧ Pieces parts p := by
    obtain ⟨r, hr, hp⟩ := Option.bind_eq_some_iff.1 h
    cases hp
    obtain ⟨parts, rfl, hparts⟩ := hrest hr
    exact ⟨s :: parts, rfl, .cons hpiece hparts⟩
  fun_induction read? cs generalizing p
  case case1 =>
    cases h
    exact ⟨[], rfl, .nil⟩
  case case2 c cs ih | case3 c cs ih | case4 c cs ih =>
    obtain ⟨d, hd, h⟩ := Option.bind_eq_some_iff.1 h
    exact hcons (.padded (by decide) hd) ih h
  case case5 cs ih => exact hcons .shortOffset ih h
  case case6 cs ih => exact hcons (.offset (by decide : 3 ∈ [1, 2, 3])) ih h
  case case7 cs ih => exact hcons (.offset (by decide : 2 ∈ [1, 2, 3])) ih h
  case case8 cs ih => exact hcons (.offset (by decide : 1 ∈ [1, 2, 3])) ih h
  case case9 cs ih | case10 cs ih | case11 cs ih => exact hcons (.pointPlaces (by decide)) ih h
  case case12 cs ih => exact hcons .fraction ih h
  case case13 cs ih | case14 cs ih | case15 cs ih => exact hcons (.places (by decide)) ih h
  case case16 c cs _ _ _ _ _ _ _ _ _ _ _ _ _ _ d hd ih =>
    have hletter : letter? c = some [d] := by simp [letter?, hd]
    exact hcons (.letter hletter) ih h
  case case17 c cs _ _ _ _ _ _ _ _ _ _ _ _ _ _ hnone ih =>
    obtain ⟨q, hq, h⟩ := Option.bind_eq_some_iff.1 h
    have hletter : letter? c = some q := by simp [letter?, hnone, hq]
    exact hcons (.letter hletter) ih h
  case case18 => cases h
  case case19 c cs _ _ _ _ _ _ _ _ _ _ _ _ _ _ hpercent hend ih =>
    have hc : c ≠ '%' := by
      rintro rfl
      cases cs with
      | nil => exact hend rfl rfl
      | cons c' cs => exact hpercent c' cs rfl rfl
    exact hcons (.literal hc) ih h

/-- Reading accepts rows of pieces and nothing else. -/
theorem read?_eq_some_iff {cs : List Char} {p : Pattern} :
    read? cs = some p ↔ ∃ parts, parts.flatten = cs ∧ Pieces parts p := by
  refine ⟨exists_pieces, ?_⟩
  rintro ⟨parts, rfl, hparts⟩
  exact read?_flatten hparts

end Pieces

section Zones

/-- The pieces that ask for a time zone. -/
def zoneParts : List (List Char) :=
  [['%', 'Z'], ['%', 'z'], ['%', '+'], ['%', '#', 'z'], ['%', ':', 'z'], ['%', ':', ':', 'z'],
    ['%', ':', ':', ':', 'z']]

theorem number?_eq_number {c : Char} {d : Directive} (h : number? c = some d) :
    ∃ field pad, d = .number field pad := by
  unfold number? at h
  split at h <;> cases h
  all_goals exact ⟨_, _, rfl⟩

theorem padded?_eq_number {pad : Pad} {c : Char} {d : Directive} (h : padded? pad c = some d) :
    ∃ field, d = .number field pad := by
  unfold padded? at h
  split at h <;> cases h
  exact ⟨_, rfl⟩

theorem zone_mem_letter {c : Char} {p : Pattern} (h : letter? c = some p) :
    .zone ∈ p ↔ c = 'Z' ∨ c = 'z' ∨ c = '+' := by
  unfold letter? at h
  cases hnumber : number? c with
  | some d =>
    obtain ⟨field, pad, rfl⟩ := number?_eq_number hnumber
    simp only [hnumber, Option.map_some, Option.some_or, Option.some.injEq] at h
    subst h
    refine ⟨by simp, ?_⟩
    rintro (rfl | rfl | rfl) <;> simp [number?] at hnumber
  | none =>
    simp only [hnumber, Option.map_none, Option.none_or] at h
    unfold composite? at h
    split at h <;> cases h <;> decide

theorem zone_mem_piece {s : List Char} {p : Pattern} (h : Piece s p) :
    .zone ∈ p ↔ s ∈ zoneParts := by
  cases h with
  | literal h => simp [zoneParts]
  | letter h => simpa [zoneParts] using zone_mem_letter h
  | padded hmark h =>
    obtain ⟨field, rfl⟩ := padded?_eq_number h
    simp only [padMarks, List.mem_cons, List.not_mem_nil, or_false, Prod.mk.injEq] at hmark
    rcases hmark with ⟨rfl, rfl⟩ | ⟨rfl, rfl⟩ | ⟨rfl, rfl⟩ <;> simp [zoneParts]
  | places h => simp [zoneParts]
  | pointPlaces h => simp [zoneParts]
  | fraction => simp [zoneParts]
  | offset h =>
    simp only [List.mem_cons, List.not_mem_nil, or_false] at h
    rcases h with rfl | rfl | rfl <;> simp [zoneParts]
  | shortOffset => simp [zoneParts]

theorem zone_mem_pieces {parts : List (List Char)} {p : Pattern} (h : Pieces parts p) :
    .zone ∈ p ↔ ∃ s ∈ parts, s ∈ zoneParts := by
  induction h with
  | nil => simp
  | cons hpiece _ ih => simp [zone_mem_piece hpiece, ih]

end Zones

section Text

variable (t : Timestamp)

theorem render?_append (p q : Pattern) :
    (p ++ q).render? t = (do return (← p.render? t) ++ (← q.render? t)) := by
  simp only [render?, List.mapM_append]
  cases p.mapM (renderDirective? t) with
  | none => rfl
  | some parts =>
    cases q.mapM (renderDirective? t) with
    | none => rfl
    | some parts' => simp

theorem render?_eq_none {p : Pattern} (h : .zone ∈ p) : p.render? t = none := by
  obtain ⟨q, r, rfl⟩ := List.append_of_mem h
  rw [render?_append]
  cases render? q t with
  | none => rfl
  | some s => simp [render?, renderDirective?]

end Text

end Reporting.Calendar.Pattern
