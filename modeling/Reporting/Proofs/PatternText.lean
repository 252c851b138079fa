import Mathlib.Data.List.DropRight
import Reporting.Locale.NumberPattern
import Reporting.Proofs.Runs

/-!
# The text of number patterns

The text of a number pattern has text around the marks that ask for digits, a point that parts the
marks, and a semicolon behind which nothing counts. It is cut into these parts in exactly one way
(`isCutOf_iff`), and they say what the pattern asks for (`describes_ofText`).
-/

namespace Reporting.NumberPattern

section Cutting

/-- A text up to the first such character, and what follows it. -/
def cutAt (c : Char) (cs : List Char) : List Char × Option (List Char) :=
  (cs.takeWhile (· != c),
    match cs.dropWhile (· != c) with
    | [] => none
    | _ :: rest => some rest)

theorem cutAt_eq_iff {c : Char} {cs front : List Char} {rest : Option (List Char)} :
    cutAt c cs = (front, rest) ↔ cs = front ++ rest.elim [] (c :: ·) ∧ c ∉ front := by
  constructor
  · intro h
    obtain ⟨rfl, rfl⟩ := Prod.mk.inj h
    have hfront : c ∉ cs.takeWhile (· != c) := fun hc => by simpa using List.mem_takeWhile_imp hc
    refine ⟨?_, hfront⟩
    conv => lhs; rw [← List.takeWhile_append_dropWhile (p := (· != c)) (l := cs)]
    have hstop := List.head?_dropWhile_not (· != c) cs
    cases hdrop : cs.dropWhile (· != c) with
    | nil => rfl
    | cons d ds =>
      have hd : d = c := by simpa [hdrop] using hstop
      rw [hd]
      rfl
  · rintro ⟨rfl, hfront⟩
    have hspan : (front ++ rest.elim [] (c :: ·)).takeWhile (· != c) = front
        ∧ (front ++ rest.elim [] (c :: ·)).dropWhile (· != c) = rest.elim [] (c :: ·) := by
      refine Text.span_run (fun d hd => ?_) fun d hd => ?_
      · simpa using ne_of_mem_of_not_mem hd hfront
      · cases rest with
        | none => cases hd
        | some ds => simpa using (Option.mem_some.1 hd).symm
    rw [cutAt, hspan.1, hspan.2]
    cases rest <;> rfl

theorem getD_cutAt (c : Char) (cs : List Char) :
    (cutAt c cs).2.getD [] = (cs.dropWhile (· != c)).drop 1 := by
  unfold cutAt
  cases cs.dropWhile (· != c) <;> rfl

/-- What stands before the first semicolon. -/
def positive (cs : List Char) : List Char := cs.takeWhile (· != ';')

def front (cs : List Char) : List Char := cs.takeWhile (!isBody ·)

def middle (cs : List Char) : List Char := (cs.dropWhile (!isBody ·)).rdropWhile (!isBody ·)

def back (cs : List Char) : List Char := (cs.dropWhile (!isBody ·)).rtakeWhile (!isBody ·)

theorem append_parts (cs : List Char) : front cs ++ (middle cs ++ back cs) = cs := by
  rw [middle, back, List.rdropWhile_append_rtakeWhile, front, List.takeWhile_append_dropWhile]

/-- Around the first and the last mark stands the text without marks. -/
theorem parts_framed {x b y : List Char} (hx : ∀ c ∈ x, isBody c = false)
    (hhead : ∀ c ∈ b.head?, isBody c) (hlast : ∀ c ∈ b.getLast?, isBody c)
    (hempty : b = [] → y = []) (hy : ∀ c ∈ y, isBody c = false) :
    front (x ++ (b ++ y)) = x ∧ middle (x ++ (b ++ y)) = b ∧ back (x ++ (b ++ y)) = y := by
  have hfront : (x ++ (b ++ y)).takeWhile (!isBody ·) = x
      ∧ (x ++ (b ++ y)).dropWhile (!isBody ·) = b ++ y := by
    refine Text.span_run (by simpa using hx) fun c hc => ?_
    rcases eq_or_ne b [] with rfl | hne
    · rw [hempty rfl] at hc
      cases hc
    · rw [List.head?_append_of_ne_nil _ hne] at hc
      simp [hhead c hc]
  have hback : (b ++ y).rtakeWhile (!isBody ·) = y ∧ (b ++ y).rdropWhile (!isBody ·) = b :=
    Text.rspan_run (by simpa using hy) fun c hc => by simp [hlast c hc]
  rw [middle, back, hfront.2]
  exact ⟨hfront.1, hback.2, hback.1⟩

/-- Nothing but text stands around the marks. -/
theorem framed_parts (cs : List Char) :
    (∀ c ∈ front cs, isBody c = false) ∧ (∀ c ∈ (middle cs).head?, isBody c)
      ∧ (∀ c ∈ (middle cs).getLast?, isBody c) ∧ (middle cs = [] → back cs = [])
      ∧ ∀ c ∈ back cs, isBody c = false := by
  have hhead : ∀ c ∈ (cs.dropWhile (!isBody ·)).head?, isBody c := by
    intro c hc
    have hstop := List.head?_dropWhile_not (!isBody ·) cs
    rw [Option.mem_def.1 hc] at hstop
    simpa using hstop
  refine ⟨fun c hc => ?_, fun c hc => hhead c ?_, fun c hc => ?_, fun h => ?_, fun c hc => ?_⟩
  · simpa using List.mem_takeWhile_imp hc
  · obtain ⟨rest, hrest⟩ := List.rdropWhile_prefix (!isBody ·) (cs.dropWhile (!isBody ·))
    rw [Option.mem_def, middle] at hc
    rw [← hrest, Option.mem_def, List.head?_append, hc, Option.some_or]
  · have hne : middle cs ≠ [] := by
      rintro hnil
      simp [hnil] at hc
    rw [List.getLast?_eq_some_getLast hne, Option.mem_some] at hc
    have hstop : ¬(!isBody ((middle cs).getLast hne)) = true := List.rdropWhile_last_not _ _ hne
    rw [← hc]
    simpa using hstop
  · -- a text with nothing but its end behind the first mark has no mark
    rw [middle, List.rdropWhile_eq_nil_iff] at h
    have hnil : cs.dropWhile (!isBody ·) = [] := by
      refine List.eq_nil_iff_forall_not_mem.2 fun c hc => ?_
      obtain ⟨d, hd⟩ := Option.isSome_iff_exists.1 (List.isSome_head?.2 (List.ne_nil_of_mem hc))
      simpa [hhead d hd] using h d (List.mem_of_mem_head? hd)
    rw [back, hnil]
    rfl
  · simpa using List.mem_rtakeWhile_imp hc

end Cutting

/-- The parts of the text of a number pattern. -/
structure Parts where
  before : List Char
  whole : List Char
  /-- What follows the point, if there is one. -/
  fraction? : Option (List Char)
  after : List Char
  /-- What follows the semicolon, if there is one. -/
  unread? : Option (List Char)
deriving DecidableEq, Repr

/-- The characters that a number pattern looks for. -/
def IsMark (c : Char) : Prop := c = '#' ∨ c = '0' ∨ c = ',' ∨ c = '.'

theorem isBody_iff {c : Char} : isBody c = true ↔ IsMark c := by
  simp [isBody, IsMark, or_assoc]

theorem isBody_eq_false_iff {c : Char} : isBody c = false ↔ ¬IsMark c := by
  rw [← isBody_iff, Bool.not_eq_true]

namespace Parts

/-- The text from the first mark to the last one. -/
def body (x : Parts) : List Char := x.whole ++ x.fraction?.elim [] ('.' :: ·)

/-- The text in front of the semicolon. -/
def read (x : Parts) : List Char := x.before ++ (x.body ++ x.after)

/-- The parts of a text: its first point among the marks and its first semicolon part it, and no
mark stands before the first one or after the last one of them. -/
structure IsCutOf (x : Parts) (s : String) : Prop where
  text : s.toList = x.read ++ x.unread?.elim [] (';' :: ·)
  semicolon : ';' ∉ x.read
  point : '.' ∉ x.whole
  before : ∀ c ∈ x.before, ¬IsMark c
  head : ∀ c ∈ x.body.head?, IsMark c
  last : ∀ c ∈ x.body.getLast?, IsMark c
  after : ∀ c ∈ x.after, ¬IsMark c
  after_eq_nil : x.body = [] → x.after = []

/-- What follows the last comma of the whole digits takes the given number of bytes in UTF-8. -/
def HasGroup (x : Parts) (size : Nat) : Prop :=
  ∃ start group, x.whole = start ++ ',' :: group ∧ ',' ∉ group
    ∧ (String.ofList group).utf8ByteSize = size ∧ 0 < size

/-- What the parts ask of numbers. -/
structure Describes (x : Parts) (p : NumberPattern) : Prop where
  before : p.before = x.before.filter (· != '\'')
  after : p.after = x.after.filter (· != '\'')
  grouping : ∀ size, p.grouping = some size ↔ x.HasGroup size
  minInteger : p.minInteger = max 1 (x.whole.count '0')
  minFraction : p.minFraction = (x.fraction?.getD []).count '0'
  maxFraction : p.maxFraction
    = (x.fraction?.getD []).count '0' + (x.fraction?.getD []).count '#'

def ofText (s : String) : Parts where
  before := front (positive s.toList)
  whole := (cutAt '.' (middle (positive s.toList))).1
  fraction? := (cutAt '.' (middle (positive s.toList))).2
  after := back (positive s.toList)
  unread? := (cutAt ';' s.toList).2

theorem body_ofText (s : String) : (ofText s).body = middle (positive s.toList) :=
  (cutAt_eq_iff.1 rfl).1.symm

theorem read_ofText (s : String) : (ofText s).read = positive s.toList := by
  rw [read, body_ofText]
  exact append_parts _

variable {x : Parts} {s : String}

theorem isCutOf_ofText (s : String) : (ofText s).IsCutOf s := by
  obtain ⟨hbefore, hhead, hlast, hnil, hafter⟩ := framed_parts (positive s.toList)
  have hsemicolon := cutAt_eq_iff.1 (rfl : cutAt ';' s.toList = _)
  have hpoint := cutAt_eq_iff.1 (rfl : cutAt '.' (middle (positive s.toList)) = _)
  exact {
    text := by
      rw [read_ofText]
      exact hsemicolon.1
    semicolon := by
      rw [read_ofText]
      exact hsemicolon.2
    point := hpoint.2
    before := fun c hc => isBody_eq_false_iff.1 (hbefore c hc)
    head := by
      rw [body_ofText]
      exact fun c hc => isBody_iff.1 (hhead c hc)
    last := by
      rw [body_ofText]
      exact fun c hc => isBody_iff.1 (hlast c hc)
    after := fun c hc => isBody_eq_false_iff.1 (hafter c hc)
    after_eq_nil := by
      rw [body_ofText]
      exact hnil }

theorem IsCutOf.eq (h : x.IsCutOf s) : x = ofText s := by
  have hsemicolon : cutAt ';' s.toList = (x.read, x.unread?) :=
    cutAt_eq_iff.2 ⟨h.text, h.semicolon⟩
  have hread : positive s.toList = x.read := congrArg Prod.fst hsemicolon
  obtain ⟨hfront, hmiddle, hback⟩ := parts_framed
    (fun c hc => isBody_eq_false_iff.2 (h.before c hc)) (fun c hc => isBody_iff.2 (h.head c hc))
    (fun c hc => isBody_iff.2 (h.last c hc)) h.after_eq_nil
    (fun c hc => isBody_eq_false_iff.2 (h.after c hc))
  have hpoint : cutAt '.' x.body = (x.whole, x.fraction?) := cutAt_eq_iff.2 ⟨rfl, h.point⟩
  rw [ofText, hsemicolon, hread, read, hfront, hmiddle, hback, hpoint]

/-- A text is cut into parts in one way. -/
theorem isCutOf_iff : x.IsCutOf s ↔ x = ofText s := by
  refine ⟨IsCutOf.eq, ?_⟩
  rintro rfl
  exact isCutOf_ofText s

end Parts

section Reading

theorem takeWhile_reverse_group {start group : List Char} (h : ',' ∉ group) :
    (start ++ ',' :: group).reverse.takeWhile (· != ',') = group.reverse := by
  have hreverse : (start ++ ',' :: group).reverse = group.reverse ++ ',' :: start.reverse := by
    simp
  rw [hreverse]
  refine (Text.span_run (fun c hc => ?_) (by simp)).1
  simpa using ne_of_mem_of_not_mem (List.mem_reverse.1 hc) h

theorem foldr_add_utf8Size (n : Nat) : ∀ cs : List Char,
    (cs.reverse.map Char.utf8Size).foldr (· + ·) n = (String.ofList cs).utf8ByteSize + n
  | [] => (Nat.zero_add n).symm
  | c :: cs => by
    have hsplit : String.ofList (c :: cs) = String.singleton c ++ String.ofList cs := by
      rw [String.singleton_eq_ofList, ← String.ofList_append, List.singleton_append]
    rw [List.reverse_cons, List.map_append, List.foldr_append, foldr_add_utf8Size, hsplit,
      String.utf8ByteSize_append, String.utf8ByteSize_singleton, List.map_singleton,
      List.foldr_cons, List.foldr_nil]
    omega

theorem groupSize?_append {start group : List Char} (h : ',' ∉ group) :
    groupSize? (start ++ ',' :: group)
      = if 0 < (String.ofList group).utf8ByteSize then some (String.ofList group).utf8ByteSize
        else none := by
  have hcomma : (start ++ ',' :: group).contains ',' = true := by simp
  rw [groupSize?, if_pos hcomma, takeWhile_reverse_group h, foldr_add_utf8Size]
  rfl

theorem groupSize?_eq_some_iff {x : Parts} {size : Nat} :
    groupSize? x.whole = some size ↔ x.HasGroup size := by
  constructor
  · intro h
    have hcomma : ',' ∈ x.whole.reverse := by
      by_contra hnone
      simp [groupSize?, List.mem_reverse.not.1 hnone] at h
    obtain ⟨group, start, hsplit, hgroup⟩ := List.eq_append_cons_of_mem hcomma
    have hwhole : x.whole = start.reverse ++ ',' :: group.reverse := by
      rw [← List.reverse_reverse x.whole, hsplit]
      simp
    have hlast : ',' ∉ group.reverse := by simpa using hgroup
    rw [hwhole, groupSize?_append hlast] at h
    split at h
    · cases h
      exact ⟨_, _, hwhole, hlast, rfl, ‹_›⟩
    · cases h
  · rintro ⟨start, group, hwhole, hgroup, rfl, hpos⟩
    rw [hwhole, groupSize?_append hgroup, if_pos hpos]

/-- The pattern with the digits that `body` asks for. -/
def ofBody (front body back : List Char) : NumberPattern :=
  let integer := body.takeWhile (· != '.')
  let fraction := (body.dropWhile (· != '.')).drop 1
  { before := unquoted front
    after := unquoted back
    grouping := groupSize? integer
    minInteger := max 1 (integer.count '0')
    minFraction := fraction.count '0'
    maxFraction := fraction.count '0' + fraction.count '#' }

theorem ofText_eq (s : String) :
    ofText s = ofBody (front (positive s.toList)) (middle (positive s.toList))
      (back (positive s.toList)) := rfl

/-- A pattern asks for what the parts of its text say. -/
theorem describes_ofText (s : String) : (Parts.ofText s).Describes (ofText s) where
  before := rfl
  after := rfl
  grouping _ := groupSize?_eq_some_iff (x := Parts.ofText s)
  minInteger := rfl
  minFraction := congrArg (List.count '0') (getD_cutAt '.' _).symm
  maxFraction := congrArg (fun cs => cs.count '0' + cs.count '#') (getD_cutAt '.' _).symm

end Reading

end Reporting.NumberPattern
