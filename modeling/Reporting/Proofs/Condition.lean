import Mathlib.Tactic.ByContra
import Reporting.Proofs.Token
import Reporting.Proofs.Truth

/-!
# Reading a condition

A condition is read as its database reads it: `AND` binds tighter than `OR`, and what stands between
parentheses, in a `CASE` or as the bounds of `BETWEEN` belongs to one operand. Two texts joined by
`AND` are read as `Condition.and` of what they are alone (`read_and`): it joins the last
alternative of the one with the first of the other, and only of these both must hold.
-/

namespace Reporting.Sql

open Token (nest)

abbrev Operand := List Token

/-- Alternatives, each the operands that must all hold. -/
abbrev Condition := List (List Operand)

/-- What has been begun and not yet ended. -/
structure Level where
  /-- The open parentheses. -/
  depth : Nat := 0
  cases : Nat := 0
  /-- The lower bounds whose `AND` has not come. -/
  betweens : Nat := 0
deriving DecidableEq

/-- What a token is to the condition that it stands in. -/
inductive Role
  | part (next : Level)
  | and
  | or
  | misplaced
deriving DecidableEq

namespace Level

def role (l : Level) (t : Token) : Role :=
  if t = .sign '(' then .part { l with depth := l.depth + 1 }
  else if t = .sign ')' then
    if l.depth = 0 then .misplaced else .part { l with depth := l.depth - 1 }
  else if 0 < l.depth then .part l
  else if t.isKeyword "CASE" then .part { l with cases := l.cases + 1 }
  else if t.isKeyword "END" then .part { l with cases := l.cases - 1 }
  else if 0 < l.cases then .part l
  else if t.isKeyword "BETWEEN" then .part { l with betweens := l.betweens + 1 }
  else if t.isKeyword "AND" then
    if l.betweens = 0 then .and else .part { l with betweens := l.betweens - 1 }
  else if t.isKeyword "OR" then if l.betweens = 0 then .or else .misplaced
  else .part l

end Level

/-- A condition from the middle of an operand on. -/
structure Rest where
  /-- What is left of the operand. -/
  operand : Operand := []
  /-- The operands that must hold besides. -/
  operands : List Operand := []
  alternatives : Condition := []

namespace Rest

def condition (r : Rest) : Condition := (r.operand :: r.operands) :: r.alternatives

def part (t : Token) (r : Rest) : Rest := { r with operand := t :: r.operand }

def and (r : Rest) : Rest := { r with operand := [], operands := r.operand :: r.operands }

def or (r : Rest) : Rest := { alternatives := r.condition }

end Rest

def readFrom (l : Level) : List Token → Option Rest
  | [] => if l = {} then some {} else none
  | t :: ts =>
    match l.role t with
    | .part next => (readFrom next ts).map (.part t)
    | .and => (readFrom {} ts).map .and
    | .or => (readFrom {} ts).map .or
    | .misplaced => none

namespace Condition

/-- No operand is missing. -/
def isComplete (c : Condition) : Bool := c.all fun operands => operands.all (!·.isEmpty)

def read (s : String) : Option Condition :=
  (((tokens s.toList).bind (readFrom {})).map Rest.condition).filter isComplete

/-- The condition that two texts joined by `AND` are. -/
def and : Condition → Condition → Condition
  | [], d => d
  | [operands], [] => [operands]
  | [operands], first :: d => (operands ++ first) :: d
  | operands :: next :: c, d => operands :: and (next :: c) d

def eval (v : Operand → Truth) (c : Condition) : Truth :=
  .any (c.map fun operands => .all (operands.map v))

end Condition

theorem readFrom_of_part {l next : Level} {t : Token} (h : l.role t = .part next)
    (ts : List Token) : readFrom l (t :: ts) = (readFrom next ts).map (.part t) := by
  rw [readFrom, h]

section Joining

/-- What begins in one text and goes on, after an `AND`, in another. -/
def Rest.join (r s : Rest) : Rest :=
  match r.alternatives with
  | [] => ⟨r.operand, r.operands ++ s.operand :: s.operands, s.alternatives⟩
  | next :: c => ⟨r.operand, r.operands, Condition.and (next :: c) s.condition⟩

theorem Rest.condition_join (r s : Rest) :
    (r.join s).condition = r.condition.and s.condition := by
  obtain ⟨operand, operands, _ | ⟨next, c⟩⟩ := r <;> rfl

theorem Rest.join_part (t : Token) (r : Rest) : (r.part t).join = part t ∘ r.join := by
  funext s
  obtain ⟨operand, operands, _ | ⟨next, c⟩⟩ := r <;> rfl

theorem Rest.join_and (r : Rest) : r.and.join = and ∘ r.join := by
  funext s
  obtain ⟨operand, operands, _ | ⟨next, c⟩⟩ := r <;> rfl

theorem Rest.join_or (r : Rest) : r.or.join = or ∘ r.join := by
  funext s
  rw [Function.comp_apply, or, or, condition_join]
  rfl

theorem readFrom_and (us : List Token) :
    ∀ (ts : List Token) {l : Level} {r : Rest}, readFrom l ts = some r →
      readFrom l (ts ++ .word ['A', 'N', 'D'] :: us) = (readFrom {} us).map r.join
  | [], l, r, h => by
    rw [readFrom] at h
    split at h
    · rename_i hl
      obtain rfl := Option.some.inj h
      have hand : Level.role {} (.word ['A', 'N', 'D']) = .and := by decide
      rw [hl, List.nil_append, readFrom, hand]
      rfl
    · cases h
  | t :: ts, l, r, h => by
    rw [readFrom] at h
    rw [List.cons_append, readFrom]
    cases hrole : l.role t with
    | part next =>
      rw [hrole] at h
      obtain ⟨r', hr, rfl⟩ := Option.map_eq_some_iff.1 h
      simp only [readFrom_and us ts hr, Option.map_map, Rest.join_part]
    | and =>
      rw [hrole] at h
      obtain ⟨r', hr, rfl⟩ := Option.map_eq_some_iff.1 h
      simp only [readFrom_and us ts hr, Option.map_map, Rest.join_and]
    | or =>
      rw [hrole] at h
      obtain ⟨r', hr, rfl⟩ := Option.map_eq_some_iff.1 h
      simp only [readFrom_and us ts hr, Option.map_map, Rest.join_or]
    | misplaced =>
      rw [hrole] at h
      cases h

theorem tokens_and {cs ds : List Char} {ts us : List Token} (hc : tokens cs = some ts)
    (hd : tokens ds = some us) :
    tokens (cs ++ ' ' :: 'A' :: 'N' :: 'D' :: ' ' :: ds)
      = some (ts ++ .word ['A', 'N', 'D'] :: us) := by
  obtain ⟨m, out, last, hfeed, hlast, rfl⟩ := tokens_eq_some hc
  obtain ⟨m', out', last', hfeed', hlast', rfl⟩ := tokens_eq_some hd
  have hblank : m.step ' ' = some (.free, last) := by
    rw [Mode.step_of_finish hlast (by decide) (by decide),
      show Mode.start ' ' = (.free, []) by decide, List.append_nil]
  have hand : Mode.feed .free ('A' :: 'N' :: 'D' :: ' ' :: ds)
      = some (m', .word ['A', 'N', 'D'] :: out') := by
    rw [show 'A' :: 'N' :: 'D' :: ' ' :: ds = ['A', 'N', 'D', ' '] ++ ds from rfl,
      Mode.feed_append, show Mode.feed .free ['A', 'N', 'D', ' ']
        = some (.free, [.word ['A', 'N', 'D']]) by decide, Option.bind_some, hfeed']
    rfl
  have hwhole : Mode.feed .free (cs ++ ' ' :: 'A' :: 'N' :: 'D' :: ' ' :: ds)
      = some (m', out ++ (last ++ .word ['A', 'N', 'D'] :: out')) := by
    rw [Mode.feed_append, hfeed, Option.bind_some, Mode.feed_cons hblank, hand]
    rfl
  rw [tokens_of_feed hwhole hlast']
  simp [List.append_assoc]

namespace Condition

theorem isComplete_and : ∀ {c d : Condition}, c.isComplete → d.isComplete → (c.and d).isComplete
  | [], _, _, hd => hd
  | [operands], [], hc, _ => hc
  | [operands], first :: d, hc, hd => by
    simp only [isComplete, and, List.all_cons, List.all_append, List.all_nil, Bool.and_true,
      Bool.and_eq_true] at hc hd ⊢
    exact ⟨⟨hc, hd.1⟩, hd.2⟩
  | operands :: next :: c, d, hc, hd => by
    rw [isComplete, List.all_cons, Bool.and_eq_true] at hc
    rw [and, isComplete, List.all_cons, Bool.and_eq_true]
    exact ⟨hc.1, isComplete_and hc.2 hd⟩

theorem read_eq_some_iff {s : String} {c : Condition} :
    read s = some c ↔ ∃ ts r, tokens s.toList = some ts ∧ readFrom {} ts = some r
      ∧ r.condition = c ∧ c.isComplete := by
  simp only [read, Option.filter_eq_some_iff, Option.map_eq_some_iff, Option.bind_eq_some_iff]
  constructor
  · rintro ⟨⟨r, ⟨ts, hts, hr⟩, rfl⟩, hc⟩
    exact ⟨ts, r, hts, hr, rfl, hc⟩
  · rintro ⟨ts, r, hts, hr, rfl, hc⟩
    exact ⟨⟨r, ⟨ts, hts, hr⟩, rfl⟩, hc⟩

theorem ne_nil_of_read {s : String} {c : Condition} (h : read s = some c) : c ≠ [] := by
  obtain ⟨ts, r, -, -, rfl, -⟩ := read_eq_some_iff.1 h
  exact List.cons_ne_nil _ _

/-- Two texts joined by `AND`. -/
theorem read_and {s t : String} {c d : Condition} (hs : read s = some c) (ht : read t = some d) :
    read (s ++ " AND " ++ t) = some (c.and d) := by
  obtain ⟨ts, r, hts, hr, rfl, hc⟩ := read_eq_some_iff.1 hs
  obtain ⟨us, r', hus, hr', rfl, hd⟩ := read_eq_some_iff.1 ht
  refine read_eq_some_iff.2 ⟨ts ++ .word ['A', 'N', 'D'] :: us, r.join r', ?_, ?_,
    Rest.condition_join r r', isComplete_and hc hd⟩
  · rw [String.toList_append, String.toList_append, List.append_assoc]
    exact tokens_and hts hus
  · rw [readFrom_and us ts hr, hr']
    rfl

end Condition

end Joining

section Parenthesized

/-- Inside of parentheses everything belongs to the operand. -/
theorem readFrom_nested (us : List Token) :
    ∀ (ts : List Token) {n m : Nat}, nest n ts = some m →
      readFrom { depth := n + 1 } (ts ++ us)
        = (readFrom { depth := m + 1 } us).map fun r => { r with operand := ts ++ r.operand }
  | [], n, m, h => by
    rw [nest, Option.some.injEq] at h
    rw [h, List.nil_append]
    exact Option.map_id'.symm
  | t :: ts, n, m, h => by
    rw [nest] at h
    have hpart : ∀ k, nest k ts = some m →
        Level.role { depth := n + 1 } t = .part { depth := k + 1 } →
        readFrom { depth := n + 1 } (t :: ts ++ us)
          = (readFrom { depth := m + 1 } us).map
              fun r => { r with operand := t :: ts ++ r.operand } := by
      intro k hk hrole
      rw [List.cons_append, readFrom_of_part hrole, readFrom_nested us ts hk, Option.map_map]
      rfl
    split at h
    · rename_i hopen
      exact hpart (n + 1) h (by simp [Level.role, hopen])
    rename_i hopen
    split at h
    · rename_i hclose
      split at h
      · cases h
      · exact hpart (n - 1) h (by simp [Level.role, hclose]; omega)
    · rename_i hclose
      exact hpart n h (by simp [Level.role, hopen, hclose])

/-- A text in parentheses is a single operand. -/
theorem Condition.read_parenthesized {s : String} (h : Closed s.toList) :
    ∃ ts, read ("(" ++ s ++ ")") = some [[.sign '(' :: ts]] := by
  obtain ⟨ts, hts, hnest⟩ := h
  refine ⟨ts ++ [.sign ')'], read_eq_some_iff.2 ⟨.sign '(' :: ts ++ [.sign ')'],
    { operand := .sign '(' :: (ts ++ [.sign ')']) }, ?_, ?_, rfl, rfl⟩⟩
  · rw [String.toList_append, String.toList_append]
    exact tokens_parenthesized hts
  · have hopen : Level.role {} (.sign '(') = .part { depth := 1 } := by decide
    rw [List.cons_append, readFrom_of_part hopen, readFrom_nested [.sign ')'] ts hnest]
    rfl

end Parenthesized

namespace Condition

theorem eval_eq_yes_iff {v : Operand → Truth} {c : Condition} :
    eval v c = .yes ↔ ∃ operands ∈ c, ∀ o ∈ operands, v o = .yes := by
  rw [eval, Truth.any_eq_yes, List.mem_map]
  refine exists_congr fun operands => and_congr_right fun _ => ?_
  rw [Truth.all_eq_yes, List.forall_mem_map]

/-- Whether a condition holds together with operands on either side of it. -/
def together (v : Operand → Truth) (before : List Operand) (c : Condition)
    (after : List Operand) : Truth :=
  (Truth.all (before.map v)).and ((eval v c).and (.all (after.map v)))

theorem together_eq_yes_iff {v : Operand → Truth} {before after : List Operand} {c : Condition} :
    together v before c after = .yes
      ↔ (∀ o ∈ before, v o = .yes) ∧ eval v c = .yes ∧ ∀ o ∈ after, v o = .yes := by
  simp [together, Truth.all_eq_yes]

theorem and_concat (operands first : List Operand) (d : Condition) :
    ∀ c : Condition, and (c ++ [operands]) (first :: d) = c ++ (operands ++ first) :: d
  | [] => rfl
  | [_] => rfl
  | _ :: next :: c => by
    have ih := and_concat operands first d (next :: c)
    rw [List.cons_append, List.cons_append, and, ← List.cons_append, ih]
    rfl

/-- A condition joined to operands before and after it. -/
def framed (before : List Operand) (c : Condition) (after : List Operand) : Condition :=
  and [before] (and c [after])

section Framed

variable (before after : List Operand)

theorem framed_single (operands : List Operand) :
    framed before [operands] after = [before ++ (operands ++ after)] := rfl

/-- Of several alternatives, the first one is joined to what stands before them and the last one to
what stands after them. -/
theorem framed_concat (first last : List Operand) (c : Condition) :
    framed before (first :: (c ++ [last])) after
      = (before ++ first) :: (c ++ [last ++ after]) := by
  have h := and_concat last after [] (first :: c)
  rw [List.cons_append] at h
  rw [framed, h]
  rfl

variable {before after} {c : Condition} {v : Operand → Truth}

theorem eq_single_or_concat (h : c ≠ []) :
    (∃ operands, c = [operands]) ∨ ∃ first d last, c = first :: (d ++ [last]) := by
  cases c with
  | nil => exact absurd rfl h
  | cons first c =>
    rcases List.eq_nil_or_concat c with rfl | ⟨d, last, rfl⟩
    · exact .inl ⟨first, rfl⟩
    · exact .inr ⟨first, d, last, by rw [List.concat_eq_append]⟩

theorem eval_framed_single {operands : List Operand} :
    eval v (framed before [operands] after) = together v before [operands] after := by
  simp [framed_single, together, eval, Truth.any, Truth.all_append]

theorem and_unit (h : c ≠ []) : c.and [[]] = c := by
  rcases List.eq_nil_or_concat c with rfl | ⟨d, last, rfl⟩
  · exact absurd rfl h
  · rw [List.concat_eq_append, and_concat, List.append_nil]

theorem unit_and (h : c ≠ []) : and [[]] c = c := by
  cases c with
  | nil => exact absurd rfl h
  | cons first c => rfl

theorem framed_nil_nil (h : c ≠ []) : framed [] c [] = c := by
  rw [framed, and_unit h, unit_and h]

/-- Only rows that satisfy the condition satisfy it joined to operands. -/
theorem eval_of_framed (hc : c ≠ []) (h : eval v (framed before c after) = .yes) :
    eval v c = .yes := by
  rw [eval_eq_yes_iff] at *
  obtain ⟨operands, hmem, hv⟩ := h
  rcases eq_single_or_concat hc with ⟨only, rfl⟩ | ⟨first, d, last, rfl⟩
  · rw [framed_single, List.mem_singleton] at hmem
    subst hmem
    exact ⟨only, List.mem_cons_self, fun o ho => hv o (by simp [ho])⟩
  · rw [framed_concat, List.mem_cons, List.mem_append, List.mem_singleton] at hmem
    rcases hmem with rfl | hmem | rfl
    · exact ⟨first, by simp, fun o ho => hv o (by simp [ho])⟩
    · exact ⟨operands, by simp [hmem], hv⟩
    · exact ⟨last, by simp, fun o ho => hv o (by simp [ho])⟩

/-- All rows that satisfy the condition and the operands satisfy them joined. -/
theorem eval_framed (h : together v before c after = .yes) :
    eval v (framed before c after) = .yes := by
  obtain ⟨hbefore, h, hafter⟩ := together_eq_yes_iff.1 h
  rw [eval_eq_yes_iff] at *
  obtain ⟨operands, hmem, hv⟩ := h
  rcases eq_single_or_concat (List.ne_nil_of_mem hmem) with ⟨only, rfl⟩ | ⟨first, d, last, rfl⟩
  · rw [List.mem_singleton] at hmem
    subst hmem
    refine ⟨_, List.mem_singleton.2 rfl, fun o ho => ?_⟩
    rcases List.mem_append.1 ho with ho | ho
    · exact hbefore o ho
    · exact (List.mem_append.1 ho).elim (hv o) (hafter o)
  · rw [framed_concat]
    rw [List.mem_cons, List.mem_append, List.mem_singleton] at hmem
    rcases hmem with rfl | hmem | rfl
    · exact ⟨_, List.mem_cons_self, fun o ho => (List.mem_append.1 ho).elim (hbefore o) (hv o)⟩
    · exact ⟨operands, by simp [hmem], hv⟩
    · exact ⟨operands ++ after, by simp, fun o ho => (List.mem_append.1 ho).elim (hv o) (hafter o)⟩

/-- Where there are several alternatives, a row can fail an operand that stands before or after them
and be let through all the same. -/
theorem exists_framed_ne (hc : 2 ≤ c.length) {o : Operand} (hfresh : ∀ operands ∈ c, o ∉ operands)
    (ho : (o ∈ before ∧ o ∉ after) ∨ (o ∈ after ∧ o ∉ before)) :
    ∃ v : Operand → Truth, v o = .no ∧ eval v (framed before c after) = .yes := by
  have hne : c ≠ [] := by
    rintro rfl
    simp at hc
  refine ⟨fun o' => if o' = o then .no else .yes, if_pos rfl, eval_eq_yes_iff.2 ?_⟩
  have hyes : ∀ {operands : List Operand}, o ∉ operands → ∀ o' ∈ operands,
      (if o' = o then Truth.no else .yes) = .yes :=
    fun hnot o' ho' => if_neg fun heq : o' = o => hnot (heq ▸ ho')
  rcases eq_single_or_concat hne with ⟨only, rfl⟩ | ⟨first, d, last, rfl⟩
  · simp at hc
  · rw [framed_concat]
    rcases ho with ⟨-, hnot⟩ | ⟨-, hnot⟩
    · refine ⟨last ++ after, by simp, hyes fun hmem => ?_⟩
      exact (List.mem_append.1 hmem).elim (hfresh last (by simp)) hnot
    · refine ⟨before ++ first, by simp, hyes fun hmem => ?_⟩
      exact (List.mem_append.1 hmem).elim hnot (hfresh first (by simp))

/-- Joined to operands that are not its own, a condition is as it should be exactly if it has no
other alternative or there is nothing to be joined to. -/
theorem eval_framed_eq_iff (hc : c ≠ [])
    (hfresh : ∀ o ∈ before ++ after, ∀ operands ∈ c, o ∉ operands)
    (hdisjoint : ∀ o ∈ before, o ∉ after) :
    (∀ v, eval v (framed before c after) = together v before c after)
      ↔ c.length = 1 ∨ (before = [] ∧ after = []) := by
  constructor
  · intro h
    by_contra hnot
    rw [not_or] at hnot
    have hlength : 2 ≤ c.length := by
      have := List.length_pos_iff.2 hc
      omega
    obtain ⟨o, ho⟩ : ∃ o, (o ∈ before ∧ o ∉ after) ∨ (o ∈ after ∧ o ∉ before) := by
      rcases before with _ | ⟨o, before⟩
      · rcases after with _ | ⟨o, after⟩
        · exact absurd ⟨rfl, rfl⟩ hnot.2
        · exact ⟨o, .inr ⟨by simp, by simp⟩⟩
      · exact ⟨o, .inl ⟨by simp, hdisjoint o (by simp)⟩⟩
    have hmem : o ∈ before ++ after := by
      rcases ho with ⟨ho, -⟩ | ⟨ho, -⟩ <;> simp [ho]
    obtain ⟨v, hno, hyes⟩ := exists_framed_ne hlength (hfresh o hmem) ho
    rw [h v, together_eq_yes_iff] at hyes
    have : v o = .yes := by
      rcases ho with ⟨ho, -⟩ | ⟨ho, -⟩
      · exact hyes.1 o ho
      · exact hyes.2.2 o ho
    rw [hno] at this
    cases this
  · rintro (hlength | ⟨rfl, rfl⟩) v
    · obtain ⟨operands, rfl⟩ := List.length_eq_one_iff.1 hlength
      exact eval_framed_single
    · rw [framed_nil_nil hc]
      simp [together, Truth.all]

end Framed

end Condition

end Reporting.Sql
