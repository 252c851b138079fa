import Reporting.Sql.Dialect
import Reporting.Text.Blank

/-!
# Tokens of a condition

Words, signs and quoted texts, read character by character. A text with a comment or an open quote
has no tokens. A text is inert when it can stand inside of parentheses: the quotes and parentheses
that it opens it also closes (`Inert`).
-/

namespace Reporting.Sql

inductive Token
  | word (chars : List Char)
  | sign (c : Char)
  | quoted (quote : Char) (chars : List Char)
deriving DecidableEq

namespace Token

/-- Keywords are words in any case. -/
def isKeyword (t : Token) (keyword : String) : Bool :=
  match t with
  | word chars => chars.map Char.toUpper = keyword.toList
  | _ => false

/-- The parentheses that are open after tokens, none where more are closed than have been
opened. -/
def nest (n : Nat) : List Token → Option Nat
  | [] => some n
  | t :: ts =>
    if t = sign '(' then nest (n + 1) ts
    else if t = sign ')' then if n = 0 then none else nest (n - 1) ts
    else nest n ts

theorem nest_append : ∀ (ts us : List Token) (n : Nat),
    nest n (ts ++ us) = (nest n ts).bind (nest · us)
  | [], us, n => rfl
  | t :: ts, us, n => by
    rw [List.cons_append, nest, nest]
    split
    · exact nest_append ts us _
    split
    · split
      · rfl
      · exact nest_append ts us _
    · exact nest_append ts us _

/-- Tokens that are balanced are so inside of other parentheses. -/
theorem nest_add : ∀ {ts : List Token} {n m : Nat}, nest n ts = some m →
    ∀ k, nest (n + k) ts = some (m + k)
  | [], n, m, h, k => by
    rw [nest, Option.some.injEq] at h ⊢
    omega
  | t :: ts, n, m, h, k => by
    rw [nest] at h ⊢
    split at h
    · rename_i hopen
      rw [if_pos hopen, Nat.add_right_comm]
      exact nest_add h k
    rename_i hopen
    rw [if_neg hopen]
    split at h
    · rename_i hclose
      split at h
      · cases h
      · rw [if_pos hclose, if_neg (by omega), Nat.sub_add_comm (by omega)]
        exact nest_add h k
    · rename_i hclose
      rw [if_neg hclose]
      exact nest_add h k

end Token

/-- What a reader of characters is in the middle of. -/
inductive Mode
  | free
  /-- A word, its last character first. -/
  | word (chars : List Char)
  /-- A quoted text, its last character first. -/
  | quoted (quote : Char) (chars : List Char)
  /-- A sign that may begin a comment. -/
  | half (c : Char)
deriving DecidableEq

def isQuote (c : Char) : Bool := c == '\'' || c == '"'

/-- Letters beyond ASCII are taken as parts of words. -/
def isWordChar (c : Char) : Bool :=
  isNameChar c || c == '.' || c == '$' || (0x80 ≤ c.toNat && !Text.isBlank c)

namespace Mode

/-- The token that ends with the text, if the text can end here. -/
def finish : Mode → Option (List Token)
  | free => some []
  | word chars => some [.word chars.reverse]
  | quoted _ _ => none
  | half c => some [.sign c]

/-- What a character begins. -/
def start (c : Char) : Mode × List Token :=
  if isWordChar c then (word [c], [])
  else if Text.isBlank c then (free, [])
  else if isQuote c then (quoted c [], [])
  else if c = '-' || c = '/' then (half c, [])
  else (free, [.sign c])

def step : Mode → Char → Option (Mode × List Token)
  | free, c => some (start c)
  | word chars, c =>
    if isWordChar c then some (word (c :: chars), [])
    else some ((start c).1, .word chars.reverse :: (start c).2)
  | quoted quote chars, c =>
    if c = quote then some (free, [.quoted quote chars.reverse])
    else some (quoted quote (c :: chars), [])
  | half h, c =>
    if h = '-' && c = '-' || h = '/' && c = '*' then none
    else some ((start c).1, .sign h :: (start c).2)

def feed : Mode → List Char → Option (Mode × List Token)
  | m, [] => some (m, [])
  | m, c :: cs => do
    let (m, first) ← m.step c
    let (m, rest) ← feed m cs
    return (m, first ++ rest)

theorem feed_append : ∀ (cs ds : List Char) (m : Mode),
    feed m (cs ++ ds)
      = (feed m cs).bind fun r => (feed r.1 ds).map fun r' => (r'.1, r.2 ++ r'.2)
  | [], ds, m => by simp [feed]
  | c :: cs, ds, m => by
    rw [List.cons_append, feed, feed]
    rcases m.step c with _ | ⟨m', first⟩
    · rfl
    · simp only [Option.bind_eq_bind, Option.bind_some, feed_append cs ds m']
      rcases feed m' cs with _ | ⟨m'', rest⟩
      · rfl
      · rcases h : feed m'' ds with _ | ⟨m₃, last⟩ <;> simp [h]

/-- A character that neither goes on with a word nor makes a comment ends what comes before it. -/
theorem step_of_finish {m : Mode} {last : List Token} (h : m.finish = some last) {c : Char}
    (hc : isWordChar c = false) (hcomment : c ≠ '-' ∧ c ≠ '*') :
    m.step c = some ((start c).1, last ++ (start c).2) := by
  cases m with
  | free =>
    obtain rfl := Option.some.inj h
    rfl
  | word chars =>
    obtain rfl := Option.some.inj h
    simp [step, hc]
  | quoted quote chars => cases h
  | half h' =>
    obtain rfl := Option.some.inj h
    simp [step, hcomment]

end Mode

/-- The tokens of a text. -/
def tokens (cs : List Char) : Option (List Token) := do
  let (m, ts) ← Mode.feed .free cs
  return ts ++ (← m.finish)

theorem tokens_eq_some {cs : List Char} {ts : List Token} (h : tokens cs = some ts) :
    ∃ m out last, Mode.feed .free cs = some (m, out) ∧ m.finish = some last ∧ ts = out ++ last := by
  unfold tokens at h
  rcases hfeed : Mode.feed .free cs with _ | ⟨m, out⟩
  · simp [hfeed] at h
  · rcases hm : m.finish with _ | last
    · simp [hfeed, hm] at h
    · simp only [hfeed, hm, Option.bind_eq_bind, Option.bind_some, Option.pure_def] at h
      exact ⟨m, out, last, rfl, hm, (Option.some.inj h).symm⟩

theorem tokens_of_feed {cs : List Char} {m : Mode} {out last : List Token}
    (hfeed : Mode.feed .free cs = some (m, out)) (hm : m.finish = some last) :
    tokens cs = some (out ++ last) := by
  simp [tokens, hfeed, hm]

section Inert

open Token (nest nest_append nest_add)

/-- No quoted text is open and no comment may have begun. -/
def Mode.idle : Mode → Bool
  | free | word _ => true
  | quoted _ _ | half _ => false

/-- The text closes the quotes and parentheses that it opens and no others, wherever it stands. -/
def Inert (cs : List Char) : Prop :=
  ∀ m : Mode, m.idle →
    ∃ m' out, m.feed cs = some (m', out) ∧ m'.idle ∧ ∀ n, nest n out = some n

/-- The text closes the quotes and parentheses that it opens when it stands alone. -/
def Closed (cs : List Char) : Prop := ∃ ts, tokens cs = some ts ∧ nest 0 ts = some 0

theorem Mode.finish_of_idle {m : Mode} (h : m.idle) :
    ∃ last, m.finish = some last ∧ ∀ n, nest n last = some n := by
  cases m with
  | free => exact ⟨[], rfl, fun _ => rfl⟩
  | word chars => exact ⟨[.word chars.reverse], rfl, fun n => by simp [nest]⟩
  | quoted quote chars => cases h
  | half c => cases h

theorem Inert.closed {cs : List Char} (h : Inert cs) : Closed cs := by
  obtain ⟨m, out, hfeed, hidle, hout⟩ := h .free rfl
  obtain ⟨last, hm, hlast⟩ := Mode.finish_of_idle hidle
  refine ⟨_, tokens_of_feed hfeed hm, ?_⟩
  rw [nest_append, hout, Option.bind_some, hlast]

theorem Inert.nil : Inert [] := fun m h => ⟨m, [], rfl, h, fun _ => rfl⟩

theorem Inert.append {cs ds : List Char} (hc : Inert cs) (hd : Inert ds) : Inert (cs ++ ds) := by
  intro m hm
  obtain ⟨m', out, hfeed, hm', hout⟩ := hc m hm
  obtain ⟨m'', out', hfeed', hm'', hout'⟩ := hd m' hm'
  refine ⟨m'', out ++ out', ?_, hm'', fun n => ?_⟩
  · simp [Mode.feed_append, hfeed, hfeed']
  · rw [nest_append, hout, Option.bind_some, hout']

theorem Mode.feed_cons {m m' : Mode} {c : Char} {first : List Token}
    (h : m.step c = some (m', first)) (cs : List Char) :
    m.feed (c :: cs) = (m'.feed cs).map fun r => (r.1, first ++ r.2) := by
  rw [feed, h]
  rcases hr : m'.feed cs with _ | r <;> simp [hr]

theorem Mode.feed_parenthesized {m : Mode} {before : List Token} (hm : m.finish = some before)
    {cs : List Char} {ts : List Token} (h : tokens cs = some ts) :
    m.feed ('(' :: cs ++ [')']) = some (free, before ++ .sign '(' :: ts ++ [.sign ')']) := by
  obtain ⟨m', out, last, hfeed, hlast, rfl⟩ := tokens_eq_some h
  have hopen := step_of_finish hm (c := '(') (by decide) (by decide)
  have hclose := step_of_finish hlast (c := ')') (by decide) (by decide)
  have hstart : start '(' = (free, [.sign '(']) ∧ start ')' = (free, [.sign ')']) := by decide
  rw [hstart.1] at hopen
  rw [hstart.2] at hclose
  rw [List.cons_append, feed_cons hopen, feed_append, hfeed, Option.bind_some, feed_cons hclose]
  simp [feed]

theorem tokens_parenthesized {cs : List Char} {ts : List Token} (h : tokens cs = some ts) :
    tokens ('(' :: cs ++ [')']) = some (.sign '(' :: ts ++ [.sign ')']) := by
  rw [tokens_of_feed (Mode.feed_parenthesized (m := .free) rfl h) rfl, List.nil_append,
    List.append_nil]

/-- Whatever stands between parentheses is closed off by them. -/
theorem Closed.parenthesized {cs : List Char} (h : Closed cs) : Inert ('(' :: cs ++ [')']) := by
  obtain ⟨ts, hts, hnest⟩ := h
  intro m hm
  obtain ⟨before, hbefore, hneutral⟩ := Mode.finish_of_idle hm
  refine ⟨.free, _, Mode.feed_parenthesized hbefore hts, rfl, fun n => ?_⟩
  have hinner := nest_add hnest (n + 1)
  rw [Nat.zero_add] at hinner
  rw [List.append_assoc, nest_append, hneutral, Option.bind_some, List.cons_append, nest,
    if_pos rfl, nest_append, hinner]
  rfl

/-- A character that is no quote, no parenthesis and no part of a comment mark. -/
def isHarmless (c : Char) : Bool := !isQuote c && !(['(', ')', '-', '/'].contains c)

theorem Inert.of_isHarmless : ∀ {cs : List Char}, cs.all isHarmless → Inert cs
  | [], _ => .nil
  | c :: cs, h => by
    rw [List.all_cons, Bool.and_eq_true] at h
    have ih := Inert.of_isHarmless h.2
    have hc := h.1
    simp only [isHarmless, Bool.and_eq_true, Bool.not_eq_true', List.contains_eq_mem,
      decide_eq_false_iff_not, List.mem_cons, not_or] at hc
    -- After one harmless character the reader is still idle and has met no parenthesis.
    have hstart : (Mode.start c).1.idle ∧ ∀ n, nest n (Mode.start c).2 = some n := by
      unfold Mode.start
      split
      · exact ⟨rfl, fun _ => rfl⟩
      split
      · exact ⟨rfl, fun _ => rfl⟩
      simp [hc, Mode.idle, nest]
    have hstep : ∀ m : Mode, m.idle →
        ∃ m' first, m.step c = some (m', first) ∧ m'.idle ∧ ∀ n, nest n first = some n := by
      intro m hm
      cases m with
      | free => exact ⟨_, _, rfl, hstart.1, hstart.2⟩
      | word chars =>
        rw [Mode.step]
        split
        · exact ⟨_, _, rfl, rfl, fun _ => rfl⟩
        · exact ⟨_, _, rfl, hstart.1, fun n => by simpa [nest] using hstart.2 n⟩
      | quoted quote chars => cases hm
      | half h => cases hm
    intro m hm
    obtain ⟨m', first, hfirst, hm', hnest⟩ := hstep m hm
    obtain ⟨m'', out, hfeed, hm'', hout⟩ := ih m' hm'
    refine ⟨m'', first ++ out, ?_, hm'', fun n => ?_⟩
    · simp [Mode.feed_cons hfirst, hfeed]
    · rw [nest_append, hnest, Option.bind_some, hout]

theorem Mode.start_quote {quote : Char} (hq : isQuote quote) :
    start quote = (quoted quote [], []) := by
  have : quote = '\'' ∨ quote = '"' := by simpa [isQuote] using hq
  rcases this with rfl | rfl <;> decide

/-- Each doubled quote closes a quoted text and opens the next one. -/
theorem Mode.feed_quoted {quote : Char} (hq : isQuote quote) :
    ∀ (cs chars : List Char), ∃ out,
      (quoted quote chars).feed ((cs.flatMap fun c => if c = quote then [quote, quote] else [c])
        ++ [quote]) = some (.free, out) ∧ ∀ n, nest n out = some n
  | [], chars => ⟨[.quoted quote chars.reverse], by simp [feed, step], fun n => by simp [nest]⟩
  | c :: cs, chars => by
    by_cases hc : c = quote
    · obtain ⟨out, hfeed, hout⟩ := Mode.feed_quoted hq cs []
      have hclose : (quoted quote chars).step quote
          = some (free, [.quoted quote chars.reverse]) := by
        simp [step]
      have hopen : free.step quote = some (quoted quote [], []) := by
        rw [step, start_quote hq]
      refine ⟨.quoted quote chars.reverse :: out, ?_, fun n => by simpa [nest] using hout n⟩
      rw [List.flatMap_cons, if_pos hc, List.append_assoc, List.cons_append, List.cons_append,
        List.nil_append, feed_cons hclose, feed_cons hopen, hfeed]
      rfl
    · obtain ⟨out, hfeed, hout⟩ := Mode.feed_quoted hq cs (c :: chars)
      have hread : (quoted quote chars).step c = some (quoted quote (c :: chars), []) := by
        simp [step, hc]
      refine ⟨out, ?_, hout⟩
      rw [List.flatMap_cons, if_neg hc, List.append_assoc, List.cons_append, List.nil_append,
        feed_cons hread, hfeed]
      rfl

theorem Inert.quotedBy {quote : Char} (hq : isQuote quote) (s : String) :
    Inert (quotedBy quote s).toList := by
  intro m hm
  obtain ⟨before, hbefore, hneutral⟩ := Mode.finish_of_idle hm
  obtain ⟨out, hfeed, hout⟩ := Mode.feed_quoted hq s.toList []
  have hquote : quote = '\'' ∨ quote = '"' := by simpa [isQuote] using hq
  have hopen : m.step quote = some (.quoted quote [], before) := by
    have hchar : isWordChar quote = false ∧ quote ≠ '-' ∧ quote ≠ '*' := by
      rcases hquote with rfl | rfl <;> decide
    rw [Mode.step_of_finish hbefore hchar.1 hchar.2, Mode.start_quote hq, List.append_nil]
  refine ⟨.free, before ++ out, ?_, rfl, fun n => ?_⟩
  · rw [Sql.quotedBy, String.toList_ofList, List.cons_append, Mode.feed_cons hopen, hfeed]
    rfl
  · rw [nest_append, hneutral, Option.bind_some, hout]

end Inert

end Reporting.Sql
