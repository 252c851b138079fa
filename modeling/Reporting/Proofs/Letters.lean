import Reporting.Proofs.DayNumbers
import Reporting.Proofs.Digits
import Reporting.Proofs.Directives
import Reporting.Proofs.Runs
import Reporting.Locale.Format

/-!
# Date patterns in letters, section by section

A pattern in letters is a row of quoted texts, runs of one letter and other characters, and it is
one in exactly one way (`exists_cut`, `Cut.eq`). Without a percent sign it is always understood, and
a timestamp is shown as its sections say one after the other (`formatTimestamp_letters`).
-/

namespace Reporting.LetterPattern

open Calendar (Pattern Timestamp)
open Calendar.Pattern (read? hour12 monthNames weekdayNames)

section Sections

/-- The letters that name a field. -/
def isLetter (c : Char) : Bool := ['y', 'M', 'd', 'H', 'h', 'm', 's', 'S', 'a', 'E'].contains c

inductive Section
  | quoted (text : List Char)
  | run (letter : Char) (length : Nat)
  | other (c : Char)
deriving DecidableEq, Repr

/-- A text cut into sections: a quoted text goes on to the next quote or to the end, a run of a
letter as far as the letter is repeated. -/
inductive Cut : List Char → List Section → Prop
  | nil : Cut [] []
  | closed {text cs : List Char} {ss : List Section} (h : '\'' ∉ text) (hrest : Cut cs ss) :
      Cut ('\'' :: (text ++ '\'' :: cs)) (.quoted text :: ss)
  | unclosed {text : List Char} (h : '\'' ∉ text) : Cut ('\'' :: text) [.quoted text]
  | run {c : Char} {n : Nat} {cs : List Char} {ss : List Section} (hc : isLetter c)
      (hmax : cs.head? ≠ some c) (hrest : Cut cs ss) :
      Cut (c :: (List.replicate n c ++ cs)) (.run c (n + 1) :: ss)
  | other {c : Char} {cs : List Char} {ss : List Section} (hc : isLetter c = false)
      (hquote : c ≠ '\'') (hrest : Cut cs ss) : Cut (c :: cs) (.other c :: ss)

theorem isLetter_quote : isLetter '\'' = false := by decide

theorem span_repeated {c : Char} {cs : List Char} (n : Nat) (h : cs.head? ≠ some c) :
    (List.replicate n c ++ cs).takeWhile (· == c) = List.replicate n c
      ∧ (List.replicate n c ++ cs).dropWhile (· == c) = cs := by
  refine Text.span_run (by simp) fun d hd => ?_
  have hne : d ≠ c := by
    rintro rfl
    exact h hd
  simpa using hne

theorem bne_quote {text : List Char} (h : '\'' ∉ text) : ∀ c ∈ text, (c != '\'') = true := by
  intro c hc
  simpa using ne_of_mem_of_not_mem hc h

theorem span_quoted {text : List Char} (h : '\'' ∉ text) (cs : List Char) :
    (text ++ '\'' :: cs).takeWhile (· != '\'') = text
      ∧ (text ++ '\'' :: cs).dropWhile (· != '\'') = '\'' :: cs :=
  Text.span_run (bne_quote h) (by simp)

theorem quoted_inj {text text' cs cs' : List Char} (h : '\'' ∉ text) (h' : '\'' ∉ text')
    (heq : text ++ '\'' :: cs = text' ++ '\'' :: cs') : text = text' ∧ cs = cs' := by
  obtain ⟨htake, hdrop⟩ := span_quoted h cs
  obtain ⟨htake', hdrop'⟩ := span_quoted h' cs'
  rw [heq] at htake hdrop
  exact ⟨htake.symm.trans htake', (List.cons.inj (hdrop.symm.trans hdrop')).2⟩

theorem run_inj {c : Char} {n n' : Nat} {cs cs' : List Char} (h : cs.head? ≠ some c)
    (h' : cs'.head? ≠ some c) (heq : List.replicate n c ++ cs = List.replicate n' c ++ cs') :
    n = n' ∧ cs = cs' := by
  obtain ⟨htake, hdrop⟩ := span_repeated n h
  obtain ⟨htake', hdrop'⟩ := span_repeated n' h'
  rw [heq] at htake hdrop
  refine ⟨?_, hdrop.symm.trans hdrop'⟩
  simpa using congrArg List.length (htake.symm.trans htake')

/-- A text is cut into sections in one way only. -/
theorem Cut.eq {cs : List Char} {ss : List Section} (h : Cut cs ss) :
    ∀ {cs' : List Char} {ss' : List Section}, Cut cs' ss' → cs = cs' → ss = ss' := by
  induction h with
  | nil =>
    intro cs' ss' h' hcs
    cases h' <;> simp_all
  | closed h hrest ih =>
    intro cs' ss' h' hcs
    cases h' with
    | closed h' hrest' =>
      obtain ⟨rfl, rfl⟩ := quoted_inj h h' (List.cons.inj hcs).2
      rw [ih hrest' rfl]
    | unclosed h' =>
      simp only [List.cons.injEq, true_and] at hcs
      simp [← hcs] at h'
    | _ => grind [isLetter_quote]
  | unclosed h =>
    intro cs' ss' h' hcs
    cases h' <;> grind [isLetter_quote]
  | run hc hmax hrest ih =>
    intro cs' ss' h' hcs
    cases h' with
    | run hc' hmax' hrest' =>
      obtain ⟨rfl, hcs⟩ := List.cons.inj hcs
      obtain ⟨rfl, rfl⟩ := run_inj hmax hmax' hcs
      rw [ih hrest' rfl]
    | _ => grind [isLetter_quote]
  | other hc hquote hrest ih =>
    intro cs' ss' h' hcs
    cases h' <;> grind [isLetter_quote]

theorem Cut.others {c : Char} {cs : List Char} {ss : List Section} (hc : isLetter c = false)
    (hquote : c ≠ '\'') (h : Cut cs ss) :
    ∀ n, Cut (List.replicate n c ++ cs) (List.replicate n (.other c) ++ ss)
  | 0 => h
  | n + 1 => .other hc hquote (h.others hc hquote n)

/-- Every text is a row of sections, also with a quote that has no end. -/
theorem exists_cut (cs : List Char) : ∃ ss, Cut cs ss := by
  induction cs using translate.induct with
  | case1 => exact ⟨[], .nil⟩
  | case2 cs ih =>
    have hquote : '\'' ∉ cs.takeWhile (· != '\'') := by
      intro h
      simpa using List.mem_takeWhile_imp h
    have hsplit := List.takeWhile_append_dropWhile (p := (· != '\'')) (l := cs)
    have hhead := List.head?_dropWhile_not (· != '\'') cs
    obtain ⟨ss, hss⟩ := ih
    cases hrest : cs.dropWhile (· != '\'') with
    | nil =>
      rw [hrest, List.append_nil] at hsplit
      rw [← hsplit]
      exact ⟨_, .unclosed hquote⟩
    | cons c rest =>
      obtain rfl : c = '\'' := by simpa [hrest] using hhead
      rw [hrest] at hss hsplit
      rw [← hsplit]
      exact ⟨_, .closed hquote hss⟩
  | case3 c cs hc ih =>
    obtain ⟨ss, hss⟩ := ih
    obtain ⟨n, hn⟩ := Text.exists_run_append c cs
    rw [hn]
    cases hletter : isLetter c with
    | true =>
      have hmax : (cs.dropWhile (· == c)).head? ≠ some c := by
        intro h
        simpa [h] using List.head?_dropWhile_not (· == c) cs
      exact ⟨_, .run hletter hmax hss⟩
    | false => exact ⟨_, hss.others hletter hc (n + 1)⟩

end Sections

section Translation

theorem translate_closed {text cs : List Char} (h : '\'' ∉ text) :
    translate ('\'' :: (text ++ '\'' :: cs)) = text ++ translate cs := by
  obtain ⟨htake, hdrop⟩ := span_quoted h cs
  rw [translate, if_pos rfl, htake, hdrop, List.drop_one, List.tail_cons]

theorem translate_unclosed {text : List Char} (h : '\'' ∉ text) :
    translate ('\'' :: text) = text := by
  have htake := List.takeWhile_eq_self_iff.2 (bne_quote h)
  have hdrop := List.dropWhile_eq_nil_iff.2 (bne_quote h)
  rw [translate, if_pos rfl, htake, hdrop, List.drop_nil, translate, List.append_nil]

theorem translate_run {c : Char} {n : Nat} {cs : List Char} (hc : isLetter c)
    (h : cs.head? ≠ some c) :
    translate (c :: (List.replicate n c ++ cs)) = translateRun c (n + 1) ++ translate cs := by
  have hquote : c ≠ '\'' := by
    rintro rfl
    simp [isLetter_quote] at hc
  obtain ⟨htake, hdrop⟩ := span_repeated n h
  rw [translate, if_neg hquote, htake, hdrop, List.length_replicate]

theorem translateRun_other {c : Char} (hc : isLetter c = false) (n : Nat) :
    translateRun c n = List.replicate n c := by
  have hnone : directive? c n = none := by
    unfold directive?
    split <;> simp_all [isLetter]
  rw [translateRun, hnone, Option.getD_none]

theorem translate_other {c : Char} {cs : List Char} (hc : isLetter c = false) (hquote : c ≠ '\'') :
    translate (c :: cs) = c :: translate cs := by
  rw [translate, if_neg hquote, translateRun_other hc]
  cases cs with
  | nil => simp [translate]
  | cons d cs =>
    by_cases hd : d = c
    · subst hd
      rw [translate, if_neg hquote, translateRun_other hc]
      simp [List.replicate_succ]
    · simp [hd]

end Translation

section Fields

/-- A month or weekday by its place in a list of names. -/
def nameAt (names : List String) (i : Nat) : List Char := (names.getD i "").toList

/-- What a run of a letter stands for. -/
def field (ts : Timestamp) : Char → Nat → List Char
  | 'y', 2 => Text.zeroPadded 2 (ts.date.year % 100).toNat
  | 'y', _ => Timestamp.yearText ts.date.year
  | 'M', 1 => Text.digits ts.date.month
  | 'M', 2 => Text.zeroPadded 2 ts.date.month
  | 'M', 3 => (nameAt monthNames (ts.date.month - 1)).take 3
  | 'M', _ => nameAt monthNames (ts.date.month - 1)
  | 'd', 1 => Text.digits ts.date.day
  | 'd', _ => Text.zeroPadded 2 ts.date.day
  | 'H', 1 => Text.digits ts.hour
  | 'H', _ => Text.zeroPadded 2 ts.hour
  | 'h', 1 => Text.digits (hour12 ts.hour)
  | 'h', _ => Text.zeroPadded 2 (hour12 ts.hour)
  | 'm', _ => Text.zeroPadded 2 ts.minute
  | 's', _ => Text.zeroPadded 2 ts.second
  | 'S', _ => Text.zeroPadded 3 (ts.nano / 1000000)
  | 'a', _ => if ts.hour < 12 then ['A', 'M'] else ['P', 'M']
  | 'E', n =>
    if 4 ≤ n then nameAt weekdayNames ts.date.weekday
    else (nameAt weekdayNames ts.date.weekday).take 3
  | _, _ => []

def Section.shown (ts : Timestamp) : Section → List Char
  | .quoted text => text
  | .run c n => field ts c n
  | .other c => [c]

theorem twoDigits_zero : ∀ n < 100, Pattern.twoDigits .zero n = Text.zeroPadded 2 n := by decide

theorem twoDigits_none : ∀ n < 100, Pattern.twoDigits .none n = Text.digits n := by decide

theorem four_le_length_digits {n : Nat} (h : 9999 < n) : 4 ≤ (Text.digits n).length := by
  rw [Text.digits_of_le (by omega), Text.digits_of_le (by omega), Text.digits_of_le (by omega)]
  have hne : Text.digits (n / 10 / 10 / 10) ≠ [] := Nat.toDigits_ne_nil
  have hpos := List.length_pos_iff.2 hne
  simp only [List.length_append, List.length_singleton]
  omega

theorem paddedYear_zero (year : Int) : Pattern.paddedYear .zero year = Timestamp.yearText year := by
  unfold Pattern.paddedYear Timestamp.yearText
  split
  · rfl
  · split
    · have h := four_le_length_digits (n := year.natAbs) (by omega)
      simp [Pattern.padded, Text.zeroPadded, Text.padLeft, Nat.sub_eq_zero_of_le h]
    · rfl

theorem month_lt (d : Calendar.Date) : d.month < 100 := Nat.lt_of_le_of_lt d.month_le (by decide)

theorem day_lt (d : Calendar.Date) : d.day < 100 := Nat.lt_of_le_of_lt d.day_le (by decide)

theorem hour_lt (ts : Timestamp) : ts.hour < 100 := Nat.lt_trans ts.hour_lt (by decide)

theorem minute_lt (ts : Timestamp) : ts.minute < 100 := Nat.lt_trans ts.minute_lt (by decide)

theorem second_lt (ts : Timestamp) : ts.second < 100 := Nat.lt_of_le_of_lt ts.second_le (by decide)

theorem hour12_lt (ts : Timestamp) : hour12 ts.hour < 100 := by
  unfold hour12
  split <;> omega

end Fields

section Meaning

/-- A text that is understood, with what it shows of each timestamp. -/
def Shows (cs : List Char) (shown : Timestamp → List Char) : Prop :=
  ∃ p, read? cs = some p ∧ ∀ ts, Pattern.render? p ts = some (String.ofList (shown ts))

theorem Shows.append {cs cs' : List Char} {shown shown' : Timestamp → List Char}
    (h : Shows cs shown) (h' : Shows cs' shown') :
    Shows (cs ++ cs') (fun ts => shown ts ++ shown' ts) := by
  obtain ⟨p, hp, hshown⟩ := h
  obtain ⟨p', hp', hshown'⟩ := h'
  obtain ⟨parts, rfl, hparts⟩ := Pattern.read?_eq_some_iff.1 hp
  obtain ⟨parts', rfl, hparts'⟩ := Pattern.read?_eq_some_iff.1 hp'
  refine ⟨p ++ p', Pattern.read?_eq_some_iff.2 ⟨_, List.flatten_append, hparts.append hparts'⟩, ?_⟩
  intro ts
  simp [Pattern.render?_append, hshown, hshown']

theorem shows_literal : ∀ {cs : List Char}, '%' ∉ cs → Shows cs (fun _ => cs)
  | [], _ => ⟨[], rfl, fun _ => rfl⟩
  | c :: cs, h => by
    rw [List.mem_cons, not_or] at h
    have hc : Shows [c] (fun _ => [c]) := by
      refine ⟨[.literal c], ?_, fun _ => rfl⟩
      rw [Pattern.read?_literal (Ne.symm h.1)]
      rfl
    exact hc.append (shows_literal h.2)

theorem shows_number {cs : List Char} {field : Calendar.NumericField} {pad : Calendar.Pad}
    {shown : Timestamp → List Char} (h : read? cs = some [.number field pad])
    (hshown : ∀ ts, Pattern.renderNumber pad ts field = shown ts) : Shows cs shown :=
  ⟨_, h, fun ts => by simp [Pattern.render?, Pattern.renderDirective?, hshown]⟩

theorem shows_text {cs : List Char} {field : Calendar.TextField} {shown : Timestamp → List Char}
    (h : read? cs = some [.text field]) (hshown : ∀ ts, Pattern.renderText ts field = shown ts) :
    Shows cs shown :=
  ⟨_, h, fun ts => by simp [Pattern.render?, Pattern.renderDirective?, hshown]⟩

theorem shows_run {c : Char} (hc : isLetter c) (n : Nat) :
    Shows (translateRun c (n + 1)) (fun ts => field ts c (n + 1)) := by
  simp only [isLetter, List.contains_eq_mem, List.mem_cons, List.not_mem_nil, or_false,
    decide_eq_true_eq] at hc
  rcases hc with rfl | rfl | rfl | rfl | rfl | rfl | rfl | rfl | rfl | rfl
  · -- years
    match n with
    | 1 => exact shows_number rfl fun ts => twoDigits_zero _ (by omega)
    | 0 => exact shows_number rfl fun ts => paddedYear_zero _
    | n + 2 => exact shows_number rfl fun ts => paddedYear_zero _
  · -- months
    match n with
    | 0 => exact shows_number rfl fun ts => twoDigits_none _ (month_lt ts.date)
    | 1 => exact shows_number rfl fun ts => twoDigits_zero _ (month_lt ts.date)
    | 2 => exact shows_text rfl fun ts => rfl
    | n + 3 => exact shows_text rfl fun ts => rfl
  · -- days
    match n with
    | 0 => exact shows_number rfl fun ts => twoDigits_none _ (day_lt ts.date)
    | n + 1 => exact shows_number rfl fun ts => twoDigits_zero _ (day_lt ts.date)
  · -- hours of the day
    match n with
    | 0 => exact shows_number rfl fun ts => twoDigits_none _ (hour_lt ts)
    | n + 1 => exact shows_number rfl fun ts => twoDigits_zero _ (hour_lt ts)
  · -- hours of half a day
    match n with
    | 0 => exact shows_number rfl fun ts => twoDigits_none _ (hour12_lt ts)
    | n + 1 => exact shows_number rfl fun ts => twoDigits_zero _ (hour12_lt ts)
  · exact shows_number rfl fun ts => twoDigits_zero _ (minute_lt ts)
  · exact shows_number rfl fun ts => twoDigits_zero _ (second_lt ts)
  · exact shows_text rfl fun ts => rfl
  · exact shows_text rfl fun ts => rfl
  · -- weekdays
    by_cases hn : 4 ≤ n + 1
    · have htext : translateRun 'E' (n + 1) = ['%', 'A'] := by simp [translateRun, directive?, hn]
      rw [htext]
      exact shows_text rfl fun ts => by simp [Pattern.renderText, field, nameAt, hn]
    · have htext : translateRun 'E' (n + 1) = ['%', 'a'] := by simp [translateRun, directive?, hn]
      rw [htext]
      exact shows_text rfl fun ts => by simp [Pattern.renderText, field, nameAt, hn]

/-- Of a pattern without a percent sign everything is understood. -/
theorem shows_translate {cs : List Char} {ss : List Section} (h : Cut cs ss) :
    '%' ∉ cs → Shows (translate cs) (fun ts => ss.flatMap (Section.shown ts)) := by
  induction h with
  | nil =>
    intro _
    rw [translate]
    exact ⟨[], rfl, fun _ => rfl⟩
  | closed h _ ih =>
    intro hpercent
    simp only [List.mem_cons, List.mem_append, not_or] at hpercent
    rw [translate_closed h]
    exact (shows_literal hpercent.2.1).append (ih hpercent.2.2.2)
  | unclosed h =>
    intro hpercent
    rw [translate_unclosed h]
    simpa [Section.shown] using shows_literal (mt (List.mem_cons_of_mem _) hpercent)
  | run hc hmax _ ih =>
    intro hpercent
    simp only [List.mem_cons, List.mem_append, not_or] at hpercent
    rw [translate_run hc hmax]
    exact (shows_run hc _).append (ih hpercent.2.2)
  | @other c cs ss hc hquote _ ih =>
    intro hpercent
    rw [List.mem_cons, not_or] at hpercent
    rw [translate_other hc hquote]
    have hliteral : '%' ∉ [c] := by simpa using hpercent.1
    exact (shows_literal hliteral).append (ih hpercent.2)

end Meaning

end Reporting.LetterPattern

namespace Reporting.Locale

open Calendar (Pattern)
open LetterPattern (Cut Section)

theorem directives_of_letters {s : String} (h : '%' ∉ s.toList) :
    directives s = String.ofList (LetterPattern.translate s.toList) := by
  simp [directives, String.contains_char_eq, h]

theorem formatTimestamp_letters {pattern : String} (h : '%' ∉ pattern.toList) :
    ∃ ss p, Cut pattern.toList ss ∧ (∀ ss', Cut pattern.toList ss' → ss' = ss)
      ∧ Pattern.ofText? (directives pattern) = some p
      ∧ (∀ ts, p.render? ts = some (String.ofList (ss.flatMap (Section.shown ts))))
      ∧ ∀ (l : Locale) t, Text.isAllBlank pattern = false →
        l.timestampDirectives t (some pattern) = p
        ∧ ∀ ts, l.formatTimestamp t (some pattern) ts
          = .ok (String.ofList (ss.flatMap (Section.shown ts))) := by
  obtain ⟨ss, hss⟩ := LetterPattern.exists_cut pattern.toList
  obtain ⟨p, hp, hshown⟩ := LetterPattern.shows_translate hss h
  have hread : Pattern.ofText? (directives pattern) = some p := by
    rw [directives_of_letters h, Pattern.ofText?, String.toList_ofList, hp]
  refine ⟨ss, p, hss, fun ss' h' => h'.eq hss rfl, hread, hshown, fun l t hblank => ?_⟩
  have hused : l.timestampDirectives t (some pattern) = p := by
    rw [timestampDirectives, given_of_not_blank hblank, Option.bind_some, hread, Option.some_or,
      Option.getD_some]
  refine ⟨hused, fun ts => ?_⟩
  rw [formatTimestamp, hused, hshown]

/-- A quote between two runs of a letter, and one without an end. -/
theorem formatTimestamp_letters_unclosed :
    '%' ∉ "d'd'dd MMM 'at H".toList
      ∧ Cut "d'd'dd MMM 'at H".toList
        [.run 'd' 1, .quoted ['d'], .run 'd' 2, .other ' ', .run 'M' 3, .other ' ',
          .quoted ['a', 't', ' ', 'H']]
      ∧ ({} : Locale).formatTimestamp .date (some "d'd'dd MMM 'at H")
        (.midnight ⟨2024, 3, 1, by decide⟩) = .ok "1d01 Mar at H" := by
  have hpercent : '%' ∉ "d'd'dd MMM 'at H".toList := by decide
  have htext : "d'd'dd MMM 'at H".toList = ['d', '\'', 'd', '\'', 'd', 'd', ' ', 'M', 'M', 'M', ' ',
      '\'', 'a', 't', ' ', 'H'] := by decide
  have hat : Cut [' ', '\'', 'a', 't', ' ', 'H'] [.other ' ', .quoted ['a', 't', ' ', 'H']] :=
    .other rfl (by decide) (.unclosed (by decide))
  have hmonth : Cut (' ' :: ('M' :: (List.replicate 2 'M' ++ [' ', '\'', 'a', 't', ' ', 'H'])))
      [.other ' ', .run 'M' 3, .other ' ', .quoted ['a', 't', ' ', 'H']] :=
    .other rfl (by decide) (.run rfl (by decide) hat)
  have hcut : Cut "d'd'dd MMM 'at H".toList
      [.run 'd' 1, .quoted ['d'], .run 'd' 2, .other ' ', .run 'M' 3, .other ' ',
        .quoted ['a', 't', ' ', 'H']] := by
    rw [htext]
    exact @Cut.run 'd' 0 _ _ rfl (by decide) <| @Cut.closed ['d'] _ _ (by decide) <|
      @Cut.run 'd' 1 _ _ rfl (by decide) hmonth
  obtain ⟨ss, p, -, honly, -, -, hshown⟩ := formatTimestamp_letters hpercent
  obtain rfl := honly _ hcut
  refine ⟨hpercent, hcut, ?_⟩
  rw [(hshown {} .date (by decide)).2]
  decide

end Reporting.Locale
