import Reporting.Proofs.NumberText

/-!
# Quoted text in number patterns

Text in quotes stands around the number without its quotes. The quotes do not hide it where a
pattern is searched for its digits: the text is shown as it is exactly if it has none of the
characters that a pattern looks for (`quoted_literal_iff`). Otherwise some of it is lost
(`quoted_unit_lost`).
-/

namespace Reporting

theorem Decimal.negative_round {d : Decimal} (h : d.negative = false) (tie : Tie) (places : Nat) :
    (d.round tie places).negative = false := by
  rw [round]
  split
  · exact h
  · simp [h]

namespace NumberPattern

section Parts

/-- A text without the characters that a number pattern looks for. -/
def Plain (cs : List Char) : Prop := ∀ c ∈ cs, isBody c = false ∧ c ≠ ';'

/-- A number pattern without any text, that shows digits. -/
def Bare (cs : List Char) : Prop := (∀ c ∈ cs, isBody c) ∧ ∃ c ∈ cs, c = '0' ∨ c = '#'

theorem Bare.ne_nil {b : List Char} (hb : Bare b) : b ≠ [] := by
  obtain ⟨c, hc, -⟩ := hb.2
  exact List.ne_nil_of_mem hc

theorem Bare.semicolon_not_mem {b : List Char} (hb : Bare b) : ';' ∉ b :=
  fun h => by simpa [isBody] using hb.1 _ h

theorem positive_of_not_mem {cs : List Char} (h : ';' ∉ cs) : positive cs = cs := by
  rw [positive, List.takeWhile_eq_self_iff]
  intro c hc
  simpa using ne_of_mem_of_not_mem hc h

/-- Plain text around a bare pattern is what is written around the number. -/
theorem ofText_framed {x b y : List Char} (hx : Plain x) (hb : Bare b) (hy : Plain y) :
    ofText (String.ofList (x ++ (b ++ y)))
      = { ofText (String.ofList b) with before := unquoted x, after := unquoted y } := by
  have hne := hb.ne_nil
  have hbody := hb.semicolon_not_mem
  have hsemicolon : ';' ∉ x ++ (b ++ y) := by
    simp only [List.mem_append, not_or]
    exact ⟨fun h => (hx _ h).2 rfl, hbody, fun h => (hy _ h).2 rfl⟩
  have hhead : ∀ c ∈ b.head?, isBody c := fun c hc => hb.1 c (List.mem_of_mem_head? hc)
  have hlast : ∀ c ∈ b.getLast?, isBody c := fun c hc => hb.1 c (List.mem_of_mem_getLast? hc)
  obtain ⟨hfront, hmiddle, hback⟩ := parts_framed (fun c hc => (hx c hc).1) hhead hlast
    (absurd · hne) (fun c hc => (hy c hc).1)
  have halone := @parts_framed [] b [] (by simp) hhead hlast (absurd · hne) (by simp)
  rw [List.nil_append, List.append_nil] at halone
  rw [ofText_eq, ofText_eq, String.toList_ofList, String.toList_ofList,
    positive_of_not_mem hsemicolon, positive_of_not_mem hbody, hfront, hmiddle, hback, halone.1,
    halone.2.1, halone.2.2]
  rfl

theorem unquoted_of_not_mem {cs : List Char} (h : '\'' ∉ cs) : unquoted cs = cs := by
  rw [unquoted, List.filter_eq_self]
  intro c hc
  simpa using ne_of_mem_of_not_mem hc h

end Parts

section Literal

/-- The sign of a number shown by its rounded value. -/
def signText (r : Decimal) : List Char := if r.negative && !r.isZero then ['-'] else []

theorem toList_format (p : NumberPattern) (x y : List Char) (ds gs : Char) (d : Decimal) :
    (format { p with before := x, after := y } ds gs d).toList
      = signText (p.rounded d) ++ x ++ p.body ds gs (p.rounded d) ++ y :=
  String.toList_ofList

theorem toList_format_bare {b : String} (hb : Bare b.toList) (ds gs : Char) (d : Decimal) :
    ((ofText b).format ds gs d).toList
      = signText ((ofText b).rounded d) ++ (ofText b).body ds gs ((ofText b).rounded d) := by
  have hplain : Plain [] := by simp [Plain]
  have hbare := ofText_framed hplain hb hplain
  rw [List.nil_append, List.append_nil, String.ofList_toList] at hbare
  have h := (ofText b).toList_format [] [] ds gs d
  rw [List.append_nil, List.append_nil] at h
  rw [← h]
  exact congrArg (fun p => (format p ds gs d).toList) hbare

theorem plain_quoted {t : List Char} (h : Plain t) : Plain ('\'' :: t ++ ['\'']) := by
  intro c hc
  simp only [List.cons_append, List.mem_cons, List.mem_append, List.not_mem_nil, or_false] at hc
  rcases hc with rfl | hc | rfl
  · decide
  · exact h c hc
  · decide

theorem unquoted_quoted {t : List Char} (h : '\'' ∉ t) : unquoted ('\'' :: t ++ ['\'']) = t := by
  have ht := unquoted_of_not_mem h
  unfold unquoted at ht ⊢
  simp [ht]

variable {b t : String} (hb : Bare b.toList) (ht : '\'' ∉ t.toList) (hplain : Plain t.toList)
  (ds gs : Char) (d : Decimal)

include hb ht hplain

/-- Plain text in quotes after the pattern follows the number. -/
theorem format_text_after :
    (ofText (b ++ " '" ++ t ++ "'")).format ds gs d = (ofText b).format ds gs d ++ " " ++ t := by
  have htext : b ++ " '" ++ t ++ "'"
      = String.ofList ([] ++ (b.toList ++ (' ' :: ('\'' :: t.toList ++ ['\''])))) := by
    rw [← String.toList_inj]
    simp
  have hafter : Plain (' ' :: ('\'' :: t.toList ++ ['\''])) := by
    intro c hc
    rcases List.mem_cons.1 hc with rfl | hc
    · decide
    · exact plain_quoted hplain c hc
  have hunquoted : unquoted (' ' :: ('\'' :: t.toList ++ ['\''])) = ' ' :: t.toList :=
    congrArg (' ' :: ·) (unquoted_quoted ht)
  rw [htext, ofText_framed (by simp [Plain]) hb hafter, hunquoted, String.ofList_toList,
    ← String.toList_inj, toList_format, String.toList_append, String.toList_append,
    toList_format_bare hb]
  simp [unquoted]

/-- Plain text in quotes before the pattern stands before the number, after its sign. -/
theorem format_text_before (h : d.negative = false) :
    (ofText ("'" ++ t ++ "'" ++ b)).format ds gs d = t ++ (ofText b).format ds gs d := by
  have htext : "'" ++ t ++ "'" ++ b
      = String.ofList (('\'' :: t.toList ++ ['\'']) ++ (b.toList ++ [])) := by
    rw [← String.toList_inj]
    simp
  have hsign : signText ((ofText b).rounded d) = [] := by
    rw [signText, rounded, Decimal.negative_round h]
    rfl
  rw [htext, ofText_framed (plain_quoted hplain) hb (by simp [Plain]), unquoted_quoted ht,
    String.ofList_toList, ← String.toList_inj, toList_format, String.toList_append,
    toList_format_bare hb, hsign]
  simp [unquoted]

end Literal

section Lost

theorem mem_group {size : Nat} {separator c : Char} :
    ∀ {cs : List Char}, c ∈ group size separator cs → c = separator ∨ c ∈ cs
  | [], h => .inr h
  | d :: cs, h => by
    rw [group] at h
    split at h <;> simp only [List.mem_cons] at h ⊢
    · rcases h with h | h
      · exact .inr (.inl h)
      · exact (mem_group h).imp_right .inr
    · rcases h with h | h | h
      · exact .inr (.inl h)
      · exact .inl h
      · exact (mem_group h).imp_right .inr

theorem mem_body {p : NumberPattern} {ds gs c : Char} {r : Decimal} (h : c ∈ p.body ds gs r) :
    Text.isDigit c ∨ c = ds ∨ c = gs := by
  have hdigits := p.isDigit_of_mem_shown r
  simp only [List.mem_append] at hdigits
  rw [body_eq] at h
  rcases List.mem_append.1 h with h | h
  · have hwhole : c = gs ∨ c ∈ p.integerDigits (splitDigits r).1 := by
      cases hgrouping : p.grouping with
      | some size =>
        rw [hgrouping] at h
        exact mem_group h
      | none =>
        rw [hgrouping] at h
        exact .inr h
    rcases hwhole with hwhole | hwhole
    · exact .inr (.inr hwhole)
    · exact .inl (hdigits c (.inl hwhole))
  · split at h
    · cases h
    · rcases List.mem_cons.1 h with h | h
      · exact .inr (.inl h)
      · exact .inl (hdigits c (.inr h))

theorem length_unquoted_le {cs ds : List Char} (h : cs.Sublist ds) :
    (unquoted cs).length ≤ (unquoted ds).length :=
  (h.filter _).length_le

theorem length_unquoted_le_length (cs : List Char) : (unquoted cs).length ≤ cs.length :=
  List.length_filter_le _ _

/-- After any character of the pattern there is no more text than what follows it. -/
theorem back_sublist {c : Char} (hc : isBody c) (cs ds : List Char) :
    (back (cs ++ c :: ds)).Sublist ds := by
  have hdrop : (cs ++ c :: ds).dropWhile (!isBody ·) = cs.dropWhile (!isBody ·) ++ c :: ds := by
    rw [List.dropWhile_append]
    split
    · rename_i hnil
      simp [List.isEmpty_iff.1 hnil, hc]
    · rfl
  have htake (es : List Char) : ((ds.reverse ++ c :: es).takeWhile (!isBody ·)).Sublist
      ds.reverse := by
    rw [List.takeWhile_append]
    split
    · simp [hc]
    · exact (List.takeWhile_prefix _).sublist
  rw [back, hdrop, List.rtakeWhile]
  simpa using (htake (cs.dropWhile (!isBody ·)).reverse).reverse

theorem positive_append {cs ds : List Char} (h : ';' ∉ cs) :
    positive (cs ++ ds) = cs ++ positive ds :=
  List.takeWhile_append_of_pos fun c hc => by simpa using ne_of_mem_of_not_mem hc h

theorem positive_append_of_mem {cs : List Char} (ds : List Char) (h : ';' ∈ cs) :
    positive (cs ++ ds) = positive cs ∧ (positive cs).length < cs.length := by
  obtain ⟨start, rest, rfl, hstart⟩ := List.eq_append_cons_of_mem h
  have hstop (es : List Char) : positive (start ++ ';' :: es) = start := by
    rw [positive_append hstart]
    simp [positive]
  rw [List.append_assoc, List.cons_append, hstop, hstop, List.length_append, List.length_cons]
  exact ⟨rfl, by omega⟩

theorem exists_of_not_plain {cs : List Char} (h : ¬Plain cs) :
    ';' ∈ cs ∨ ';' ∉ cs ∧ ∃ start c rest, cs = start ++ c :: rest ∧ isBody c := by
  by_cases hsemicolon : ';' ∈ cs
  · exact .inl hsemicolon
  · have hbody : ∃ c ∈ cs, isBody c := by
      by_contra hnone
      refine h fun c hc => ⟨?_, ne_of_mem_of_not_mem hc hsemicolon⟩
      simpa using fun hbody => hnone ⟨c, hc, hbody⟩
    obtain ⟨c, hc, hbody⟩ := hbody
    obtain ⟨start, rest, rfl⟩ := List.append_of_mem hc
    exact .inr ⟨hsemicolon, start, c, rest, rfl, hbody⟩

/-- Text after the pattern that is not plain loses characters. -/
theorem length_back_le {b t : List Char} (hb : Bare b) (ht : ¬Plain t) :
    (unquoted (back (positive (b ++ [' ', '\''] ++ (t ++ ['\'']))))).length ≤ t.length := by
  have hstart : ';' ∉ b ++ [' ', '\''] := by simpa using hb.semicolon_not_mem
  rw [positive_append hstart]
  rcases exists_of_not_plain ht with hsemicolon | ⟨hsemicolon, start, c, rest, rfl, hc⟩
  · obtain ⟨hcut, hlength⟩ := positive_append_of_mem ['\''] hsemicolon
    have hlast := hb.1 _ (List.getLast_mem hb.ne_nil)
    have hsplit : b ++ [' ', '\''] ++ positive t
        = b.dropLast ++ b.getLast hb.ne_nil :: ([' ', '\''] ++ positive t) := by
      conv => lhs; rw [← List.dropLast_append_getLast hb.ne_nil]
      simp
    have hback := length_unquoted_le (back_sublist hlast b.dropLast ([' ', '\''] ++ positive t))
    have htext : (unquoted ([' ', '\''] ++ positive t)).length
        = (unquoted (positive t)).length + 1 := by
      simp [unquoted]
    have hle := length_unquoted_le_length (positive t)
    rw [hcut, hsplit]
    omega
  · have hwhole : positive (start ++ c :: rest ++ ['\'']) = start ++ c :: rest ++ ['\''] :=
      positive_of_not_mem (by simpa using hsemicolon)
    have hsplit : b ++ [' ', '\''] ++ (start ++ c :: rest ++ ['\''])
        = (b ++ [' ', '\''] ++ start) ++ c :: (rest ++ ['\'']) := by
      simp
    have hback := length_unquoted_le (back_sublist hc (b ++ [' ', '\''] ++ start) (rest ++ ['\'']))
    have htext : unquoted (rest ++ ['\'']) = unquoted rest := by simp [unquoted]
    have hle := length_unquoted_le_length rest
    rw [htext] at hback
    rw [hwhole, hsplit, List.length_append, List.length_cons]
    omega

theorem not_append_eq {digits back start text : List Char} {c : Char} (hc : c ∉ digits)
    (hback : back.length ≤ text.length) : digits ++ back ≠ start ++ c :: text := by
  intro h
  rcases List.append_eq_append_iff.1 h with ⟨rest, -, hrest⟩ | ⟨rest, hdigits, hrest⟩
  · have hlength := congrArg List.length hrest
    simp at hlength
    omega
  · cases rest with
    | nil =>
      have hlength := congrArg List.length hrest
      simp at hlength
      omega
    | cons d ds =>
      obtain rfl : c = d := (List.cons.inj hrest).1
      exact hc (by simp [hdigits])

theorem toList_format_whole (p : NumberPattern) (ds gs : Char) {d : Decimal} (hscale : d.scale = 0)
    (hsign : signText d = []) :
    (p.format ds gs d).toList = p.before ++ p.body ds gs d ++ p.after := by
  have hrounded : p.rounded d = d := dif_pos (by omega)
  have h := p.toList_format p.before p.after ds gs d
  rwa [hrounded, hsign, List.nil_append] at h

/-- With apostrophes as separators no digits are taken for the blank before the text. -/
theorem plain_of_format_after {b t : String} (hb : Bare b.toList)
    (h : (ofText (b ++ " '" ++ t ++ "'")).format '\'' '\'' .zero
      = (ofText b).format '\'' '\'' .zero ++ " " ++ t) : Plain t.toList := by
  by_contra hplain
  have htext : (b ++ " '" ++ t ++ "'").toList
      = b.toList ++ [' ', '\''] ++ (t.toList ++ ['\'']) := by simp
  have hfront : (ofText (b ++ " '" ++ t ++ "'")).before = [] := by
    obtain ⟨c, cs, hcons⟩ := List.exists_cons_of_ne_nil hb.ne_nil
    have hc := hb.1 c (by simp [hcons])
    have hsemicolon : c ≠ ';' := fun h => hb.semicolon_not_mem (by simp [hcons, h])
    rw [ofText_eq, htext, hcons]
    simp [ofBody, positive, front, hsemicolon, hc, unquoted]
  have hback : (ofText (b ++ " '" ++ t ++ "'")).after.length ≤ t.toList.length := by
    rw [ofText_eq, htext]
    exact length_back_le hb hplain
  have hchars : ((ofText (b ++ " '" ++ t ++ "'")).format '\'' '\'' .zero).toList
      = ((ofText b).format '\'' '\'' .zero).toList ++ ' ' :: t.toList := by
    rw [h]
    simp
  rw [toList_format_whole _ _ _ rfl rfl, hfront, List.nil_append] at hchars
  refine not_append_eq ?_ hback hchars
  intro hblank
  simpa [Text.isDigit] using mem_body hblank

theorem group_eq_or_mem (size : Nat) (separator : Char) :
    ∀ cs : List Char, group size separator cs = cs ∨ separator ∈ group size separator cs
  | [] => .inl rfl
  | c :: cs => by
    rw [group]
    split
    · rcases group_eq_or_mem size separator cs with h | h
      · exact .inl (by rw [h])
      · exact .inr (List.mem_cons_of_mem _ h)
    · exact .inr (by simp)

/-- Digits that need no separator are as many as the pattern asks for. -/
theorem length_body_one {p : NumberPattern} {separator : Char}
    (h : separator ∉ p.body separator separator .one) :
    (p.body separator separator .one).length = max p.minInteger 1 := by
  have hsplit : splitDigits .one = (['1'], []) := by decide
  have hdigits : (p.integerDigits ['1']).length = max p.minInteger 1 := Text.length_padLeft _ _
  rw [body_eq, hsplit, List.mem_append, not_or] at h
  obtain ⟨hwhole, hrest⟩ := h
  have hfraction : p.fractionDigits [] = [] := by
    by_contra hsome
    simp [hsome] at hrest
  rw [body_eq, hsplit, if_pos hfraction, List.append_nil]
  cases hgrouping : p.grouping with
  | some size =>
    rw [hgrouping, Option.elim_some] at hwhole
    rw [Option.elim_some, (group_eq_or_mem _ _ _).resolve_right hwhole, hdigits]
  | none => exact hdigits

theorem minInteger_le (x m y : List Char) : (ofBody x m y).minInteger ≤ max 1 (m.count '0') :=
  max_le_max le_rfl ((List.takeWhile_prefix _).sublist.count_le _)

theorem count_le (cs : List Char) : cs.count '0' + cs.count '#' ≤ (unquoted cs).length := by
  induction cs with
  | nil => rfl
  | cons c cs ih =>
    simp only [unquoted, List.filter_cons, List.count_cons] at ih ⊢
    split <;> split <;> split <;> simp_all <;> omega

theorem unquoted_append (cs ds : List Char) : unquoted (cs ++ ds) = unquoted cs ++ unquoted ds :=
  List.filter_append ..

theorem countP_append_parts (cs : List Char) (p : Char → Bool) :
    cs.countP p = (front cs).countP p + ((middle cs).countP p + (back cs).countP p) := by
  conv => lhs; rw [← append_parts cs, List.countP_append, List.countP_append]

theorem countP_isBody_middle (cs : List Char) : (middle cs).countP isBody = cs.countP isBody := by
  have hfront : (front cs).countP isBody = 0 :=
    List.countP_eq_zero.2 fun c hc => by simpa using List.mem_takeWhile_imp hc
  have hback : (back cs).countP isBody = 0 :=
    List.countP_eq_zero.2 fun c hc => by simpa using List.mem_rtakeWhile_imp hc
  rw [countP_append_parts cs, hfront, hback]
  omega

theorem countP_isBody_le (cs : List Char) : cs.countP isBody ≤ (unquoted cs).length := by
  rw [unquoted, ← List.countP_eq_length_filter]
  refine List.countP_mono_left fun c _ hc => ?_
  have hne : c ≠ '\'' := by
    rintro rfl
    cases hc
  simpa using hne

/-- A pattern whose text is not plain shows fewer digits than the text has characters. -/
theorem length_parts_le {t : List Char} (ht : '\'' ∉ t) (hplain : ¬Plain t) {cs : List Char}
    (hcs : cs = positive (['\''] ++ (t ++ ['\'', '#']))) :
    (unquoted (front cs)).length + max 1 ((middle cs).count '0') + (unquoted (back cs)).length
      ≤ t.length := by
  have hlength : (unquoted cs).length = (unquoted (front cs)).length
      + ((unquoted (middle cs)).length + (unquoted (back cs)).length) := by
    simpa [unquoted, List.countP_eq_length_filter] using countP_append_parts cs (· != '\'')
  have hdigits := count_le (middle cs)
  rw [positive_append (by decide)] at hcs
  rcases exists_of_not_plain hplain with hsemicolon | ⟨hsemicolon, start, c, rest, rfl, hc⟩
  · -- the pattern ends inside the text
    obtain ⟨hcut, hshort⟩ := positive_append_of_mem ['\'', '#'] hsemicolon
    have hunquoted : (unquoted cs).length = (unquoted (positive t)).length := by
      rw [hcs, hcut, unquoted_append]
      rfl
    have hle := length_unquoted_le_length (positive t)
    omega
  · -- the digits begin inside the text and end behind it
    have hwhole : positive (start ++ c :: rest ++ ['\'', '#'])
        = start ++ c :: rest ++ ['\'', '#'] :=
      positive_of_not_mem (by simpa using hsemicolon)
    rw [hwhole] at hcs
    have hunquoted : (unquoted cs).length = (start ++ c :: rest).length + 1 := by
      rw [hcs, unquoted_append, unquoted_append, unquoted_of_not_mem ht]
      simp [unquoted]
      omega
    have hbody : 2 ≤ cs.countP isBody := by
      have hmark : isBody '#' := by decide
      rw [hcs]
      simp [List.countP_append, List.countP_cons, hc, hmark]
      omega
    have hmark : 1 ≤ (middle cs).count '#' := by
      have hmem : '#' ∈ front cs ++ (middle cs ++ back cs) := by
        rw [append_parts, hcs]
        simp
      simp only [List.mem_append] at hmem
      rw [Nat.one_le_iff_ne_zero, ne_eq, List.count_eq_zero, not_not]
      rcases hmem with h | h | h
      · cases List.mem_takeWhile_imp h
      · exact h
      · cases List.mem_rtakeWhile_imp h
    have hle := countP_isBody_le (middle cs)
    rw [countP_isBody_middle] at hle
    omega

/-- With apostrophes as separators a text that is not plain leaves no room for the digit. -/
theorem plain_of_format_before {t : String} (ht : '\'' ∉ t.toList)
    (h : (ofText ("'" ++ t ++ "'" ++ "#")).format '\'' '\'' .one
      = t ++ (ofText "#").format '\'' '\'' .one) : Plain t.toList := by
  by_contra hplain
  have htext : ("'" ++ t ++ "'" ++ "#").toList = ['\''] ++ (t.toList ++ ['\'', '#']) := by simp
  have hone : (ofText "#").format '\'' '\'' .one = "1" := by decide
  have hchars : ((ofText ("'" ++ t ++ "'" ++ "#")).format '\'' '\'' .one).toList
      = t.toList ++ ['1'] := by
    rw [h, hone]
    simp
  rw [toList_format_whole _ _ _ rfl rfl] at hchars
  have hseparator : '\'' ∉ (ofText ("'" ++ t ++ "'" ++ "#")).body '\'' '\'' .one := by
    intro hmem
    have : '\'' ∈ t.toList ++ ['1'] := by
      rw [← hchars]
      simp [hmem]
    simp [ht] at this
  have hlength := congrArg List.length hchars
  have hparts := length_parts_le ht hplain rfl
  rw [List.length_append, List.length_append, length_body_one hseparator, ofText_eq, htext]
    at hlength
  have hleast := minInteger_le (front (positive (['\''] ++ (t.toList ++ ['\'', '#']))))
    (middle (positive (['\''] ++ (t.toList ++ ['\'', '#']))))
    (back (positive (['\''] ++ (t.toList ++ ['\'', '#']))))
  simp only [List.length_append, List.length_singleton] at hlength
  simp only [ofBody] at hlength hleast
  omega

end Lost

end NumberPattern

namespace Locale

open NumberPattern (Bare Plain ofText)

theorem formatNumber_some (l : Locale) (k : DisplayType) (d : Decimal) {s : String}
    (h : ∃ c ∈ s.toList, NumberPattern.isBody c) :
    l.formatNumber k (some s) d
      = (ofText s).format l.decimalSeparator l.groupingSeparator d := by
  have hblank : Text.isAllBlank s = false := by
    obtain ⟨c, hc, hbody⟩ := h
    rw [Text.isAllBlank, List.all_eq_false]
    refine ⟨c, hc, ?_⟩
    simp only [NumberPattern.isBody, Bool.or_eq_true, beq_iff_eq] at hbody
    rcases hbody with ((rfl | rfl) | rfl) | rfl <;> decide
  rw [formatNumber, given_of_not_blank hblank, Option.getD_some]

/-- A text in quotes is shown as it is exactly if it has none of the characters that a number
pattern looks for: after the pattern for each pattern alone, before it for all patterns together. -/
theorem quoted_literal_iff {t : String} (ht : '\'' ∉ t.toList) :
    (∀ b : String, Bare b.toList →
        ((∀ (l : Locale) k d, l.formatNumber k (some (b ++ " '" ++ t ++ "'")) d
            = l.formatNumber k (some b) d ++ " " ++ t) ↔ Plain t.toList))
      ∧ ((∀ b : String, Bare b.toList → ∀ (l : Locale) k (d : Decimal),
            l.formatNumber k (some ("'" ++ t ++ "'" ++ b)) d.abs
              = t ++ l.formatNumber k (some b) d.abs) ↔ Plain t.toList) := by
  refine ⟨fun b hb => ?_, ?_⟩
  · obtain ⟨c, hc, -⟩ := hb.2
    have halone : ∃ c ∈ b.toList, NumberPattern.isBody c := ⟨c, hc, hb.1 c hc⟩
    have hafter : ∃ c ∈ (b ++ " '" ++ t ++ "'").toList, NumberPattern.isBody c :=
      ⟨c, by simp [hc], hb.1 c hc⟩
    constructor
    · intro h
      have hmarks := h { decimalSeparator := '\'', groupingSeparator := '\'' } .number .zero
      rw [formatNumber_some _ _ _ hafter, formatNumber_some _ _ _ halone] at hmarks
      exact NumberPattern.plain_of_format_after hb hmarks
    · intro hplain l k d
      rw [formatNumber_some _ _ _ hafter, formatNumber_some _ _ _ halone]
      exact NumberPattern.format_text_after hb ht hplain ..
  · constructor
    · intro h
      have hb : Bare "#".toList := by simp [Bare, NumberPattern.isBody]
      have hmarks := h "#" hb { decimalSeparator := '\'', groupingSeparator := '\'' } .number .one
      rw [formatNumber_some _ _ _ ⟨'#', by simp, rfl⟩, formatNumber_some _ _ _ ⟨'#', by simp, rfl⟩]
        at hmarks
      exact NumberPattern.plain_of_format_before ht hmarks
    · intro hplain b hb l k d
      obtain ⟨c, hc, -⟩ := hb.2
      rw [formatNumber_some _ _ _ ⟨c, by simp [hc], hb.1 c hc⟩,
        formatNumber_some _ _ _ ⟨c, hc, hb.1 c hc⟩]
      exact NumberPattern.format_text_before hb ht hplain _ _ _ rfl

theorem quoted_literal_kg :
    '\'' ∉ "kg".toList ∧ Bare "0.000".toList
      ∧ ∀ (l : Locale) k d, l.formatNumber k (some ("0.000" ++ " '" ++ "kg" ++ "'")) d
        = l.formatNumber k (some "0.000") d ++ " " ++ "kg" := by
  have hquote : '\'' ∉ "kg".toList := by decide
  have hbare : Bare "0.000".toList := by simp [Bare, NumberPattern.isBody]
  have hplain : Plain "kg".toList := by simp [Plain, NumberPattern.isBody]
  exact ⟨hquote, hbare, ((quoted_literal_iff hquote).1 "0.000" hbare).2 hplain⟩

/-- A point in the text is taken for the end of the digits. -/
theorem quoted_unit_lost :
    ({} : Locale).formatNumber .number (some ("0" ++ " '" ++ "kg." ++ "'")) (.ofInt 5)
      ≠ ({} : Locale).formatNumber .number (some "0") (.ofInt 5) ++ " " ++ "kg." := by
  decide

end Locale

end Reporting
