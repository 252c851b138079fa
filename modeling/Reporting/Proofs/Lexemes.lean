import Mathlib.Logic.Function.Basic
import Reporting.Proofs.Runs
import Reporting.Sql.Dialect
import Reporting.Text.Blank

/-!
# Lexemes of names and texts

A database reads a statement from the left: a text or a delimited name up to the quote that closes
it, a word up to the first character that is in no word. A word is a name unless the database keeps
it for itself or a quote makes it the opening of another literal, and a text goes on with the next
quote behind a line break. For everything that can follow a name or a text that was written, it is
said exactly when the name or the text is read back and the rest is left (`Dialect.lex_written`).
Key words are written bare like all plain names and are not read as names (`Dialect.lex_order`).
-/

namespace Reporting.Sql

inductive Lexeme
  /-- A word that the database keeps for itself, in the case of the database. -/
  | keyWord (chars : List Char)
  /-- A bare name in the case of the database, or a delimited one as it is. -/
  | name (chars : List Char)
  | text (chars : List Char)
deriving DecidableEq

section Quoted

/-- The text up to the quote that closes it, and what follows that. A quote that is doubled is in
the text and does not close it. -/
def readQuoted (quote : Char) : List Char → Option (List Char × List Char)
  | [] => none
  | [c] => if c = quote then some ([], []) else none
  | c :: d :: cs =>
    if c = quote then
      if d = quote then (readQuoted quote cs).map fun (s, r) => (quote :: s, r)
      else some ([], d :: cs)
    else (readQuoted quote (d :: cs)).map fun (s, r) => (c :: s, r)

variable {quote : Char}

def doubled (quote : Char) (s : List Char) : List Char :=
  s.flatMap fun c => if c = quote then [quote, quote] else [c]

theorem toList_quotedBy (quote : Char) (s : String) :
    (quotedBy quote s).toList = quote :: (doubled quote s.toList ++ [quote]) := by
  rw [quotedBy, String.toList_ofList, List.cons_append, doubled]

theorem doubled_append (quote : Char) (s t : List Char) :
    doubled quote (s ++ t) = doubled quote s ++ doubled quote t := List.flatMap_append

theorem doubled_cons_quote (s : List Char) :
    doubled quote (quote :: s) = quote :: quote :: doubled quote s := by
  simp [doubled]

theorem doubled_cons_of_ne {c : Char} (h : c ≠ quote) (s : List Char) :
    doubled quote (c :: s) = c :: doubled quote s := by
  simp [doubled, h]

theorem of_readQuoted_eq_some {cs s r : List Char} (h : readQuoted quote cs = some (s, r)) :
    cs = doubled quote s ++ quote :: r ∧ quote ∉ r.head? := by
  induction cs using readQuoted.induct quote generalizing s r with
  | case1 => cases h
  | case2 =>
    rw [readQuoted, if_pos rfl] at h
    cases h
    exact ⟨rfl, Option.not_mem_none _⟩
  | case3 c hc =>
    rw [readQuoted, if_neg hc] at h
    cases h
  | case4 cs ih =>
    rw [readQuoted, if_pos rfl, if_pos rfl] at h
    obtain ⟨⟨s', r'⟩, hread, h⟩ := Option.map_eq_some_iff.1 h
    cases h
    obtain ⟨rfl, hr⟩ := ih hread
    exact ⟨by rw [doubled_cons_quote]; rfl, hr⟩
  | case5 d cs hd =>
    rw [readQuoted, if_pos rfl, if_neg hd] at h
    cases h
    exact ⟨rfl, fun hmem => hd (Option.some.inj hmem)⟩
  | case6 c d cs hc ih =>
    rw [readQuoted, if_neg hc] at h
    obtain ⟨⟨s', r'⟩, hread, h⟩ := Option.map_eq_some_iff.1 h
    cases h
    obtain ⟨hcs, hr⟩ := ih hread
    exact ⟨by rw [doubled_cons_of_ne hc, hcs]; rfl, hr⟩

theorem readQuoted_doubled {r : List Char} (hr : quote ∉ r.head?) :
    ∀ s, readQuoted quote (doubled quote s ++ quote :: r) = some (s, r)
  | [] => by
    cases r with
    | nil => exact if_pos rfl
    | cons d ds =>
      have hd : d ≠ quote := fun h => hr (congrArg some h)
      exact (if_pos rfl).trans (if_neg hd)
  | c :: s => by
    have ih := readQuoted_doubled hr s
    by_cases hc : c = quote
    · subst hc
      rw [doubled_cons_quote, List.cons_append, List.cons_append, readQuoted, if_pos rfl,
        if_pos rfl, ih]
      rfl
    · obtain ⟨d, ds, hrest⟩ := List.exists_cons_of_ne_nil
        (List.append_ne_nil_of_right_ne_nil (doubled quote s) (List.cons_ne_nil quote r))
      rw [doubled_cons_of_ne hc, List.cons_append, hrest, readQuoted, if_neg hc, ← hrest, ih]
      rfl

/-- What is read between quotes is the text that was doubled, closed by a quote that is single. -/
theorem readQuoted_eq_some_iff {cs s r : List Char} : readQuoted quote cs = some (s, r)
    ↔ cs = doubled quote s ++ quote :: r ∧ quote ∉ r.head? := by
  refine ⟨of_readQuoted_eq_some, ?_⟩
  rintro ⟨rfl, hr⟩
  exact readQuoted_doubled hr s

theorem length_of_readQuoted {cs s r : List Char} (h : readQuoted quote cs = some (s, r)) :
    r.length < cs.length := by
  obtain ⟨rfl, -⟩ := readQuoted_eq_some_iff.1 h
  rw [List.length_append, List.length_cons]
  omega

/-- No two texts are written alike between quotes. -/
theorem quotedBy_injective (quote : Char) : Function.Injective (quotedBy quote) := by
  intro s t h
  have hchars := congrArg String.toList h
  rw [toList_quotedBy, toList_quotedBy] at hchars
  have hend : quote ∉ ([] : List Char).head? := Option.not_mem_none _
  have hs := readQuoted_doubled hend s.toList
  rw [(List.cons.inj hchars).2, readQuoted_doubled hend] at hs
  exact String.toList_inj.1 (Prod.mk.inj (Option.some.inj hs)).1.symm

end Quoted

section Texts

/-- Where the reader is behind a closing quote. -/
inductive Gap
  | blank
  /-- In a comment that ends with its line. -/
  | line
  /-- In a comment in brackets, inside so many others. -/
  | bracketed (depth : Nat)

def isLineEnd (c : Char) : Bool := c == '\n' || c == '\r'

/-- What follows the quote with which a text goes on behind blanks and comments. A line must have
ended in between. -/
def resume? : Gap → Bool → List Char → Option (List Char)
  | _, _, [] => none
  | .blank, ended, '-' :: '-' :: cs => resume? .line ended cs
  | .blank, ended, '/' :: '*' :: cs => resume? (.bracketed 0) ended cs
  | .blank, ended, '\'' :: cs => if ended then some cs else none
  | .blank, ended, c :: cs =>
    if Text.isBlank c then resume? .blank (ended || isLineEnd c) cs else none
  | .line, ended, c :: cs =>
    if isLineEnd c then resume? .blank true cs else resume? .line ended cs
  | .bracketed depth, ended, '/' :: '*' :: cs => resume? (.bracketed (depth + 1)) ended cs
  | .bracketed 0, ended, '*' :: '/' :: cs => resume? .blank ended cs
  | .bracketed (depth + 1), ended, '*' :: '/' :: cs => resume? (.bracketed depth) ended cs
  | .bracketed depth, ended, c :: cs => resume? (.bracketed depth) (ended || isLineEnd c) cs

theorem length_of_resume? {gap : Gap} {ended : Bool} {cs r : List Char}
    (h : resume? gap ended cs = some r) : r.length < cs.length := by
  fun_induction resume? gap ended cs <;> grind

/-- The text whose first part goes up to a single quote, and what follows its last part. -/
def readText (cs : List Char) : Option (List Char × List Char) :=
  match _ : readQuoted '\'' cs with
  | none => none
  | some (s, r) =>
    match _ : resume? .blank false r with
    | none => some (s, r)
    | some next => (readText next).map fun (t, r) => (s ++ t, r)
termination_by cs.length
decreasing_by
  have hrest := length_of_readQuoted ‹readQuoted '\'' cs = some _›
  have hquote := length_of_resume? ‹resume? .blank false _ = some next›
  omega

theorem readText_eq {cs s r : List Char} (h : readQuoted '\'' cs = some (s, r)) :
    readText cs = (resume? .blank false r).elim (some (s, r)) fun next =>
      (readText next).map fun (t, r) => (s ++ t, r) := by
  rw [readText]
  split
  · rename_i hpart
    rw [h] at hpart
    cases hpart
  · rename_i hpart
    rw [h] at hpart
    cases hpart
    split
    · rename_i hnext
      rw [hnext, Option.elim_none]
    · rename_i hnext
      rw [hnext, Option.elim_some]

theorem length_of_readText {cs s r : List Char} (h : readText cs = some (s, r)) :
    r.length < cs.length := by
  fun_induction readText cs generalizing s r with
  | case1 => cases h
  | case2 cs s' r' hpart hnext =>
    cases h
    exact length_of_readQuoted hpart
  | case3 cs s' r' hpart next hnext ih =>
    obtain ⟨⟨t, rest⟩, hread, h⟩ := Option.map_eq_some_iff.1 h
    cases h
    have hrest := ih hread
    have hpart := length_of_readQuoted hpart
    have hnext := length_of_resume? hnext
    omega

/-- A text is read back unless the quote behind it is doubled or the text goes on. -/
theorem readText_doubled_iff {s r : List Char} :
    readText (doubled '\'' s ++ '\'' :: r) = some (s, r)
      ↔ '\'' ∉ r.head? ∧ resume? .blank false r = none := by
  constructor
  · intro h
    obtain ⟨⟨s', r'⟩, hpart⟩ :
        ∃ part, readQuoted '\'' (doubled '\'' s ++ '\'' :: r) = some part := by
      refine Option.ne_none_iff_exists'.1 fun hnone => ?_
      rw [readText] at h
      split at h
      · cases h
      · rename_i hpart
        cases hnone.symm.trans hpart
    obtain ⟨hsplit, hr'⟩ := readQuoted_eq_some_iff.1 hpart
    rw [readText_eq hpart] at h
    cases hnext : resume? .blank false r' with
    | none =>
      rw [hnext] at h
      cases h
      exact ⟨hr', hnext⟩
    | some next =>
      -- the first part would have to end where the written text does
      rw [hnext] at h
      obtain ⟨⟨t, rest⟩, hread, h⟩ := Option.map_eq_some_iff.1 h
      cases h
      have hlength := length_of_readText hread
      have hgap := length_of_resume? hnext
      rw [doubled_append, List.append_assoc, List.append_cancel_left_eq] at hsplit
      cases t with
      | nil =>
        cases hsplit
        omega
      | cons c t =>
        by_cases hc : c = '\''
        · subst hc
          rw [doubled_cons_quote] at hsplit
          cases hsplit
          exact absurd rfl hr'
        · rw [doubled_cons_of_ne hc] at hsplit
          exact absurd (List.cons.inj hsplit).1 hc
  · rintro ⟨hr, hnext⟩
    rw [readText_eq (readQuoted_doubled hr s), hnext, Option.elim_none]

end Texts

section Words

/-- A character of words in every database. -/
def IsWordChar (c : Char) : Prop := c.isAlphanum ∨ c = '_'

/-- A word that does not begin with a digit. -/
def IsPlain (s : String) : Prop :=
  ∃ c cs, s.toList = c :: cs ∧ (c.isAlpha ∨ c = '_') ∧ ∀ d ∈ cs, IsWordChar d

theorem isPlainName_iff {s : String} : isPlainName s = true ↔ IsPlain s := by
  unfold isPlainName IsPlain
  cases s.toList with
  | nil => simp
  | cons c cs => simp [isNameStart, isNameChar, IsWordChar]

theorem not_isPlain_iff {s : String} : isPlainName s = false ↔ ¬IsPlain s := by
  rw [← isPlainName_iff, Bool.not_eq_true]

theorem quoteName_of_isPlain {s : String} (h : IsPlain s) (d : Dialect) : d.quoteName s = s := by
  rw [Dialect.quoteName, if_pos (isPlainName_iff.2 h)]

theorem quoteName_of_not_isPlain {s : String} (h : ¬IsPlain s) (d : Dialect) :
    d.quoteName s = quotedBy '"' s := by
  rw [Dialect.quoteName, if_neg (mt isPlainName_iff.1 h)]

theorem quotedBy_ne_of_isPlain {s : String} (h : IsPlain s) (t : String) : quotedBy '"' t ≠ s := by
  rintro rfl
  obtain ⟨c, cs, hs, hc, -⟩ := h
  rw [toList_quotedBy] at hs
  obtain ⟨rfl, -⟩ := List.cons.inj hs
  exact absurd hc (by decide)

theorem quoteName_injective (d : Dialect) : Function.Injective d.quoteName := by
  intro s t h
  by_cases hs : IsPlain s <;> by_cases ht : IsPlain t
  · rwa [quoteName_of_isPlain hs, quoteName_of_isPlain ht] at h
  · rw [quoteName_of_isPlain hs, quoteName_of_not_isPlain ht] at h
    exact absurd h.symm (quotedBy_ne_of_isPlain hs t)
  · rw [quoteName_of_not_isPlain hs, quoteName_of_isPlain ht] at h
    exact absurd h (quotedBy_ne_of_isPlain ht s)
  · rw [quoteName_of_not_isPlain hs, quoteName_of_not_isPlain ht] at h
    exact quotedBy_injective '"' h

end Words

/-- What databases differ in when they read words. -/
structure Lexis where
  isStart : Char → Bool
  isPart : Char → Bool
  isStart_of_isAlpha : ∀ c, c.isAlpha → isStart c
  isPart_of_isWordChar : ∀ c, IsWordChar c → isPart c
  /-- The case that words are taken in. -/
  fold : Char → Char
  /-- The words that are names only between quotes. -/
  keyWords : List String
  /-- What opens literals and names of other kinds, up to their quotes. -/
  openings : List String

namespace Lexis

/-- Standard SQL over the letters of ASCII, with the words that were reserved in 1992. -/
def ansi : Lexis where
  isStart := Char.isAlpha
  isPart c := c.isAlphanum || c == '_'
  isStart_of_isAlpha _ h := h
  isPart_of_isWordChar c h := by simpa [IsWordChar] using h
  fold := Char.toUpper
  keyWords := [
    "ABSOLUTE", "ACTION", "ADD", "ALL", "ALLOCATE", "ALTER", "AND", "ANY", "ARE", "AS", "ASC",
    "ASSERTION", "AT", "AUTHORIZATION", "AVG", "BEGIN", "BETWEEN", "BIT", "BIT_LENGTH", "BOTH",
    "BY", "CASCADE", "CASCADED", "CASE", "CAST", "CATALOG", "CHAR", "CHARACTER",
    "CHARACTER_LENGTH", "CHAR_LENGTH", "CHECK", "CLOSE", "COALESCE", "COLLATE", "COLLATION",
    "COLUMN", "COMMIT", "CONNECT", "CONNECTION", "CONSTRAINT", "CONSTRAINTS", "CONTINUE",
    "CONVERT", "CORRESPONDING", "COUNT", "CREATE", "CROSS", "CURRENT", "CURRENT_DATE",
    "CURRENT_TIME", "CURRENT_TIMESTAMP", "CURRENT_USER", "CURSOR", "DATE", "DAY", "DEALLOCATE",
    "DEC", "DECIMAL", "DECLARE", "DEFAULT", "DEFERRABLE", "DEFERRED", "DELETE", "DESC", "DESCRIBE",
    "DESCRIPTOR", "DIAGNOSTICS", "DISCONNECT", "DISTINCT", "DOMAIN", "DOUBLE", "DROP", "ELSE",
    "END", "ESCAPE", "EXCEPT", "EXCEPTION", "EXEC", "EXECUTE", "EXISTS", "EXTERNAL", "EXTRACT",
    "FALSE", "FETCH", "FIRST", "FLOAT", "FOR", "FOREIGN", "FOUND", "FROM", "FULL", "GET", "GLOBAL",
    "GO", "GOTO", "GRANT", "GROUP", "HAVING", "HOUR", "IDENTITY", "IMMEDIATE", "IN", "INDICATOR",
    "INITIALLY", "INNER", "INPUT", "INSENSITIVE", "INSERT", "INT", "INTEGER", "INTERSECT",
    "INTERVAL", "INTO", "IS", "ISOLATION", "JOIN", "KEY", "LANGUAGE", "LAST", "LEADING", "LEFT",
    "LEVEL", "LIKE", "LOCAL", "LOWER", "MATCH", "MAX", "MIN", "MINUTE", "MODULE", "MONTH", "NAMES",
    "NATIONAL", "NATURAL", "NCHAR", "NEXT", "NO", "NOT", "NULL", "NULLIF", "NUMERIC",
    "OCTET_LENGTH", "OF", "ON", "ONLY", "OPEN", "OPTION", "OR", "ORDER", "OUTER", "OUTPUT",
    "OVERLAPS", "PAD", "PARTIAL", "POSITION", "PRECISION", "PREPARE", "PRESERVE", "PRIMARY",
    "PRIOR", "PRIVILEGES", "PROCEDURE", "PUBLIC", "READ", "REAL", "REFERENCES", "RELATIVE",
    "RESTRICT", "REVOKE", "RIGHT", "ROLLBACK", "ROWS", "SCHEMA", "SCROLL", "SECOND", "SECTION",
    "SELECT", "SESSION", "SESSION_USER", "SET", "SIZE", "SMALLINT", "SOME", "SPACE", "SQL",
    "SQLCODE", "SQLERROR", "SQLSTATE", "SUBSTRING", "SUM", "SYSTEM_USER", "TABLE", "TEMPORARY",
    "THEN", "TIME", "TIMESTAMP", "TIMEZONE_HOUR", "TIMEZONE_MINUTE", "TO", "TRAILING",
    "TRANSACTION", "TRANSLATE", "TRANSLATION", "TRIM", "TRUE", "UNION", "UNIQUE", "UNKNOWN",
    "UPDATE", "UPPER", "USAGE", "USER", "USING", "VALUE", "VALUES", "VARCHAR", "VARYING", "VIEW",
    "WHEN", "WHENEVER", "WHERE", "WITH", "WORK", "WRITE", "YEAR", "ZONE"]
  openings := ["B'", "N'", "X'", "U&'", "U&\""]

variable (x : Lexis)

def isKeyWord (word : List Char) : Bool := x.keyWords.contains (String.ofList (word.map x.fold))

def opens (cs : List Char) : Bool :=
  x.openings.any fun opening => opening.toList.isPrefixOf (cs.map x.fold)

/-- The name, key word or text that a statement begins with, and what follows it. -/
def lex : List Char → Option (Lexeme × List Char)
  | [] => none
  | '\'' :: cs => (readText cs).map fun (s, r) => (.text s, r)
  | '"' :: cs => do
    let (s, r) ← readQuoted '"' cs
    if s.isEmpty then none else some (.name s, r)
  | c :: cs =>
    let word := c :: cs.takeWhile x.isPart
    if x.opens (c :: cs) || !x.isStart c then none
    else
      some (if x.isKeyWord word then .keyWord (word.map x.fold) else .name (word.map x.fold),
        cs.dropWhile x.isPart)

section Written

variable {x}

theorem lex_bare {c : Char} (hc : c.isAlpha ∨ c = '_') (cs : List Char) : x.lex (c :: cs)
    = if x.opens (c :: cs) || !x.isStart c then none
      else some (if x.isKeyWord (c :: cs.takeWhile x.isPart)
          then .keyWord ((c :: cs.takeWhile x.isPart).map x.fold)
          else .name ((c :: cs.takeWhile x.isPart).map x.fold), cs.dropWhile x.isPart) := by
  unfold lex
  split
  · rename_i heq
    cases heq
  · rename_i heq
    obtain ⟨rfl, -⟩ := List.cons.inj heq
    exact absurd hc (by decide)
  · rename_i heq
    obtain ⟨rfl, -⟩ := List.cons.inj heq
    exact absurd hc (by decide)
  · rename_i heq
    obtain ⟨rfl, rfl⟩ := List.cons.inj heq
    rfl

/-- A letter begins a word in every database, an underscore need not. -/
theorem isStart_iff {c : Char} (hc : c.isAlpha ∨ c = '_') (cs : List Char) :
    x.isStart c = true ↔ ((c :: cs).head? = some '_' → x.isStart '_' = true) := by
  rw [List.head?_cons, Option.some.injEq]
  rcases hc with hc | rfl
  · have hstart := x.isStart_of_isAlpha c hc
    exact ⟨fun _ h => h ▸ hstart, fun _ => hstart⟩
  · exact ⟨fun h _ => h, fun h => h rfl⟩

theorem lex_plain {s : String} (h : IsPlain s) (r : List Char) :
    x.lex (s.toList ++ r) = some (.name (s.toList.map x.fold), r)
      ↔ x.isKeyWord s.toList = false ∧ (s.toList.head? = some '_' → x.isStart '_' = true)
        ∧ x.opens (s.toList ++ r) = false ∧ ∀ c ∈ r.head?, x.isPart c = false := by
  obtain ⟨c, cs, hs, hc, hword⟩ := h
  have hrun : ∀ d ∈ cs, x.isPart d := fun d hd => x.isPart_of_isWordChar d (hword d hd)
  rw [hs, List.cons_append, lex_bare hc, ← isStart_iff hc]
  constructor
  · intro hlex
    split at hlex
    · cases hlex
    · rename_i hopen
      rw [Bool.or_eq_true, not_or, Bool.not_eq_true, Bool.not_eq_true', Bool.not_eq_false] at hopen
      obtain ⟨hname, hrest⟩ := Prod.mk.inj (Option.some.inj hlex)
      have hstop := (Text.dropWhile_append_eq_iff.1 hrest).2
      rw [(Text.span_run hrun hstop).1] at hname
      split at hname
      · cases hname
      · rename_i hkey
        exact ⟨eq_false_of_ne_true hkey, hopen.2, hopen.1, hstop⟩
  · rintro ⟨hkey, hstart, hopen, hstop⟩
    obtain ⟨htake, hdrop⟩ := Text.span_run hrun hstop
    rw [hopen, hstart, htake, hdrop, hkey]
    rfl

theorem lex_delimited (s : String) (r : List Char) :
    x.lex ((quotedBy '"' s).toList ++ r) = some (.name s.toList, r)
      ↔ s ≠ "" ∧ '"' ∉ r.head? := by
  have hempty : s.toList.isEmpty = false ↔ s ≠ "" := by simp
  rw [toList_quotedBy, List.cons_append, List.append_assoc, List.singleton_append, lex, ← hempty]
  constructor
  · intro hlex
    obtain ⟨⟨s', r'⟩, hread, hlex⟩ := Option.bind_eq_some_iff.1 hlex
    dsimp only at hlex
    split at hlex
    · cases hlex
    · rename_i hs
      cases hlex
      exact ⟨eq_false_of_ne_true hs, (readQuoted_eq_some_iff.1 hread).2⟩
  · rintro ⟨hs, hr⟩
    rw [readQuoted_doubled hr]
    exact if_neg (ne_true_of_eq_false hs)

theorem lex_literal (d : Dialect) (s : String) (r : List Char) :
    x.lex ((d.literal (.text s)).toList ++ r) = some (.text s.toList, r)
      ↔ '\'' ∉ r.head? ∧ resume? .blank false r = none := by
  have hquoted : d.literal (.text s) = quotedBy '\'' s := rfl
  rw [hquoted, toList_quotedBy, List.cons_append, List.append_assoc, List.singleton_append, lex,
    ← readText_doubled_iff]
  constructor
  · intro hlex
    obtain ⟨⟨s', r'⟩, hread, hlex⟩ := Option.map_eq_some_iff.1 hlex
    cases hlex
    exact hread
  · intro hread
    rw [hread]
    rfl

end Written

end Lexis

/-- What is read back of a name or a text whatever is written behind it. A plain name is read in the
case of the database unless it is a key word, goes on, or opens something else with the quote behind
it; other names and texts are read as they are unless the name is empty, the quote behind them is
doubled, or the text goes on behind a line break. No two names and no two texts are written
alike. -/
theorem Dialect.lex_written (x : Lexis) (d : Dialect) :
    (∀ s r, IsPlain s →
      (x.lex ((d.quoteName s).toList ++ r) = some (.name (s.toList.map x.fold), r)
        ↔ x.isKeyWord s.toList = false ∧ (s.toList.head? = some '_' → x.isStart '_' = true)
          ∧ x.opens (s.toList ++ r) = false ∧ ∀ c ∈ r.head?, x.isPart c = false))
    ∧ (∀ s r, ¬IsPlain s →
      (x.lex ((d.quoteName s).toList ++ r) = some (.name s.toList, r)
        ↔ s ≠ "" ∧ '"' ∉ r.head?))
    ∧ (∀ s r, x.lex ((d.literal (.text s)).toList ++ r) = some (.text s.toList, r)
      ↔ '\'' ∉ r.head? ∧ resume? .blank false r = none)
    ∧ Function.Injective d.quoteName
    ∧ Function.Injective fun s => d.literal (.text s) := by
  refine ⟨fun s r h => ?_, fun s r h => ?_, Lexis.lex_literal d, quoteName_injective d,
    quotedBy_injective '\''⟩
  · rw [quoteName_of_isPlain h]
    exact Lexis.lex_plain h r
  · rw [quoteName_of_not_isPlain h]
    exact Lexis.lex_delimited s r

theorem Dialect.lex_written_grandTotal :
    Lexis.ansi.lex ((Dialect.ansi.quoteName "C_Order").toList ++ " AS".toList)
        = some (.name "C_ORDER".toList, " AS".toList)
      ∧ Lexis.ansi.lex ((Dialect.ansi.quoteName "Grand Total").toList ++ "'".toList)
        = some (.name "Grand Total".toList, "'".toList)
      ∧ Lexis.ansi.lex ((Dialect.ansi.literal (.text "O'Brien")).toList ++ " \n".toList)
        = some (.text "O'Brien".toList, " \n".toList) := by
  have hplain : IsPlain "C_Order" := isPlainName_iff.1 (by decide)
  have hblank : ¬IsPlain "Grand Total" := not_isPlain_iff.1 (by decide)
  have hstop : ∀ c ∈ " AS".toList.head?, Lexis.ansi.isPart c = false := by simp [Lexis.ansi]
  obtain ⟨hbare, hdelimited, htext, -⟩ := Dialect.lex_written .ansi .ansi
  exact ⟨(hbare _ _ hplain).2 ⟨by decide, by decide, by decide, hstop⟩,
    (hdelimited _ _ hblank).2 ⟨by decide, by decide⟩, (htext _ _).2 ⟨by decide, by decide⟩⟩

/-- A key word is a plain name and is not read as a name. -/
theorem Dialect.lex_order :
    Lexis.ansi.lex (Dialect.ansi.quoteName "order").toList
      = some (.keyWord "ORDER".toList, []) := by
  decide

end Reporting.Sql
