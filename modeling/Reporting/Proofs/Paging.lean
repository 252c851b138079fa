import Mathlib.Data.List.Basic
import Reporting.Page.Token
import Reporting.Proofs.Access
import Reporting.Proofs.Digits

/-!
# The rows of a page

Over a result whose rows a column numbers from one on, a limit after the order selects the rows
behind the offset (`mem_limited`). Bounds on the column admit these and, before them, the row
numbered like the offset (`mem_numbered`), which two pages in a row therefore share
(`rows_strategies`).
-/

namespace Reporting

open Sql (Mode Operand Token Truth tokens)
open Sql.Condition (eval read)

theorem toNat_saturatingAdd (a b : UInt64) :
    (saturatingAdd a b).toNat = min (a.toNat + b.toNat) (2 ^ 64 - 1) := by
  rw [saturatingAdd]
  split
  · rw [UInt64.toNat_add, Nat.mod_eq_of_lt ‹_›]
    omega
  · rw [UInt64.toNat_ofNat_of_lt' (by decide)]
    omega

theorem saturatingAdd_lt_iff {a b c : UInt64} :
    saturatingAdd a b < c ↔ a.toNat + b.toNat < c.toNat := by
  have hc := c.toNat_lt
  rw [UInt64.lt_iff_toNat_lt, toNat_saturatingAdd]
  omega

theorem Page.nextToken?_window {limit offset total hash : UInt64} {t : PageToken} :
    (window limit offset).nextToken? total hash = some t
      ↔ offset.toNat + limit.toNat < total.toNat ∧ t = ⟨offset + limit, hash⟩ := by
  rw [nextToken?]
  split
  · rename_i h
    simp [saturatingAdd_lt_iff.1 h, eq_comm]
  · rename_i h
    simp [saturatingAdd_lt_iff.not.1 h]

/-- A request for no page size of its own has pages of the configured size. -/
theorem Page.ofRequest_eq_window {wanted : Int} {pageSize limit : UInt64}
    (h : (limit.toNat : Int) = if wanted = 0 then (pageSize.toNat : Int) else wanted)
    (offset : UInt64) : ofRequest wanted offset pageSize = .window limit offset := by
  have hnonneg : ¬wanted < 0 := by
    split at h <;> omega
  rw [ofRequest, if_neg hnonneg]
  split at h
  · rw [if_pos ‹_›, UInt64.toNat_inj.1 (Int.ofNat.inj h.symm)]
  · rw [if_neg ‹_›, ← h, Int.toNat_natCast, UInt64.ofNat_toNat]

namespace Sql

/-- A word with a blank behind it. -/
theorem Mode.feed_word_blank {cs : List Char} (hne : cs ≠ []) (h : ∀ c ∈ cs, isNameChar c)
    (rest : List Char) :
    free.feed (cs ++ ' ' :: rest) = (free.feed rest).map fun r => (r.1, .word cs :: r.2) := by
  have hblank : (word cs.reverse).step ' ' = some (free, [.word cs]) := by
    rw [step_of_finish rfl (by decide) (by decide), List.reverse_reverse]
    rfl
  rw [feed_append, feed_free_word hne h, Option.bind_some, feed_cons hblank, Option.map_map]
  rfl

/-- The truth of a bound on the numbering column in the row of a number. -/
def boundTruth (column : String) (n : Nat) : Operand → Truth
  | [.word name, .sign sign, .sign '=', .word digits] =>
    if name = column.toList then
      match sign, Text.natOf? digits with
      | '>', some bound => if bound ≤ n then .yes else .no
      | '<', some bound => if n ≤ bound then .yes else .no
      | _, _ => .unknown
    else .unknown
  | _ => .unknown

theorem boundTruth_low (column : String) (n bound : Nat) :
    boundTruth column n [.word column.toList, .sign '>', .sign '=', .word bound.repr.toList] = .yes
      ↔ bound ≤ n := by
  simp only [boundTruth, if_true, Text.natOf?_repr]
  split <;> simp [*]

theorem boundTruth_high (column : String) (n bound : Nat) :
    boundTruth column n [.word column.toList, .sign '<', .sign '=', .word bound.repr.toList] = .yes
      ↔ n ≤ bound := by
  simp only [boundTruth, if_true, Text.natOf?_repr]
  split <;> simp [*]

theorem tokens_limit (limit offset : Nat) :
    tokens (" LIMIT " ++ limit.repr ++ " OFFSET " ++ offset.repr).toList
      = some [.word "LIMIT".toList, .word limit.repr.toList, .word "OFFSET".toList,
        .word offset.repr.toList] := by
  have hnumber (n : Nat) : ∀ c ∈ n.repr.toList, isNameChar c :=
    fun c => Dialect.isNameChar_of_mem_repr
  have hne (n : Nat) : n.repr.toList ≠ [] := by
    rw [Nat.toList_repr]
    exact Nat.toDigits_ne_nil
  have htail : Mode.feed .free ("OFFSET ".toList ++ offset.repr.toList)
      = some (.word offset.repr.toList.reverse, [.word "OFFSET".toList]) := by
    have hword : Mode.feed .free "OFFSET ".toList = some (.free, [.word "OFFSET".toList]) := by
      decide
    rw [Mode.feed_append, hword, Option.bind_some,
      Mode.feed_free_word (hne offset) (hnumber offset)]
    rfl
  have hwhole : Mode.feed .free (" LIMIT " ++ limit.repr ++ " OFFSET " ++ offset.repr).toList
      = some (.word offset.repr.toList.reverse,
        [.word "LIMIT".toList, .word limit.repr.toList, .word "OFFSET".toList]) := by
    have hword : Mode.feed .free " LIMIT ".toList = some (.free, [.word "LIMIT".toList]) := by
      decide
    have hoffset : " OFFSET ".toList = ' ' :: "OFFSET ".toList := rfl
    rw [String.toList_append, String.toList_append, String.toList_append, List.append_assoc,
      List.append_assoc, hoffset, List.cons_append, Mode.feed_append, hword, Option.bind_some,
      Mode.feed_word_blank (hne limit) (hnumber limit), htail]
    rfl
  rw [tokens_of_feed hwhole rfl, List.reverse_reverse]
  rfl

/-- What a limit after the order leaves of rows. -/
def limited? (rows : List Nat) : List Token → Option (List Nat)
  | [limit, .word digits, offset, .word digits'] =>
    if limit.isKeyword "LIMIT" && offset.isKeyword "OFFSET" then do
      return (rows.drop (← Text.natOf? digits')).take (← Text.natOf? digits)
    else none
  | _ => none

end Sql

/-- The numbers of the rows on a page, out of `count` rows numbered by a column from one on. -/
def Paging.rows? (column : String) (paging : Paging) (page : Page) (count : Nat) :
    Option (List Nat) := do
  let clause := paging.clause page
  let all := List.range' 1 count
  let admitted ← match clause.condition with
    | none => some all
    | some s => (read s).map fun c => all.filter fun n => eval (Sql.boundTruth column n) c = .yes
  match clause.ending with
  | none => some admitted
  | some s => (tokens s.toList).bind (Sql.limited? admitted)

namespace Paging

variable {column : String} {limit offset : UInt64} {count n : Nat}

theorem rows?_rowNumber (h : (rowNumber column).isPlain) (limit offset : UInt64) (count : Nat) :
    rows? column (.rowNumber column) (.window limit offset) count
      = some ((List.range' 1 count).filter fun n =>
        offset.toNat ≤ n ∧ n ≤ (saturatingAdd offset limit).toNat) := by
  obtain ⟨s, htext, hread⟩ := read_rowNumber h limit offset
  have hending : (clause (.rowNumber column) (.window limit offset)).ending = none := rfl
  simp only [rows?, htext, hread, hending, Option.map_some, Option.bind_eq_bind, Option.bind_some]
  congr 1
  refine List.filter_congr fun n _ => ?_
  rw [decide_eq_decide, Sql.Condition.eval_eq_yes_iff]
  simp only [List.mem_singleton, exists_eq_left, List.forall_mem_cons, forall_eq,
    Sql.boundTruth_low, Sql.boundTruth_high]

theorem rows?_limitOffset (column : String) (limit offset : UInt64) (count : Nat) :
    rows? column .limitOffset (.window limit offset) count
      = some (((List.range' 1 count).drop offset.toNat).take limit.toNat) := by
  have htext : (clause .limitOffset (.window limit offset)).ending
      = some (" LIMIT " ++ limit.toNat.repr ++ " OFFSET " ++ offset.toNat.repr) := rfl
  have hcondition : (clause .limitOffset (.window limit offset)).condition = none := rfl
  simp only [rows?, htext, hcondition, Sql.tokens_limit, Option.bind_eq_bind, Option.bind_some,
    Sql.limited?, Text.natOf?_repr]
  rfl

theorem mem_limited {limit offset count n : Nat} :
    n ∈ ((List.range' 1 count).drop offset).take limit
      ↔ offset < n ∧ n ≤ offset + limit ∧ n ≤ count := by
  rw [List.drop_range']
  rcases Nat.le_total limit (count - offset) with h | h
  · rw [List.take_range'_of_length_ge h, List.mem_range'_1]
    omega
  · rw [List.take_range'_of_length_le h, List.mem_range'_1]
    omega

theorem mem_numbered {limit offset : UInt64} {count n : Nat}
    (hroom : offset.toNat + limit.toNat < 2 ^ 64 ∨ count < 2 ^ 64) :
    n ∈ ((List.range' 1 count).filter fun n =>
        offset.toNat ≤ n ∧ n ≤ (saturatingAdd offset limit).toNat)
      ↔ offset.toNat ≤ n ∧ n ≤ offset.toNat + limit.toNat ∧ 1 ≤ n ∧ n ≤ count := by
  rw [List.mem_filter, List.mem_range'_1, decide_eq_true_eq, toNat_saturatingAdd]
  omega

/-- Bounds on the numbering column admit the rows of a limit and the row numbered like the offset. A
limit shows no row again on a later page. Bounds show one again on the next page, the row that the
next offset is the number of, and none on the pages after that. -/
theorem rows_strategies (hcolumn : (rowNumber column).isPlain) (hlimit : 1 ≤ limit.toNat)
    (hroom : offset.toNat + limit.toNat < 2 ^ 64 ∨ count < 2 ^ 64) :
    ∃ limited numbered,
      rows? column .limitOffset (.window limit offset) count = some limited
      ∧ rows? column (.rowNumber column) (.window limit offset) count = some numbered
      ∧ (∀ n, n ∈ limited
        ↔ offset.toNat < n ∧ n ≤ offset.toNat + limit.toNat ∧ n ≤ count)
      ∧ (∀ n, n ∈ numbered ↔ n ∈ limited ∨ n = offset.toNat ∧ 1 ≤ n ∧ n ≤ count)
      ∧ (∀ total hash t, (Page.window limit offset).nextToken? total hash = some t →
        t.offset.toNat = offset.toNat + limit.toNat)
      ∧ ∀ later : UInt64, offset.toNat + limit.toNat ≤ later.toNat →
        (later.toNat + limit.toNat < 2 ^ 64 ∨ count < 2 ^ 64) →
        ∃ limited' numbered',
          rows? column .limitOffset (.window limit later) count = some limited'
          ∧ rows? column (.rowNumber column) (.window limit later) count = some numbered'
          ∧ (∀ n ∈ limited, n ∉ limited')
          ∧ ∀ n, n ∈ numbered ∧ n ∈ numbered'
            ↔ n = later.toNat ∧ later.toNat = offset.toNat + limit.toNat ∧ n ≤ count := by
  refine ⟨_, _, rows?_limitOffset .., rows?_rowNumber hcolumn .., fun n => mem_limited, fun n => ?_,
    fun total hash t ht => ?_, fun later hlater hroom' => ⟨_, _, rows?_limitOffset ..,
      rows?_rowNumber hcolumn .., fun n hn hn' => ?_, fun n => ?_⟩⟩
  · rw [mem_numbered hroom, mem_limited]
    omega
  · obtain ⟨hlt, rfl⟩ := Page.nextToken?_window.1 ht
    have htotal := total.toNat_lt
    rw [UInt64.toNat_add, Nat.mod_eq_of_lt (by omega)]
  · rw [mem_limited] at hn hn'
    omega
  · rw [mem_numbered hroom, mem_numbered hroom']
    omega

theorem rows_strategies_third : ∃ limited numbered,
    rows? "ROWNUM" .limitOffset (.window 50 100) 250 = some limited
      ∧ rows? "ROWNUM" (.rowNumber "ROWNUM") (.window 50 100) 250 = some numbered
      ∧ 150 ∈ limited ∧ 150 ∈ numbered := by
  obtain ⟨limited, numbered, hlimited, hnumbered, hmem, hmem', -⟩ :=
    @rows_strategies "ROWNUM" 50 100 250 (by decide) (by decide) (.inr (by decide))
  have h : 150 ∈ limited := (hmem 150).2 (by decide)
  exact ⟨limited, numbered, hlimited, hnumbered, h, (hmem' 150).2 (.inl h)⟩

/-- Of the third page of fifty rows a limit leaves out row 100, and bounds show row 150 on the
fourth page again. -/
theorem rows_strategies_seam : ∃ limited numbered next,
    rows? "ROWNUM" .limitOffset (.window 50 100) 250 = some limited
      ∧ rows? "ROWNUM" (.rowNumber "ROWNUM") (.window 50 100) 250 = some numbered
      ∧ 100 ∉ limited ∧ 100 ∈ numbered
      ∧ (Page.window 50 100).nextToken? 250 1 = some ⟨150, 1⟩
      ∧ rows? "ROWNUM" (.rowNumber "ROWNUM") (.window 50 150) 250 = some next
      ∧ 150 ∈ numbered ∧ 150 ∈ next := by
  have hcolumn : (rowNumber "ROWNUM").isPlain := by decide
  have hcount : 250 < 2 ^ 64 := by decide
  refine ⟨_, _, _, rows?_limitOffset .., rows?_rowNumber hcolumn .., ?_, ?_, by decide,
    rows?_rowNumber hcolumn .., ?_, ?_⟩
  · exact mem_limited.not.2 (by decide)
  · exact (mem_numbered (.inr hcount)).2 (by decide)
  · exact (mem_numbered (.inr hcount)).2 (by decide)
  · exact (mem_numbered (.inr hcount)).2 (by decide)

end Paging

end Reporting
