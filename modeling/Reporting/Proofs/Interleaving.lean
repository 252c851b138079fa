import Reporting.Proofs.Completion

/-!
# Completion in the midst of reading

An assembly may be completed at any time and read on. It stays the assembly of its readings alone
but for what was completed last (`performAll_eq_ok`), and the cells of a row that is not closed are
seen nowhere (`performAll_settled`).
-/

namespace Reporting

/-- The cells that wait for their row to be closed, in the order in which they were staged. -/
def Reading.pending (cells : List (Int × Cell)) : List Reading → List (Int × Cell)
  | [] => cells
  | .cell item c :: calls => pending (cells ++ [(item, c)]) calls
  | .row :: calls | .rowAt .. :: calls => pending [] calls

namespace Assembly

/-- A step of an assembly: a call while records are read, or completion. -/
inductive Step
  | read (reading : Reading)
  | complete

namespace Step

def reading? : Step → Option Reading
  | read reading => some reading
  | complete => none

def readings (steps : List Step) : List Reading := steps.filterMap reading?

def pending (steps : List Step) : List (Int × Cell) := Reading.pending [] (readings steps)

/-- The step closes the staged row. -/
def closes : Step → Bool
  | read .row | read (.rowAt ..) => true
  | _ => false

/-- The steps without the cells that no row is closed after. -/
def settled : List Step → List Step
  | [] => []
  | .read (.cell item c) :: steps =>
    if steps.any closes then .read (.cell item c) :: settled steps else settled steps
  | step :: steps => step :: settled steps

end Step

def perform (a : Assembly) : Step → Except ReportError Assembly
  | .read reading => .ok (a.read reading)
  | .complete => a.complete

def performAll (a : Assembly) (steps : List Step) : Except ReportError Assembly :=
  steps.foldlM perform a

section Staged

/-- The row of some cells before it is closed, if there are any. -/
def rowOf (level : Int) (cells : List (Int × Cell)) : Option Row :=
  if cells.isEmpty then none else some { cells := .ofList cells, level := level }

theorem staged_addCell {a : Assembly} {cells : List (Int × Cell)}
    (h : a.staged = rowOf a.detailLevel cells) (item : Int) (c : Cell) :
    (a.addCell item c).staged = rowOf a.detailLevel (cells ++ [(item, c)]) := by
  have hcells : SortedMap.ofList (cells ++ [(item, c)])
      = (SortedMap.ofList cells).insert item c := by
    rw [SortedMap.ofList, List.foldl_append]
    rfl
  simp only [addCell, rowOf, h, hcells]
  cases cells <;> rfl

theorem closeRow_of_staged {a : Assembly} {level' : Int} {cells : List (Int × Cell)}
    (h : a.staged = rowOf level' cells) (level sequence : Int) :
    a.closeRow level sequence =
      let row : Row := { cells := .ofList cells, level := level, sequence := sequence }
      if cells = [] then a
      else
        { a with
          staged := none
          totals := a.totals.addRow row
          details := a.details ++ [row] } := by
  cases cells <;> simp [closeRow, h, rowOf]

theorem staged_closeRow (a : Assembly) (level sequence : Int) :
    (a.closeRow level sequence).staged = none := by
  unfold closeRow
  split
  · assumption
  · rfl

theorem detailLevel_read (a : Assembly) (reading : Reading) :
    (a.read reading).detailLevel = a.detailLevel := by
  cases reading <;> simp only [read, addRow, closeRow] <;> (try split) <;> rfl

theorem staged_readAll {a : Assembly} {cells : List (Int × Cell)}
    (h : a.staged = rowOf a.detailLevel cells) (readings : List Reading) :
    (a.readAll readings).staged = rowOf a.detailLevel (Reading.pending cells readings) := by
  induction readings generalizing a cells with
  | nil => exact h
  | cons reading readings ih =>
    rw [← detailLevel_read a reading]
    cases reading with
    | cell item c => exact ih (staged_addCell h item c)
    | row => exact ih (staged_closeRow a _ _)
    | rowAt level sequence => exact ih (staged_closeRow a _ _)

end Staged

section Completions

theorem read_completion (a : Assembly) (completion : Completion) (reading : Reading) :
    { a with completion := completion }.read reading
      = { a.read reading with completion := completion } := by
  obtain ⟨_, _, _, staged, _, _⟩ := a
  cases reading <;> cases staged <;> rfl

theorem complete_completion (a : Assembly) (completion : Completion) :
    { a with completion := completion }.complete = a.complete :=
  rfl

theorem readAll_completion (a : Assembly) (completion : Completion) (readings : List Reading) :
    { a with completion := completion }.readAll readings
      = { a.readAll readings with completion := completion } := by
  induction readings generalizing a with
  | nil => rfl
  | cons reading readings ih =>
    rw [readAll, List.foldl_cons, read_completion]
    exact ih (a.read reading)

/-- Completing leaves no trace but the completion itself. -/
theorem performAll_eq_ok {a b : Assembly} {steps : List Step} (h : a.performAll steps = .ok b) :
    b = { a.readAll (Step.readings steps) with completion := b.completion } := by
  induction steps generalizing a with
  | nil =>
    cases h
    rfl
  | cons step steps ih =>
    obtain ⟨next, hnext, h⟩ := bind_eq_ok.1 h
    have hb := ih h
    cases step with
    | read reading =>
      cases hnext
      exact hb
    | complete =>
      obtain ⟨-, rfl⟩ := complete_eq_ok.1 hnext
      rw [readAll_completion] at hb
      exact hb

/-- The ways to cut a list before one of its elements. -/
theorem forall_cons_eq_append {α : Type} {x y : α} {l : List α} {p : List α → Prop} :
    (∀ before after, y :: l = before ++ x :: after → p before) ↔
      (y = x → p []) ∧ ∀ before after, l = before ++ x :: after → p (y :: before) := by
  constructor
  · exact fun h => ⟨fun hx => h [] l (by rw [hx]; rfl),
      fun before after hl => h (y :: before) after (by rw [hl]; rfl)⟩
  · rintro ⟨hhead, htail⟩ before after heq
    cases before with
    | nil => exact hhead (List.cons.inj heq).1
    | cons z before =>
      obtain ⟨rfl, rfl⟩ := List.cons.inj heq
      exact htail before after rfl

theorem exists_performAll_iff {a : Assembly} {steps : List Step} :
    (∃ b, a.performAll steps = .ok b) ↔ ∀ before after, steps = before ++ .complete :: after →
      ∃ b, (a.readAll (Step.readings before)).complete = .ok b := by
  induction steps generalizing a with
  | nil => exact iff_of_true ⟨a, rfl⟩ (by simp)
  | cons step steps ih =>
    rw [forall_cons_eq_append]
    cases step with
    | read reading => exact ih.trans (iff_and_self.2 fun _ => nofun)
    | complete =>
      have hnext {next : Assembly} (h : a.complete = .ok next) :
          (∃ b, next.performAll steps = .ok b) ↔ ∀ before after,
            steps = before ++ .complete :: after →
              ∃ b, (a.readAll (Step.readings before)).complete = .ok b := by
        obtain ⟨-, rfl⟩ := complete_eq_ok.1 h
        simpa only [readAll_completion, complete_completion]
          using ih (a := { a with completion := a.completed })
      constructor
      · rintro ⟨b, h⟩
        obtain ⟨next, hcomplete, h⟩ := bind_eq_ok.1 h
        exact ⟨fun _ => ⟨next, hcomplete⟩, (hnext hcomplete).1 ⟨b, h⟩⟩
      · rintro ⟨hnow, hlater⟩
        obtain ⟨next, hcomplete⟩ := hnow rfl
        obtain ⟨b, h⟩ := (hnext hcomplete).2 hlater
        exact ⟨b, bind_eq_ok.2 ⟨next, hcomplete, h⟩⟩

end Completions

section Settled

def unstaged (a : Assembly) : Assembly := { a with staged := none }

theorem complete_unstaged (a : Assembly) : a.unstaged.complete = a.complete.map unstaged := by
  have hsources : (Row.sortedBy (Row.treeOrder a.unstaged.sorting) a.unstaged.sources).mapM
      (fun r => do return (r, ← a.unstaged.readyCells r))
      = (Row.sortedBy (Row.treeOrder a.sorting) a.sources).mapM
        (fun r => do return (r, ← a.readyCells r)) := rfl
  rw [complete, complete, hsources]
  cases (Row.sortedBy (Row.treeOrder a.sorting) a.sources).mapM
    (fun r => do return (r, ← a.readyCells r)) <;> rfl

theorem unstaged_closeRow (a : Assembly) (level sequence : Int) :
    (a.closeRow level sequence).unstaged = a.closeRow level sequence := by
  rw [unstaged, ← staged_closeRow a level sequence]

/-- Cells that no row is closed after are seen nowhere. -/
theorem performAll_settled (a : Assembly) (steps : List Step) :
    (if steps.any Step.closes then a else a.unstaged).performAll (Step.settled steps)
      = (a.performAll steps).map unstaged := by
  -- an assembly goes on without its staged cells as soon as no row is closed any more
  induction steps generalizing a with
  | nil => rfl
  | cons step steps ih =>
    have hclosed (level sequence : Int) :
        (a.closeRow level sequence).performAll (Step.settled steps)
          = ((a.closeRow level sequence).performAll steps).map unstaged := by
      simpa only [unstaged_closeRow, ite_self] using ih (a.closeRow level sequence)
    cases step with
    | complete =>
      have hcomplete : (if steps.any Step.closes then a else a.unstaged).complete
          = a.complete.map fun b => if steps.any Step.closes then b else b.unstaged := by
        split
        · cases a.complete <;> rfl
        · exact complete_unstaged a
      change Except.bind (if steps.any Step.closes then a else a.unstaged).complete _
        = (Except.bind a.complete _).map _
      rw [hcomplete]
      rcases a.complete with e | b
      · rfl
      · exact ih b
    | read reading =>
      cases reading with
      | cell item c =>
        have hcell := ih (a.addCell item c)
        change (if steps.any Step.closes then a else a.unstaged).performAll
          (if steps.any Step.closes then .read (.cell item c) :: Step.settled steps
            else Step.settled steps) = _
        cases hany : steps.any Step.closes <;> rw [hany] at hcell <;> exact hcell
      | row => exact hclosed _ _
      | rowAt level sequence => exact hclosed level sequence

end Settled

section Runs

variable {d : Definition} {options : ReportOptions} {steps : List Step} {b : Assembly}

/-- An assembly after some steps, which is what the readings make of it but for the completion. Its
totals are those of its details, a row that is closed holds the last cell staged for each item, and
completion shows what it shows when none came before. -/
structure Reached (d : Definition) (options : ReportOptions) (steps : List Step) (b : Assembly) :
    Prop where
  readAll_eq :
    b = { (start d options).readAll (Step.readings steps) with completion := b.completion }
  totals : b.totals = .fed d.axes d.summarized b.details
  close_nothing : Step.pending steps = [] → ∀ level sequence, b.closeRow level sequence = b
  close_pending : Step.pending steps ≠ [] → ∀ level sequence, ∃ row : Row,
    b.closeRow level sequence
        = { b with
            staged := none
            totals := b.totals.addRow row
            details := b.details ++ [row] }
      ∧ row.level = level ∧ row.sequence = sequence ∧ row.isSummary = false
      ∧ ∀ item, row.cell? item
          = ((Step.pending steps).reverse.find? (·.1 = item)).map Prod.snd
  addRow_eq : b.addRow = b.closeRow d.axes.length 0
  complete_eq : b.complete = ((start d options).readAll (Step.readings steps)).complete

theorem reached_of_performAll (h : (start d options).performAll steps = .ok b) :
    b.Reached d options steps := by
  have hb := performAll_eq_ok h
  have hstaged : b.staged = rowOf _ (Step.pending steps) :=
    (congrArg Assembly.staged hb).trans (staged_readAll (a := start d options) rfl _)
  have htotals : b.totals = .fed d.axes d.summarized b.details := by
    rw [congrArg Assembly.totals hb, congrArg Assembly.details hb]
    exact totals_readAll d options (Step.readings steps)
  refine ⟨hb, htotals, fun hpending level sequence => ?_, fun hpending level sequence => ?_, ?_, ?_⟩
  · rw [closeRow_of_staged hstaged]
    exact if_pos hpending
  · refine ⟨{ cells := .ofList (Step.pending steps), level := level, sequence := sequence },
      ?_, rfl, rfl, rfl, SortedMap.get?_ofList _⟩
    rw [closeRow_of_staged hstaged]
    exact if_neg hpending
  · rw [addRow, detailLevel, htotals, Totals.axes_fed]
  · exact (congrArg complete hb).trans (complete_completion _ _)

/-- However completion is mixed into reading, it succeeds if the mappings show every cell that there
is at the time, and leaves no trace in what comes after it. -/
theorem performAll_start (d : Definition) (options : ReportOptions) (steps : List Step) :
    ((∃ b, (start d options).performAll steps = .ok b) ↔
        ∀ before after, steps = before ++ .complete :: after →
          ∀ r ∈ ((start d options).readAll (Step.readings before)).sources,
            ∀ item ∈ d.printedItems, ∃ c, options.mapped r item = .ok c)
      ∧ (start d options).performAll (Step.settled steps)
          = ((start d options).performAll steps).map unstaged
      ∧ ∀ b, (start d options).performAll steps = .ok b → b.Reached d options steps := by
  refine ⟨?_, ?_, fun b => reached_of_performAll⟩
  · rw [exists_performAll_iff]
    refine forall_congr' fun before => forall_congr' fun after => forall_congr' fun _ => ?_
    obtain ⟨hd, ho⟩ := options_readAll (start d options) (Step.readings before)
    rw [exists_complete_iff, items, hd, ho]
    rfl
  · have h := performAll_settled (start d options) steps
    rwa [show (start d options).unstaged = start d options from rfl, ite_self] at h

/-- A region is completed while it is staged and once more when it is closed. -/
def interruptedRegions : List Step :=
  [.read (.cell 1 { value := .text "EU" }), .complete, .read .row, .complete,
    .read (.cell 1 { value := .text "UK" }), .read (.cell 1 { value := .text "US" })]

theorem performAll_start_interrupted :
    ∃ b, (start byRegion plainOptions).performAll interruptedRegions = .ok b
      ∧ b.completion.rows.map (fun r => (r.level, r.sortText 1)) = [(1, "EU"), (0, "EU")]
      ∧ (start byRegion plainOptions).performAll (Step.settled interruptedRegions)
          = .ok b.unstaged
      ∧ b.Reached byRegion plainOptions interruptedRegions := by
  have h : ((start byRegion plainOptions).performAll interruptedRegions).map
      (fun b => b.completion.rows.map fun r => (r.level, r.sortText 1))
      = .ok [(1, "EU"), (0, "EU")] := by
    cbv
  obtain ⟨b, hb, hrows⟩ := map_eq_ok.1 h
  obtain ⟨-, hsettled, hreached⟩ := performAll_start byRegion plainOptions interruptedRegions
  exact ⟨b, hb, hrows, by rw [hsettled, hb]; rfl, hreached b hb⟩

end Runs

end Assembly

end Reporting
