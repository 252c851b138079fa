/-!
# Connection pool

A bounded number of calls use connections at a time. A call takes a permit, checks out an idle
connection or opens one, works with it, checks it in and releases its permit. `Pool.step?` is one
such step of one call, so the steps of several calls can be interleaved; `Pool.use` is a call from
start to end.
-/

namespace Reporting

/-- How far a call that holds a permit has come. -/
inductive CallPhase
  /-- It has no connection yet. -/
  | admitted
  /-- It saw no idle connection and is opening one. -/
  | opening
  | working (connection : Nat)
  /-- Its work returned. -/
  | worked (connection : Nat)
  /-- It has no connection any more, or never had one. -/
  | ended
deriving DecidableEq, Repr

structure Pool where
  /-- The calls that may hold a permit at a time. -/
  limit : Nat
  limit_pos : 0 < limit
  /-- The connections that no call has, the one checked in last in front. -/
  idle : List Nat := []
  /-- The connections opened so far, which are numbered in this order. -/
  opened : Nat := 0
  /-- The calls that hold a permit. -/
  calls : List (Nat × CallPhase) := []

inductive PoolStep
  | take (call : Nat)
  /-- Checks out an idle connection, or goes on to open one when there is none. -/
  | checkOut (call : Nat)
  | connect (call : Nat) (succeeds : Bool)
  /-- The work returns, or it breaks off and its connection is lost. -/
  | work (call : Nat) (returns : Bool)
  | checkIn (call : Nat)
  | release (call : Nat)
deriving DecidableEq, Repr

namespace Pool

/-- A pool for a number of calls, at least one. -/
def ofLimit (limit : Nat) : Pool where
  limit := max limit 1
  limit_pos := by omega

def phase? (p : Pool) (call : Nat) : Option CallPhase := p.calls.lookup call

def setPhase (p : Pool) (call : Nat) (phase : CallPhase) : Pool :=
  { p with calls := p.calls.map fun (c, q) => if c = call then (c, phase) else (c, q) }

/-- One step of a call, none when the call is not at that step or has to wait. -/
def step? (p : Pool) : PoolStep → Option Pool
  | .take call =>
    if (p.phase? call).isNone ∧ p.calls.length < p.limit then
      some { p with calls := (call, .admitted) :: p.calls }
    else none
  | .checkOut call =>
    match p.phase? call, p.idle with
    | some .admitted, c :: rest => some ({ p with idle := rest }.setPhase call (.working c))
    | some .admitted, [] => some (p.setPhase call .opening)
    | _, _ => none
  | .connect call succeeds =>
    match p.phase? call with
    | some .opening =>
      some (if succeeds then { p with opened := p.opened + 1 }.setPhase call (.working p.opened)
        else p.setPhase call .ended)
    | _ => none
  | .work call returns =>
    match p.phase? call with
    | some (.working c) => some (p.setPhase call (if returns then .worked c else .ended))
    | _ => none
  | .checkIn call =>
    match p.phase? call with
    | some (.worked c) => some ({ p with idle := c :: p.idle }.setPhase call .ended)
    | _ => none
  | .release call =>
    match p.phase? call with
    | some .ended => some { p with calls := p.calls.filter (·.1 != call) }
    | _ => none

def steps? (p : Pool) (steps : List PoolStep) : Option Pool := steps.foldlM step? p

/-- The steps of a call from start to end. It gets no connection when none is idle and none opens;
work that breaks off has no connection to check in. -/
def wholeCall (p : Pool) (call : Nat) (opens returns : Bool) : List PoolStep :=
  let worked := if returns then [.work call true, .checkIn call, .release call]
    else [.work call false, .release call]
  match p.idle, opens with
  | _ :: _, _ => [.take call, .checkOut call] ++ worked
  | [], true => [.take call, .checkOut call, .connect call true] ++ worked
  | [], false => [.take call, .checkOut call, .connect call false, .release call]

/-- The pool after a whole call with nothing going on beside it. -/
def use (p : Pool) (opens returns : Bool) : Pool :=
  (p.steps? (p.wholeCall 0 opens returns)).getD p

end Pool

end Reporting
