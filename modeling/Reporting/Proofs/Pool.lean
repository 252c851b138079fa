import Mathlib.Data.List.Nodup
import Reporting.Store.Pool

/-!
# The limit of a pool

The steps of calls come in any order. A connection that is not lost is with one call or idle, and
a call opens one only when none is idle, so there are never more connections than calls that may
hold a permit (`Pool.sound_steps?`). A call whose work has returned checks its connection in before
it does anything else (`Pool.exists_checkIn`).
-/

namespace Reporting

namespace CallPhase

/-- The connection of a call. -/
def connection? : CallPhase → Option Nat
  | working c | worked c => some c
  | admitted | opening | ended => none

/-- The call has a connection or is about to have one. -/
def isEngaged : CallPhase → Bool
  | opening | working _ | worked _ => true
  | admitted | ended => false

theorem isEngaged_of_connection? {phase : CallPhase} (h : phase.connection?.isSome) :
    phase.isEngaged := by
  cases phase with
  | working c => rfl
  | worked c => rfl
  | admitted => cases h
  | opening => cases h
  | ended => cases h

end CallPhase

/-- The call that makes the step. -/
def PoolStep.call : PoolStep → Nat
  | take call | checkOut call | connect call _ | work call _ | checkIn call | release call => call

namespace Pool

/-- The connections that calls have. -/
def inUse (p : Pool) : List Nat := p.calls.filterMap (·.2.connection?)

/-- The connections that are open. -/
def connections (p : Pool) : List Nat := p.inUse ++ p.idle

/-- The number of calls that have a connection or are about to have one. -/
def engaged (p : Pool) : Nat := p.calls.countP (·.2.isEngaged)

/-- The connection of a call. -/
def connection? (p : Pool) (call : Nat) : Option Nat := (p.phase? call).bind (·.connection?)

theorem length_inUse_le (p : Pool) : p.inUse.length ≤ p.engaged := by
  unfold inUse engaged
  rw [List.length_filterMap_eq_countP]
  exact List.countP_mono_left fun _ _ => CallPhase.isEngaged_of_connection?

section Steps

/-- A step by which a call goes on from one phase to the next, with the idle connections and the
number of opened ones after it. -/
inductive Moves (p : Pool) : PoolStep → CallPhase → CallPhase → List Nat → Nat → Prop
  | checkOut {call c : Nat} {idle : List Nat} (h : p.idle = c :: idle) :
      p.Moves (.checkOut call) .admitted (.working c) idle p.opened
  | noneIdle {call : Nat} (h : p.idle = []) :
      p.Moves (.checkOut call) .admitted .opening p.idle p.opened
  | connect {call : Nat} :
      p.Moves (.connect call true) .opening (.working p.opened) p.idle (p.opened + 1)
  | refuse {call : Nat} : p.Moves (.connect call false) .opening .ended p.idle p.opened
  | finish {call c : Nat} : p.Moves (.work call true) (.working c) (.worked c) p.idle p.opened
  | lose {call c : Nat} : p.Moves (.work call false) (.working c) .ended p.idle p.opened
  | checkIn {call c : Nat} : p.Moves (.checkIn call) (.worked c) .ended (c :: p.idle) p.opened

/-- All that a step can do. -/
inductive Steps (p : Pool) : PoolStep → Pool → Prop
  | take {call : Nat} (hphase : p.phase? call = none) (hfree : p.calls.length < p.limit) :
      p.Steps (.take call) { p with calls := (call, .admitted) :: p.calls }
  | move {s : PoolStep} {phase phase' : CallPhase} {idle : List Nat} {opened : Nat}
      (hphase : p.phase? s.call = some phase) (hmoves : p.Moves s phase phase' idle opened) :
      p.Steps s ({ p with idle := idle, opened := opened }.setPhase s.call phase')
  | release {call : Nat} (hphase : p.phase? call = some .ended) :
      p.Steps (.release call) { p with calls := p.calls.filter (·.1 != call) }

variable {p q : Pool} {s : PoolStep} {steps steps' : List PoolStep} {call c : Nat}

theorem steps_of_step? (h : p.step? s = some q) : p.Steps s q := by
  cases s with
  | take call =>
    simp only [step?] at h
    split at h
    · rename_i hfree
      cases h
      exact .take (Option.isNone_iff_eq_none.1 hfree.1) hfree.2
    · cases h
  | checkOut call =>
    simp only [step?] at h
    split at h
    · rename_i c idle hphase hidle
      cases h
      exact .move hphase (.checkOut hidle)
    · rename_i hphase hidle
      cases h
      exact .move hphase (.noneIdle hidle)
    · cases h
  | connect call succeeds =>
    simp only [step?] at h
    split at h
    · rename_i hphase
      cases h
      cases succeeds with
      | true => exact .move hphase .connect
      | false => exact .move hphase .refuse
    · cases h
  | work call returns =>
    simp only [step?] at h
    split at h
    · rename_i c hphase
      cases h
      cases returns with
      | true => exact .move hphase .finish
      | false => exact .move hphase .lose
    · cases h
  | checkIn call =>
    simp only [step?] at h
    split at h
    · rename_i c hphase
      cases h
      exact .move hphase .checkIn
    · cases h
  | release call =>
    simp only [step?] at h
    split at h
    · rename_i hphase
      cases h
      exact .release hphase
    · cases h

theorem steps?_cons_eq_some : p.steps? (s :: steps) = some q
    ↔ ∃ next, p.step? s = some next ∧ next.steps? steps = some q := by
  rw [steps?, List.foldlM_cons]
  exact Option.bind_eq_some_iff

theorem steps?_append_eq_some : p.steps? (steps ++ steps') = some q
    ↔ ∃ next, p.steps? steps = some next ∧ next.steps? steps' = some q := by
  rw [steps?, List.foldlM_append]
  exact Option.bind_eq_some_iff

end Steps

section Calls

variable {p : Pool} {call : Nat} {phase : CallPhase}

theorem exists_split (h : p.phase? call = some phase) :
    ∃ front rest, p.calls = front ++ (call, phase) :: rest := by
  obtain ⟨front, rest, hsplit, -⟩ := List.lookup_eq_some_iff.1 h
  exact ⟨front, rest, hsplit⟩

theorem ne_of_split {front rest : List (Nat × CallPhase)} (hcalls : (p.calls.map Prod.fst).Nodup)
    (hsplit : p.calls = front ++ (call, phase) :: rest) : ∀ e ∈ front ++ rest, e.1 ≠ call := by
  rw [hsplit, List.map_append, List.map_cons, List.nodup_middle, List.nodup_cons,
    ← List.map_append] at hcalls
  rintro e he rfl
  exact hcalls.1 (List.mem_map.2 ⟨e, he, rfl⟩)

theorem phase?_eq_some_iff (hcalls : (p.calls.map Prod.fst).Nodup) :
    p.phase? call = some phase ↔ (call, phase) ∈ p.calls := by
  constructor
  · intro h
    obtain ⟨front, rest, hsplit⟩ := exists_split h
    rw [hsplit]
    exact List.mem_append_right front List.mem_cons_self
  · intro h
    obtain ⟨front, rest, hsplit⟩ := List.append_of_mem h
    refine List.lookup_eq_some_iff.2 ⟨front, rest, hsplit, fun e he => bne_iff_ne.2 ?_⟩
    exact (ne_of_split hcalls hsplit e (List.mem_append_left rest he)).symm

/-- The calls after a step of one of them, whose entry is the only one that changes. -/
theorem exists_calls (hcalls : (p.calls.map Prod.fst).Nodup) (h : p.phase? call = some phase) :
    ∃ front rest, p.calls = front ++ (call, phase) :: rest
      ∧ p.calls.filter (·.1 != call) = front ++ rest
      ∧ ∀ phase', (p.setPhase call phase').calls = front ++ (call, phase') :: rest := by
  obtain ⟨front, rest, hsplit⟩ := exists_split h
  obtain ⟨hfront, hrest⟩ := List.forall_mem_append.1 (ne_of_split hcalls hsplit)
  refine ⟨front, rest, hsplit, ?_, fun phase' => ?_⟩
  · rw [hsplit, List.filter_append, List.filter_cons_of_neg (by simp),
      List.filter_eq_self.2 (by simpa using hfront), List.filter_eq_self.2 (by simpa using hrest)]
  · have hkeep : ∀ l : List (Nat × CallPhase), (∀ e ∈ l, e.1 ≠ call) →
        l.map (fun e => if e.1 = call then (e.1, phase') else (e.1, e.2)) = l := by
      intro l hl
      refine (List.map_congr_left fun e he => ?_).trans (List.map_id l)
      rw [if_neg (hl e he)]
      rfl
    change p.calls.map _ = _
    rw [hsplit, List.map_append, List.map_cons, hkeep front hfront, hkeep rest hrest]
    simp

end Calls

/-- What holds after every step. -/
structure Sound (p : Pool) : Prop where
  nodup_calls : (p.calls.map Prod.fst).Nodup
  length_calls_le : p.calls.length ≤ p.limit
  nodup_connections : p.connections.Nodup
  lt_opened : ∀ c ∈ p.connections, c < p.opened
  /-- There is room for the connections that are open and for those that are being opened. -/
  room : p.engaged + p.idle.length ≤ p.limit

section Sound

variable {p q : Pool} {s : PoolStep} {phase phase' : CallPhase} {idle : List Nat} {opened : Nat}

/-- Connections change hands, are lost, or are opened under the next number. -/
theorem Moves.connections (h : p.Moves s phase phase' idle opened) (kept : List Nat) :
    (opened = p.opened ∧ ∃ lost, (phase.connection?.toList ++ (kept ++ p.idle)).Perm
        (lost ++ (phase'.connection?.toList ++ (kept ++ idle))))
      ∨ (opened = p.opened + 1 ∧ phase'.connection?.toList ++ (kept ++ idle)
        = p.opened :: (phase.connection?.toList ++ (kept ++ p.idle))) := by
  cases h with
  | @checkOut _ c _ hidle =>
    refine .inl ⟨rfl, [], ?_⟩
    rw [hidle]
    exact List.perm_middle
  | noneIdle _ => exact .inl ⟨rfl, [], .refl _⟩
  | connect => exact .inr ⟨rfl, rfl⟩
  | refuse => exact .inl ⟨rfl, [], .refl _⟩
  | finish => exact .inl ⟨rfl, [], .refl _⟩
  | @lose _ c => exact .inl ⟨rfl, [c], .refl _⟩
  | @checkIn _ c =>
    have hback : (kept ++ c :: p.idle).Perm (c :: (kept ++ p.idle)) := List.perm_middle
    exact .inl ⟨rfl, [], hback.symm⟩

/-- A call is engaged anew only with an idle connection or when there is none. -/
theorem Moves.room (h : p.Moves s phase phase' idle opened) :
    idle = [] ∨ (if phase'.isEngaged then 1 else 0) + idle.length
      ≤ (if phase.isEngaged then 1 else 0) + p.idle.length := by
  cases h with
  | @checkOut _ c _ hidle =>
    right
    show 1 + idle.length ≤ 0 + p.idle.length
    rw [hidle, List.length_cons]
    omega
  | noneIdle hidle => exact .inl hidle
  | connect => exact .inr (Nat.le_refl _)
  | refuse => exact .inr (Nat.add_le_add_right (Nat.zero_le 1) _)
  | finish => exact .inr (Nat.le_refl _)
  | lose => exact .inr (Nat.add_le_add_right (Nat.zero_le 1) _)
  | @checkIn _ c =>
    right
    show 0 + (c :: p.idle).length ≤ 1 + p.idle.length
    rw [List.length_cons]
    omega

section Entry

variable {front rest : List (Nat × CallPhase)} {call : Nat}
  (h : p.calls = front ++ (call, phase) :: rest)

include h in
theorem connections_perm : p.connections.Perm
    (phase.connection?.toList ++ ((front ++ rest).filterMap (·.2.connection?) ++ p.idle)) := by
  have hcalls : p.calls.Perm ((call, phase) :: (front ++ rest)) := h ▸ List.perm_middle
  rw [connections, inUse, ← List.append_assoc]
  refine ((hcalls.filterMap (·.2.connection?)).append_right p.idle).trans (.of_eq ?_)
  rw [List.filterMap_cons]
  cases phase.connection? <;> rfl

include h in
theorem engaged_eq : p.engaged
    = (front ++ rest).countP (·.2.isEngaged) + if phase.isEngaged then 1 else 0 := by
  have hcalls : p.calls.Perm ((call, phase) :: (front ++ rest)) := h ▸ List.perm_middle
  rw [engaged, hcalls.countP_eq, List.countP_cons]

end Entry

theorem sound_ofLimit (limit : Nat) : (ofLimit limit).Sound where
  nodup_calls := List.nodup_nil
  length_calls_le := Nat.zero_le _
  nodup_connections := List.nodup_nil
  lt_opened _ h := nomatch h
  room := Nat.zero_le _

/-- A call that goes on keeps the pool sound. -/
theorem sound_move {call : Nat} (hp : p.Sound) (hphase : p.phase? call = some phase)
    (hmoves : p.Moves s phase phase' idle opened) :
    ({ p with idle := idle, opened := opened }.setPhase call phase').Sound := by
  obtain ⟨front, rest, hsplit, -, hset⟩ := exists_calls hp.nodup_calls hphase
  generalize hq : { p with idle := idle, opened := opened }.setPhase call phase' = q
  have hcalls : q.calls = front ++ (call, phase') :: rest := hq ▸ hset phase'
  have hlimit : q.limit = p.limit := hq ▸ rfl
  have hidle : q.idle = idle := hq ▸ rfl
  have hopened : q.opened = opened := hq ▸ rfl
  have hlength : q.calls.length = p.calls.length := by rw [hcalls, hsplit]; simp
  have hbefore := connections_perm hsplit
  have hafter := connections_perm hcalls
  have hnodup := hbefore.nodup_iff.1 hp.nodup_connections
  have hlt : ∀ c ∈ _, c < p.opened := fun c hc => hp.lt_opened c (hbefore.mem_iff.2 hc)
  rw [hidle] at hafter
  refine ⟨?_, ?_, ?_, ?_, ?_⟩
  · have hkeys : q.calls.map Prod.fst = p.calls.map Prod.fst := by simp [hcalls, hsplit]
    exact hkeys ▸ hp.nodup_calls
  · rw [hlength, hlimit]
    exact hp.length_calls_le
  · obtain ⟨-, lost, hkept⟩ | ⟨-, hnew⟩ := hmoves.connections
      ((front ++ rest).filterMap (·.2.connection?))
    · exact hafter.nodup_iff.2 (hkept.nodup_iff.1 hnodup).of_append_right
    · rw [hnew] at hafter
      exact hafter.nodup_iff.2 (List.nodup_cons.2 ⟨fun hc => Nat.lt_irrefl _ (hlt _ hc), hnodup⟩)
  · intro c hc
    rw [hopened]
    obtain ⟨rfl, lost, hkept⟩ | ⟨rfl, hnew⟩ := hmoves.connections
      ((front ++ rest).filterMap (·.2.connection?))
    · exact hlt c (hkept.mem_iff.2 (List.mem_append_right lost (hafter.mem_iff.1 hc)))
    · rw [hnew] at hafter
      rcases List.mem_cons.1 (hafter.mem_iff.1 hc) with rfl | hc
      · exact Nat.lt_succ_self _
      · exact Nat.lt_succ_of_lt (hlt c hc)
  · have hroom := hp.room
    rw [engaged_eq hsplit] at hroom
    rw [hidle, hlimit]
    rcases hmoves.room with rfl | hmoved
    · -- Nothing is idle, and each engaged call holds one of the permits.
      have hle : q.engaged ≤ q.calls.length := List.countP_le_length
      have := hp.length_calls_le
      rw [List.length_nil]
      omega
    · rw [engaged_eq hcalls]
      omega

/-- Every step keeps the pool sound. -/
theorem sound_step? (hp : p.Sound) (h : p.step? s = some q) : q.Sound := by
  cases steps_of_step? h with
  | @take call hphase hfree =>
    have hnew : call ∉ p.calls.map Prod.fst := by
      intro hmem
      obtain ⟨⟨_, phase⟩, hentry, rfl⟩ := List.mem_map.1 hmem
      rw [(phase?_eq_some_iff hp.nodup_calls).2 hentry] at hphase
      cases hphase
    exact ⟨List.nodup_cons.2 ⟨hnew, hp.nodup_calls⟩, hfree, hp.nodup_connections, hp.lt_opened,
      hp.room⟩
  | move hphase hmoves => exact sound_move hp hphase hmoves
  | @release call hphase =>
    obtain ⟨front, rest, hsplit, hfilter, -⟩ := exists_calls hp.nodup_calls hphase
    have hkept : p.connections.Perm ((front ++ rest).filterMap (·.2.connection?) ++ p.idle) :=
      connections_perm hsplit
    have hconnections : ({ p with calls := p.calls.filter (·.1 != call) } : Pool).connections
        = (front ++ rest).filterMap (·.2.connection?) ++ p.idle := by
      rw [connections, inUse, hfilter]
    have hsublist : (p.calls.filter (·.1 != call)).Sublist p.calls := List.filter_sublist
    refine ⟨hp.nodup_calls.sublist (hsublist.map _),
      Nat.le_trans hsublist.length_le hp.length_calls_le, ?_, ?_, ?_⟩
    · rw [hconnections]
      exact hkept.nodup_iff.1 hp.nodup_connections
    · intro c hc
      rw [hconnections] at hc
      exact hp.lt_opened c (hkept.mem_iff.2 hc)
    · have hle : ({ p with calls := p.calls.filter (·.1 != call) } : Pool).engaged ≤ p.engaged :=
        hsublist.countP_le
      exact Nat.le_trans (Nat.add_le_add_right hle _) hp.room

theorem sound_steps? : ∀ {steps : List PoolStep} {p q : Pool}, p.Sound →
    p.steps? steps = some q → q.Sound
  | [], p, q, hp, h => by
    cases h
    exact hp
  | s :: steps, p, q, hp, h => by
    obtain ⟨next, hnext, h⟩ := steps?_cons_eq_some.1 h
    exact sound_steps? (sound_step? hp hnext) h

theorem limit_step? (h : p.step? s = some q) : q.limit = p.limit := by
  cases steps_of_step? h <;> rfl

theorem limit_steps? : ∀ {steps : List PoolStep} {p q : Pool}, p.steps? steps = some q →
    q.limit = p.limit
  | [], p, q, h => by
    cases h
    rfl
  | s :: steps, p, q, h => by
    obtain ⟨next, hnext, h⟩ := steps?_cons_eq_some.1 h
    exact (limit_steps? h).trans (limit_step? hnext)

/-- A connection is with one call only. -/
theorem eq_of_connection? (hp : p.Sound) {a b c : Nat} (ha : p.connection? a = some c)
    (hb : p.connection? b = some c) : a = b := by
  obtain ⟨phase, ha, hac⟩ := Option.bind_eq_some_iff.1 ha
  obtain ⟨phase', hb, hbc⟩ := Option.bind_eq_some_iff.1 hb
  obtain ⟨front, rest, hsplit⟩ := exists_split ha
  have hnodup := (connections_perm hsplit).nodup_iff.1 hp.nodup_connections
  rw [hac] at hnodup
  have hentry := (phase?_eq_some_iff hp.nodup_calls).1 hb
  rw [hsplit, List.perm_middle.mem_iff, List.mem_cons] at hentry
  rcases hentry with hentry | hentry
  · exact (congrArg Prod.fst hentry).symm
  · have hother : c ∈ (front ++ rest).filterMap (·.2.connection?) :=
      List.mem_filterMap.2 ⟨_, hentry, hbc⟩
    exact absurd (List.mem_append_left _ hother) (List.nodup_cons.1 hnodup).1

end Sound

section CheckIn

variable {p q : Pool} {s : PoolStep} {steps : List PoolStep} {call c : Nat} {phase : CallPhase}

/-- A call stays where it is while others go on. -/
theorem phase?_step? (hp : p.Sound) (h : p.step? s = some q) (hs : s.call ≠ call)
    (hphase : p.phase? call = some phase) : q.phase? call = some phase := by
  rw [phase?_eq_some_iff hp.nodup_calls] at hphase
  rw [phase?_eq_some_iff (sound_step? hp h).nodup_calls]
  cases steps_of_step? h with
  | take _ _ => exact List.mem_cons_of_mem _ hphase
  | move _ _ => exact List.mem_map.2 ⟨_, hphase, if_neg hs.symm⟩
  | release _ => exact List.mem_filter.2 ⟨hphase, bne_iff_ne.2 hs.symm⟩

/-- All that a call can do whose work has returned is to check its connection in. -/
theorem checkIn_of_worked (hphase : p.phase? call = some (.worked c)) (h : p.step? s = some q)
    (hs : s.call = call) : s = .checkIn call ∧ q.idle = c :: p.idle := by
  subst hs
  cases steps_of_step? h with
  | take hnone _ => cases hnone.symm.trans hphase
  | move hnow hmoves =>
    cases hnow.symm.trans hphase
    cases hmoves
    exact ⟨rfl, rfl⟩
  | release hnow => cases hnow.symm.trans hphase

theorem worked_of_work (hp : p.Sound) (h : p.step? (.work call true) = some q) :
    ∃ c, p.phase? call = some (.working c) ∧ q.phase? call = some (.worked c) := by
  have hq := (sound_step? hp h).nodup_calls
  cases steps_of_step? h with
  | move hphase hmoves =>
    cases hmoves
    refine ⟨_, hphase, (phase?_eq_some_iff hq).2 ?_⟩
    exact List.mem_map.2 ⟨_, (phase?_eq_some_iff hp.nodup_calls).1 hphase, if_pos rfl⟩

theorem exists_checkIn : ∀ {steps : List PoolStep} {p q : Pool}, p.Sound →
    p.phase? call = some (.worked c) → p.steps? steps = some q → .release call ∈ steps →
    ∃ front rest back, steps = front ++ .checkIn call :: rest ∧ .release call ∉ front
      ∧ p.steps? (front ++ [.checkIn call]) = some back ∧ c ∈ back.idle
  | s :: steps, p, q, hp, hphase, h, hrelease => by
    obtain ⟨next, hnext, h⟩ := steps?_cons_eq_some.1 h
    by_cases hs : s.call = call
    · obtain ⟨rfl, hidle⟩ := checkIn_of_worked hphase hnext hs
      refine ⟨[], steps, next, rfl, List.not_mem_nil, ?_, hidle ▸ List.mem_cons_self⟩
      exact steps?_cons_eq_some.2 ⟨next, hnext, rfl⟩
    · have hne : .release call ≠ s := fun h => hs (h ▸ rfl)
      obtain ⟨front, rest, back, rfl, hfront, hback, hidle⟩ := exists_checkIn
        (sound_step? hp hnext) (phase?_step? hp hnext hs hphase) h
        ((List.mem_cons.1 hrelease).resolve_left hne)
      exact ⟨s :: front, rest, back, rfl, List.not_mem_cons_of_ne_of_not_mem hne hfront,
        steps?_cons_eq_some.2 ⟨next, hnext, hback⟩, hidle⟩

/-- A call whose work returns has its connection idle again before it releases its permit. -/
def ChecksInFirst (p : Pool) (steps : List PoolStep) : Prop :=
  ∀ before call after, steps = before ++ .work call true :: after → .release call ∈ after →
    ∃ c working front rest back,
      p.steps? before = some working ∧ working.connection? call = some c
        ∧ after = front ++ .checkIn call :: rest ∧ .release call ∉ front
        ∧ p.steps? (before ++ .work call true :: front ++ [.checkIn call]) = some back
        ∧ c ∈ back.idle

theorem checksInFirst (hp : p.Sound) (h : p.steps? steps = some q) : p.ChecksInFirst steps := by
  rintro before call after rfl hrelease
  obtain ⟨working, hworking, h⟩ := steps?_append_eq_some.1 h
  obtain ⟨worked, hworked, h⟩ := steps?_cons_eq_some.1 h
  have hsound := sound_steps? hp hworking
  obtain ⟨c, hphase, hphase'⟩ := worked_of_work hsound hworked
  obtain ⟨front, rest, back, hafter, hfront, hback, hidle⟩ :=
    exists_checkIn (sound_step? hsound hworked) hphase' h hrelease
  refine ⟨c, working, front, rest, back, hworking, ?_, hafter, hfront, ?_, hidle⟩
  · rw [connection?, hphase]
    rfl
  · rw [List.append_assoc, steps?_append_eq_some]
    exact ⟨working, hworking, steps?_cons_eq_some.2 ⟨worked, hworked, hback⟩⟩

end CheckIn

/-- However the steps of calls are interleaved, no more connections are in use or open than the
limit allows, and each of them is with one call at most. -/
theorem limit_respected {limit : Nat} {steps : List PoolStep} {p : Pool}
    (h : (ofLimit limit).steps? steps = some p) :
    p.inUse.length ≤ max 1 limit
      ∧ p.inUse.length + p.idle.length ≤ max 1 limit
      ∧ (p.inUse ++ p.idle).Nodup
      ∧ (∀ a b c, p.connection? a = some c → p.connection? b = some c → a = b)
      ∧ (ofLimit limit).ChecksInFirst steps := by
  have hp := sound_steps? (sound_ofLimit limit) h
  have hlimit : p.limit = max limit 1 := limit_steps? h
  have hroom := hp.room
  have hinUse := p.length_inUse_le
  exact ⟨by omega, by omega, hp.nodup_connections, fun a b c => eq_of_connection? hp,
    checksInFirst (sound_ofLimit limit) h⟩

/-- Five calls share two permits: one opens no connection, one loses the connection that another
has checked in, and at the end two connections are in use. -/
def contended : List PoolStep :=
  [.take 0, .take 1, .checkOut 0, .checkOut 1, .connect 0 true, .connect 1 false, .release 1,
    .work 0 true, .checkIn 0, .take 2, .checkOut 2, .release 0, .work 2 false, .take 3, .checkOut 3,
    .release 2, .connect 3 true, .take 4, .checkOut 4, .connect 4 true]

theorem limit_respected_contended : ∃ p, (ofLimit 2).steps? contended = some p
    ∧ p.inUse = [2, 1]
    ∧ p.inUse.length ≤ max 1 2
    ∧ p.inUse.length + p.idle.length ≤ max 1 2
    ∧ (p.inUse ++ p.idle).Nodup
    ∧ (∀ a b c, p.connection? a = some c → p.connection? b = some c → a = b)
    ∧ (ofLimit 2).ChecksInFirst contended :=
  ⟨_, rfl, rfl, limit_respected rfl⟩

end Pool

end Reporting
