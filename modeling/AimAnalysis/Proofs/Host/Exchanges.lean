import AimAnalysis.Proofs.Endpoint.Delays
import AimAnalysis.Proofs.Host.Announcements

/-!
# Exchanges behind a guard

Several exchanges may be under way behind one guard, and they end in any order: those that were let through
before a failure may end after it. A logbook writes down how the exchanges behind a guard end, at which time,
and the current delay of the guard just before.

* `Dispatcher.getElem?_guards_requestBody` — a guard changes only with an exchange behind it that ends.
* `Logbook.Kept` — guard and logbook agree (`Guard.Heeds`): moves keep this (`Logbook.Kept.after`).
* `Logbook.Minds` — what that comes to for requests that start: whether they are refused depends on the latest
  end that counts.

Times may go back as well as forth, and nothing is assumed about the host or what it has under way when the
logbook begins.
-/

namespace AimAnalysis

/-! ### Requests -/

/-- How the exchange behind the guard of a number ends, if the answer comes from there. -/
def Awaited.behind (n : Nat) : Awaited → Option ExchangeOutcome
  | .exchange guard outcome => if guard = n then some outcome else none
  | _ => none

namespace Dispatcher

variable (d : Dispatcher) (now : Nat) (purpose : Purpose)

/-- The answer that a request gets that is resumed now, unless it waits for one or needs none. -/
def answer? (r : Request) : Option Awaited :=
  match r.stage with
  | .made _ awaited => some awaited
  | .fresh =>
    match d.course r.purpose with
    | .asked awaited 0 => some awaited
    | _ => none

/-- How the exchange behind the guard of a number ends with a request that is resumed now, if it does. -/
def exchange? (n : Nat) (r : Request) : Option ExchangeOutcome := (d.answer? r).bind (·.behind n)

/-- The outcome of a request is handed over. -/
def Hands (d d' : Dispatcher) (outcome : Outcome) : Purpose → Prop
  | .dispatch player standing _ => d'.settled = d.settled ++ [{ player, standing, outcome }]
  | .inquiry _ => d'.inquired = some outcome

variable {d} in
/-- A guard lets requests through at the time that all guards see. -/
theorem admits_eq {n : Nat} {g : Guard} (guard : d.guards[n]? = some g) :
    d.admits n = g.admits d.wallClock := by
  unfold admits
  rw [guard]

theorem hands_finish (pool : Pool) (outcome : Outcome) :
    d.Hands (({ d with pool } : Dispatcher).finish outcome purpose) outcome purpose := by
  cases purpose <;> rfl

/-- Ends hand over outcomes, and leave the endpoint and guards alone. -/
theorem guards_finish (outcome : Outcome) :
    (d.finish outcome purpose).guards = d.guards ∧ (d.finish outcome purpose).endpoint = d.endpoint := by
  cases purpose <;> exact ⟨rfl, rfl⟩

theorem guards_abandon : (d.abandon purpose).guards = d.guards := by
  cases purpose <;> rfl

/-- **What an answer does to a guard**: the end of an exchange behind it is learned from, if it can be. -/
theorem getElem?_guards_arrive (n : Nat) (payload : List UInt8) (awaited : Awaited) :
    (d.arrive purpose payload awaited).guards[n]?
      = d.guards[n]?.map fun g =>
          (awaited.behind n).elim g fun outcome => g.meets (g.completion d.wallClock outcome) := by
  let returned := { d with pool := d.pool.returnPayload payload }
  cases awaited with
  | direct answer =>
      rw [arrive, (guards_finish returned purpose _).1]
      exact Option.map_id'.symm
  | nothing =>
      rw [arrive, guards_abandon]
      exact Option.map_id'.symm
  | exchange guard outcome =>
      have hcan : returned.canLearn guard outcome = d.canLearn guard outcome := rfl
      simp only [arrive, Awaited.behind]
      rw [hcan]
      by_cases hguard : guard = n
      · subst hguard
        rw [if_pos rfl]
        unfold canLearn
        cases hg : d.guards[guard]? with
        | none =>
            rw [if_pos rfl, (guards_finish (returned.learn guard outcome) purpose _).1]
            change (d.guards.modify guard _)[guard]? = none
            rw [List.getElem?_modify_eq, hg]
            rfl
        | some g =>
            change (if g.canSettle d.wallClock outcome then _ else _ : Dispatcher).guards[guard]?
              = some (if g.canSettle d.wallClock outcome then g.settle d.wallClock outcome else g)
            split
            · rw [(guards_finish (returned.learn guard outcome) purpose _).1]
              change (d.guards.modify guard _)[guard]? = _
              rw [List.getElem?_modify_eq, hg]
              rfl
            · rw [guards_abandon]
              exact hg
      · rw [if_neg hguard]
        refine Eq.trans ?_ Option.map_id'.symm
        split
        · rw [(guards_finish (returned.learn guard outcome) purpose _).1]
          exact List.getElem?_modify_ne _ _ hguard
        · rw [guards_abandon]

/-- **A guard changes** only with an exchange behind it that ends. -/
theorem getElem?_guards_requestBody (n : Nat) (r : Request) :
    (requestBody d now r).1.guards[n]?
      = d.guards[n]?.map fun g =>
          (d.exchange? n r).elim g fun outcome => g.meets (g.completion d.wallClock outcome) := by
  unfold exchange? answer?
  cases d.ran now r with
  | answered stage body =>
      rw [body, stage]
      exact d.getElem?_guards_arrive r.purpose n _ _
  | finished stage course body =>
      rw [body, stage, course, (guards_finish _ r.purpose _).1]
      exact Option.map_id'.symm
  | prompt stage course body =>
      rw [body, stage, course]
      exact (d.shipped r.purpose).getElem?_guards_arrive r.purpose n _ _
  | @waits awaited delay stage course late body =>
      obtain ⟨delay, rfl⟩ := Nat.exists_eq_succ_of_ne_zero late
      rw [body, stage, course]
      exact Option.map_id'.symm

end Dispatcher

/-! ### Moves -/

namespace Host

variable {h : Host} {m : Move} {n : Nat}

/-- What is sent with a move: a window whose request starts. -/
def send? (h : Host) (m : Move) : Option Purpose :=
  (h.call? m).bind fun call =>
    match call.request.stage with
    | .fresh => some call.request.purpose
    | .made _ _ => none

/-- The exchange behind the guard of a number that ends with a move, if one does. -/
def completion? (h : Host) (n : Nat) (m : Move) : Option Completion :=
  (h.call? m).bind fun call =>
    (call.dispatcher.exchange? n call.request).bind fun outcome =>
      h.dispatcher.guards[n]?.map (·.completion h.dispatcher.wallClock outcome)

/-- Guards stay where they are, and change only with requests that move on. -/
theorem guards_prefix_of_call?_eq_none (idle : h.call? m = none) :
    h.dispatcher.guards <+: (h.after m).dispatcher.guards := by
  cases hworks : m.isWork with
  | false => exact (h.quiet_after hworks).guards
  | true =>
      by_cases hsettle : m = .settle
      · subst hsettle
        simp only [after, settleNext]
        split
        · exact List.prefix_refl _
        · unfold settle
          split <;> exact List.prefix_refl _
      · rw [after_of_call?_eq_none hworks hsettle idle]

/-- An exchange that ends is written down as the guard is. -/
theorem eq_of_mem_completion? {g : Guard} (guard : h.dispatcher.guards[n]? = some g) {x : Completion}
    (ended : x ∈ h.completion? n m) : x = g.completion h.dispatcher.wallClock x.outcome := by
  obtain ⟨call, -, hended⟩ := Option.bind_eq_some_iff.mp ended
  obtain ⟨outcome, -, hended⟩ := Option.bind_eq_some_iff.mp hended
  rw [guard] at hended
  cases hended
  rfl

/-- **A guard after a move.** -/
theorem guard_after {g : Guard} (guard : h.dispatcher.guards[n]? = some g) (m : Move) :
    (h.after m).dispatcher.guards[n]? = some ((h.completion? n m).elim g g.meets) := by
  unfold completion?
  cases hcall : h.call? m with
  | none =>
      obtain ⟨later, hlater⟩ := guards_prefix_of_call?_eq_none hcall
      rw [← hlater]
      obtain ⟨hn, -⟩ := List.getElem?_eq_some_iff.mp guard
      exact (List.getElem?_append_left hn).trans guard
  | some call =>
      obtain ⟨inquired, hsame⟩ := exists_of_call? hcall
      have hguard : call.dispatcher.guards[n]? = some g := by
        rw [hsame]
        exact guard
      have hclock : call.dispatcher.wallClock = h.dispatcher.wallClock := by rw [hsame]
      rw [dispatcher_after hcall, Dispatcher.getElem?_guards_requestBody, hguard, hclock, guard]
      change some _ = some ((call.dispatcher.exchange? n call.request).bind _ |>.elim g g.meets)
      cases call.dispatcher.exchange? n call.request <;> rfl

/-- A request that starts with a move is refused. -/
structure Refuses (h : Host) (m : Move) (purpose : Purpose) : Prop where
  /-- The refusal is its outcome. -/
  outcome : h.dispatcher.Hands (h.after m).dispatcher (.ofAnswer (.error Guard.refusal)) purpose
  /-- The endpoint does not get the payload. -/
  shipments : (h.after m).trace.shipments = h.trace.shipments
  /-- No reply is taken up. -/
  endpoint : (h.after m).dispatcher.endpoint = h.dispatcher.endpoint
  /-- No guard changes. -/
  guards : (h.after m).dispatcher.guards = h.dispatcher.guards

/-- A request that starts with a move. -/
theorem exists_of_send? {purpose : Purpose} (starts : h.send? m = some purpose) :
    ∃ inquired, (h.after m).dispatcher
      = (Dispatcher.requestBody { h.dispatcher with inquired } h.requests.now { purpose }).1 := by
  obtain ⟨⟨d, r⟩, hcall, hstage⟩ := Option.bind_eq_some_iff.mp starts
  obtain ⟨inquired, hsame⟩ := exists_of_call? hcall
  refine ⟨inquired, ?_⟩
  obtain ⟨purpose', stage⟩ := r
  cases stage with
  | made => cases hstage
  | fresh =>
      cases hstage
      rw [← hsame]
      exact dispatcher_after hcall

section

variable {purpose : Purpose} {g : Guard} (starts : h.send? m = some purpose)
  (guarded : h.service.link = some (.guarded n)) (guard : h.dispatcher.guards[n]? = some g)
include starts guarded guard

/-- **A request that is let through** reaches the endpoint. -/
theorem shipments_of_admits (admits : g.admits h.dispatcher.wallClock = true) :
    (h.after m).trace.shipments
      = h.trace.shipments ++ [{ purpose, payload := (Start.mk h.dispatcher purpose).payload }] := by
  obtain ⟨inquired, hafter⟩ := exists_of_send? starts
  let d : Dispatcher := { h.dispatcher with inquired }
  have hlink : d.service.link = some (.guarded n) := guarded
  have hadmits : d.admits n = true := (Dispatcher.admits_eq (d := d) guard).trans admits
  have hshipment : (Start.mk d purpose).shipment?
      = some { purpose, payload := (Start.mk d purpose).payload } := by
    rw [Start.shipment?, Start.isAdmitted]
    simp only [hlink, hadmits, if_true]
  change (h.after m).dispatcher.trace.shipments = _
  rw [hafter, Dispatcher.shipments_requestBody, hshipment]
  rfl

/-- **A request that is not let through** is refused. -/
theorem refuses_of_not_admits (waits : g.admits h.dispatcher.wallClock = false) :
    h.Refuses m purpose := by
  obtain ⟨inquired, hafter⟩ := exists_of_send? starts
  let d : Dispatcher := { h.dispatcher with inquired }
  have hlink : d.service.link = some (.guarded n) := guarded
  have hadmits : d.admits n = false := (Dispatcher.admits_eq (d := d) guard).trans waits
  let pool := d.pool.lendPayload.2.returnPayload (Start.mk d purpose).payload
  let returned : Dispatcher := { d with pool }
  have hbody : (Dispatcher.requestBody d h.requests.now { purpose }).1
      = returned.finish (.ofAnswer (.error Guard.refusal)) purpose := by
    simp only [Dispatcher.requestBody, Dispatcher.make_eq, Dispatcher.course, hlink, hadmits,
      if_false, Bool.false_eq_true]
    rfl
  rw [hbody] at hafter
  obtain ⟨hguards, hendpoint⟩ := Dispatcher.guards_finish returned purpose (.ofAnswer (.error Guard.refusal))
  refine ⟨?_, ?_, ?_, ?_⟩
  · rw [hafter]
    exact Dispatcher.hands_finish d purpose pool _
  · change (h.after m).dispatcher.trace.shipments = _
    rw [hafter]
    exact Dispatcher.shipments_finish returned purpose _
  · rw [hafter]
    exact hendpoint
  · rw [hafter]
    exact hguards

/-- **When a request is refused**: as long as the guard waits. -/
theorem refuses_iff : h.Refuses m purpose ↔ g.admits h.dispatcher.wallClock = false := by
  constructor
  · intro refuses
    rw [Bool.eq_false_iff]
    intro admits
    have hshipments := refuses.shipments
    rw [shipments_of_admits starts guarded guard admits] at hshipments
    exact List.cons_ne_nil _ _ (List.append_right_eq_self.mp hshipments)
  · exact refuses_of_not_admits starts guarded guard

end

end Host

/-- A host whose guard is new and lets delays grow exactly, and whose endpoint takes its time. -/
def Host.wary : Host :=
  let transport : TransportConfig := {}
  { swift with
    dispatcher :=
      { swift.dispatcher with
        service := { swift.service with link := some (.guarded 0) }
        guards :=
          [{ backoff := .ofPolicy (.exactly transport.backoff), limit := transport.requestTimeout }]
        endpoint := { afterwards := { exchange := some .hangs } } } }

/-! ### The logbook -/

/-- A host, and the exchanges behind a guard that have ended. -/
structure Logbook where
  /-- The host. -/
  host : Host
  /-- The exchanges that have ended, oldest first. -/
  completions : List Completion := []

namespace Logbook

variable {l : Logbook} {n : Nat} {p : BackoffPolicy} {g : Guard}

/-- The logbook of the guard of a number after a move. -/
def after (n : Nat) (l : Logbook) (m : Host.Move) : Logbook :=
  { host := l.host.after m, completions := l.completions ++ (l.host.completion? n m).toList }

/-- The logbook of the guard of a number after several moves. -/
def run (n : Nat) (l : Logbook) (moves : List Host.Move) : Logbook := moves.foldl (after n) l

/-- Nothing is struck out. -/
theorem completions_prefix_run (n : Nat) (l : Logbook) (moves : List Host.Move) :
    l.completions <+: (l.run n moves).completions := by
  induction moves generalizing l with
  | nil => exact List.prefix_refl _
  | cons m moves ih => exact (List.prefix_append _ _).trans (ih (l.after n m))

/-- Guard and logbook agree. -/
structure Kept (l : Logbook) (n : Nat) (p : BackoffPolicy) (g : Guard) : Prop where
  /-- The guard. -/
  guard : l.host.dispatcher.guards[n]? = some g
  /-- It is what the exchanges have made of it. -/
  heeds : g.Heeds p l.completions
  /-- Delays were not longer than the longest. -/
  delays : ∀ x ∈ l.completions, x.delay ≤ p.longest

namespace Kept

/-- **One more move.** -/
theorem after (kept : l.Kept n p g) (m : Host.Move) :
    (l.after n m).Kept n p ((l.host.completion? n m).elim g g.meets) := by
  refine ⟨Host.guard_after kept.guard m, ?_, ?_⟩
  · change Guard.Heeds _ p (l.completions ++ (l.host.completion? n m).toList)
    cases hended : l.host.completion? n m with
    | none =>
        rw [Option.toList_none, List.append_nil]
        exact kept.heeds
    | some x =>
        rw [Host.eq_of_mem_completion? kept.guard hended]
        exact kept.heeds.meets _ _
  · intro x hx
    rcases List.mem_append.mp hx with hx | hx
    · exact kept.delays x hx
    · rw [Host.eq_of_mem_completion? kept.guard (Option.mem_toList.mp hx)]
      exact kept.heeds.most

/-- **Any number of moves.** -/
theorem run (kept : l.Kept n p g) (moves : List Host.Move) : ∃ g, (l.run n moves).Kept n p g := by
  induction moves generalizing l g with
  | nil => exact ⟨g, kept⟩
  | cons m moves ih => exact ih (kept.after m)

/-- **Without a success**, the delay does not shrink. -/
theorem currentDelay_le_run {c : BackoffConfig} (kept : l.Kept n p g) (reads : p.Reads c)
    (valid : c.validate = .ok ()) {moves : List Host.Move} {more : List Completion}
    (ended : (l.run n moves).completions = l.completions ++ more)
    (unsuccessful : ∀ x ∈ more, Guard.succeeded x.outcome = false) :
    ∃ g', (l.run n moves).host.dispatcher.guards[n]? = some g'
      ∧ g.backoff.currentDelay ≤ g'.backoff.currentDelay := by
  induction moves generalizing l g more with
  | nil => exact ⟨g, kept.guard, Nat.le_refl _⟩
  | cons m moves ih =>
      obtain ⟨later, hlater⟩ := completions_prefix_run n (l.after n m) moves
      have hmore : more = (l.host.completion? n m).toList ++ later := by
        apply (List.append_right_inj l.completions).mp
        rw [← ended, ← List.append_assoc]
        exact hlater.symm
      subst hmore
      obtain ⟨g', hguard, hle⟩ := ih (kept.after m) hlater.symm
        (fun x hx => unsuccessful x (List.mem_append_right _ hx))
      refine ⟨g', hguard, Nat.le_trans ?_ hle⟩
      cases hended : l.host.completion? n m with
      | none => exact Nat.le_refl _
      | some x =>
          have hx : Guard.succeeded x.outcome = false := by
            apply unsuccessful
            rw [hended]
            exact List.mem_append_left _ (List.mem_singleton.mpr rfl)
          rw [Host.eq_of_mem_completion? kept.guard hended]
          exact kept.heeds.currentDelay_le_meets reads valid _ hx

end Kept

/-- What the guard of a number makes of the exchanges in the logbook. -/
structure Minds (l : Logbook) (n : Nat) (c : BackoffConfig) (g : Guard) : Prop where
  /-- The guard. -/
  guard : l.host.dispatcher.guards[n]? = some g
  /-- A request that starts is refused exactly if the latest end that counts is a failure whose delay is not
  over. -/
  refuses : ∀ m purpose, l.host.send? m = some purpose → l.host.service.link = some (.guarded n) →
    (l.host.Refuses m purpose ↔
      ∃ x, Completion.latest? l.completions = some x ∧ Guard.failed x.outcome = true
        ∧ l.host.dispatcher.wallClock.nanoseconds < x.time.nanoseconds + x.delay.nanoseconds)
  /-- Unless it is refused, the endpoint gets its payload. -/
  ships : ∀ m purpose, l.host.send? m = some purpose → l.host.service.link = some (.guarded n) →
    ¬ l.host.Refuses m purpose → (l.host.after m).trace.shipments
      = l.host.trace.shipments
        ++ [{ purpose, payload := (Start.mk l.host.dispatcher purpose).payload }]
  /-- An end that is neither a success nor a failure does not change the guard, and neither does a move with
  which no exchange ends. -/
  unmoved : ∀ m, (∀ x ∈ l.host.completion? n m,
      Guard.succeeded x.outcome = false ∧ Guard.failed x.outcome = false) →
    (l.host.after m).dispatcher.guards[n]? = some g
  /-- The delay is not shorter than the first. -/
  least : c.initialDelay ≤ g.backoff.currentDelay
  /-- The delay is not longer than the longest. -/
  most : g.backoff.currentDelay ≤ c.maxDelay
  /-- The delay does not shrink before a success. -/
  grows : ∀ moves more, (l.run n moves).completions = l.completions ++ more →
    (∀ x ∈ more, Guard.succeeded x.outcome = false) →
    ∃ g', (l.run n moves).host.dispatcher.guards[n]? = some g'
      ∧ g.backoff.currentDelay ≤ g'.backoff.currentDelay
  /-- After a success, the delay is the first, and nothing is waited for. -/
  reset : ∀ x ∈ Completion.latest? l.completions, Guard.succeeded x.outcome = true →
    g.backoff.currentDelay = c.initialDelay ∧ ∀ now, g.admits now = true
  /-- All ends are recorded, but those at which time itself is nearly over. -/
  recorded : ∀ x ∈ l.completions, x.time.hasTimeAfter c.maxDelay = true → x.isRecorded = true

theorem Kept.minds {c : BackoffConfig} (kept : l.Kept n p g) (reads : p.Reads c)
    (valid : c.validate = .ok ()) : l.Minds n c g := by
  have hadmits := kept.heeds.admits_eq_false_iff
  refine ⟨kept.guard, ?_, ?_, ?_, ?_, ?_, ?_, ?_, ?_⟩
  · intro m purpose starts guarded
    exact (Host.refuses_iff starts guarded kept.guard).trans (hadmits _)
  · intro m purpose starts guarded admitted
    apply Host.shipments_of_admits starts guarded kept.guard
    rw [Host.refuses_iff starts guarded kept.guard] at admitted
    exact Bool.eq_true_of_not_eq_false admitted
  · intro m neither
    rw [Host.guard_after kept.guard m]
    cases hended : l.host.completion? n m with
    | none => rfl
    | some x =>
        obtain ⟨hsucceeded, hfailed⟩ := neither x hended
        rw [Host.eq_of_mem_completion? kept.guard hended]
        refine congrArg some (Guard.meets_of_not_counts ?_)
        change ((Guard.succeeded x.outcome || Guard.failed x.outcome) && _) = false
        rw [hsucceeded, hfailed]
        rfl
  · exact reads.initial ▸ kept.heeds.least
  · exact reads.longest ▸ kept.heeds.most
  · intro moves more ended unsuccessful
    exact kept.currentDelay_le_run reads valid ended unsuccessful
  · intro x hx hsucceeded
    refine ⟨reads.initial ▸ kept.heeds.reset x hx hsucceeded, ?_⟩
    intro now
    rw [← Bool.not_eq_false]
    intro waits
    obtain ⟨y, hy, hfailed, -⟩ := (hadmits now).mp waits
    rw [Option.mem_def.mp hx] at hy
    cases hy
    rw [Guard.failed_of_succeeded hsucceeded] at hfailed
    cases hfailed
  · intro x hx htime
    have hdelay : x.delay.nanoseconds ≤ c.maxDelay.nanoseconds := reads.longest ▸ kept.delays x hx
    unfold Completion.isRecorded
    rw [Bool.or_eq_true]
    right
    simp only [Span.hasTimeAfter, decide_eq_true_eq] at htime ⊢
    omega

/-- **What a guard makes of exchanges that end in any order**, under a valid configuration and with delays
that grow exactly: from the moment at which it is new, whatever the host does. -/
theorem exists_minds {c : TransportConfig} (valid : c.validate = .ok ()) {p : BackoffPolicy}
    (reads : p.Reads c.backoff) {h : Host} {n : Nat}
    (new : h.dispatcher.guards[n]? = some { backoff := .ofPolicy p, limit := c.requestTimeout })
    (moves : List Host.Move) :
    ∃ g, (({ host := h } : Logbook).run n moves).Minds n c.backoff g := by
  have hvalid := TransportConfig.validate_backoff valid
  have ordered : p.initial ≤ p.longest := by
    rw [reads.initial, reads.longest]
    exact c.backoff.initialDelay_le_maxDelay hvalid
  have kept : ({ host := h } : Logbook).Kept n p { backoff := .ofPolicy p, limit := c.requestTimeout } := by
    refine ⟨new, .fresh ordered _, ?_⟩
    exact fun x hx => absurd hx List.not_mem_nil
  obtain ⟨g, hkept⟩ := kept.run moves
  exact ⟨g, hkept.minds reads hvalid⟩

/-- Four inquiries are under way when the first fails; the second fails after it, and the third gets no
response in time. -/
def overlapping : List Host.Move :=
  [.inquire [], .inquire [], .inquire [], .inquire [],
    .clock (.ofSeconds 1), .answer [] [] (.exchange 0 (.network "")),
    .clock (.ofSeconds 2), .answer [] [] (.exchange 0 (.response 503 "")),
    .answer [] [] (.exchange 0 (.timeout ""))]

/-- After that, the fourth succeeds. -/
def recovering : List Host.Move := overlapping ++ [.answer [] [] (.exchange 0 (.response 204 ""))]

/-- The second failure prolongs the wait, the third exchange does not, and one more inquiry is refused. The success
of the fourth ends the wait and restores the first delay, and one more inquiry is sent. -/
theorem exists_minds_overlapping :
    let l := ({ host := .wary } : Logbook).run 0 overlapping
    let r := ({ host := .wary } : Logbook).run 0 recovering
    ({} : TransportConfig).validate = .ok () ∧ (BackoffPolicy.exactly {}).Reads {}
      ∧ (∃ g, l.Minds 0 {} g ∧ g.backoff.currentDelay = .ofSeconds 20
        ∧ l.host.Refuses (.inquire []) (.inquiry []))
      ∧ ∃ g, r.Minds 0 {} g ∧ g.backoff.currentDelay = .ofSeconds 5
        ∧ ¬ r.host.Refuses (.inquire []) (.inquiry []) := by
  intro l r
  have reads : (BackoffPolicy.exactly {}).Reads {} := BackoffPolicy.reads_exactly {}
  refine ⟨rfl, reads, ?_, ?_⟩
  · obtain ⟨g, minds⟩ :=
      exists_minds (c := {}) rfl reads (h := .wary) (n := 0) rfl overlapping
    have hlatest : Completion.latest? l.completions
        = some { outcome := .response 503 "", time := .ofSeconds 2, delay := .ofSeconds 10 } := by
      decide +kernel
    have hdelay : l.host.dispatcher.guards[0]?.map (·.backoff.currentDelay)
        = some (.ofSeconds 20) := by
      decide +kernel
    have hlink : l.host.service.link = some (.guarded 0) := by decide +kernel
    refine ⟨g, minds, ?_, ?_⟩
    · rw [minds.guard] at hdelay
      exact Option.some.inj hdelay
    · apply (minds.refuses (.inquire []) (.inquiry []) rfl hlink).mpr
      exact ⟨_, hlatest, rfl, by decide +kernel⟩
  · obtain ⟨g, minds⟩ :=
      exists_minds (c := {}) rfl reads (h := .wary) (n := 0) rfl recovering
    have hlatest : Completion.latest? r.completions
        = some { outcome := .response 204 "", time := .ofSeconds 2, delay := .ofSeconds 20 } := by
      decide +kernel
    have hlink : r.host.service.link = some (.guarded 0) := by decide +kernel
    refine ⟨g, minds, (minds.reset _ hlatest rfl).1, ?_⟩
    intro refused
    obtain ⟨x, hx, hfailed, -⟩ := (minds.refuses (.inquire []) (.inquiry []) rfl hlink).mp refused
    rw [hlatest] at hx
    cases hx
    cases hfailed

end Logbook

end AimAnalysis
