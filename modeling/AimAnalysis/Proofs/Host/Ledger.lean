import AimAnalysis.Proofs.Host.Ownership

/-!
# The books of a host

A ledger is a host together with what has happened to it: the ticks that classifiers were given, the
requests that started, those that ended, and the outcomes that were taken up by the main context, each in
order and as they can be read off the host and the move.

* `Ledger.Accounted` — every window that was sent is with a request that has not started, that waits, or
  that has ended, and with one only; the outcomes of those that ended were taken up in the order in which
  they came, or wait in that order. Every move keeps this (`Ledger.Reachable.accounted`).
-/

namespace AimAnalysis

/-- An outcome that the main context takes up. -/
structure Application where
  /-- The outcome. -/
  settlement : Settlement
  /-- The service at that time. -/
  service : Service
  /-- Whether the standing was held. -/
  held : Bool

namespace Host

/-- The request that a move lets move on, if it does. -/
def request? (h : Host) : Move → Option Request
  | .start place => h.requests.fresh[place]?
  | .resume place => h.requests.waiting[place]?.map (·.task)
  | _ => none

/-- The request that a move starts, if it does. -/
def start? (h : Host) : Move → Option Start
  | .start place => h.requests.fresh[place]?.map fun r => { dispatcher := h.dispatcher, purpose := r.purpose }
  | _ => none

/-- The request that ends with a move, if one does. -/
def ending? (h : Host) (m : Move) : Option Ending :=
  (h.request? m).bind (h.dispatcher.ending? h.requests.now)

/-- The requests that wait for an answer. -/
def underway (h : Host) : List Request := h.requests.waiting.map (·.task)

/-- The outcome that a move takes up, if it does. -/
def application? (h : Host) : Move → Option Application
  | .settle => h.dispatcher.settled.head?.map fun settlement =>
    { settlement, service := h.service, held := h.isHeld settlement.standing }
  | _ => none

/-- **A request that moves on** waits again, or has ended and handed over its outcome. -/
structure Proceeds (h : Host) (others : Timeline Request) (r : Request) : Prop where
  /-- The other requests that have not started stay so. -/
  fresh : (h.proceed others r).requests.fresh = others.fresh
  /-- The request waits again beside those that do, or ends. -/
  underway : ∃ again : List Request,
    (h.proceed others r).underway.Perm (again ++ others.waiting.map (·.task))
      ∧ again.map (·.purpose) ++ (h.dispatcher.ending? others.now r).toList.map (·.purpose)
        = [r.purpose]
      ∧ ∀ x ∈ again, r.stage = .fresh ∧ ∃ payload awaited, x.stage = .made payload awaited
  /-- If it ends, its outcome waits behind the others. -/
  settled : (h.proceed others r).dispatcher.settled
    = h.dispatcher.settled
      ++ (h.dispatcher.ending? others.now r).toList.filterMap (·.settlement?)
  /-- When it starts, the endpoint gets its payload. -/
  shipments : (h.proceed others r).trace.shipments
    = match r.stage with
      | .fresh => h.trace.shipments ++ (Start.mk h.dispatcher r.purpose).shipment?.toList
      | .made _ _ => h.trace.shipments

theorem proceeds (h : Host) (others : Timeline Request) (r : Request) : Proceeds h others r := by
  have hproceed : h.proceed others r
      = h.withWork (Timeline.resume Dispatcher.requestBody h.dispatcher others r) := rfl
  rw [Timeline.resume_eq] at hproceed
  have hshipments : (h.proceed others r).trace.shipments
      = (Dispatcher.requestBody h.dispatcher others.now r).1.trace.shipments := by
    rw [hproceed]
    rfl
  rw [h.dispatcher.shipments_requestBody] at hshipments
  cases h.dispatcher.resumed_requestBody others.now r with
  | ends waiting settled purpose ending =>
      rw [waiting] at hproceed
      refine ⟨?_, ⟨[], ?_, ?_, fun x hx => absurd hx List.not_mem_nil⟩, ?_, hshipments⟩
      · rw [hproceed]
        rfl
      · rw [hproceed]
        exact .refl _
      · rw [ending]
        exact congrArg (fun p => [p]) purpose
      · rw [hproceed, ending]
        refine settled.trans (congrArg _ ?_)
        cases hsettlement : Ending.settlement? _ <;> simp [hsettlement]
  | @waits next waiting settled purpose made started ending =>
      rw [waiting] at hproceed
      refine ⟨?_, ⟨[next.task], ?_, ?_, fun x hx => ?_⟩, ?_, hshipments⟩
      · rw [hproceed]
        rfl
      · rw [hproceed]
        exact (Timeline.arm_perm _ others.waiting).map (·.task)
      · rw [ending]
        exact congrArg (fun p => [p]) purpose
      · obtain rfl := List.mem_singleton.mp hx
        exact ⟨started, made⟩
      · rw [hproceed, ending]
        exact settled.trans (List.append_nil _).symm

end Host

/-- A host, and what has happened to it. -/
structure Ledger where
  /-- The host. -/
  host : Host
  /-- The ticks that classifiers were given, oldest first. -/
  feedings : List Feeding := []
  /-- The requests that started, oldest first. -/
  starts : List Start := []
  /-- The requests that ended, oldest first. -/
  endings : List Ending := []
  /-- The outcomes that were taken up, oldest first. -/
  applications : List Application := []

namespace Ledger

/-- The ledger after a move. -/
def after (l : Ledger) (m : Host.Move) : Ledger :=
  { host := l.host.after m
    feedings := l.feedings ++ (l.host.feeding? m).toList
    starts := l.starts ++ (l.host.start? m).toList
    endings := l.endings ++ (l.host.ending? m).toList
    applications := l.applications ++ (l.host.application? m).toList }

/-- The ledger after several moves. -/
def run (l : Ledger) (moves : List Host.Move) : Ledger := moves.foldl after l

/-- The ledgers that moves lead to from a new host. -/
inductive Reachable : Ledger → Prop where
  /-- A host is made, with a pool of empty buffers. -/
  | made {config : PipelineConfig} {kind : Option TransportKind} {endpoint : Endpoint} {pool : Pool}
      {regionsKnown : Bool} {h : Host} (clean : pool.Clean)
      (made : Host.ofConfig config kind endpoint pool regionsKnown = .ok h) : Reachable { host := h }
  /-- Something happens. -/
  | after {l : Ledger} (reached : Reachable l) (m : Host.Move) : Reachable (l.after m)

variable {l : Ledger}

theorem Reachable.host (reached : l.Reachable) : l.host.Reachable := by
  induction reached with
  | made clean made => exact .made clean made
  | after _ m ih => exact ih.after m

theorem Reachable.run (reached : l.Reachable) (moves : List Host.Move) : (l.run moves).Reachable := by
  induction moves generalizing l with
  | nil => exact reached
  | cons m moves ih => exact ih (reached.after m)

theorem host_run (l : Ledger) (moves : List Host.Move) : (l.run moves).host = l.host.run moves := by
  induction moves generalizing l with
  | nil => rfl
  | cons m moves ih => exact ih (l.after m)

/-- Ticks were given to classifiers whose standings exist. -/
theorem Reachable.standing_lt (reached : l.Reachable) :
    ∀ f ∈ l.feedings, f.standing < l.host.standings.length := by
  induction reached with
  | made clean made => exact fun f hf => absurd hf List.not_mem_nil
  | @after l reached m ih =>
      intro f hf
      apply Nat.lt_of_lt_of_le _ (Host.length_standings_le_after reached.host.clean m)
      rcases List.mem_append.mp hf with hf | hf
      · exact ih f hf
      · exact reached.host.standing_lt_of_feeding? (Option.mem_toList.mp hf)

theorem reachable_swift : ({ host := Host.swift } : Ledger).Reachable :=
  .made Pool.clean_empty Host.ofConfig_swift

/-- The windows that were sent, oldest first. -/
def dispatches (l : Ledger) : List Purpose := l.feedings.filterMap (·.purpose?)

theorem dispatches_after (l : Ledger) (m : Host.Move) :
    (l.after m).dispatches = l.dispatches ++ ((l.host.feeding? m).bind (·.purpose?)).toList := by
  rw [dispatches, after, List.filterMap_append]
  cases hfeeding : l.host.feeding? m with
  | none => rfl
  | some f => cases hpurpose : f.purpose? <;> simp [dispatches, hpurpose]

/-- The outcome that waits longest is taken up. -/
theorem applications_after_settle {s : Settlement} {rest : List Settlement}
    (waiting : l.host.dispatcher.settled = s :: rest) :
    (l.after .settle).applications
      = l.applications ++ [⟨s, l.host.service, l.host.isHeld s.standing⟩] := by
  simp only [after, Host.application?, waiting]
  rfl

/-! ### Every window is in one place -/

/-- The account of all requests. -/
structure Accounted (l : Ledger) : Prop where
  /-- Requests that have not started were dispatched. -/
  fresh : ∀ r ∈ l.host.requests.fresh, r.stage = .fresh
  /-- Requests that wait have started. -/
  underway : ∀ r ∈ l.host.underway, ∃ payload awaited, r.stage = .made payload awaited
  /-- Every window that was sent is with a request that has not started, or has. -/
  dispatched : l.dispatches.Perm
    (l.host.requests.fresh.map (·.purpose) ++ l.starts.map (·.purpose))
  /-- Every request that started waits, or has ended. -/
  started : (l.starts.map (·.purpose)).Perm
    (l.host.underway.map (·.purpose) ++ l.endings.map (·.purpose))
  /-- The outcomes of those that ended were taken up, or wait, in order. -/
  ended : l.endings.filterMap (·.settlement?)
    = l.applications.map (·.settlement) ++ l.host.dispatcher.settled
  /-- The endpoint got the payloads of those that started. -/
  shipped : l.host.trace.shipments.filter (·.purpose.isDispatch) = l.starts.filterMap (·.shipment?)

/-- Windows that were sent are for standings. -/
theorem isDispatch_of_mem_dispatches {p : Purpose} (h : p ∈ l.dispatches) : p.isDispatch = true := by
  obtain ⟨f, -, hpurpose⟩ := List.mem_filterMap.mp h
  obtain ⟨window, -, rfl⟩ := Option.map_eq_some_iff.mp hpurpose
  rfl

namespace Accounted

/-- Moves that let nothing move on start, end and apply nothing. -/
theorem after_of_idle (l : Ledger) {m : Host.Move} (idle : m.isWork = false) :
    (l.after m).starts = l.starts ∧ (l.after m).endings = l.endings
      ∧ (l.after m).applications = l.applications := by
  cases m with
  | start | resume | inquire | answer | settle => cases idle
  | _ => exact ⟨List.append_nil _, List.append_nil _, List.append_nil _⟩

/-- Moves that let something move on give no tick. -/
theorem feedings_of_isWork (l : Ledger) {m : Host.Move} (works : m.isWork = true) :
    (l.after m).feedings = l.feedings := by
  cases m with
  | start | resume | inquire | answer | settle => exact List.append_nil _
  | _ => cases works

theorem arranged (acc : l.Accounted) {m : Host.Move} (nobody : l.host.feeding? m = none)
    (idle : m.isWork = false) : (l.after m).Accounted := by
  have a := Host.arranged_after nobody idle
  obtain ⟨hstarts, hendings, happlications⟩ := after_of_idle l idle
  have hdispatches : (l.after m).dispatches = l.dispatches := by
    rw [dispatches_after, nobody]
    exact List.append_nil _
  have hunderway : (l.after m).host.underway = l.host.underway := congrArg (List.map _) a.waiting
  refine ⟨?_, ?_, ?_, ?_, ?_, ?_⟩
  · exact fun r hr => acc.fresh r (a.fresh ▸ hr)
  · exact hunderway.symm ▸ acc.underway
  · rw [hdispatches, hstarts]
    exact a.fresh.symm ▸ acc.dispatched
  · rw [hstarts, hendings]
    exact hunderway.symm ▸ acc.started
  · rw [hendings, happlications]
    exact a.settled.symm ▸ acc.ended
  · rw [hstarts]
    exact a.shipments.symm ▸ acc.shipped

/-- A window that is sent is with a request that has not started. -/
theorem fed (acc : l.Accounted) {m : Host.Move} {f : Feeding} (idle : m.isWork = false)
    (feeding : l.host.feeding? m = some f) (fed : Host.Fed l.host f (l.host.after m)) :
    (l.after m).Accounted := by
  obtain ⟨hstarts, hendings, happlications⟩ := after_of_idle l idle
  have hdispatches : (l.after m).dispatches = l.dispatches ++ f.purpose?.toList := by
    rw [dispatches_after, feeding]
    rfl
  have hunderway : (l.after m).host.underway = l.host.underway := congrArg (List.map _) fed.waiting
  refine ⟨?_, ?_, ?_, ?_, ?_, ?_⟩
  · intro r hr
    rcases List.mem_append.mp (fed.fresh ▸ hr) with hold | hnew
    · exact acc.fresh r hold
    · obtain ⟨p, -, rfl⟩ := List.mem_map.mp hnew
      rfl
  · exact hunderway.symm ▸ acc.underway
  · have hfresh : (l.after m).host.requests.fresh.map (·.purpose)
        = l.host.requests.fresh.map (·.purpose) ++ f.purpose?.toList := by
      have hmap := congrArg (List.map (·.purpose)) fed.fresh
      rw [List.map_append, List.map_map] at hmap
      exact hmap.trans (congrArg _ (List.map_id _))
    rw [hdispatches, hstarts, hfresh]
    refine (acc.dispatched.append_right _).trans ?_
    rw [List.append_assoc, List.append_assoc]
    exact List.perm_append_comm.append_left _
  · rw [hstarts, hendings]
    exact hunderway.symm ▸ acc.started
  · rw [hendings, happlications]
    exact fed.settled.symm ▸ acc.ended
  · rw [hstarts]
    exact fed.shipments.symm ▸ acc.shipped

/-- A move that changes nothing. -/
theorem of_eq (acc : l.Accounted) {m : Host.Move} (host : l.host.after m = l.host)
    (feeding : l.host.feeding? m = none) (start : l.host.start? m = none)
    (ending : l.host.ending? m = none) (application : l.host.application? m = none) :
    (l.after m).Accounted := by
  have hafter : l.after m = l := by
    simp only [after, host, feeding, start, ending, application, Option.toList_none, List.append_nil]
  rw [hafter]
  exact acc

/-- **A request starts**: it waits for an answer, or has ended. -/
theorem start (acc : l.Accounted) (place : Nat) : (l.after (.start place)).Accounted := by
  cases hplace : l.host.requests.fresh[place]? with
  | none =>
      refine acc.of_eq ?_ rfl ?_ ?_ rfl
      · simp only [Host.after, Host.startAt, hplace]
      · simp only [Host.start?, hplace, Option.map_none]
      · simp only [Host.ending?, Host.request?, hplace, Option.bind_none]
  | some r =>
      obtain ⟨hplaced, rfl⟩ := List.getElem?_eq_some_iff.mp hplace
      let r := l.host.requests.fresh[place]
      let others := { l.host.requests with fresh := l.host.requests.fresh.eraseIdx place }
      obtain ⟨hfresh, ⟨again, hunderway, hagain, hmade⟩, hsettled, hshipments⟩ :=
        l.host.proceeds others r
      have hhost : (l.after (.start place)).host = l.host.proceed others r := by
        simp only [after, Host.after, Host.startAt, hplace]
        rfl
      have hstarts : (l.after (.start place)).starts = l.starts ++ [⟨l.host.dispatcher, r.purpose⟩] := by
        simp only [after, Host.start?, hplace]
        rfl
      have hendings : (l.after (.start place)).endings
          = l.endings ++ (l.host.dispatcher.ending? others.now r).toList := by
        simp only [after, Host.ending?, Host.request?, hplace]
        rfl
      have happlications : (l.after (.start place)).applications = l.applications :=
        List.append_nil _
      have hdispatches : (l.after (.start place)).dispatches = l.dispatches :=
        (dispatches_after l _).trans (List.append_nil _)
      have hfirst : l.host.requests.fresh.Perm (r :: l.host.requests.fresh.eraseIdx place) :=
        (List.getElem_cons_eraseIdx_perm hplaced).symm
      have hstage : r.stage = .fresh := acc.fresh r (List.getElem_mem hplaced)
      have hdispatch : r.purpose.isDispatch = true := by
        refine isDispatch_of_mem_dispatches (acc.dispatched.mem_iff.mpr ?_)
        exact List.mem_append_left _ (List.mem_map_of_mem (List.getElem_mem hplaced))
      refine ⟨?_, ?_, ?_, ?_, ?_, ?_⟩
      · rw [hhost, hfresh]
        exact fun x hx => acc.fresh x (List.mem_of_mem_eraseIdx hx)
      · rw [hhost]
        intro x hx
        rcases List.mem_append.mp (hunderway.mem_iff.mp hx) with hnew | hold
        · exact (hmade x hnew).2
        · exact acc.underway x hold
      · rw [hdispatches, hhost, hfresh, hstarts]
        refine acc.dispatched.trans (((hfirst.map (·.purpose)).append_right _).trans ?_)
        rw [List.map_append, ← List.append_assoc, List.map_cons]
        exact (List.perm_append_singleton _ _).symm
      · rw [hstarts, hhost, hendings, List.map_append, List.map_append, List.map_singleton, ← hagain]
        refine (acc.started.append_right _).trans (.trans ?_
          ((hunderway.map (·.purpose)).symm.append_right _))
        rw [List.map_append, ← List.append_assoc, ← List.append_assoc]
        refine List.Perm.append_right _ ?_
        exact List.perm_append_comm.trans (.of_eq (List.append_assoc _ _ _).symm)
      · rw [hendings, happlications, hhost, hsettled, List.filterMap_append, acc.ended,
          List.append_assoc]
      · rw [hhost, hshipments, hstarts]
        simp only [hstage]
        rw [List.filter_append, acc.shipped, List.filterMap_append]
        refine congrArg _ ?_
        cases hshipment : (Start.mk l.host.dispatcher r.purpose).shipment? with
        | none => simp [hshipment]
        | some shipment =>
            have hpurpose : shipment.purpose = r.purpose := Start.purpose_of_shipment? hshipment
            simp [hshipment, hpurpose, hdispatch]

/-- **A request gets its answer** and ends. -/
theorem resume (acc : l.Accounted) (place : Nat) : (l.after (.resume place)).Accounted := by
  cases hplace : l.host.requests.waiting[place]? with
  | none =>
      refine acc.of_eq ?_ rfl rfl ?_ rfl
      · simp only [Host.after, Host.resumeAt, hplace]
      · simp only [Host.ending?, Host.request?, hplace, Option.map_none, Option.bind_none]
  | some x =>
      obtain ⟨hplaced, rfl⟩ := List.getElem?_eq_some_iff.mp hplace
      let r := l.host.requests.waiting[place].task
      let others := { l.host.requests with waiting := l.host.requests.waiting.eraseIdx place }
      obtain ⟨hfresh, ⟨again, hunderway, hagain, hmade⟩, hsettled, hshipments⟩ :=
        l.host.proceeds others r
      have hhost : (l.after (.resume place)).host = l.host.proceed others r := by
        simp only [after, Host.after, Host.resumeAt, hplace]
        rfl
      have hstarts : (l.after (.resume place)).starts = l.starts := List.append_nil _
      have hendings : (l.after (.resume place)).endings
          = l.endings ++ (l.host.dispatcher.ending? others.now r).toList := by
        simp only [after, Host.ending?, Host.request?, hplace]
        rfl
      have happlications : (l.after (.resume place)).applications = l.applications :=
        List.append_nil _
      have hdispatches : (l.after (.resume place)).dispatches = l.dispatches :=
        (dispatches_after l _).trans (List.append_nil _)
      have hfirst : l.host.underway.Perm (r :: others.waiting.map (·.task)) :=
        (List.getElem_cons_eraseIdx_perm hplaced).symm.map Timed.task
      obtain ⟨payload, awaited, hstage⟩ : ∃ payload awaited, r.stage = .made payload awaited :=
        acc.underway r (hfirst.mem_iff.mpr List.mem_cons_self)
      -- a request that was made does not wait again
      have hnone : again = [] := by
        refine List.eq_nil_iff_forall_not_mem.mpr fun y hy => ?_
        have hagainst := (hmade y hy).1
        rw [hstage] at hagainst
        cases hagainst
      subst hnone
      refine ⟨?_, ?_, ?_, ?_, ?_, ?_⟩
      · rw [hhost, hfresh]
        exact acc.fresh
      · rw [hhost]
        exact fun y hy => acc.underway y
          (hfirst.mem_iff.mpr (List.mem_cons_of_mem r (hunderway.mem_iff.mp hy)))
      · rw [hdispatches, hhost, hfresh, hstarts]
        exact acc.dispatched
      · rw [hstarts, hhost, hendings, List.map_append]
        rw [List.map_nil, List.nil_append] at hagain
        rw [hagain]
        refine acc.started.trans (((hfirst.map (·.purpose)).append_right _).trans ?_)
        refine .trans ?_ ((hunderway.map (·.purpose)).symm.append_right _)
        rw [List.nil_append, List.map_cons, ← List.append_assoc]
        exact (List.perm_append_singleton _ _).symm
      · rw [hendings, happlications, hhost, hsettled, List.filterMap_append, acc.ended,
          List.append_assoc]
      · rw [hhost, hshipments, hstarts]
        simp only [hstage]
        exact acc.shipped

/-- A move that starts and ends no request of a classifier, and takes up no outcome. -/
theorem of_inquiry (acc : l.Accounted) {m : Host.Move} (feeding : l.host.feeding? m = none)
    (start : l.host.start? m = none) (ending : l.host.ending? m = none)
    (application : l.host.application? m = none) (requests : (l.host.after m).requests = l.host.requests)
    (settled : (l.host.after m).dispatcher.settled = l.host.dispatcher.settled)
    (shipments : (l.host.after m).trace.shipments.filter (·.purpose.isDispatch)
      = l.host.trace.shipments.filter (·.purpose.isDispatch)) :
    (l.after m).Accounted := by
  have hafter : l.after m = { l with host := l.host.after m } := by
    simp only [after, feeding, start, ending, application, Option.toList_none, List.append_nil]
  obtain ⟨hfresh, hunderway, hdispatched, hstarted, hended, hshipped⟩ := acc
  rw [hafter]
  refine ⟨?_, ?_, ?_, ?_, ?_, shipments.trans hshipped⟩
  · exact requests.symm ▸ hfresh
  · rw [Host.underway, requests]
    exact hunderway
  · exact requests.symm ▸ hdispatched
  · rw [Host.underway, requests]
    exact hstarted
  · exact settled.symm ▸ hended

/-- **Inquiries** are kept apart. -/
theorem inquire (acc : l.Accounted) (window : List Tick) : (l.after (.inquire window)).Accounted := by
  let d := { l.host.dispatcher with inquired := none }
  let r : Request := { purpose := .inquiry window }
  refine acc.of_inquiry rfl rfl rfl rfl rfl ?_ ?_
  · change (Dispatcher.requestBody d l.host.requests.now r).1.settled = d.settled
    cases d.resumed_requestBody l.host.requests.now r with
    | waits _ settled => exact settled
    | @ends e _ settled purpose =>
        obtain ⟨_, outcome⟩ := e
        cases purpose
        exact settled.trans (List.append_nil _)
  · have hshipments := d.shipments_requestBody l.host.requests.now r
    change (Dispatcher.requestBody d l.host.requests.now r).1.trace.shipments.filter _ = _
    rw [hshipments]
    simp only [r, List.filter_append]
    refine (congrArg _ ?_).trans (List.append_nil _)
    cases hshipment : (Start.mk d (.inquiry window)).shipment? with
    | none => rfl
    | some shipment =>
        have hpurpose : shipment.purpose = .inquiry window := Start.purpose_of_shipment? hshipment
        simp [hpurpose, Purpose.isDispatch]

theorem answer (acc : l.Accounted) (window : List Tick) (payload : List UInt8) (awaited : Awaited) :
    (l.after (.answer window payload awaited)).Accounted := by
  refine acc.of_inquiry rfl rfl rfl rfl rfl ?_ ?_
  · exact (l.host.dispatcher.settled_arrive (.inquiry window) payload awaited).trans (List.append_nil _)
  · exact congrArg _ (l.host.dispatcher.shipments_arrive (.inquiry window) payload awaited)

/-- **An outcome is taken up.** -/
theorem settle (acc : l.Accounted) : (l.after .settle).Accounted := by
  cases hsettled : l.host.dispatcher.settled with
  | nil =>
      refine acc.of_eq ?_ rfl rfl rfl ?_
      · simp only [Host.after, Host.settleNext, hsettled]
      · simp only [Host.application?, hsettled, List.head?_nil, Option.map_none]
  | cons s rest =>
      let h : Host := { l.host with dispatcher := { l.host.dispatcher with settled := rest } }
      have hhost : (l.after .settle).host = h.settle s := Host.after_settle hsettled
      obtain ⟨hrequests, hrest, hshipments⟩ := h.requests_settle s
      have happlications : (l.after .settle).applications.map (·.settlement)
          = l.applications.map (·.settlement) ++ [s] := by
        rw [applications_after_settle hsettled, List.map_append]
        rfl
      have hdispatches : (l.after .settle).dispatches = l.dispatches :=
        (dispatches_after l _).trans (List.append_nil _)
      have hstarts : (l.after .settle).starts = l.starts := List.append_nil _
      have hendings : (l.after .settle).endings = l.endings := List.append_nil _
      refine ⟨?_, ?_, ?_, ?_, ?_, ?_⟩
      · rw [hhost, hrequests]
        exact acc.fresh
      · rw [hhost, Host.underway, hrequests]
        exact acc.underway
      · rw [hdispatches, hhost, hrequests, hstarts]
        exact acc.dispatched
      · rw [hstarts, hendings, hhost, Host.underway, hrequests]
        exact acc.started
      · rw [hendings, happlications, hhost, hrest, acc.ended, hsettled, List.append_assoc]
        rfl
      · rw [hhost, hshipments, hstarts]
        exact acc.shipped

end Accounted

/-- **The books are in order at every moment.** -/
theorem Reachable.accounted (reached : l.Reachable) : l.Accounted := by
  induction reached with
  | @made config kind endpoint pool regionsKnown h clean made =>
      obtain ⟨service, -, rfl⟩ := Host.exists_of_ofConfig made
      refine ⟨?_, ?_, .refl _, .refl _, rfl, rfl⟩
      all_goals exact fun r hr => absurd hr List.not_mem_nil
  | @after l reached m ih =>
      cases hfeeding : l.host.feeding? m with
      | some f =>
          have idle : m.isWork = false := by
            cases m with
            | start | resume | inquire | answer | settle => cases hfeeding
            | _ => rfl
          exact ih.fed idle hfeeding (Host.fed_after reached.host.clean hfeeding)
      | none =>
          cases m with
          | start place => exact ih.start place
          | resume place => exact ih.resume place
          | inquire window => exact ih.inquire window
          | answer window payload awaited => exact ih.answer window payload awaited
          | settle => exact ih.settle
          | _ => exact ih.arranged hfeeding rfl

end Ledger

end AimAnalysis
