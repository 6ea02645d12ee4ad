import AimAnalysis.Proofs.Host.Ownership

/-!
# Who announces events

A host is told of what classification finds out by events. Whatever else is said, about packets, ticks,
requests or the registry, goes to the log or to an observer.

* `Service.events_apply` — a probability is announced by a prediction, after the suspicion and the flag that
  it raises; no other outcome is announced.
* `Host.quiet_after` — moves that let no request and no outcome move on announce nothing, and change no guard.
* `Host.events_after` — a move announces nothing, unless it takes up an outcome.
-/

namespace AimAnalysis

/-! ### What is said -/

namespace Notice

@[simp] theorem events_nil : events [] = [] := rfl

@[simp] theorem events_append (xs ys : List Notice) : events (xs ++ ys) = events xs ++ events ys :=
  List.filterMap_append

@[simp] theorem events_entry (e : LogEntry) (rest : List Notice) :
    events (.entry e :: rest) = events rest := rfl

@[simp] theorem events_violation (v : Violation) (rest : List Notice) :
    events (.violation v :: rest) = events rest := rfl

@[simp] theorem events_event (e : Event) (rest : List Notice) :
    events (.event e :: rest) = e :: events rest := rfl

@[simp] theorem events_map_event (es : List Event) : events (es.map .event) = es := by
  induction es with
  | nil => rfl
  | cons e es ih => exact congrArg (e :: ·) ih

/-- Entries are not events. -/
@[simp] theorem events_map_entry (es : List LogEntry) : events (es.map .entry) = [] := by
  induction es with
  | nil => rfl
  | cons e es ih => exact ih

/-- A broken promise is logged. -/
@[simp] theorem events_ofCheck (check : Except BrokenInvariant Unit) : events (ofCheck check) = [] := by
  cases check <;> rfl

end Notice

/-- What is announced about an outcome of a player, given the standing that it is applied to. -/
def Service.announcements (s : Service) (player : Nat) (standing : Standing) : Outcome → List Event
  | .ok (.probability p) =>
    let (observed, update) := standing.evidence.observe s.config.evidence p
    Standing.suspicionEvents player update ++ Standing.flagEvents player p update
      ++ [Standing.predictionEvent player p (damageMultiplier s.config.damage p) update
        observed.highTicks]
  | _ => []

namespace Service

variable (s : Service) (player : Nat) (standing : Standing)

theorem events_adopt (size : Int) : Notice.events (s.adopt size).2 = [] := by
  unfold adopt
  split
  · change Notice.events (if _ then _ else _) = []
    split <;> rfl
  · rfl

theorem events_transportNotices (error : TransportError) :
    Notice.events (transportNotices player error) = [] := by
  unfold transportNotices
  cases error.code <;> rfl

/-- Faults are logged. -/
theorem events_takeFault (fault : ClassificationFault) :
    Notice.events (s.takeFault player fault).2 = [] := by
  cases fault with
  | sequenceMismatch expected => exact s.events_adopt expected
  | transport error => exact events_transportNotices player error
  | unreadable | encode => rfl

/-- **What is announced about an outcome.** -/
theorem events_apply (outcome : Outcome) :
    Notice.events (s.apply player standing outcome).2.2 = s.announcements player standing outcome := by
  cases outcome with
  | error fault => exact s.events_takeFault player fault
  | ok verdict =>
      cases verdict with
      | disabled => rfl
      | probability p =>
          simp only [apply, Standing.takeProbability, announcements, Notice.events_append,
            Notice.events_ofCheck, Notice.events_map_event, Notice.events_entry, Notice.events_event,
            Notice.events_nil, List.nil_append, List.append_nil]

end Service

/-! ### Packets and ticks -/

/-- Dropped corrections are reported to the observer. -/
theorem Reconciler.events_droppedNotices (player acknowledged dropped : Nat) (what : String) :
    Notice.events (droppedNotices player acknowledged dropped what) = [] := by
  unfold droppedNotices
  split <;> rfl

theorem Reconciler.events_reconcile (r : Reconciler) (corrections : Corrections) (acknowledged : Nat)
    (report : MovementReport) :
    Notice.events (r.reconcile corrections acknowledged report).notices = [] := by
  have hdropped := events_droppedNotices
  simp only [reconcile]
  split_ifs <;> simp [hdropped, entry]

theorem Classifier.events_onTick (c : Classifier) (s : Service) (inDisabledRegion : Bool) (t : Tick)
    (eligible : Bool) : Notice.events (c.onTick s inDisabledRegion t eligible).notices = [] := by
  have taken := c.takesIn_onTick s inDisabledRegion t eligible
  generalize c.onTick s inDisabledRegion t eligible = step at taken ⊢
  cases taken <;> rfl

namespace Connection

variable (c : Connection)

theorem events_skipNotices (run : Clock.Run) : Notice.events (skipNotices run) = [] := by
  unfold skipNotices
  induction run.skips with
  | nil => rfl
  | cons skip skips ih => exact ih

/-- Packets are not announced. -/
theorem events_onPacket (s : Service) (inDisabledRegion : Bool) (p : Packet) :
    Notice.events (c.onPacket s inDisabledRegion p).notices = [] := by
  cases p with
  | acknowledgment name => exact events_skipNotices _
  | attack => rfl
  | movement report =>
      have hreconcile : Notice.events (c.reconcile report).2.notices = [] :=
        c.reconciler.events_reconcile c.corrections c.clock.acknowledged report
      simp only [onPacket, onMovement]
      cases (c.reconcile report).2.verdict with
      | cancelled | teleportEcho | rotationEcho | duplicate => exact hreconcile
      | genuine =>
          rw [Notice.events_append, hreconcile]
          exact Classifier.events_onTick ..

end Connection

/-! ### Requests -/

namespace Dispatcher

variable (d : Dispatcher) (now : Nat) (purpose : Purpose)

theorem events_finish (outcome : Outcome) :
    (d.finish outcome purpose).trace.events = d.trace.events := by
  cases purpose <;> rfl

/-- What guards learn is logged. -/
theorem events_learn (guard : Nat) (outcome : ExchangeOutcome) :
    (d.learn guard outcome).trace.events = d.trace.events := by
  simp only [learn, Trace.say, Notice.events_map_entry, List.append_nil]

theorem events_arrive (payload : List UInt8) (awaited : Awaited) :
    (d.arrive purpose payload awaited).trace.events = d.trace.events := by
  rw [arrive_eq]
  cases d.outcome? awaited with
  | none => cases purpose <;> rfl
  | some outcome =>
      refine (events_finish _ purpose outcome).trans ?_
      cases awaited with
      | exchange guard ended => exact events_learn _ guard ended
      | direct | nothing => rfl

/-- Requests are not announced. -/
theorem events_requestBody (r : Request) :
    (requestBody d now r).1.trace.events = d.trace.events := by
  cases d.ran now r with
  | answered stage body =>
      rw [body]
      exact d.events_arrive r.purpose _ _
  | finished stage course body =>
      rw [body]
      exact events_finish _ r.purpose _
  | prompt stage course body =>
      rw [body]
      exact events_arrive (d.shipped r.purpose) r.purpose _ _
  | waits stage course late body =>
      rw [body]
      rfl

end Dispatcher

/-! ### Moves -/

namespace Host

/-- Nothing is announced, no guard changes, and guards may come. -/
structure Quiet (h h' : Host) : Prop where
  /-- The events. -/
  events : h'.trace.events = h.trace.events
  /-- The guards. -/
  guards : h.dispatcher.guards <+: h'.dispatcher.guards

namespace Quiet

variable {h h' : Host}

theorem of_dispatcher_eq (same : h'.dispatcher = h.dispatcher) : Quiet h h' := by
  constructor
  · exact congrArg (·.trace.events) same
  · exact same ▸ List.prefix_refl _

/-- What is refused changes nothing. -/
theorem refl : Quiet h h := of_dispatcher_eq rfl

/-- What is no event changes nothing for those who wait for events. -/
theorem say (quiet : Quiet h h') (observed : Bool) {notices : List Notice}
    (silent : Notice.events notices = []) : Quiet h (h'.say observed notices) := by
  refine ⟨?_, quiet.guards⟩
  change h'.trace.events ++ Notice.events notices = _
  rw [silent, List.append_nil]
  exact quiet.events

theorem dispatchSome (quiet : Quiet h h') (player standing : Nat) (window : Option (List Tick)) :
    Quiet h (h'.dispatchSome player standing window) := by
  cases window with
  | none => exact quiet
  | some window => exact ⟨quiet.events, quiet.guards⟩

/-- What is done about effects that have run is not announced. -/
theorem noteRan (quiet : Quiet h h') (tags : List Nat) : Quiet h (h'.noteRan tags) :=
  ⟨quiet.events, quiet.guards⟩

theorem setConnection (h : Host) (player : Nat) (c : Connection) :
    Quiet h (h.setConnection player c) := by
  apply of_dispatcher_eq
  unfold Host.setConnection
  split <;> rfl

end Quiet

/-- The registry logs. -/
theorem events_registryNotice (player : Nat) (message : String) :
    Notice.events [registryNotice player message] = [] := rfl

variable (h : Host)

theorem quiet_packet (player : Nat) (p : Packet) : Quiet h (h.after (.packet player p)) := by
  simp only [after, receive?]
  cases h.connection? player with
  | none => exact .refl
  | some c =>
      have silent := c.events_onPacket h.service (h.inDisabledRegion player) p
      exact (((Quiet.setConnection h player _).say c.observed silent).noteRan _).dispatchSome ..

theorem quiet_manage (player : Nat) (deed : Deed) : Quiet h (h.after (.manage player deed)) := by
  simp only [after]
  cases hmanaged : h.manage? player deed with
  | none => exact .refl
  | some next =>
      change Quiet h next
      cases deed with
      | era | record =>
          obtain ⟨c, -, rfl⟩ := Option.map_eq_some_iff.mp hmanaged
          exact .setConnection ..
      | marker | teleport | force | endRecording =>
          obtain ⟨⟨_, _⟩, hmap, rfl⟩ := Option.map_eq_some_iff.mp hmanaged
          obtain ⟨c, -, hnext⟩ := Option.map_eq_some_iff.mp hmap
          obtain ⟨rfl, -⟩ := Prod.mk.inj hnext
          exact .setConnection ..
      | act action =>
          obtain ⟨c, -, rfl⟩ := Option.map_eq_some_iff.mp hmanaged
          have silent := Connection.events_skipNotices (c.act action).2
          exact ((Quiet.setConnection h player _).say c.observed silent).noteRan _

theorem quiet_tick (player : Nat) (t : Tick) (eligible : Bool) :
    Quiet h (h.after (.tick player t eligible)) := by
  simp only [after, tick?]
  cases h.classifiers.get? player with
  | none => exact .refl
  | some c =>
      have silent := c.events_onTick h.service (h.inDisabledRegion player) t eligible
      let step := c.onTick h.service (h.inDisabledRegion player) t eligible
      have hfed : Quiet h { h with classifiers := h.classifiers.insert player step.classifier } :=
        .of_dispatcher_eq rfl
      exact (hfed.say false silent).dispatchSome player c.standing step.sent

/-- A reload may bring a guard. -/
theorem quiet_reload (config : PipelineConfig) (kind : Option TransportKind) :
    Quiet h (h.after (.reload config kind)) := by
  simp only [after]
  cases hreload : h.reload config kind with
  | error fault => exact .refl
  | ok next =>
      obtain ⟨service, -, rfl⟩ := eq_of_reload hreload
      constructor
      · exact List.append_nil _
      · change h.dispatcher.guards <+: (linkTo _ _ kind).1
        cases kind with
        | none => exact List.prefix_refl _
        | some kind =>
            cases kind with
            | direct => exact List.prefix_refl _
            | guarded => exact List.prefix_append _ _

/-- **Moves that let nothing move on** announce nothing, and change no guard. -/
theorem quiet_after {m : Move} (idle : m.isWork = false) : Quiet h (h.after m) := by
  cases m with
  | connect player era config observed =>
      simp only [after]
      cases hconnect : h.connect player era config observed with
      | error fault => exact .refl
      | ok next =>
          obtain ⟨c, -, rfl⟩ := exists_of_connect hconnect
          exact .of_dispatcher_eq rfl
  | disconnect player =>
      simp only [after, disconnect?]
      cases h.online.get? player <;> exact .of_dispatcher_eq rfl
  | packet player p => exact h.quiet_packet player p
  | manage player deed => exact h.quiet_manage player deed
  | register player =>
      simp only [after, registered, register?]
      cases h.online.get? player with
      | none => exact .refl
      | some n =>
          cases h.registry.get? player with
          | some _ => exact .refl
          | none =>
              have hregistered : Quiet h { h with registry := h.registry.insert player n } :=
                .of_dispatcher_eq rfl
              exact hregistered.say false (events_registryNotice player _)
  | unregister player =>
      simp only [after, unregistered, unregister]
      cases h.registered? player with
      | none => exact .refl
      | some c =>
          have herased : Quiet h { h with registry := h.registry.erase player } := .of_dispatcher_eq rfl
          exact herased.say false (events_registryNotice player _)
  | tick player t eligible => exact h.quiet_tick player t eligible
  | keepHandle standing =>
      simp only [after, keepHandle?]
      split <;> exact .of_dispatcher_eq rfl
  | reload config kind => exact h.quiet_reload config kind
  | addClassifier | dropClassifier | dropHandle | region | pass => exact .of_dispatcher_eq rfl
  | endpoint | clock => exact ⟨rfl, List.prefix_refl _⟩
  | start | resume | inquire | answer | settle => cases idle

/-- **A move announces nothing**, unless it takes up an outcome. -/
theorem events_after {m : Move} (idle : m ≠ .settle) : (h.after m).trace.events = h.trace.events := by
  cases hworks : m.isWork with
  | false => exact (h.quiet_after hworks).events
  | true =>
      unfold trace
      rcases dispatcher_after_of_isWork hworks idle with hsame | ⟨inquired, r, hafter⟩
      · rw [hsame]
      · rw [hafter]
        exact Dispatcher.events_requestBody _ h.requests.now r

end Host

end AimAnalysis
