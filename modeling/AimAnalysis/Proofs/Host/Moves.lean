import AimAnalysis.Host.Players
import AimAnalysis.Host.Work
import AimAnalysis.Proofs.Host.Requests
import AimAnalysis.Proofs.Schedule.Timeline

/-!
# What happens to a host

Everything that happens to a host is a series of moves. Players come and go, their packets and ticks are
taken in, handles on standings are kept and dropped, and the service is reloaded. Requests move on one at a
time and in any order: any request that has not started may start next, and any that waits may get its
answer next. The outcomes that wait for the main context are applied one at a time too.

* `Host.advance_eq_run`, `Host.inquire_eq_run` — moving time forward and inquiring are series of moves: of
  all the orders in which requests may move on, they choose one.
* `Host.drain_eq_run` — draining applies as many outcomes as waited when it began.

So what holds of every host that moves lead to (`Host.Reachable`) holds between any two things that the
operations of a host do.
-/

namespace AimAnalysis

/-- Something that is done with the connection of a player, other than taking in a packet. -/
inductive Deed where
  /-- The client turns out to repeat itself in another way. -/
  | era (era : ClientEra)
  /-- A marker is sent. -/
  | marker
  /-- The player is teleported. -/
  | teleport (t : TeleportTarget)
  /-- The player's view is turned. -/
  | force (r : Rotation)
  /-- Something is done with the clock. -/
  | act (action : ClockAction)
  /-- A recording starts. -/
  | record (r : Recording)
  /-- The recording ends. -/
  | endRecording

/-- A request that moves on, and what it works with. -/
structure Call where
  /-- What it works with. -/
  dispatcher : Dispatcher
  /-- The request. -/
  request : Request

namespace Host

/-- Something that can happen to a host. -/
inductive Move where
  /-- A player connects. -/
  | connect (player : Nat) (era : ClientEra) (config : PipelineConfig) (observed : Bool)
  /-- The connection of a player is dropped. -/
  | disconnect (player : Nat)
  /-- A packet of a player comes in. -/
  | packet (player : Nat) (p : Packet)
  /-- Something else is done with the connection of a player. -/
  | manage (player : Nat) (deed : Deed)
  /-- The connection of a player is registered. -/
  | register (player : Nat)
  /-- A player is removed from the registry. -/
  | unregister (player : Nat)
  /-- A classifier on its own is added. -/
  | addClassifier (player : Nat)
  /-- A classifier on its own is dropped. -/
  | dropClassifier (player : Nat)
  /-- A tick is given to a classifier on its own. -/
  | tick (player : Nat) (t : Tick) (eligible : Bool)
  /-- A handle on a standing is kept. -/
  | keepHandle (standing : Nat)
  /-- A handle on a standing is dropped. -/
  | dropHandle (standing : Nat)
  /-- The service is reloaded. -/
  | reload (config : PipelineConfig) (kind : Option TransportKind)
  /-- A player enters or leaves regions without classification. -/
  | region (player : Nat) (disabled : Bool)
  /-- The endpoint changes its mind about its replies. -/
  | endpoint (e : Endpoint)
  /-- Time passes for requests. -/
  | pass (milliseconds : Nat)
  /-- Guards see another time. -/
  | clock (time : Span)
  /-- A request starts, named by its place among those that have not. -/
  | start (place : Nat)
  /-- A request gets its answer, named by its place among those that wait. -/
  | resume (place : Nat)
  /-- Somebody inquires about a window. -/
  | inquire (window : List Tick)
  /-- An inquiry gets its answer. -/
  | answer (window : List Tick) (payload : List UInt8) (awaited : Awaited)
  /-- The outcome that waits longest is applied. -/
  | settle

/-- Does something with the connection of a player; none if there is none. -/
def manage? (h : Host) (player : Nat) : Deed → Option Host
  | .era era => h.setEra? player era
  | .marker => (h.sendMarker? player).map (·.1)
  | .teleport t => (h.teleport? player t).map (·.1)
  | .force r => (h.forceRotation? player r).map (·.1)
  | .act action => h.act? player action
  | .record r => h.startRecording? player r
  | .endRecording => (h.stopRecording? player).map (·.1)

/-- The host once a player is registered, unless that fails. -/
def registered (h : Host) (player : Nat) : Host :=
  match h.register? player with
  | some (.ok next) => next
  | _ => h

/-- The host once a player is removed from the registry, unless that fails. -/
def unregistered (h : Host) (player : Nat) : Host :=
  match h.unregister player with
  | .ok (next, _) => next
  | .error _ => h

/-- Replaces what requests work with, and the requests. -/
def withWork (h : Host) (work : Dispatcher × Timeline Request) : Host :=
  { h with dispatcher := work.1, requests := work.2 }

/-- Resumes a request that was taken off the others. -/
def proceed (h : Host) (others : Timeline Request) (r : Request) : Host :=
  h.withWork (Timeline.resume Dispatcher.requestBody h.dispatcher others r)

/-- Starts the request at a place. -/
def startAt (h : Host) (place : Nat) : Host :=
  match h.requests.fresh[place]? with
  | none => h
  | some r => h.proceed { h.requests with fresh := h.requests.fresh.eraseIdx place } r

/-- Resumes the waiting request at a place. -/
def resumeAt (h : Host) (place : Nat) : Host :=
  match h.requests.waiting[place]? with
  | none => h
  | some x => h.proceed { h.requests with waiting := h.requests.waiting.eraseIdx place } x.task

/-- Applies the outcome that waits longest. -/
def settleNext (h : Host) : Host :=
  match h.dispatcher.settled with
  | [] => h
  | s :: rest => ({ h with dispatcher := { h.dispatcher with settled := rest } } : Host).settle s

/-- The host after a move; what is refused changes nothing. -/
def after (h : Host) : Move → Host
  | .connect player era config observed =>
    (h.connect player era config observed).toOption.getD h
  | .disconnect player => (h.disconnect? player).getD h
  | .packet player p => ((h.receive? player p).map (·.1)).getD h
  | .manage player deed => (h.manage? player deed).getD h
  | .register player => h.registered player
  | .unregister player => h.unregistered player
  | .addClassifier player => h.addClassifier player
  | .dropClassifier player => h.dropClassifier player
  | .tick player t eligible => ((h.tick? player t eligible).map (·.1)).getD h
  | .keepHandle standing => (h.keepHandle? standing).getD h
  | .dropHandle standing => h.dropHandle standing
  | .reload config kind => (h.reload config kind).toOption.getD h
  | .region player disabled => h.setRegion player disabled
  | .endpoint e => { h with dispatcher := { h.dispatcher with endpoint := e } }
  | .pass milliseconds =>
    { h with requests := { h.requests with now := h.requests.now + milliseconds } }
  | .clock time => { h with dispatcher := { h.dispatcher with wallClock := time } }
  | .start place => h.startAt place
  | .resume place => h.resumeAt place
  | .inquire window =>
    { h with
      dispatcher := ({ h.dispatcher with inquired := none }.make h.requests.now (.inquiry window)).1 }
  | .answer window payload awaited =>
    { h with dispatcher := h.dispatcher.arrive (.inquiry window) payload awaited }
  | .settle => h.settleNext

/-- What was not refused. -/
theorem eq_ok_of_toOption {α : Type} {x : Except Fault α} {a : α} (h : x.toOption = some a) :
    x = .ok a := by
  cases x with
  | error fault => cases h
  | ok b => exact congrArg Except.ok (Option.some.inj h)

/-- The host after several moves. -/
def run (h : Host) (moves : List Move) : Host := moves.foldl after h

theorem run_append (h : Host) (moves later : List Move) :
    h.run (moves ++ later) = (h.run moves).run later :=
  List.foldl_append

/-- The hosts that moves lead to from a new one. -/
inductive Reachable : Host → Prop where
  /-- A host is made under a valid configuration, with a pool of empty buffers. -/
  | made {config : PipelineConfig} {kind : Option TransportKind} {endpoint : Endpoint} {pool : Pool}
      {regionsKnown : Bool} {h : Host} (clean : pool.Clean)
      (made : ofConfig config kind endpoint pool regionsKnown = .ok h) : Reachable h
  /-- Something happens. -/
  | after {h : Host} (reached : Reachable h) (m : Move) : Reachable (h.after m)

/-- What a new host is made of. -/
theorem exists_of_ofConfig {config : PipelineConfig} {kind : Option TransportKind} {endpoint : Endpoint}
    {pool : Pool} {regionsKnown : Bool} {h : Host}
    (made : ofConfig config kind endpoint pool regionsKnown = .ok h) :
    ∃ service,
      Service.ofConfig config.classifier (linkTo [] config.transport kind).2 = .ok service
        ∧ h =
          { config
            dispatcher :=
              { service, guards := (linkTo [] config.transport kind).1, endpoint, pool }
            regionsKnown } := by
  simp only [ofConfig] at made
  split at made
  · cases made
  · next service hservice =>
      cases made
      exact ⟨service, hservice, rfl⟩

theorem Reachable.run {h : Host} (reached : h.Reachable) (moves : List Move) :
    (h.run moves).Reachable := by
  induction moves generalizing h with
  | nil => exact reached
  | cons m moves ih => exact ih (reached.after m)

/-! ### A host to look at -/

/-- A body that names a probability of one digit. -/
def body (digit : Char) : String :=
  .ofList ['\x7b', '"', 'p', 'r', 'o', 'b', 'a', 'b', 'i', 'l', 'i', 't', 'y', '"', ':', digit, '\x7d']

theorem probability_body {digit : Char} {n : Nat} (h : digit = '0' ∧ n = 0 ∨ digit = '1' ∧ n = 1) :
    Response.probability (body digit) = .ok (Json.Number.toFloat (.natural n)) := by
  have htree : Json.Tree.ofText? (body digit)
      = some (.object [("probability".toList.map .char, .number ⟨false, [digit], none, none⟩)]) := by
    rw [Json.Tree.ofText?, body, String.toList_ofList]
    rcases h with ⟨rfl, rfl⟩ | ⟨rfl, rfl⟩ <;> rfl
  have hfield : Response.probabilityField? (body digit) = some (some (.number (.natural n))) := by
    rw [Response.probabilityField?, htree]
    rcases h with ⟨rfl, rfl⟩ | ⟨rfl, rfl⟩ <;> rfl
  rw [Response.probability, hfield]
  rfl

theorem ofAnswer_body {digit : Char} {n : Nat} (h : digit = '0' ∧ n = 0 ∨ digit = '1' ∧ n = 1) :
    Outcome.ofAnswer (.ok (body digit)) = .ok (.probability (Json.Number.toFloat (.natural n))) := by
  rw [Outcome.ofAnswer, Outcome.ofBody, probability_body h]

/-- A host whose windows hold a single tick, and whose endpoint is certain at once. -/
def swift : Host :=
  let classifier : ClassifierConfig Float :=
    { ClassifierConfig.standard with window := { sequence := 1, step := 1 } }
  { config := { classifier }
    dispatcher :=
      { service := { config := classifier, sequence := 1, link := some .direct }
        endpoint := { afterwards := { plain := some (.ok (body '1')) } } } }

theorem ofConfig_swift :
    ofConfig swift.config (some .direct) swift.dispatcher.endpoint {} true = .ok swift := rfl

theorem reachable_swift : swift.Reachable := .made Pool.clean_empty ofConfig_swift

/-! ### Requests that move on -/

/-- The request that moves on with a move, inquiries included. -/
def call? (h : Host) : Move → Option Call
  | .start place => h.requests.fresh[place]?.map fun r => ⟨h.dispatcher, r⟩
  | .resume place => h.requests.waiting[place]?.map fun x => ⟨h.dispatcher, x.task⟩
  | .inquire window => some ⟨{ h.dispatcher with inquired := none }, { purpose := .inquiry window }⟩
  | .answer window payload awaited =>
    some ⟨h.dispatcher, { purpose := .inquiry window, stage := .made payload awaited }⟩
  | _ => none

/-- Requests work with what the host has. -/
theorem exists_of_call? {h : Host} {m : Move} {call : Call} (moves : h.call? m = some call) :
    ∃ inquired, call.dispatcher = { h.dispatcher with inquired } := by
  cases m with
  | start place | resume place =>
      obtain ⟨_, -, rfl⟩ := Option.map_eq_some_iff.mp moves
      exact ⟨_, rfl⟩
  | inquire | answer =>
      cases moves
      exact ⟨_, rfl⟩
  | _ => cases moves

/-- What a request does that moves on. -/
theorem dispatcher_after {h : Host} {m : Move} {call : Call} (moves : h.call? m = some call) :
    (h.after m).dispatcher = (Dispatcher.requestBody call.dispatcher h.requests.now call.request).1 := by
  have hproceed : ∀ (others : Timeline Request) (r : Request),
      (h.proceed others r).dispatcher = (Dispatcher.requestBody h.dispatcher others.now r).1 := by
    intro others r
    rw [proceed, withWork, Timeline.resume_eq]
  cases m with
  | start place =>
      obtain ⟨r, hr, rfl⟩ := Option.map_eq_some_iff.mp moves
      simp only [after, startAt, hr]
      apply hproceed
  | resume place =>
      obtain ⟨x, hx, rfl⟩ := Option.map_eq_some_iff.mp moves
      simp only [after, resumeAt, hx]
      apply hproceed
  | inquire | answer =>
      cases moves
      rfl
  | _ => cases moves

/-! ### Time that passes -/

/-- The move that a step of the requests is. -/
def Move.ofStep : Timeline.Step → Move
  | .pass milliseconds => .pass milliseconds
  | .start place => .start place
  | .resume place => .resume place

/-- A step of the requests is a move. -/
theorem withWork_step (h : Host) (st : Timeline.Step) :
    h.withWork (Timeline.step Dispatcher.requestBody (h.dispatcher, h.requests) st)
      = h.after (.ofStep st) := by
  cases st with
  | pass milliseconds => rfl
  | start place =>
      simp only [Timeline.step, Move.ofStep, after, startAt]
      cases h.requests.fresh[place]? <;> rfl
  | resume place =>
      simp only [Timeline.step, Move.ofStep, after, resumeAt]
      cases h.requests.waiting[place]? <;> rfl

/-- Steps of the requests are a series of moves. -/
theorem withWork_follow (h : Host) (steps : List Timeline.Step) :
    h.withWork (Timeline.follow Dispatcher.requestBody (h.dispatcher, h.requests) steps)
      = h.run (steps.map .ofStep) := by
  induction steps generalizing h with
  | nil => rfl
  | cons st steps ih =>
      have hrest := ih (h.after (.ofStep st))
      rw [← withWork_step] at hrest
      rw [List.map_cons, run, List.foldl_cons, ← withWork_step]
      exact hrest

/-- Starting the requests in the order in which they were spawned is a series of moves. -/
theorem start_eq_run (h : Host) :
    h.withWork (h.requests.start Dispatcher.requestBody h.dispatcher)
      = h.run (List.replicate h.requests.fresh.length (.start 0)) := by
  rw [Timeline.start_eq_follow, withWork_follow, List.map_replicate]
  rfl

/-- Moving to a time is a series of moves. -/
theorem runTo_eq_run (target : Nat) (h : Host) :
    ∃ moves, h.withWork (h.requests.runTo Dispatcher.requestBody target h.dispatcher)
      = h.run moves := by
  obtain ⟨steps, hsteps⟩ :=
    Timeline.runTo_eq_follow Dispatcher.requestBody target h.dispatcher h.requests
  exact ⟨steps.map .ofStep, by rw [hsteps, withWork_follow]⟩

/-- **Moving time forward** is a series of moves. -/
theorem advance_eq_run (h : Host) (milliseconds : Nat) :
    ∃ moves, h.advance milliseconds = h.run moves := by
  obtain ⟨steps, hsteps⟩ :=
    Timeline.advance_eq_follow Dispatcher.requestBody milliseconds h.dispatcher h.requests
  refine ⟨steps.map .ofStep, ?_⟩
  rw [← withWork_follow, ← hsteps]
  rfl

/-! ### Inquiries and outcomes -/

/-- **Inquiring** is a series of moves: the inquiry is made, the others go on until its time, and then it
gets its answer. -/
theorem inquire_eq_run (h : Host) (window : List Tick) :
    ∃ moves, h.inquire window = h.run moves := by
  let d := { h.dispatcher with inquired := none }
  rcases hmade : d.make h.requests.now (.inquiry window) with ⟨d', _ | inquiry⟩
  · refine ⟨[.inquire window], ?_⟩
    have hafter : h.after (.inquire window) = { h with dispatcher := d' } := by
      simp only [after]
      rw [hmade]
    simp only [inquire]
    rw [hmade]
    exact hafter.symm
  · -- an inquiry that waits was made with a payload
    obtain ⟨payload, awaited, htask⟩ : ∃ payload awaited,
        inquiry.task = { purpose := .inquiry window, stage := .made payload awaited } := by
      have hbody : Dispatcher.requestBody d h.requests.now { purpose := .inquiry window }
          = (d', some inquiry) := hmade
      cases d.resumed_requestBody h.requests.now { purpose := .inquiry window } with
      | ends waiting settled purpose ending =>
          rw [hbody] at waiting
          cases waiting
      | waits waiting settled purpose made started ending =>
          obtain ⟨payload, awaited, hstage⟩ := made
          rw [hbody] at waiting
          cases waiting
          have hwindow : inquiry.task.purpose = .inquiry window := purpose
          refine ⟨payload, awaited, ?_⟩
          rw [← hwindow, ← hstage]
    let asked : Host := { h with dispatcher := d' }
    let started := asked.withWork (asked.requests.start Dispatcher.requestBody asked.dispatcher)
    obtain ⟨moves, hmoves⟩ := runTo_eq_run (inquiry.due - 1) started
    let before := started.requests.runTo Dispatcher.requestBody (inquiry.due - 1) started.dispatcher
    refine ⟨.inquire window :: List.replicate asked.requests.fresh.length (.start 0) ++ moves
      ++ [.pass (inquiry.due - before.2.now), .answer window payload awaited], ?_⟩
    have hasked : h.after (.inquire window) = asked := by
      simp only [after]
      rw [hmade]
    have hrun : h.run (.inquire window :: List.replicate asked.requests.fresh.length (.start 0)
          ++ moves) = h.withWork before := by
      rw [run_append]
      change ((h.after (.inquire window)).run _).run moves = _
      rw [hasked, ← start_eq_run, ← hmoves]
      rfl
    have hnow : before.2.now + (inquiry.due - before.2.now) = max before.2.now inquiry.due := by
      omega
    rw [run_append, hrun]
    simp only [inquire]
    rw [hmade]
    change asked.awaitInquiry inquiry = h.withWork (before.1.arrive (.inquiry window) payload awaited,
      { before.2 with now := before.2.now + (inquiry.due - before.2.now) })
    rw [hnow]
    simp only [awaitInquiry, Dispatcher.requestBody, htask]
    rfl

/-- Applying an outcome leaves alone those that wait. -/
theorem settle_settled (h : Host) (s : Settlement) (settled : List Settlement) :
    ({ h with dispatcher := { h.dispatcher with settled } } : Host).settle s
      = { h.settle s with dispatcher := { (h.settle s).dispatcher with settled } } := by
  unfold settle
  change (if h.isHeld s.standing then _ else _) = _
  by_cases held : h.isHeld s.standing = true
  · rw [if_pos held, if_pos held]
    rfl
  · rw [if_neg held, if_neg held]
    rfl

/-- Applying an outcome leaves requests alone, and hands nothing to the endpoint. -/
theorem requests_settle (h : Host) (s : Settlement) :
    (h.settle s).requests = h.requests ∧ (h.settle s).dispatcher.settled = h.dispatcher.settled
      ∧ (h.settle s).trace.shipments = h.trace.shipments := by
  unfold settle
  split <;> exact ⟨rfl, rfl, rfl⟩

/-- The outcome that waits longest is applied first. -/
theorem after_settle {h : Host} {s : Settlement} {rest : List Settlement}
    (waiting : h.dispatcher.settled = s :: rest) :
    h.after .settle
      = ({ h with dispatcher := { h.dispatcher with settled := rest } } : Host).settle s := by
  simp only [after, settleNext, waiting]

/-- **Draining** applies the outcomes that wait, one after the other. -/
theorem drain_eq_run (h : Host) :
    h.drain.1 = h.run (List.replicate h.dispatcher.settled.length .settle) := by
  -- the fold takes all outcomes off first, the moves take one off at a time
  have hfold : ∀ (settled : List Settlement) (h : Host),
      settled.foldl settle { h with dispatcher := { h.dispatcher with settled := [] } }
        = ({ h with dispatcher := { h.dispatcher with settled } } : Host).run
            (List.replicate settled.length .settle) := by
    intro settled
    induction settled with
    | nil => intro h; rfl
    | cons s rest ih =>
        intro h
        have hsettle : ({ h with dispatcher := { h.dispatcher with settled := s :: rest } } : Host).after
            .settle
              = { h.settle s with dispatcher := { (h.settle s).dispatcher with settled := rest } } :=
          settle_settled h s rest
        rw [List.foldl_cons, settle_settled, ih, List.length_cons, List.replicate_succ]
        exact (congrArg (run · _) hsettle).symm
  exact hfold h.dispatcher.settled h

end Host

end AimAnalysis
