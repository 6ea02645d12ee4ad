import AimAnalysis.Host.Request

/-!
# The course of a request

A request is resumed twice at most. When it starts, it is over at once, or the endpoint is asked
(`Dispatcher.course`); an answer that takes no time ends it there, any other is waited for. When it is
resumed again, it has its answer and ends.

* `Dispatcher.ran` — what a request does that is resumed, by its stage and its course.
* `Dispatcher.arrive_eq` — how a request ends, by its outcome.
* `Dispatcher.settled_arrive` — a request that ends hands over the outcome that its answer stands for
  (`Dispatcher.outcome?`), unless that is lost.
* `Dispatcher.resumed_requestBody` — a request that is resumed waits for an answer, or has ended and handed
  over its outcome.
* `Dispatcher.shipments_requestBody` — the endpoint gets the payload of a request when it starts.
* `Dispatcher.pool_arrive` — a request that ends gives back what it has on loan.
* `Dispatcher.kept_requestBody` — what lending and taking back keep of the pool (`Pool.Kept`) is kept by
  requests. In particular idle buffers stay empty (`Dispatcher.clean_requestBody`).
* `Dispatcher.waiting_withPool` — what a request waits for does not depend on the pool.
-/

namespace AimAnalysis

/-! ### Buffers -/

/-- Whether all idle buffers are empty. -/
def Shelf.Clean {α : Type} (s : Shelf α) : Prop := ∀ buffer ∈ s.idle, buffer = []

namespace Shelf

variable {α : Type} {s : Shelf α}

theorem Clean.lent_eq_nil (h : s.Clean) : s.lent = [] := by
  rcases hidle : s.idle with _ | ⟨buffer, rest⟩
  · simp [lent, hidle]
  · have hbuffer : buffer = [] := h buffer (by simp [hidle])
    simp [lent, hidle, hbuffer]

theorem Clean.afterLending (h : s.Clean) : s.afterLending.Clean :=
  fun buffer hbuffer => h buffer (List.mem_of_mem_tail hbuffer)

/-- Buffers come back empty. -/
theorem Clean.giveBack (h : s.Clean) (limit : Nat) (buffer : List α) :
    (s.giveBack limit buffer).Clean := by
  unfold Shelf.giveBack
  split
  · intro b hb
    rcases List.mem_cons.mp hb with rfl | hb
    · exact cleared_eq_nil buffer
    · exact h b hb
  · exact h

end Shelf

/-- Whether all idle buffers of a pool are empty. -/
structure Pool.Clean (p : Pool) : Prop where
  /-- Snapshots are empty. -/
  snapshots : p.snapshots.Clean
  /-- Payloads are empty. -/
  payloads : p.payloads.Clean

/-- A pool without idle buffers. -/
theorem Pool.clean_empty : ({} : Pool).Clean := by
  constructor <;> exact fun _ h => absurd h List.not_mem_nil

namespace Pool.Clean

variable {p : Pool}

theorem lendSnapshot (h : p.Clean) : p.lendSnapshot.2.Clean := ⟨h.snapshots.afterLending, h.payloads⟩

theorem lendPayload (h : p.Clean) : p.lendPayload.2.Clean := ⟨h.snapshots, h.payloads.afterLending⟩

theorem returnSnapshot (h : p.Clean) (buffer : List Tick) : (p.returnSnapshot buffer).Clean :=
  ⟨h.snapshots.giveBack p.limit buffer, h.payloads⟩

theorem returnPayload (h : p.Clean) (buffer : List UInt8) : (p.returnPayload buffer).Clean :=
  ⟨h.snapshots, h.payloads.giveBack p.limit buffer⟩

end Pool.Clean

/-- Whatever can be done with a pool keeps a property of pools. -/
structure Pool.Kept (P : Pool → Prop) : Prop where
  /-- Lending a snapshot does. -/
  lendSnapshot : ∀ {p : Pool}, P p → P p.lendSnapshot.2
  /-- Lending a payload does. -/
  lendPayload : ∀ {p : Pool}, P p → P p.lendPayload.2
  /-- Taking back a snapshot does. -/
  returnSnapshot : ∀ {p : Pool}, P p → ∀ buffer, P (p.returnSnapshot buffer)
  /-- Taking back a payload does. -/
  returnPayload : ∀ {p : Pool}, P p → ∀ buffer, P (p.returnPayload buffer)

theorem Pool.kept_clean : Pool.Kept Pool.Clean where
  lendSnapshot h := h.lendSnapshot
  lendPayload h := h.lendPayload
  returnSnapshot h := h.returnSnapshot
  returnPayload h := h.returnPayload

/-- Gives back what a request of a purpose has on loan besides its payload. -/
def Purpose.giveBack (p : Pool) : Purpose → Pool
  | .dispatch _ _ snapshot => p.returnSnapshot snapshot
  | .inquiry _ => p

theorem Pool.Kept.giveBack {P : Pool → Prop} (kept : Pool.Kept P) {p : Pool} (h : P p) :
    ∀ purpose : Purpose, P (purpose.giveBack p)
  | .dispatch _ _ snapshot => kept.returnSnapshot h snapshot
  | .inquiry _ => h

/-! ### Starts and ends -/

/-- Whether a purpose is to classify for the standing of a number. -/
def Purpose.concerns (k : Nat) : Purpose → Bool
  | .dispatch _ standing _ => standing == k
  | .inquiry _ => false

/-- Whether a purpose is a window that a classifier dispatched. -/
def Purpose.isDispatch : Purpose → Bool
  | .dispatch _ _ _ => true
  | .inquiry _ => false

/-- A request that starts, and what requests work with then. -/
structure Start where
  /-- What requests work with. -/
  dispatcher : Dispatcher
  /-- What the request is for. -/
  purpose : Purpose

namespace Start

/-- The bytes that are written for the transport. -/
def payload (s : Start) : List UInt8 :=
  (Codec.append s.purpose.window s.dispatcher.pool.lendPayload.1).1

/-- Whether the endpoint gets them: there is a transport, and no guard refuses. -/
def isAdmitted (s : Start) : Bool :=
  match s.dispatcher.service.link with
  | none => false
  | some .direct => true
  | some (.guarded guard) => s.dispatcher.admits guard

/-- What the endpoint gets. -/
def shipment? (s : Start) : Option Shipment :=
  if s.isAdmitted then some { purpose := s.purpose, payload := s.payload } else none

/-- What is written into a payload on loan is the wire form of the window, and nothing else. -/
theorem payload_eq_encode {s : Start} (clean : s.dispatcher.pool.Clean) :
    s.payload = Codec.encode s.purpose.window := by
  have hlent : s.dispatcher.pool.lendPayload.1 = [] := clean.payloads.lent_eq_nil
  rw [payload, hlent, Codec.append, List.nil_append]

theorem purpose_of_shipment? {s : Start} {shipment : Shipment} (h : s.shipment? = some shipment) :
    shipment.purpose = s.purpose := by
  unfold shipment? at h
  split at h <;> cases h
  rfl

end Start

/-- A request that has ended. -/
structure Ending where
  /-- What it was for. -/
  purpose : Purpose
  /-- Its outcome, unless that was lost. -/
  outcome : Option Outcome

/-- The outcome that then waits for the main context. -/
def Ending.settlement? : Ending → Option Settlement
  | ⟨.dispatch player standing _, some outcome⟩ => some { player, standing, outcome }
  | _ => none

/-- How a request goes on when it starts. -/
inductive Course where
  /-- It is over, and leaves the buffers so. -/
  | ended (pool : Pool) (outcome : Outcome)
  /-- The endpoint is asked, and will answer after a while. -/
  | asked (awaited : Awaited) (delay : Nat)

namespace Dispatcher

variable (d : Dispatcher) (now : Nat) (purpose : Purpose) (payload : List UInt8) (awaited : Awaited)

/-- How a request goes on that starts now. -/
def course : Course :=
  match d.service.link with
  | none => .ended d.pool (.ok .disabled)
  | some .direct => .asked (plainReply d.endpoint.reply) (Timeline.waitFor d.endpoint.reply.delay)
  | some (.guarded guard) =>
    if d.admits guard then
      .asked (d.guardedReply guard d.endpoint.reply).1 (d.guardedReply guard d.endpoint.reply).2
    else
      .ended (d.pool.lendPayload.2.returnPayload (Start.mk d purpose).payload)
        (.ofAnswer (.error Guard.refusal))

/-- The outcome that an answer stands for, unless the guard cannot learn from it. -/
def outcome? : Awaited → Option Outcome
  | .direct answer => some (.ofAnswer answer)
  | .exchange guard outcome =>
    if d.canLearn guard outcome then some (.ofAnswer (Guard.answer outcome)) else none
  | .nothing => none

/-- The request that starts has asked the endpoint. -/
def shipped : Dispatcher :=
  ship { d with pool := d.pool.lendPayload.2 } purpose (Start.mk d purpose).payload

/-- What the guard learns from an answer. -/
def heard : Dispatcher :=
  match awaited with
  | .exchange guard outcome => d.learn guard outcome
  | _ => d

/-- **Ending a request** gives its payload back, and hands over its outcome once the guard has learned, unless
that is lost. -/
theorem arrive_eq :
    d.arrive purpose payload awaited
      = match d.outcome? awaited with
        | some outcome =>
          (heard { d with pool := d.pool.returnPayload payload } awaited).finish outcome purpose
        | none => abandon { d with pool := d.pool.returnPayload payload } purpose := by
  cases awaited with
  | direct answer => rfl
  | nothing => rfl
  | exchange guard outcome =>
      by_cases hcan : d.canLearn guard outcome = true
      · have houtcome : d.outcome? (.exchange guard outcome) = some (.ofAnswer (Guard.answer outcome)) :=
          if_pos hcan
        rw [houtcome]
        exact if_pos hcan
      · have hlost : d.outcome? (.exchange guard outcome) = none := if_neg hcan
        rw [hlost]
        exact if_neg hcan

/-- **Starting a request**, by its course. -/
theorem make_eq :
    d.make now purpose
      = match d.course purpose with
        | .ended pool outcome => (({ d with pool } : Dispatcher).finish outcome purpose, none)
        | .asked awaited delay =>
          (d.shipped purpose).await now delay purpose (Start.mk d purpose).payload awaited := by
  unfold make course
  rcases hlink : d.service.link with _ | link
  · rfl
  · cases link with
    | direct => rfl
    | guarded guard =>
        by_cases hadmits : d.admits guard = true
        · simp only [hadmits, if_true]
          rfl
        · simp only [hadmits, if_false, Bool.false_eq_true]
          rfl

/-- The endpoint is asked exactly if the request is admitted. -/
theorem shipment?_eq :
    (Start.mk d purpose).shipment?
      = match d.course purpose with
        | .ended _ _ => none
        | .asked _ _ => some { purpose, payload := (Start.mk d purpose).payload } := by
  unfold Start.shipment? Start.isAdmitted course
  rcases hlink : d.service.link with _ | link
  · simp
  · cases link with
    | direct => simp
    | guarded guard => by_cases hadmits : d.admits guard = true <;> simp [hadmits]

/-- What a request does that is resumed. -/
inductive Ran (r : Request) : Prop where
  /-- It gets the answer that it waited for. -/
  | answered {payload : List UInt8} {awaited : Awaited} (stage : r.stage = .made payload awaited)
      (body : requestBody d now r = (d.arrive r.purpose payload awaited, none))
  /-- It starts, and is over. -/
  | finished {pool : Pool} {outcome : Outcome} (stage : r.stage = .fresh)
      (course : d.course r.purpose = .ended pool outcome)
      (body : requestBody d now r = (({ d with pool } : Dispatcher).finish outcome r.purpose, none))
  /-- It starts, and gets its answer at once. -/
  | prompt {awaited : Awaited} (stage : r.stage = .fresh)
      (course : d.course r.purpose = .asked awaited 0)
      (body : requestBody d now r
        = ((d.shipped r.purpose).arrive r.purpose (Start.mk d r.purpose).payload awaited, none))
  /-- It starts, and waits for its answer. -/
  | waits {awaited : Awaited} {delay : Nat} (stage : r.stage = .fresh)
      (course : d.course r.purpose = .asked awaited delay) (late : delay ≠ 0)
      (body : requestBody d now r
        = (d.shipped r.purpose,
          some
            { due := now + delay
              task :=
                { purpose := r.purpose, stage := .made (Start.mk d r.purpose).payload awaited } }))

/-- **What a request does that is resumed**, by its stage and its course. -/
theorem ran (r : Request) : Ran d now r := by
  cases hstage : r.stage with
  | made payload awaited =>
      apply Ran.answered hstage
      simp only [requestBody, hstage]
  | fresh =>
      have hbody : requestBody d now r = d.make now r.purpose := by simp only [requestBody, hstage]
      rw [make_eq] at hbody
      cases hcourse : d.course r.purpose with
      | ended pool outcome =>
          rw [hcourse] at hbody
          exact .finished hstage hcourse hbody
      | asked awaited delay =>
          rw [hcourse] at hbody
          simp only [await] at hbody
          by_cases hdelay : delay = 0
          · subst hdelay
            exact .prompt hstage hcourse hbody
          · rw [if_neg hdelay] at hbody
            exact .waits hstage hcourse hdelay hbody

theorem settled_finish (outcome : Outcome) :
    (d.finish outcome purpose).settled
      = d.settled ++ (Ending.mk purpose (some outcome)).settlement?.toList := by
  cases purpose with
  | dispatch player standing snapshot => rfl
  | inquiry window => exact (List.append_nil _).symm

theorem settled_abandon :
    (d.abandon purpose).settled = d.settled ++ (Ending.mk purpose none).settlement?.toList := by
  cases purpose <;> exact (List.append_nil _).symm

/-- **A request that ends** hands over the outcome that its answer stands for. -/
theorem settled_arrive :
    (d.arrive purpose payload awaited).settled
      = d.settled ++ (Ending.mk purpose (d.outcome? awaited)).settlement?.toList := by
  rw [arrive_eq]
  cases d.outcome? awaited with
  | none => exact settled_abandon _ purpose
  | some outcome =>
      refine (settled_finish _ purpose outcome).trans ?_
      cases awaited <;> rfl

/-- Endings hand nothing to the endpoint. -/
theorem shipments_finish (outcome : Outcome) :
    (d.finish outcome purpose).trace.shipments = d.trace.shipments := by
  cases purpose <;> rfl

theorem shipments_arrive :
    (d.arrive purpose payload awaited).trace.shipments = d.trace.shipments := by
  rw [arrive_eq]
  cases d.outcome? awaited with
  | none => cases purpose <;> rfl
  | some outcome =>
      refine (shipments_finish _ purpose outcome).trans ?_
      cases awaited <;> rfl

/-- How a request ends that is resumed now, if it does. -/
def ending? (r : Request) : Option Ending :=
  match requestBody d now r with
  | (_, some _) => none
  | (after, none) =>
    some { purpose := r.purpose, outcome := after.settled[d.settled.length]?.map (·.outcome) }

/-- What resuming a request does: it waits for an answer, or it has ended. -/
inductive Resumed (r : Request) : Prop where
  /-- The request has started, and waits for an answer. -/
  | waits {next : Timed Request} (waiting : (requestBody d now r).2 = some next)
      (settled : (requestBody d now r).1.settled = d.settled)
      (purpose : next.task.purpose = r.purpose)
      (made : ∃ payload awaited, next.task.stage = .made payload awaited)
      (started : r.stage = .fresh) (ending : d.ending? now r = none)
  /-- The request has ended. -/
  | ends {e : Ending} (waiting : (requestBody d now r).2 = none)
      (settled : (requestBody d now r).1.settled = d.settled ++ e.settlement?.toList)
      (purpose : e.purpose = r.purpose) (ending : d.ending? now r = some e)

/-- A request that ends with an outcome, or without one, can be seen to do so. -/
theorem resumed_of_settled {r : Request} {after : Dispatcher} {outcome : Option Outcome}
    (body : requestBody d now r = (after, none))
    (settled : after.settled = d.settled ++ (Ending.mk r.purpose outcome).settlement?.toList) :
    Resumed d now r := by
  let seen := after.settled[d.settled.length]?.map (·.outcome)
  have hending : d.ending? now r = some ⟨r.purpose, seen⟩ := by
    simp only [ending?, body]
    rfl
  have hseen : (Ending.mk r.purpose outcome).settlement? = (Ending.mk r.purpose seen).settlement? := by
    cases hpurpose : r.purpose with
    | inquiry window => rfl
    | dispatch player standing snapshot =>
        rw [hpurpose] at settled
        cases outcome with
        | none => simp [seen, settled, Ending.settlement?]
        | some outcome => simp [seen, settled, Ending.settlement?]
  refine .ends (congrArg Prod.snd body) ?_ rfl hending
  rw [← hseen, ← settled, body]

/-- **What resuming a request does.** -/
theorem resumed_requestBody (r : Request) : Resumed d now r := by
  cases d.ran now r with
  | answered stage body => exact d.resumed_of_settled now body (d.settled_arrive r.purpose _ _)
  | finished stage course body => exact d.resumed_of_settled now body (settled_finish _ r.purpose _)
  | prompt stage course body =>
      exact d.resumed_of_settled now body (settled_arrive (d.shipped r.purpose) r.purpose _ _)
  | waits stage course late body =>
      refine .waits (congrArg Prod.snd body) ?_ rfl ⟨_, _, rfl⟩ stage ?_
      · rw [body]
        rfl
      · simp only [ending?, body]

/-- **The endpoint gets the payload of a request when it starts.** -/
theorem shipments_requestBody (r : Request) :
    (requestBody d now r).1.trace.shipments
      = match r.stage with
        | .fresh => d.trace.shipments ++ (Start.mk d r.purpose).shipment?.toList
        | .made _ _ => d.trace.shipments := by
  rw [shipment?_eq]
  cases d.ran now r with
  | answered stage body =>
      rw [body, stage]
      exact d.shipments_arrive r.purpose _ _
  | finished stage course body =>
      rw [body, stage, course]
      exact (shipments_finish _ r.purpose _).trans (List.append_nil _).symm
  | prompt stage course body =>
      rw [body, stage, course]
      exact shipments_arrive (d.shipped r.purpose) r.purpose _ _
  | waits stage course late body =>
      rw [body, stage, course]
      rfl

/-- Requests leave the service alone. -/
theorem service_arrive : (d.arrive purpose payload awaited).service = d.service := by
  rw [arrive_eq]
  cases d.outcome? awaited with
  | none => cases purpose <;> rfl
  | some outcome => cases awaited <;> cases purpose <;> rfl

theorem service_requestBody (r : Request) : (requestBody d now r).1.service = d.service := by
  cases d.ran now r with
  | answered stage body =>
      rw [body]
      exact d.service_arrive r.purpose _ _
  | finished stage course body =>
      rw [body]
      cases r.purpose <;> rfl
  | prompt stage course body =>
      rw [body]
      exact service_arrive (d.shipped r.purpose) r.purpose _ _
  | waits stage course late body =>
      rw [body]
      rfl

/-! ### What becomes of the buffers -/

theorem pool_finish (outcome : Outcome) : (d.finish outcome purpose).pool = purpose.giveBack d.pool := by
  cases purpose <;> rfl

theorem pool_abandon : (d.abandon purpose).pool = purpose.giveBack d.pool := by
  cases purpose <;> rfl

/-- **A request that ends** gives everything back that it has on loan. -/
theorem pool_arrive :
    (d.arrive purpose payload awaited).pool = purpose.giveBack (d.pool.returnPayload payload) := by
  rw [arrive_eq]
  cases d.outcome? awaited with
  | none => exact pool_abandon _ purpose
  | some outcome =>
      refine (pool_finish _ purpose outcome).trans ?_
      cases awaited <;> rfl

section

variable {d} {P : Pool → Prop} (kept : Pool.Kept P) (h : P d.pool)
include kept h

/-- A request that is over at once uses the pool as everybody does. -/
theorem kept_of_course {pool : Pool} {outcome : Outcome}
    (course : d.course purpose = .ended pool outcome) : P pool := by
  unfold Dispatcher.course at course
  split at course
  · cases course
    exact h
  · cases course
  · split at course <;> cases course
    exact kept.returnPayload (kept.lendPayload h) _

/-- **What is kept by using the pool** is kept by requests. -/
theorem kept_requestBody (r : Request) : P (requestBody d now r).1.pool := by
  have hshipped : P (d.shipped r.purpose).pool := kept.lendPayload h
  cases d.ran now r with
  | @answered payload awaited stage body =>
      rw [body, pool_arrive]
      exact kept.giveBack (kept.returnPayload h payload) r.purpose
  | @finished pool outcome stage course body =>
      rw [body, pool_finish]
      exact kept.giveBack (kept_of_course r.purpose kept h course) r.purpose
  | prompt stage course body =>
      rw [body, pool_arrive]
      exact kept.giveBack (kept.returnPayload hshipped _) r.purpose
  | waits stage course late body =>
      rw [body]
      exact hshipped

end

/-- Whether the endpoint is asked, and what it answers, does not depend on the pool. -/
theorem course_withPool {d : Dispatcher} {purpose : Purpose} {awaited : Awaited} {delay : Nat} (p : Pool)
    (h : d.course purpose = .asked awaited delay) :
    course { d with pool := p } purpose = .asked awaited delay := by
  unfold course at h ⊢
  rcases hlink : d.service.link with _ | link
  · simp only [hlink, reduceCtorEq] at h
  · cases link with
    | direct =>
        simp only [hlink] at h ⊢
        exact h
    | guarded guard =>
        by_cases hadmits : d.admits guard = true
        · simp only [hlink, hadmits, if_true] at h
          exact (if_pos hadmits).trans h
        · simp only [hlink, hadmits, if_false, Bool.false_eq_true, reduceCtorEq] at h

/-- **What a request waits for** that starts, by its course. -/
theorem waiting_make :
    (d.make now purpose).2
      = match d.course purpose with
        | .ended _ _ => none
        | .asked awaited delay =>
          if delay = 0 then none
          else some
            { due := now + delay
              task := { purpose, stage := .made (Start.mk d purpose).payload awaited } } := by
  rw [make_eq]
  cases d.course purpose with
  | ended pool outcome => rfl
  | asked awaited delay =>
      simp only [await]
      split <;> rfl

/-- What a request waits for does not depend on the pool, as long as its buffers are empty. -/
theorem waiting_withPool {d : Dispatcher} (clean : d.pool.Clean) {p : Pool} (other : p.Clean) :
    (make { d with pool := p } now purpose).2 = (d.make now purpose).2 := by
  have hpayload : (Start.mk { d with pool := p } purpose).payload = (Start.mk d purpose).payload :=
    (Start.payload_eq_encode (s := ⟨{ d with pool := p }, purpose⟩) other).trans
      (Start.payload_eq_encode (s := ⟨d, purpose⟩) clean).symm
  rw [waiting_make, waiting_make, hpayload]
  cases hcourse : d.course purpose with
  | asked awaited delay => rw [course_withPool p hcourse]
  | ended pool outcome =>
      cases hother : course { d with pool := p } purpose with
      | ended pool' outcome' => rfl
      | asked awaited delay =>
          have hback := course_withPool d.pool hother
          exact absurd (hcourse.symm.trans hback) nofun

theorem clean_requestBody {d : Dispatcher} (clean : d.pool.Clean) (r : Request) :
    (requestBody d now r).1.pool.Clean :=
  kept_requestBody now Pool.kept_clean clean r

end Dispatcher

end AimAnalysis
