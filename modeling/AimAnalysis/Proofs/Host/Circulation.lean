import AimAnalysis.Proofs.Host.Requests
import Mathlib.Data.List.Induction
import Mathlib.Order.Basic

/-!
# Buffers in circulation

A pool, the buffers that it has lent, and the requests that wait with a payload of it. A `Circulation` is what
becomes of them when everybody who shares the pool does as they like: buffers are borrowed, written into at
will and given up at any time, and services of any state start requests and end them in any order.

* `Shelf.length_giveBack` — a buffer that comes back is one more idle buffer, unless the limit is reached.
* `Circulation.Sound` — the invariant: idle buffers are empty and within the limit, a request that waits has
  its payload, and what the endpoint got is the wire form of a window. Every step keeps it (`Sound.step`).
* `Circulation.Orderly` — what that means for loans, for buffers that are given up, and for requests
  (`Circulation.orderly_of_run`).
* `Circulation.sameLoans_run` — reuse cannot be observed: under the limit zero, where every buffer is a new
  one, the same is lent, waits and is handed over.
-/

namespace AimAnalysis

/-! ### Idle buffers -/

/-- One more than a number, unless that is the limit. -/
def raised (limit n : Nat) : Nat := if n = limit then n else n + 1

theorem raised_le {limit n : Nat} (h : n ≤ limit) : raised limit n ≤ limit := by
  unfold raised
  split_ifs with hfull
  · exact h
  · omega

/-- A buffer that comes back is one more idle buffer, unless the limit is reached. -/
theorem Shelf.length_giveBack {α : Type} {limit : Nat} {s : Shelf α} (h : s.idle.length ≤ limit)
    (buffer : List α) : (s.giveBack limit buffer).idle.length = raised limit s.idle.length := by
  unfold Shelf.giveBack raised
  split_ifs with hroom hfull hfull
  · omega
  · exact List.length_cons
  · rfl
  · omega

theorem Shelf.length_afterLending_le {α : Type} (s : Shelf α) :
    s.afterLending.idle.length ≤ s.idle.length := by
  rw [Shelf.afterLending, List.length_tail]
  exact Nat.sub_le _ 1

/-- A pool with a limit whose idle buffers are empty, and no more of a kind than the limit. -/
structure Pool.Sound (limit : Nat) (p : Pool) : Prop extends p.Clean where
  /-- The limit. -/
  limit_eq : p.limit = limit
  /-- Idle snapshots are within the limit. -/
  idleSnapshots_le : p.idleSnapshots ≤ limit
  /-- Idle payloads are within the limit. -/
  idlePayloads_le : p.idlePayloads ≤ limit

namespace Pool

variable {limit : Nat} {p : Pool}

theorem sound_empty (limit : Nat) : Sound limit { limit } where
  snapshots := clean_empty.snapshots
  payloads := clean_empty.payloads
  limit_eq := rfl
  idleSnapshots_le := Nat.zero_le _
  idlePayloads_le := Nat.zero_le _

/-- A snapshot that comes back is counted. -/
theorem Sound.idleSnapshots_returnSnapshot (h : p.Sound limit) (buffer : List Tick) :
    (p.returnSnapshot buffer).idleSnapshots = raised limit p.idleSnapshots := by
  obtain rfl := h.limit_eq
  exact Shelf.length_giveBack h.idleSnapshots_le buffer

/-- A payload that comes back is counted. -/
theorem Sound.idlePayloads_returnPayload (h : p.Sound limit) (buffer : List UInt8) :
    (p.returnPayload buffer).idlePayloads = raised limit p.idlePayloads := by
  obtain rfl := h.limit_eq
  exact Shelf.length_giveBack h.idlePayloads_le buffer

theorem kept_sound (limit : Nat) : Kept (Sound limit) where
  lendSnapshot {p} h :=
    { h.toClean.lendSnapshot, h with
      idleSnapshots_le := Nat.le_trans (Shelf.length_afterLending_le p.snapshots) h.idleSnapshots_le }
  lendPayload {p} h :=
    { h.toClean.lendPayload, h with
      idlePayloads_le := Nat.le_trans (Shelf.length_afterLending_le p.payloads) h.idlePayloads_le }
  returnSnapshot h buffer :=
    { h.toClean.returnSnapshot buffer, h with
      idleSnapshots_le := (h.idleSnapshots_returnSnapshot buffer).trans_le (raised_le h.idleSnapshots_le) }
  returnPayload h buffer :=
    { h.toClean.returnPayload buffer, h with
      idlePayloads_le := (h.idlePayloads_returnPayload buffer).trans_le (raised_le h.idlePayloads_le) }

end Pool

/-- A pool and everything that it has lent. -/
structure Circulation extends Lending where
  /-- Requests that wait for an answer, oldest first. -/
  waiting : List Request := []
  /-- Payloads handed to the endpoint, in order. -/
  handed : List Shipment := []

namespace Circulation

/-- Something that is done by somebody who shares the pool. A buffer or a request is named by its place,
and a place that is not taken names none. Besides the pool a service is in whatever state it is. -/
inductive Act where
  /-- Borrows, attaches, appends to or gives up a buffer. -/
  | lending (action : Lending.Action)
  /-- Writes a snapshot over. -/
  | rewriteSnapshot (place : Nat) (ticks : List Tick)
  /-- Writes a payload over. -/
  | rewritePayload (place : Nat) (bytes : List UInt8)
  /-- Writes the payload over that a request waits with. -/
  | rewriteWaiting (place : Nat) (bytes : List UInt8)
  /-- A service classifies a window. -/
  | classify (d : Dispatcher) (now : Nat) (window : List Tick)
  /-- A service classifies the window in a snapshot, which goes with the request. -/
  | dispatch (d : Dispatcher) (now player standing place : Nat)
  /-- A service classifies a window over a transport that keeps the payload for itself. -/
  | entrust (d : Dispatcher) (window : List Tick)
  /-- A request gets its answer. -/
  | answer (d : Dispatcher) (now place : Nat)

/-- A service that shares the pool. -/
def sharing (c : Circulation) (d : Dispatcher) : Dispatcher :=
  { d with pool := c.pool, trace := { d.trace with shipments := c.handed } }

/-- A service resumes a request. -/
def serve (c : Circulation) (d : Dispatcher) (now : Nat) (r : Request) : Circulation :=
  let (after, waiting) := Dispatcher.requestBody (c.sharing d) now r
  { c with
    pool := after.pool
    handed := after.trace.shipments
    waiting := c.waiting ++ (waiting.map (·.task)).toList }

/-- A request with another text in its payload. -/
def rewritten (bytes : List UInt8) (r : Request) : Request :=
  match r.stage with
  | .fresh => r
  | .made _ awaited => { r with stage := .made bytes awaited }

/-- Does one thing. -/
def step (c : Circulation) : Act → Circulation
  | .lending action => { c with toLending := c.toLending.step action }
  | .rewriteSnapshot place ticks => { c with snapshots := c.snapshots.modify place fun _ => ticks }
  | .rewritePayload place bytes => { c with payloads := c.payloads.modify place ({ · with bytes }) }
  | .rewriteWaiting place bytes => { c with waiting := c.waiting.modify place (rewritten bytes) }
  | .classify d now window => c.serve d now { purpose := .inquiry window }
  | .dispatch d now player standing place =>
    match c.snapshots[place]? with
    | none => c
    | some snapshot =>
      serve { c with snapshots := c.snapshots.eraseIdx place } d now
        { purpose := .dispatch player standing snapshot }
  | .entrust d window =>
    let purpose := Purpose.inquiry window
    let payload := (Start.mk (c.sharing d) purpose).payload
    { c with
      pool := ((c.sharing d).shipped purpose).pool
      handed := ((c.sharing d).shipped purpose).trace.shipments
      payloads := c.payloads ++ [{ bytes := payload, pooled := true }] }
  | .answer d now place =>
    match c.waiting[place]? with
    | none => c
    | some r => serve { c with waiting := c.waiting.eraseIdx place } d now r

/-- A new pool with a limit, and what is then done in turn. -/
def run (limit : Nat) (acts : List Act) : Circulation :=
  acts.foldl step { pool := { limit } }

/-! ### What every step keeps -/

/-- The pool is sound, a request that waits has a payload, and what the endpoint got is the wire form of a
window. -/
structure Sound (limit : Nat) (c : Circulation) : Prop where
  /-- The pool is sound. -/
  pool : c.pool.Sound limit
  /-- A request that waits has a payload. -/
  made : ∀ r ∈ c.waiting, ∃ payload awaited, r.stage = .made payload awaited
  /-- The endpoint got windows. -/
  handed : ∀ s ∈ c.handed, s.payload = Codec.encode s.purpose.window

variable {limit : Nat} {c : Circulation}

/-- What the endpoint gets from a request that starts. -/
theorem handed_serve (clean : c.pool.Clean) (d : Dispatcher) (now : Nat) {r : Request}
    (fresh : r.stage = .fresh) :
    (c.serve d now r).handed
      = c.handed ++ if (Start.mk d r.purpose).isAdmitted
          then [{ purpose := r.purpose, payload := Codec.encode r.purpose.window }] else [] := by
  have hpayload := Start.payload_eq_encode (s := ⟨c.sharing d, r.purpose⟩) clean
  have hshipments := Dispatcher.shipments_requestBody (c.sharing d) now r
  rw [fresh, Start.shipment?, hpayload] at hshipments
  refine hshipments.trans (congrArg (c.handed ++ ·) ?_)
  change (if (Start.mk d r.purpose).isAdmitted then some _ else none).toList = _
  split_ifs <;> rfl

/-- What the endpoint gets from a request that goes with a snapshot. -/
theorem handed_dispatch (clean : c.pool.Clean) {place : Nat} {snapshot : List Tick}
    (taken : c.snapshots[place]? = some snapshot) (d : Dispatcher) (now player standing : Nat) :
    (c.step (.dispatch d now player standing place)).handed
      = c.handed ++ if (Start.mk d (.dispatch player standing snapshot)).isAdmitted
          then [{ purpose := .dispatch player standing snapshot, payload := Codec.encode snapshot }]
          else [] := by
  have hstep : c.step (.dispatch d now player standing place)
      = serve { c with snapshots := c.snapshots.eraseIdx place } d now
          { purpose := .dispatch player standing snapshot } := by
    simp only [step, taken]
  have hfresh : (Request.mk (.dispatch player standing snapshot) .fresh).stage = .fresh := rfl
  rw [hstep]
  exact handed_serve clean d now hfresh

theorem handed_serve_of_made (d : Dispatcher) (now : Nat) {r : Request} {payload : List UInt8}
    {awaited : Awaited} (made : r.stage = .made payload awaited) : (c.serve d now r).handed = c.handed := by
  have hshipments := Dispatcher.shipments_requestBody (c.sharing d) now r
  rw [made] at hshipments
  exact hshipments

/-- What a transport gets that keeps the payload for itself. -/
theorem step_entrust (clean : c.pool.Clean) (d : Dispatcher) (window : List Tick) :
    (c.step (.entrust d window)).handed
        = c.handed ++ [{ purpose := .inquiry window, payload := Codec.encode window }]
      ∧ (c.step (.entrust d window)).payloads
        = c.payloads ++ [{ bytes := Codec.encode window, pooled := true }] := by
  have hpayload := Start.payload_eq_encode (s := ⟨c.sharing d, .inquiry window⟩) clean
  simp only [step, Dispatcher.shipped, Dispatcher.ship]
  rw [hpayload]
  exact ⟨rfl, rfl⟩

/-- A request that gets its answer gives back what it has on loan. -/
theorem pool_serve_of_made (d : Dispatcher) (now : Nat) {r : Request} {payload : List UInt8}
    {awaited : Awaited} (made : r.stage = .made payload awaited) :
    (c.serve d now r).pool = r.purpose.giveBack (c.pool.returnPayload payload)
      ∧ (c.serve d now r).waiting = c.waiting := by
  have hbody : Dispatcher.requestBody (c.sharing d) now r
      = ((c.sharing d).arrive r.purpose payload awaited, none) := by
    simp only [Dispatcher.requestBody, made]
  refine ⟨?_, ?_⟩
  · exact (congrArg (·.1.pool) hbody).trans (Dispatcher.pool_arrive (c.sharing d) r.purpose payload awaited)
  · simp only [serve, hbody, Option.map_none, Option.toList_none, List.append_nil]

theorem exists_stage_rewritten (bytes : List UInt8) {r : Request}
    (h : ∃ payload awaited, r.stage = .made payload awaited) :
    ∃ payload awaited, (rewritten bytes r).stage = .made payload awaited := by
  obtain ⟨payload, awaited, hstage⟩ := h
  exact ⟨bytes, awaited, by simp only [rewritten, hstage]⟩

namespace Sound

/-- Requests keep the circulation sound. -/
theorem serve (h : c.Sound limit) (d : Dispatcher) (now : Nat) (r : Request) :
    (c.serve d now r).Sound limit where
  pool := Dispatcher.kept_requestBody now (Pool.kept_sound limit) h.pool r
  made := by
    intro waiting hmem
    rcases List.mem_append.mp hmem with hbefore | hnew
    · exact h.made waiting hbefore
    · obtain ⟨next, hnext, rfl⟩ := Option.map_eq_some_iff.mp (Option.mem_toList.mp hnew)
      cases Dispatcher.resumed_requestBody (c.sharing d) now r with
      | waits waiting settled purpose made started ending =>
          obtain rfl := Option.some.inj (waiting.symm.trans hnext)
          exact made
      | ends waiting settled purpose ending => exact absurd (waiting.symm.trans hnext) nofun
  handed := by
    intro s hmem
    cases hstage : r.stage with
    | fresh =>
        rw [handed_serve h.pool.toClean d now hstage] at hmem
        rcases List.mem_append.mp hmem with hbefore | hnew
        · exact h.handed s hbefore
        · split_ifs at hnew
          · rw [List.mem_singleton.mp hnew]
          · exact absurd hnew List.not_mem_nil
    | made payload awaited =>
        rw [handed_serve_of_made d now hstage] at hmem
        exact h.handed s hmem

/-- Whatever is done with buffers keeps the pool sound. -/
theorem lending (h : c.Sound limit) (action : Lending.Action) :
    (c.toLending.step action).pool.Sound limit := by
  have kept := Pool.kept_sound limit
  cases action with
  | borrowSnapshot => exact kept.lendSnapshot h.pool
  | borrowPayload => exact kept.lendPayload h.pool
  | attach bytes => exact h.pool
  | fill place ticks => exact h.pool
  | write place bytes => exact h.pool
  | dropSnapshot place =>
      simp only [Lending.step]
      split
      · exact h.pool
      · exact kept.returnSnapshot h.pool _
  | dropPayload place =>
      simp only [Lending.step]
      split
      · exact h.pool
      · dsimp only
        split
        · exact kept.returnPayload h.pool _
        · exact h.pool

/-- **Every step keeps the circulation sound.** -/
theorem step (h : c.Sound limit) (act : Act) : (c.step act).Sound limit := by
  cases act with
  | lending action => exact ⟨h.lending action, h.made, h.handed⟩
  | rewriteSnapshot place ticks => exact ⟨h.pool, h.made, h.handed⟩
  | rewritePayload place bytes => exact ⟨h.pool, h.made, h.handed⟩
  | rewriteWaiting place bytes =>
      refine ⟨h.pool, fun r hr => ?_, h.handed⟩
      obtain ⟨i, hi⟩ := List.mem_iff_getElem?.mp hr
      rw [Circulation.step, List.getElem?_modify, Option.map_eq_map, Option.map_eq_some_iff] at hi
      obtain ⟨before, hbefore, rfl⟩ := hi
      have hmade := h.made before (List.mem_of_getElem? hbefore)
      split_ifs
      · exact exists_stage_rewritten bytes hmade
      · exact hmade
  | classify d now window => exact h.serve d now { purpose := .inquiry window }
  | dispatch d now player standing place =>
      simp only [Circulation.step]
      split
      · exact h
      · refine serve ?_ d now _
        exact ⟨h.pool, h.made, h.handed⟩
  | entrust d window =>
      refine ⟨(Pool.kept_sound limit).lendPayload h.pool, h.made, fun s hs => ?_⟩
      rw [(step_entrust h.pool.toClean d window).1] at hs
      rcases List.mem_append.mp hs with hbefore | hnew
      · exact h.handed s hbefore
      · rw [List.mem_singleton.mp hnew]
        rfl
  | answer d now place =>
      simp only [Circulation.step]
      split
      · exact h
      · refine serve ?_ d now _
        exact ⟨h.pool, fun r hr => h.made r (List.mem_of_mem_eraseIdx hr), h.handed⟩

end Sound

/-- The circulation is sound at every moment. -/
theorem sound_run (limit : Nat) (acts : List Act) : (run limit acts).Sound limit := by
  have hempty : ({ pool := { limit } } : Circulation).Sound limit :=
    ⟨Pool.sound_empty limit, fun _ h => absurd h List.not_mem_nil, fun _ h => absurd h List.not_mem_nil⟩
  unfold run
  generalize ({ pool := { limit } } : Circulation) = c at hempty
  induction acts generalizing c with
  | nil => exact hempty
  | cons act rest ih => exact ih _ (hempty.step act)

/-! ### Loans, returns and requests -/

/-- What holds whenever buffers circulate under a limit. -/
structure Orderly (limit : Nat) (c : Circulation) : Prop where
  /-- All idle buffers are empty. -/
  clean : c.pool.Clean
  /-- No more snapshots are idle than the limit. -/
  idleSnapshots_le : c.pool.idleSnapshots ≤ limit
  /-- No more payloads are idle than the limit. -/
  idlePayloads_le : c.pool.idlePayloads ≤ limit
  /-- A snapshot is empty when it is lent. -/
  lent_snapshot : (c.step (.lending .borrowSnapshot)).snapshots = c.snapshots ++ [[]]
  /-- A payload is empty when it is lent. -/
  lent_payload : (c.step (.lending .borrowPayload)).payloads = c.payloads ++ [{ bytes := [], pooled := true }]
  /-- A snapshot that is given up is one more idle snapshot, unless there are as many as the limit. -/
  dropped_snapshot : ∀ place buffer, c.snapshots[place]? = some buffer →
    (c.step (.lending (.dropSnapshot place))).pool.idleSnapshots = raised limit c.pool.idleSnapshots
      ∧ (c.step (.lending (.dropSnapshot place))).pool.idlePayloads = c.pool.idlePayloads
  /-- A payload of the pool that is given up is one more idle payload, unless there are as many as the
  limit. -/
  dropped_payload : ∀ place bytes, c.payloads[place]? = some { bytes, pooled := true } →
    (c.step (.lending (.dropPayload place))).pool.idlePayloads = raised limit c.pool.idlePayloads
      ∧ (c.step (.lending (.dropPayload place))).pool.idleSnapshots = c.pool.idleSnapshots
  /-- A payload of another origin does not enter the pool. -/
  dropped_detached : ∀ place bytes, c.payloads[place]? = some { bytes, pooled := false } →
    (c.step (.lending (.dropPayload place))).pool = c.pool
  /-- A request that gets its answer gives up its payload, and the snapshot that goes with it. -/
  answered : ∀ place r, c.waiting[place]? = some r → ∀ d now,
    (c.step (.answer d now place)).waiting = c.waiting.eraseIdx place
      ∧ (c.step (.answer d now place)).pool.idlePayloads = raised limit c.pool.idlePayloads
      ∧ (c.step (.answer d now place)).pool.idleSnapshots
        = if r.purpose.isDispatch then raised limit c.pool.idleSnapshots else c.pool.idleSnapshots
  /-- A service that classifies a window hands the wire form of it to the endpoint, and nothing else, if it
  has a transport whose guard admits the request. -/
  classified : ∀ d now window, (c.step (.classify d now window)).handed
    = c.handed ++ if (Start.mk d (.inquiry window)).isAdmitted
        then [{ purpose := .inquiry window, payload := Codec.encode window }] else []
  /-- So does one that classifies the window in a snapshot. -/
  dispatched : ∀ place snapshot, c.snapshots[place]? = some snapshot → ∀ d now player standing,
    (c.step (.dispatch d now player standing place)).handed
      = c.handed ++ if (Start.mk d (.dispatch player standing snapshot)).isAdmitted
          then [{ purpose := .dispatch player standing snapshot, payload := Codec.encode snapshot }] else []
  /-- A transport that keeps the payload for itself gets the same, in a payload of the pool. -/
  entrusted : ∀ d window,
    (c.step (.entrust d window)).handed
        = c.handed ++ [{ purpose := .inquiry window, payload := Codec.encode window }]
      ∧ (c.step (.entrust d window)).payloads
        = c.payloads ++ [{ bytes := Codec.encode window, pooled := true }]
  /-- Whatever the endpoint ever got is the wire form of a window. -/
  handed : ∀ s ∈ c.handed, s.payload = Codec.encode s.purpose.window

theorem dropped_snapshot {place : Nat} {buffer : List Tick} (taken : c.snapshots[place]? = some buffer) :
    (c.step (.lending (.dropSnapshot place))).pool = c.pool.returnSnapshot buffer := by
  simp only [Circulation.step, Lending.step, taken]

theorem dropped_payload {place : Nat} {p : Payload} (taken : c.payloads[place]? = some p) :
    (c.step (.lending (.dropPayload place))).pool
      = if p.pooled then c.pool.returnPayload p.bytes else c.pool := by
  simp only [Circulation.step, Lending.step, taken]

/-- A request that gets its answer gives up its payload, and the snapshot that goes with it. -/
theorem Sound.answered (h : c.Sound limit) {place : Nat} {r : Request}
    (taken : c.waiting[place]? = some r) (d : Dispatcher) (now : Nat) :
    (c.step (.answer d now place)).waiting = c.waiting.eraseIdx place
      ∧ (c.step (.answer d now place)).pool.idlePayloads = raised limit c.pool.idlePayloads
      ∧ (c.step (.answer d now place)).pool.idleSnapshots
        = if r.purpose.isDispatch then raised limit c.pool.idleSnapshots else c.pool.idleSnapshots := by
  obtain ⟨payload, awaited, made⟩ := h.made r (List.mem_of_getElem? taken)
  have hstep : c.step (.answer d now place)
      = Circulation.serve { c with waiting := c.waiting.eraseIdx place } d now r := by
    simp only [Circulation.step, taken]
  obtain ⟨hpool, hwaiting⟩ :=
    @pool_serve_of_made { c with waiting := c.waiting.eraseIdx place } d now r payload awaited made
  have hreturned := (Pool.kept_sound limit).returnPayload h.pool payload
  rw [hstep, hpool, hwaiting]
  refine ⟨rfl, ?_, ?_⟩
  · cases r.purpose <;> exact h.pool.idlePayloads_returnPayload payload
  · cases r.purpose with
    | dispatch player standing snapshot => exact hreturned.idleSnapshots_returnSnapshot snapshot
    | inquiry window => rfl

/-- **However buffers circulate**, by loans, writes, returns in any order and requests of any services that
share the pool: all idle buffers are empty, and no more of a kind than the limit; a buffer is empty when it
is lent, counted when it comes back, and not taken in from elsewhere; and a service hands the wire form of
a window to the endpoint, byte by byte, whatever the payload held before. -/
theorem orderly_of_run (limit : Nat) (acts : List Act) : Orderly limit (run limit acts) := by
  have h := sound_run limit acts
  generalize run limit acts = c at h
  exact
    { clean := h.pool.toClean
      idleSnapshots_le := h.pool.idleSnapshots_le
      idlePayloads_le := h.pool.idlePayloads_le
      lent_snapshot := by
        have hlent : c.pool.lendSnapshot.1 = [] := h.pool.snapshots.lent_eq_nil
        simp only [step, Lending.step, hlent]
      lent_payload := by
        have hlent : c.pool.lendPayload.1 = [] := h.pool.payloads.lent_eq_nil
        simp only [step, Lending.step, hlent]
      dropped_snapshot := fun place buffer taken => by
        rw [dropped_snapshot taken]
        exact ⟨h.pool.idleSnapshots_returnSnapshot buffer, rfl⟩
      dropped_payload := fun place bytes taken => by
        rw [dropped_payload taken]
        exact ⟨h.pool.idlePayloads_returnPayload bytes, rfl⟩
      dropped_detached := fun place bytes taken => by
        rw [dropped_payload taken]
        rfl
      answered := fun place r taken d now => h.answered taken d now
      classified := fun d now window => handed_serve h.pool.toClean d now rfl
      dispatched := fun place snapshot taken => handed_dispatch h.pool.toClean taken
      entrusted := fun d window => step_entrust h.pool.toClean d window
      handed := h.handed }

/-! ### Reuse cannot be observed -/

/-- Two circulations that are the same apart from the pool. -/
structure SameLoans (c c' : Circulation) : Prop where
  /-- The snapshots on loan are the same. -/
  snapshots : c'.snapshots = c.snapshots
  /-- The payloads on loan are the same. -/
  payloads : c'.payloads = c.payloads
  /-- The same requests wait. -/
  waiting : c'.waiting = c.waiting
  /-- The endpoint got the same. -/
  handed : c'.handed = c.handed

namespace SameLoans

variable {c c' : Circulation}

theorem exists_eq (h : SameLoans c c') : ∃ p, c' = { c with pool := p } := by
  obtain ⟨⟨pool, snapshots, payloads⟩, waiting, handed⟩ := c'
  obtain ⟨rfl, rfl, rfl, rfl⟩ := h
  exact ⟨pool, rfl⟩

theorem refl (c : Circulation) (p : Pool) : SameLoans c { c with pool := p } := ⟨rfl, rfl, rfl, rfl⟩

variable {p : Pool} (clean : c.pool.Clean) (other : p.Clean)
include clean other

theorem serve (d : Dispatcher) (now : Nat) (r : Request) :
    SameLoans (c.serve d now r) (Circulation.serve { c with pool := p } d now r) := by
  cases hstage : r.stage with
  | made payload awaited =>
      have hwaiting (c : Circulation) : (c.serve d now r).waiting = c.waiting :=
        (pool_serve_of_made d now hstage).2
      have hhanded (c : Circulation) : (c.serve d now r).handed = c.handed :=
        handed_serve_of_made d now hstage
      exact ⟨rfl, rfl, (hwaiting _).trans (hwaiting c).symm, (hhanded _).trans (hhanded c).symm⟩
  | fresh =>
      have hwaiting : (Dispatcher.requestBody (sharing { c with pool := p } d) now r).2
          = (Dispatcher.requestBody (c.sharing d) now r).2 := by
        simp only [Dispatcher.requestBody, hstage]
        exact Dispatcher.waiting_withPool now r.purpose (d := c.sharing d) clean other
      have hhanded := handed_serve (c := { c with pool := p }) other d now hstage
      exact ⟨rfl, rfl, congrArg (fun w => c.waiting ++ (Option.map Timed.task w).toList) hwaiting,
        hhanded.trans (handed_serve clean d now hstage).symm⟩

theorem lending (action : Lending.Action) :
    SameLoans (c.step (.lending action)) (Circulation.step { c with pool := p } (.lending action)) := by
  cases action with
  | borrowSnapshot =>
      have hlent : p.lendSnapshot.1 = c.pool.lendSnapshot.1 :=
        other.snapshots.lent_eq_nil.trans clean.snapshots.lent_eq_nil.symm
      exact ⟨congrArg (fun buffer => c.snapshots ++ [buffer]) hlent, rfl, rfl, rfl⟩
  | borrowPayload =>
      have hlent : p.lendPayload.1 = c.pool.lendPayload.1 :=
        other.payloads.lent_eq_nil.trans clean.payloads.lent_eq_nil.symm
      exact ⟨rfl, congrArg (fun bytes => c.payloads ++ [{ bytes, pooled := true }]) hlent, rfl, rfl⟩
  | attach bytes => exact ⟨rfl, rfl, rfl, rfl⟩
  | fill place ticks => exact ⟨rfl, rfl, rfl, rfl⟩
  | write place bytes => exact ⟨rfl, rfl, rfl, rfl⟩
  | dropSnapshot place =>
      cases htaken : c.snapshots[place]? with
      | none =>
          simp only [Circulation.step, Lending.step, htaken]
          exact refl c p
      | some buffer =>
          simp only [Circulation.step, Lending.step, htaken]
          exact ⟨rfl, rfl, rfl, rfl⟩
  | dropPayload place =>
      cases htaken : c.payloads[place]? with
      | none =>
          simp only [Circulation.step, Lending.step, htaken]
          exact refl c p
      | some payload =>
          simp only [Circulation.step, Lending.step, htaken]
          exact ⟨rfl, rfl, rfl, rfl⟩

/-- **Every step does the same** whatever pool it draws on. -/
theorem step (act : Act) : SameLoans (c.step act) (Circulation.step { c with pool := p } act) := by
  cases act with
  | lending action => exact lending clean other action
  | rewriteSnapshot place ticks => exact ⟨rfl, rfl, rfl, rfl⟩
  | rewritePayload place bytes => exact ⟨rfl, rfl, rfl, rfl⟩
  | rewriteWaiting place bytes => exact ⟨rfl, rfl, rfl, rfl⟩
  | classify d now window => exact serve clean other d now { purpose := .inquiry window }
  | dispatch d now player standing place =>
      cases htaken : c.snapshots[place]? with
      | none =>
          simp only [Circulation.step, htaken]
          exact refl c p
      | some snapshot =>
          simp only [Circulation.step, htaken]
          exact serve (c := { c with snapshots := c.snapshots.eraseIdx place }) clean other d now _
  | entrust d window =>
      obtain ⟨hhanded, hpayloads⟩ := step_entrust clean d window
      obtain ⟨hhanded', hpayloads'⟩ := step_entrust (c := { c with pool := p }) other d window
      exact ⟨rfl, hpayloads'.trans hpayloads.symm, rfl, hhanded'.trans hhanded.symm⟩
  | answer d now place =>
      cases htaken : c.waiting[place]? with
      | none =>
          simp only [Circulation.step, htaken]
          exact refl c p
      | some r =>
          simp only [Circulation.step, htaken]
          exact serve (c := { c with waiting := c.waiting.eraseIdx place }) clean other d now r

end SameLoans

/-- **Reuse cannot be observed.** Whatever the limit is, loans, requests and the endpoint see the same; under the
limit zero no buffer is ever used again. -/
theorem sameLoans_run (limit limit' : Nat) (acts : List Act) :
    SameLoans (run limit acts) (run limit' acts) := by
  induction acts using List.reverseRecOn with
  | nil => exact .refl _ _
  | append_singleton acts act ih =>
      obtain ⟨p, hother⟩ := ih.exists_eq
      have hclean := (sound_run limit acts).pool.toClean
      have hpool : p.Clean := by
        have := (sound_run limit' acts).pool.toClean
        rwa [hother] at this
      unfold run at hother hclean ⊢
      rw [List.foldl_append, List.foldl_append, hother]
      exact SameLoans.step hclean hpool act

end Circulation

end AimAnalysis
