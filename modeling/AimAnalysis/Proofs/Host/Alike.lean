import AimAnalysis.Proofs.Host.Requests
import AimAnalysis.Proofs.Host.Moves
import Mathlib.Data.List.Forall2

/-!
# Answers that differ in somebody else's probabilities

Two answers of the endpoint are alike for a standing if they are the same, or if both name a probability and
the request does not concern the standing. Requests that get answers that are alike do the same, apart from
handing over outcomes that are alike.

* `Awaited.Alike`, `Reply.Alike`, `Outcome.Alike` — answers, replies and outcomes that are alike.
* `Dispatcher.seen` — what requests can see of what they work with, apart from the endpoint; everything that
  they do can be told from it and from the reply (`Dispatcher.eq_of_seen`).
* `Dispatcher.requestBody_alike`, `Timeline.resume_alike` — requests that are resumed stay alike.
-/

namespace AimAnalysis

/-! ### Answers that are alike -/

/-- A body that names a probability. -/
def Readable (body : String) : Prop := ∃ p, Response.probability body = .ok p

/-- Two answers that are the same, or two probabilities that are somebody else's. -/
inductive Awaited.Alike (own : Bool) : Awaited → Awaited → Prop where
  /-- The answers are the same. -/
  | same (awaited : Awaited) : Alike own awaited awaited
  /-- A plain transport names two probabilities. -/
  | direct {body body' : String} (others : own = false) (readable : Readable body)
      (readable' : Readable body') : Alike own (.direct (.ok body)) (.direct (.ok body'))
  /-- Two successful exchanges name them. -/
  | exchange {guard status : Nat} {body body' : String} (others : own = false)
      (success : Guard.isSuccess status = true) (readable : Readable body)
      (readable' : Readable body') :
      Alike own (.exchange guard (.response status body)) (.exchange guard (.response status body'))

/-- Two replies that take the same time, and mean answers that are alike. -/
structure Reply.Alike (own : Bool) (r r' : Reply) : Prop where
  /-- They take the same time. -/
  delay : r.delay = r'.delay
  /-- They mean the same to a plain transport. -/
  plain : Awaited.Alike own (Dispatcher.plainReply r) (Dispatcher.plainReply r')
  /-- They mean the same to an exchange. -/
  exchange : ∀ guard, Option.Rel (Awaited.Alike own) (Dispatcher.unlimitedReply guard r)
    (Dispatcher.unlimitedReply guard r')

/-- A reply is like itself. -/
theorem Reply.Alike.refl (own : Bool) (r : Reply) : Reply.Alike own r r := by
  refine ⟨rfl, .same _, ?_⟩
  intro guard
  cases Dispatcher.unlimitedReply guard r with
  | none => exact .none
  | some answer => exact .some (.same answer)

/-- Two outcomes that are the same, or two probabilities that are somebody else's. -/
inductive Outcome.Alike (own : Bool) : Outcome → Outcome → Prop where
  /-- The outcomes are the same. -/
  | same (outcome : Outcome) : Alike own outcome outcome
  /-- They are two probabilities. -/
  | probability {p p' : Float} (others : own = false) :
      Alike own (.ok (.probability p)) (.ok (.probability p'))

/-- A body that names a probability is read as one. -/
theorem Outcome.alike_ofAnswer {own : Bool} {body body' : String} (others : own = false)
    (readable : Readable body) (readable' : Readable body') :
    Outcome.Alike own (.ofAnswer (.ok body)) (.ofAnswer (.ok body')) := by
  obtain ⟨p, hp⟩ := readable
  obtain ⟨p', hp'⟩ := readable'
  rw [ofAnswer, ofAnswer, ofBody, ofBody, hp, hp']
  exact .probability others

/-- Outcomes that are alike change the service alike. -/
theorem Outcome.Alike.service_apply {own : Bool} {o o' : Outcome} (alike : Outcome.Alike own o o')
    (s : Service) (player : Nat) (standing standing' : Standing) :
    (s.apply player standing o).1 = (s.apply player standing' o').1 := by
  cases alike with
  | probability => rfl
  | same =>
      cases o with
      | error fault => rfl
      | ok verdict => cases verdict <;> rfl

/-! ### Requests and outcomes that are alike -/

section

variable (k : Nat)

/-- Two outcomes for the same standing that are alike. -/
structure Settlement.Alike (s s' : Settlement) : Prop where
  /-- They are for the same player. -/
  player : s.player = s'.player
  /-- They are for the same standing. -/
  standing : s.standing = s'.standing
  /-- They are alike. -/
  outcome : Outcome.Alike (s.standing == k) s.outcome s'.outcome

/-- Two requests for the same that have come as far, and wait for answers that are alike. -/
inductive Request.Alike : Request → Request → Prop where
  /-- They have not started. -/
  | fresh (purpose : Purpose) : Alike { purpose } { purpose }
  /-- They were made. -/
  | made (purpose : Purpose) (payload : List UInt8) {awaited awaited' : Awaited}
      (answers : Awaited.Alike (purpose.concerns k) awaited awaited') :
      Alike { purpose, stage := .made payload awaited } { purpose, stage := .made payload awaited' }

/-- Two requests that wait for the same time. -/
structure Timed.Alike (x x' : Timed Request) : Prop where
  /-- They wait for the same time. -/
  due : x.due = x'.due
  /-- They are alike. -/
  task : Request.Alike k x.task x'.task
  /-- They were made. -/
  started : x.task.stage ≠ .fresh

/-- A request is like itself. -/
theorem Request.Alike.refl (r : Request) : Request.Alike k r r := by
  obtain ⟨purpose, stage⟩ := r
  cases stage with
  | fresh => exact .fresh purpose
  | made payload awaited => exact .made purpose payload (.same awaited)

end

/-- Requests that start go on alike. -/
inductive Course.Alike (own : Bool) : Course → Course → Prop where
  /-- They are over. -/
  | ended (pool : Pool) (outcome : Outcome) : Alike own (.ended pool outcome) (.ended pool outcome)
  /-- They wait for answers that are alike. -/
  | asked {awaited awaited' : Awaited} (answers : Awaited.Alike own awaited awaited') (delay : Nat) :
      Alike own (.asked awaited delay) (.asked awaited' delay)

/-! ### What requests work with -/

namespace Dispatcher

/-- What requests can see of what they work with, apart from the endpoint. -/
def seen (d : Dispatcher) : Dispatcher :=
  { d with endpoint := { afterwards := {} }, settled := [], inquired := none, trace := {} }

/-- Two such that can be told apart by the endpoint, by what was said, and by somebody else's
probabilities only. -/
structure Alike (k : Nat) (d d' : Dispatcher) : Prop where
  /-- Requests see the same. -/
  seen : d.seen = d'.seen
  /-- The outcomes that wait are alike. -/
  settled : List.Forall₂ (Settlement.Alike k) d.settled d'.settled

variable {k : Nat} (now : Nat) {d d' : Dispatcher} {purpose : Purpose} {payload : List UInt8}

/-- What can be told from what requests see. -/
theorem eq_of_seen {α : Type} (f : Dispatcher → α) (sees : ∀ d, f d = f d.seen)
    (seen : d.seen = d'.seen) : f d = f d' := by
  rw [sees d, seen, ← sees d']

/-- The outcome that is handed over. -/
theorem forall₂_settlement? {o o' : Option Outcome}
    (alike : Option.Rel (Outcome.Alike (purpose.concerns k)) o o') :
    List.Forall₂ (Settlement.Alike k) (Ending.mk purpose o).settlement?.toList
      (Ending.mk purpose o').settlement?.toList := by
  cases purpose with
  | inquiry window => cases alike <;> exact .nil
  | dispatch player standing window =>
      cases alike with
      | none => exact .nil
      | some outcomes => exact .cons ⟨rfl, rfl, outcomes⟩ .nil

/-- Answers that are alike stand for outcomes that are alike. -/
theorem outcome?_alike (seen : d.seen = d'.seen) {own : Bool} {awaited awaited' : Awaited}
    (answers : Awaited.Alike own awaited awaited') :
    Option.Rel (Outcome.Alike own) (d.outcome? awaited) (d'.outcome? awaited') := by
  have hsame : ∀ a, d.outcome? a = d'.outcome? a := fun a =>
    eq_of_seen (outcome? · a) (fun d => by cases a <;> rfl) seen
  rw [← hsame]
  cases answers with
  | same =>
      cases d.outcome? awaited with
      | none => exact .none
      | some outcome => exact .some (.same outcome)
  | direct others readable readable' => exact .some (Outcome.alike_ofAnswer others readable readable')
  | @exchange guard status body body' others success readable readable' =>
      have hanswer : ∀ body, Guard.answer (.response status body) = .ok body := by
        intro body
        rw [Guard.answer, if_pos success]
      have hcan : d.canLearn guard (.response status body)
          = d.canLearn guard (.response status body') := rfl
      simp only [outcome?, hanswer, hcan]
      split
      · exact .some (Outcome.alike_ofAnswer others readable readable')
      · exact .none

/-- What a request leaves behind that ends is what it sees there, and its answer. -/
theorem seen_arrive (d : Dispatcher) (purpose : Purpose) (payload : List UInt8) (awaited : Awaited) :
    (d.arrive purpose payload awaited).seen = (d.seen.arrive purpose payload awaited).seen := by
  cases awaited with
  | direct answer => cases purpose <;> rfl
  | exchange guard outcome =>
      have hcan : d.seen.canLearn guard outcome = d.canLearn guard outcome := rfl
      change (if d.canLearn guard outcome then _ else _ : Dispatcher).seen
        = (if d.seen.canLearn guard outcome then _ else _ : Dispatcher).seen
      rw [hcan]
      split <;> cases purpose <;> rfl
  | nothing => cases purpose <;> rfl

/-- Answers that are alike leave the same behind. -/
theorem seen_arrive_of_alike (d : Dispatcher) {own : Bool} {awaited awaited' : Awaited}
    (answers : Awaited.Alike own awaited awaited') :
    (d.arrive purpose payload awaited).seen = (d.arrive purpose payload awaited').seen := by
  cases answers with
  | same => rfl
  | direct => cases purpose <;> rfl
  | @exchange guard status body body' others success readable readable' =>
      have hcan : d.canLearn guard (.response status body)
          = d.canLearn guard (.response status body') := rfl
      change (if d.canLearn guard (.response status body) then _ else _ : Dispatcher).seen
        = (if d.canLearn guard (.response status body') then _ else _ : Dispatcher).seen
      rw [hcan]
      split <;> cases purpose <;> rfl

theorem arrive_alike (alike : d.Alike k d') {awaited awaited' : Awaited}
    (answers : Awaited.Alike (purpose.concerns k) awaited awaited') :
    (d.arrive purpose payload awaited).Alike k (d'.arrive purpose payload awaited') := by
  refine ⟨?_, ?_⟩
  · rw [seen_arrive_of_alike d answers, seen_arrive, alike.seen, ← seen_arrive]
  · rw [settled_arrive, settled_arrive]
    exact List.rel_append alike.settled (forall₂_settlement? (outcome?_alike alike.seen answers))

/-- Waiting for answers that are alike. -/
theorem await_alike (alike : d.Alike k d') {awaited awaited' : Awaited}
    (answers : Awaited.Alike (purpose.concerns k) awaited awaited') (delay : Nat) :
    (d.await now delay purpose payload awaited).1.Alike k
        (d'.await now delay purpose payload awaited').1
      ∧ Option.Rel (Timed.Alike k) (d.await now delay purpose payload awaited).2
        (d'.await now delay purpose payload awaited').2 := by
  unfold await
  by_cases hnow : delay = 0
  · rw [if_pos hnow, if_pos hnow]
    exact ⟨arrive_alike alike answers, .none⟩
  · rw [if_neg hnow, if_neg hnow]
    exact ⟨alike, .some ⟨rfl, .made purpose payload answers, nofun⟩⟩

/-- A request that is over at once leaves outcomes that are alike. -/
theorem finish_alike (alike : d.Alike k d') (outcome : Outcome) :
    (d.finish outcome purpose).Alike k (d'.finish outcome purpose) := by
  constructor
  · have hseen : ∀ d : Dispatcher, (d.finish outcome purpose).seen = (d.seen.finish outcome purpose).seen := by
      intro d
      cases purpose <;> rfl
    rw [hseen, alike.seen, ← hseen]
  · rw [settled_finish, settled_finish]
    exact List.rel_append alike.settled (forall₂_settlement? (.some (.same outcome)))

/-- Replies that are alike let requests go on alike. -/
theorem course_alike (seen : d.seen = d'.seen) {own : Bool}
    (replies : Reply.Alike own d.endpoint.reply d'.endpoint.reply) :
    Course.Alike own (d.course purpose) (d'.course purpose) := by
  obtain ⟨hdelay, hplain, hexchange⟩ := replies
  have hlink : d.service.link = d'.service.link := eq_of_seen (·.service.link) (fun _ => rfl) seen
  have hpool : d.pool = d'.pool := eq_of_seen pool (fun _ => rfl) seen
  unfold course
  rw [← hlink, ← hpool, ← hdelay]
  rcases d.service.link with _ | link
  · exact .ended d.pool (.ok .disabled)
  · cases link with
    | direct => exact .asked hplain _
    | guarded guard =>
        have hadmits : d.admits guard = d'.admits guard :=
          eq_of_seen (admits · guard) (fun _ => rfl) seen
        have hlimit : d.limitOf guard = d'.limitOf guard :=
          eq_of_seen (limitOf · guard) (fun _ => rfl) seen
        have hexpired : d.expiredOf guard = d'.expiredOf guard :=
          eq_of_seen (expiredOf · guard) (fun _ => rfl) seen
        have hpayload : (Start.mk d purpose).payload = (Start.mk d' purpose).payload := by
          unfold Start.payload
          rw [hpool]
        simp only [← hadmits, ← hpayload]
        split
        · unfold guardedReply
          rw [← hdelay, ← hlimit, ← hexpired]
          have hmeant := hexchange guard
          generalize unlimitedReply guard d.endpoint.reply = answer at hmeant ⊢
          generalize unlimitedReply guard d'.endpoint.reply = answer' at hmeant ⊢
          cases hmeant with
          | none => exact .asked (.same _) _
          | some answers =>
              dsimp only
              split
              · exact .asked answers _
              · exact .asked (.same _) _
        · exact .ended _ _

/-- **Requests that start** with replies that are alike. -/
theorem make_alike (alike : d.Alike k d')
    (replies : Reply.Alike (purpose.concerns k) d.endpoint.reply d'.endpoint.reply) :
    (d.make now purpose).1.Alike k (d'.make now purpose).1
      ∧ Option.Rel (Timed.Alike k) (d.make now purpose).2 (d'.make now purpose).2 := by
  have hcourse : Course.Alike (purpose.concerns k) (d.course purpose) (d'.course purpose) :=
    course_alike alike.seen replies
  rw [make_eq, make_eq]
  generalize d.course purpose = course at hcourse ⊢
  generalize d'.course purpose = course' at hcourse ⊢
  cases hcourse with
  | ended pool outcome =>
      have hpool : ({ d with pool } : Dispatcher).Alike k { d' with pool } :=
        ⟨eq_of_seen (fun d => seen { d with pool }) (fun _ => rfl) alike.seen, alike.settled⟩
      exact ⟨finish_alike hpool outcome, .none⟩
  | @asked awaited awaited' answers delay =>
      have hpool : d.pool = d'.pool := eq_of_seen Dispatcher.pool (fun _ => rfl) alike.seen
      have hpayload : (Start.mk d purpose).payload = (Start.mk d' purpose).payload := by
        unfold Start.payload
        rw [hpool]
      have hshipped : (d.shipped purpose).Alike k (d'.shipped purpose) := by
        refine ⟨?_, alike.settled⟩
        exact eq_of_seen (fun d => seen (d.shipped purpose)) (fun _ => rfl) alike.seen
      rw [← hpayload]
      exact await_alike now hshipped answers delay

/-- **Requests that are resumed.** -/
theorem requestBody_alike (alike : d.Alike k d') {r r' : Request} (requests : Request.Alike k r r')
    (replies : r.stage = .fresh →
      Reply.Alike (r.purpose.concerns k) d.endpoint.reply d'.endpoint.reply) :
    (requestBody d now r).1.Alike k (requestBody d' now r').1
      ∧ Option.Rel (Timed.Alike k) (requestBody d now r).2 (requestBody d' now r').2 := by
  cases requests with
  | fresh purpose => exact make_alike now alike (replies rfl)
  | made purpose payload answers => exact ⟨arrive_alike alike answers, .none⟩

end Dispatcher

/-! ### Requests in time -/

namespace Timeline

/-- Two timelines whose requests are alike. -/
structure Alike (k : Nat) (t t' : Timeline Request) : Prop where
  /-- It is the same time. -/
  now : t.now = t'.now
  /-- The same requests have not started. -/
  fresh : t.fresh = t'.fresh
  /-- The requests that wait are alike. -/
  waiting : List.Forall₂ (Timed.Alike k) t.waiting t'.waiting

variable {k : Nat}

/-- Requests that are alike wait in the same places. -/
theorem arm_alike {x x' : Timed Request} (alike : Timed.Alike k x x')
    {waiting waiting' : List (Timed Request)} (others : List.Forall₂ (Timed.Alike k) waiting waiting') :
    List.Forall₂ (Timed.Alike k) (arm x waiting) (arm x' waiting') := by
  induction others with
  | nil => exact .cons alike .nil
  | cons hy hrest ih =>
      unfold arm
      rw [hy.due, alike.due]
      split
      · exact .cons hy ih
      · exact .cons alike (.cons hy hrest)

/-- **Resuming requests that are alike.** -/
theorem resume_alike {t t' : Timeline Request} (times : t.Alike k t') {d d' : Dispatcher}
    (alike : d.Alike k d') {r r' : Request} (requests : Request.Alike k r r')
    (replies : r.stage = .fresh →
      Reply.Alike (r.purpose.concerns k) d.endpoint.reply d'.endpoint.reply) :
    (resume Dispatcher.requestBody d t r).1.Alike k (resume Dispatcher.requestBody d' t' r').1
      ∧ (resume Dispatcher.requestBody d t r).2.Alike k
        (resume Dispatcher.requestBody d' t' r').2 := by
  obtain ⟨hnow, hfresh, hwaiting⟩ := times
  rw [Timeline.resume_eq, Timeline.resume_eq, ← hnow]
  obtain ⟨hworld, hnext⟩ := Dispatcher.requestBody_alike t.now alike requests replies
  refine ⟨hworld, ?_⟩
  generalize (Dispatcher.requestBody d t.now r).2 = next at hnext ⊢
  generalize (Dispatcher.requestBody d' t.now r').2 = next' at hnext ⊢
  cases hnext with
  | none => exact ⟨hnow, hfresh, hwaiting⟩
  | @some next next' alike =>
      have hnext : Timed.Alike k { next with due := max next.due (t.now + 1) }
          { next' with due := max next'.due (t.now + 1) } :=
        ⟨congrArg (max · (t.now + 1)) alike.due, alike.task, alike.started⟩
      exact Alike.mk rfl hfresh (arm_alike hnext hwaiting)

end Timeline

end AimAnalysis
