import AimAnalysis.Endpoint.Guard
import AimAnalysis.Proofs.Number.Double
import AimAnalysis.Proofs.Suspicion.Evidence

/-!
# Delays of a guard

A guard learns from how exchanges end, in the order in which they end. Whether it lets requests through can
be read off the latest end that counts: a success, or a failure whose delay ends at some time.

Delays grow by a multiplier that is a double. Here growth is read as exact (`BackoffPolicy.Reads`): the delay
times the value of the multiplier, rounded to a nearest whole number of nanoseconds. A configuration that
passes validation has a multiplier of at least one, so no delay is followed by a shorter one.

* `BackoffPolicy.Reads.le_next` — a delay is followed by one that is at least as long.
* `Guard.Heeds` — what a guard is like after exchanges have ended: an end more keeps this (`Guard.Heeds.meets`).
-/

namespace AimAnalysis

/-! ### Bounds -/

namespace Span

variable {lo hi : Span}

theorem clamp_mem (s : Span) (ordered : lo ≤ hi) : lo ≤ s.clamp lo hi ∧ s.clamp lo hi ≤ hi := by
  have hordered : lo.nanoseconds ≤ hi.nanoseconds := ordered
  change lo.nanoseconds ≤ (s.clamp lo hi).nanoseconds ∧ (s.clamp lo hi).nanoseconds ≤ hi.nanoseconds
  unfold clamp
  by_cases hlow : s < lo
  · rw [if_pos hlow]
    exact ⟨Nat.le_refl _, hordered⟩
  · rw [if_neg hlow]
    have hlow' : lo.nanoseconds ≤ s.nanoseconds := Nat.not_lt.mp hlow
    by_cases hhigh : hi < s
    · rw [if_pos hhigh]
      exact ⟨hordered, Nat.le_refl _⟩
    · rw [if_neg hhigh]
      exact ⟨hlow', Nat.not_lt.mp hhigh⟩

/-- A span stays at least as long as it was, up to the upper bound. -/
theorem le_clamp {s least : Span} (grown : least ≤ s) (bounded : least ≤ hi) :
    least ≤ s.clamp lo hi := by
  change least.nanoseconds ≤ (s.clamp lo hi).nanoseconds
  have hgrown : least.nanoseconds ≤ s.nanoseconds := grown
  unfold clamp
  by_cases hlow : s < lo
  · rw [if_pos hlow]
    exact Nat.le_trans hgrown (Nat.le_of_lt hlow)
  · rw [if_neg hlow]
    split
    · exact bounded
    · exact hgrown

end Span

/-! ### Configurations -/

theorem TransportConfig.validate_backoff {c : TransportConfig} (valid : c.validate = .ok ()) :
    c.backoff.validate = .ok () :=
  (ConfigFault.ok_of_bind (ConfigFault.ok_of_bind valid).2).2

namespace BackoffConfig

variable {c : BackoffConfig}

/-- Delays are in order. -/
theorem initialDelay_le_maxDelay (valid : c.validate = .ok ()) : c.initialDelay ≤ c.maxDelay := by
  obtain ⟨-, valid⟩ := ConfigFault.ok_of_bind valid
  obtain ⟨-, valid⟩ := ConfigFault.ok_of_bind valid
  obtain ⟨-, horder⟩ := ConfigFault.ok_of_bind valid
  exact of_decide_eq_true (ConfigFault.of_checkOrder horder)

/-- The multiplier is a number, and not below one. -/
theorem exists_multiplier (valid : c.validate = .ok ()) :
    ∃ q : ℚ, Extended.ofFloat c.multiplier = .finite q ∧ 1 ≤ q := by
  obtain ⟨-, valid⟩ := ConfigFault.ok_of_bind valid
  obtain ⟨-, valid⟩ := ConfigFault.ok_of_bind valid
  obtain ⟨hmultiplier, -⟩ := ConfigFault.ok_of_bind valid
  have hone : Extended.ofFloat 1.0 = .finite 1 := by decide +kernel
  have hhundred : Extended.ofFloat 100.0 = .finite 100 := by decide +kernel
  obtain ⟨q, hq, hlow, -⟩ :=
    Extended.exists_finite_of_between hone hhundred (ConfigFault.within_of_checkValue hmultiplier)
  exact ⟨q, hq, hlow⟩

end BackoffConfig

/-! ### Growth -/

namespace BackoffPolicy

/-- A policy is that of a configuration, with growth read as exact: a delay grows to its product with the
multiplier, rounded to a nearest whole number of nanoseconds. -/
structure Reads (p : BackoffPolicy) (c : BackoffConfig) : Prop where
  /-- The first delay. -/
  initial : p.initial = c.initialDelay
  /-- The longest delay. -/
  longest : p.longest = c.maxDelay
  /-- Growth. -/
  grow : ∀ q : ℚ, Extended.ofFloat c.multiplier = .finite q → ∀ delay grown,
    p.grow delay = some grown → |(grown.nanoseconds : ℚ) - q * delay.nanoseconds| ≤ 1 / 2

/-- Exact growth, ties rounded up; none beyond all spans. -/
def exactly (c : BackoffConfig) : BackoffPolicy where
  initial := c.initialDelay
  longest := c.maxDelay
  grow delay :=
    match Extended.ofFloat c.multiplier with
    | .finite q =>
      let grown := round (q * delay.nanoseconds)
      if 0 ≤ grown ∧ grown < Span.wordRange * Span.perSecond then some ⟨grown.toNat⟩ else none
    | _ => none

theorem reads_exactly (c : BackoffConfig) : (exactly c).Reads c := by
  refine ⟨rfl, rfl, ?_⟩
  intro q hq delay grown hgrown
  simp only [exactly, hq] at hgrown
  split at hgrown
  · next hrange =>
      cases hgrown
      have hcast : ((round (q * delay.nanoseconds)).toNat : ℚ) = round (q * delay.nanoseconds) := by
        exact_mod_cast Int.toNat_of_nonneg hrange.1
      rw [hcast, abs_sub_comm]
      exact abs_sub_round _
  · cases hgrown

variable {p : BackoffPolicy} {c : BackoffConfig} {delay : Span}

/-- Delays are kept between the first and the longest. -/
theorem next_mem (ordered : p.initial ≤ p.longest) (delay : Span) :
    p.initial ≤ p.next delay ∧ p.next delay ≤ p.longest := by
  have hleast : p.initial.least p.longest = p.initial := if_neg (Nat.not_lt.mpr ordered)
  unfold next
  rw [hleast]
  exact Span.clamp_mem _ ordered

/-- **A delay is followed by one that is at least as long**: rounding does not take off what a multiplier of
at least one adds, since delays are whole numbers of nanoseconds. -/
theorem Reads.le_next (reads : p.Reads c) (valid : c.validate = .ok ()) (bounded : delay ≤ p.longest) :
    delay ≤ p.next delay := by
  obtain ⟨q, hq, hone⟩ := c.exists_multiplier valid
  refine Span.le_clamp ?_ bounded
  cases hgrown : p.grow delay with
  | none => exact bounded
  | some grown =>
      change delay.nanoseconds ≤ grown.nanoseconds
      have hnear := abs_le.mp (reads.grow q hq delay grown hgrown)
      have hproduct : (delay.nanoseconds : ℚ) ≤ q * delay.nanoseconds :=
        le_mul_of_one_le_left (Nat.cast_nonneg _) hone
      have hclose : (delay.nanoseconds : ℚ) < grown.nanoseconds + 1 := by linarith [hnear.1]
      exact Nat.lt_succ_iff.mp (by exact_mod_cast hclose)

end BackoffPolicy

/-! ### Exchanges that end -/

/-- An exchange that ended behind a guard. -/
structure Completion where
  /-- How it ended. -/
  outcome : ExchangeOutcome
  /-- The time. -/
  time : Span
  /-- The current delay of the guard just before. -/
  delay : Span
deriving DecidableEq

namespace Completion

/-- Whether the guard could learn from the end: all ends but failures whose delay ends at no time. -/
def isRecorded (x : Completion) : Bool := !Guard.failed x.outcome || x.time.hasTimeAfter x.delay

/-- Whether the end makes a difference to the guard: it is a success or a failure, and was recorded. -/
def counts (x : Completion) : Bool :=
  (Guard.succeeded x.outcome || Guard.failed x.outcome) && x.isRecorded

theorem failed_of_counts {x : Completion} (counts : x.counts = true)
    (unsuccessful : Guard.succeeded x.outcome = false) : Guard.failed x.outcome = true := by
  unfold Completion.counts at counts
  rw [unsuccessful, Bool.false_or] at counts
  exact ((Bool.and_eq_true _ _).mp counts).1

/-- Until when the endpoint is left alone after a failure. -/
def deadline (x : Completion) : Span := ⟨x.time.nanoseconds + x.delay.nanoseconds⟩

/-- The latest end that counts. -/
def latest? (xs : List Completion) : Option Completion := (xs.filter (·.counts)).getLast?

theorem latest?_append (xs : List Completion) (x : Completion) :
    latest? (xs ++ [x]) = if x.counts then some x else latest? xs := by
  unfold latest?
  rw [List.filter_append]
  cases hcounts : x.counts with
  | true =>
      rw [List.filter_cons_of_pos hcounts, List.filter_nil]
      exact List.getLast?_concat
  | false =>
      rw [List.filter_cons_of_neg (Bool.eq_false_iff.mp hcounts), List.filter_nil, List.append_nil]
      rfl

end Completion

namespace Guard

/-- A success is no failure. -/
theorem failed_of_succeeded {outcome : ExchangeOutcome} (h : succeeded outcome = true) :
    failed outcome = false := by
  cases outcome with
  | response status body =>
      simp only [succeeded, isSuccess, Bool.and_eq_true, decide_eq_true_eq] at h
      simp only [failed, Bool.or_eq_false_iff, decide_eq_false_iff_not]
      omega
  | timeout | network => cases h

variable {g : Guard} {p : BackoffPolicy} {xs : List Completion}

/-- An exchange that ends now. -/
def completion (g : Guard) (time : Span) (outcome : ExchangeOutcome) : Completion :=
  { outcome, time, delay := g.backoff.currentDelay }

/-- The guard once an exchange has ended. -/
def meets (g : Guard) (x : Completion) : Guard :=
  if g.canSettle x.time x.outcome then g.settle x.time x.outcome else g

/-- An end that does not count makes no difference. -/
theorem meets_of_not_counts {time : Span} {outcome : ExchangeOutcome}
    (h : (g.completion time outcome).counts = false) : g.meets (g.completion time outcome) = g := by
  have hrecorded : (g.completion time outcome).isRecorded = g.canSettle time outcome := rfl
  unfold meets settle
  change (if g.canSettle time outcome then _ else _) = g
  unfold Completion.counts at h
  rw [hrecorded] at h
  change ((succeeded outcome || failed outcome) && g.canSettle time outcome) = false at h
  cases hcan : g.canSettle time outcome with
  | false => rfl
  | true =>
      rw [hcan, Bool.and_true, Bool.or_eq_false_iff] at h
      change (if succeeded outcome then _ else if failed outcome then _ else g) = g
      rw [h.1, h.2]
      rfl

theorem meets_of_succeeded {x : Completion} (h : succeeded x.outcome = true) :
    g.meets x = { g with backoff := g.backoff.recordSuccess } := by
  have hcan : g.canSettle x.time x.outcome = true := by
    rw [canSettle, failed_of_succeeded h]
    rfl
  rw [meets, if_pos hcan, settle, if_pos h]

theorem meets_of_failed {time : Span} {outcome : ExchangeOutcome} (h : failed outcome = true)
    (counts : (g.completion time outcome).counts = true) :
    g.meets (g.completion time outcome) = { g with backoff := g.backoff.recordFailure time } := by
  have hcan : g.canSettle time outcome = true := ((Bool.and_eq_true _ _).mp counts).2
  have hsucceeded : succeeded outcome ≠ true := by
    intro hsucceeded
    rw [failed_of_succeeded hsucceeded] at h
    cases h
  change (if g.canSettle time outcome then _ else _) = _
  rw [if_pos hcan, settle]
  change (if succeeded outcome then _ else if failed outcome then _ else g) = _
  rw [if_neg hsucceeded, if_pos h]
  rfl

/-- What a guard is like after exchanges have ended. -/
structure Heeds (g : Guard) (p : BackoffPolicy) (xs : List Completion) : Prop where
  /-- The policy stays. -/
  policy : g.backoff.policy = p
  /-- The endpoint is left alone if the latest end that counts is a failure, until its deadline. -/
  nextAttempt : g.backoff.nextAttempt
    = (Completion.latest? xs).bind fun x => if failed x.outcome then some x.deadline else none
  /-- Delays are not shorter than the first. -/
  least : p.initial ≤ g.backoff.currentDelay
  /-- Delays are not longer than the longest. -/
  most : g.backoff.currentDelay ≤ p.longest
  /-- After a success, the delay is the first again. -/
  reset : ∀ x ∈ Completion.latest? xs, succeeded x.outcome = true →
    g.backoff.currentDelay = p.initial

namespace Heeds

/-- A guard starts with the first delay, and lets requests through. -/
theorem fresh (ordered : p.initial ≤ p.longest) (limit : Span) :
    Heeds { backoff := .ofPolicy p, limit } p [] := by
  refine ⟨rfl, rfl, Nat.le_refl _, ordered, ?_⟩
  exact fun x hx => absurd hx (Option.not_mem_none x)

/-- **One more end.** -/
theorem meets (heeds : g.Heeds p xs) (time : Span) (outcome : ExchangeOutcome) :
    (g.meets (g.completion time outcome)).Heeds p (xs ++ [g.completion time outcome]) := by
  have ordered : p.initial ≤ p.longest := Nat.le_trans heeds.least heeds.most
  have hlatest := Completion.latest?_append xs (g.completion time outcome)
  cases hcounts : (g.completion time outcome).counts with
  | false =>
      rw [hcounts, if_neg Bool.false_ne_true] at hlatest
      rw [meets_of_not_counts hcounts]
      exact ⟨heeds.policy, hlatest ▸ heeds.nextAttempt, heeds.least, heeds.most, hlatest ▸ heeds.reset⟩
  | true =>
      rw [hcounts, if_pos rfl] at hlatest
      by_cases hsucceeded : succeeded outcome = true
      · rw [meets_of_succeeded (x := g.completion time outcome) hsucceeded]
        have hinitial : g.backoff.recordSuccess.currentDelay = p.initial :=
          congrArg BackoffPolicy.initial heeds.policy
        refine ⟨heeds.policy, ?_, ?_, ?_, ?_⟩
        · rw [hlatest, Option.bind_some]
          change none = if failed outcome then _ else none
          rw [failed_of_succeeded hsucceeded]
          rfl
        · exact Nat.le_of_eq (congrArg Span.nanoseconds hinitial.symm)
        · exact hinitial.symm ▸ ordered
        · exact fun _ _ _ => hinitial
      · have hfailed : failed outcome = true :=
          Completion.failed_of_counts hcounts (Bool.eq_false_iff.mpr hsucceeded)
        rw [meets_of_failed hfailed hcounts]
        obtain ⟨hleast, hmost⟩ := BackoffPolicy.next_mem ordered g.backoff.currentDelay
        rw [← heeds.policy] at hleast hmost
        refine ⟨heeds.policy, ?_, ?_, ?_, ?_⟩
        · rw [hlatest, Option.bind_some]
          change _ = if failed outcome then _ else none
          rw [if_pos hfailed]
          rfl
        · exact heeds.policy ▸ hleast
        · exact heeds.policy ▸ hmost
        · rw [hlatest]
          rintro _ ⟨rfl⟩ hsuccess
          exact absurd hsuccess hsucceeded

/-- **When requests are refused**: the latest end that counts is a failure, and its deadline is not over. -/
theorem admits_eq_false_iff (heeds : g.Heeds p xs) (now : Span) :
    g.admits now = false ↔
      ∃ x, Completion.latest? xs = some x ∧ failed x.outcome = true
        ∧ now.nanoseconds < x.time.nanoseconds + x.delay.nanoseconds := by
  unfold admits Backoff.isWaiting
  rw [heeds.nextAttempt]
  cases hlatest : Completion.latest? xs with
  | none => exact ⟨nofun, nofun⟩
  | some x =>
      rw [Option.bind_some]
      cases hfailed : failed x.outcome with
      | false =>
          refine ⟨nofun, ?_⟩
          rintro ⟨_, ⟨rfl⟩, hfailed', -⟩
          rw [hfailed] at hfailed'
          cases hfailed'
      | true =>
          simp only [if_true, Bool.not_eq_false', decide_eq_true_eq]
          constructor
          · intro hnow
            exact ⟨x, rfl, hfailed, hnow⟩
          · rintro ⟨_, ⟨rfl⟩, -, hnow⟩
            exact hnow

/-- **Delays do not shrink** but with a success. -/
theorem currentDelay_le_meets {c : BackoffConfig} (heeds : g.Heeds p xs) (reads : p.Reads c)
    (valid : c.validate = .ok ()) (time : Span) {outcome : ExchangeOutcome}
    (unsuccessful : succeeded outcome = false) :
    g.backoff.currentDelay ≤ (g.meets (g.completion time outcome)).backoff.currentDelay := by
  cases hcounts : (g.completion time outcome).counts with
  | false =>
      rw [meets_of_not_counts hcounts]
      exact Nat.le_refl _
  | true =>
      have hfailed : failed outcome = true := Completion.failed_of_counts hcounts unsuccessful
      rw [meets_of_failed hfailed hcounts]
      change g.backoff.currentDelay ≤ g.backoff.policy.next g.backoff.currentDelay
      rw [heeds.policy]
      exact reads.le_next valid heeds.most

end Heeds

end Guard

end AimAnalysis
