import AimAnalysis.Proofs.Connection.Combat
import AimAnalysis.Proofs.Host.Ledger
import AimAnalysis.Proofs.Window.Codec
import AimAnalysis.Proofs.Window.Log
import AimAnalysis.Proofs.Window.Shape

/-!
# What the windows hold that are sent

A classifier that is given ticks one after the other holds the latest of those that it gathered
(`harvest`): ticks are gathered as they are accepted, a tick too far from combat discards them, and so do
windows of another size before they take in their first tick. So what a classifier holds can be read off the
ticks that it was given (`Ledger.Reachable.gathered`), and every window that is sent is the end of the ticks
that were accepted, after the latest tick too far from combat and from the latest change of size on.

A window is copied when it is sent, and encoded when its request starts, into a buffer that is empty.

**Main statement** (`Ledger.window_of_dispatched`): a window that is sent holds the latest ticks that were
accepted, as many as windows hold then, and whatever happens later, the payload that is written for it reads
back as that window.
-/

namespace AimAnalysis

/-! ### Sizes of windows -/

namespace Classifier

variable (c : Classifier) (s : Service) (inDisabledRegion : Bool) (t : Tick) (eligible : Bool)

/-- With a transport, the window takes on the size in force. -/
theorem capacity_onTick (h : s.isEnabled = true) :
    (c.onTick s inDisabledRegion t eligible).classifier.window.capacity = max s.sequence 1 := by
  have hcapacity : (c.reshaped s).capacity = max s.sequence 1 := (c.window.shape_resize _ _).1
  have taken := c.takesIn_onTick s inDisabledRegion t eligible
  generalize c.onTick s inDisabledRegion t eligible = step at taken ⊢
  cases taken with
  | disabled off =>
      rw [off] at h
      cases h
  | ineligible | collected | regionSkipped | dispatched => exact hcapacity

/-- Only a tick that the service looks at can be too far from combat. -/
theorem isEnabled_of_ineligible {c : Classifier} {s : Service} {inDisabledRegion : Bool} {t : Tick}
    {eligible : Bool} (far : (c.onTick s inDisabledRegion t eligible).outcome = .ineligible) :
    s.isEnabled = true := by
  have taken := c.takesIn_onTick s inDisabledRegion t eligible
  generalize c.onTick s inDisabledRegion t eligible = step at far taken
  cases taken with
  | ineligible on => exact on
  | disabled | collected | regionSkipped | dispatched => cases far

/-- What is sent is the window that is held, and only if it is dispatched. -/
theorem sent_onTick :
    (c.onTick s inDisabledRegion t eligible).sent
      = if (c.onTick s inDisabledRegion t eligible).outcome = .dispatched then
          some (c.onTick s inDisabledRegion t eligible).classifier.window.ticks
        else none := by
  have taken := c.takesIn_onTick s inDisabledRegion t eligible
  generalize c.onTick s inDisabledRegion t eligible = step at taken ⊢
  cases taken <;> rfl

/-- A window is full when it is dispatched. -/
theorem length_ticks_of_dispatched {c : Classifier} {s : Service} {inDisabledRegion : Bool} {t : Tick}
    {eligible : Bool} (dispatched : (c.onTick s inDisabledRegion t eligible).outcome = .dispatched) :
    (c.onTick s inDisabledRegion t eligible).classifier.window.ticks.length
      = (c.onTick s inDisabledRegion t eligible).classifier.window.capacity := by
  have taken := c.takesIn_onTick s inDisabledRegion t eligible
  generalize c.onTick s inDisabledRegion t eligible = step at dispatched taken ⊢
  cases taken with
  | dispatched _ _ due =>
      rw [SlidingWindow.isReady, Bool.and_eq_true] at due
      exact beq_iff_eq.mp due.1
  | disabled | ineligible | collected | regionSkipped => cases dispatched

end Classifier

/-! ### What a classifier gathers -/

theorem rtake_suffix {α : Type} (n : Nat) (xs : List α) : xs.rtake n <:+ xs := List.drop_suffix _ _

namespace Feeding

/-- Whether the tick was accepted. -/
def isCollected (f : Feeding) : Bool := f.step.outcome.isCollected

/-- Whether the tick found windows of another size than before. -/
def resizes (f : Feeding) : Bool :=
  f.service.isEnabled && f.service.sequence != f.classifier.window.capacity

/-- What is gathered once a tick was given. -/
def gather (gathered : List Tick) (f : Feeding) : List Tick :=
  if f.isCollected then (if f.resizes then [] else gathered) ++ [f.tick]
  else if f.service.isEnabled then []
  else gathered

end Feeding

/-- The ticks that are gathered while ticks are given. -/
def harvest (feedings : List Feeding) : List Tick := feedings.foldl Feeding.gather []

/-- The ticks that were accepted. -/
def accepted (feedings : List Feeding) : List Tick := (feedings.filter (·.isCollected)).map (·.tick)

theorem accepted_append (feedings later : List Feeding) :
    accepted (feedings ++ later) = accepted feedings ++ accepted later := by
  rw [accepted, List.filter_append, List.map_append]
  rfl

theorem harvest_append (feedings : List Feeding) (f : Feeding) :
    harvest (feedings ++ [f]) = f.gather (harvest feedings) :=
  List.foldl_concat ..

/-- A tick that is accepted is gathered last; any other is not gathered. -/
theorem Feeding.gather_suffix (f : Feeding) (gathered : List Tick) :
    f.gather gathered <:+ gathered ++ accepted [f] := by
  cases hcollected : f.isCollected with
  | true =>
      have haccepted : accepted [f] = [f.tick] := by simp [accepted, hcollected]
      rw [gather, if_pos hcollected, haccepted]
      split
      · exact List.suffix_append _ _
      · exact List.suffix_refl _
  | false =>
      have haccepted : accepted [f] = [] := by simp [accepted, hcollected]
      rw [gather, if_neg (Bool.eq_false_iff.mp hcollected), haccepted, List.append_nil]
      split
      · exact List.nil_suffix
      · exact List.suffix_refl _

/-- What is gathered was gathered before, or accepted since. -/
theorem foldl_gather_suffix (feedings : List Feeding) (gathered : List Tick) :
    feedings.foldl Feeding.gather gathered <:+ gathered ++ accepted feedings := by
  induction feedings generalizing gathered with
  | nil => exact (List.append_nil gathered).symm ▸ List.suffix_refl _
  | cons f later ih =>
      have hone : gathered ++ accepted (f :: later) = gathered ++ accepted [f] ++ accepted later := by
        rw [List.append_assoc, ← accepted_append]
        rfl
      obtain ⟨lost, hlost⟩ := f.gather_suffix gathered
      rw [hone]
      exact (ih _).trans ⟨lost, by rw [← List.append_assoc, hlost]⟩

theorem harvest_append_cons (before later : List Feeding) (f : Feeding) :
    harvest (before ++ f :: later) = later.foldl Feeding.gather (f.gather (harvest before)) :=
  List.foldl_append

/-- A tick too far from combat discards what was gathered. -/
theorem harvest_suffix_of_ineligible {before later : List Feeding} {f : Feeding}
    (far : f.step.outcome = .ineligible) : harvest (before ++ f :: later) <:+ accepted later := by
  have hcollected : f.isCollected = false := by rw [Feeding.isCollected, far]; rfl
  have henabled : f.service.isEnabled = true := Classifier.isEnabled_of_ineligible far
  have hnone : f.gather (harvest before) = [] := by
    rw [Feeding.gather, if_neg (Bool.eq_false_iff.mp hcollected), if_pos henabled]
  rw [harvest_append_cons, hnone]
  exact foldl_gather_suffix later []

/-- Windows of another size discard it too, and take in their first tick. -/
theorem harvest_suffix_of_resizes {before later : List Feeding} {f : Feeding}
    (resizes : f.resizes = true) : harvest (before ++ f :: later) <:+ accepted (f :: later) := by
  have hfirst : f.gather (harvest before) = f.gather [] := by
    have henabled : f.service.isEnabled = true := (Bool.and_eq_true _ _ ▸ resizes).1
    simp only [Feeding.gather, resizes, henabled, if_true]
  rw [harvest_append_cons, hfirst]
  exact foldl_gather_suffix (f :: later) []

/-! ### What a window holds -/

namespace Feeding

variable {f : Feeding}

/-- A tick that is not ignored leaves a window of the size in force. -/
theorem capacity_step (enough : 1 ≤ f.service.sequence) (enabled : f.service.isEnabled = true) :
    f.step.classifier.window.capacity = f.service.sequence := by
  rw [step, f.classifier.capacity_onTick f.service f.inDisabledRegion f.tick f.eligible enabled]
  exact Nat.max_eq_left enough

/-- What is pushed into a window comes after what it held, unless the window takes on another size. -/
theorem ticks_push (enough : 1 ≤ f.service.sequence) (enabled : f.service.isEnabled = true)
    {gathered : List Tick}
    (holds : f.classifier.window.ticks = gathered.rtake f.classifier.window.capacity) :
    ((f.classifier.reshaped f.service).push f.tick).ticks
      = ((if f.resizes then [] else gathered) ++ [f.tick]).rtake f.service.sequence := by
  have hmax : max f.service.sequence 1 = f.service.sequence := Nat.max_eq_left enough
  simp only [Classifier.reshaped, SlidingWindow.resize, hmax]
  by_cases hsame : f.service.sequence = f.classifier.window.capacity
  · have hresizes : f.resizes = false := by simp [resizes, hsame]
    rw [if_pos hsame, hresizes, hsame]
    change (f.classifier.window.ticks ++ [f.tick]).rtake f.classifier.window.capacity = _
    rw [holds]
    exact rtake_rtake_append _ gathered f.tick
  · have hresizes : f.resizes = true := by simp [resizes, enabled, hsame]
    rw [if_neg hsame, hresizes]
    change ([] ++ [f.tick]).rtake (max f.service.sequence 1) = _
    rw [hmax]
    rfl

/-- **A window holds the latest ticks that were gathered**, and does so after one more tick. -/
theorem ticks_step (enough : 1 ≤ f.service.sequence) {gathered : List Tick}
    (holds : f.classifier.window.ticks = gathered.rtake f.classifier.window.capacity) :
    f.step.classifier.window.ticks = (f.gather gathered).rtake f.step.classifier.window.capacity := by
  cases henabled : f.service.isEnabled with
  | false =>
      have hstep : f.step = { classifier := f.classifier, outcome := .disabled } :=
        f.classifier.onTick_of_disabled f.service f.inDisabledRegion f.tick f.eligible henabled
      have hgather : f.gather gathered = gathered := by
        rw [gather, isCollected, hstep, henabled]
        rfl
      rw [hgather, hstep]
      exact holds
  | true =>
      rw [capacity_step enough henabled, step, f.classifier.ticks_onTick]
      change (if f.isCollected = true then _ else _) = _
      rw [gather, henabled, if_pos rfl, if_pos rfl]
      split
      · exact ticks_push enough henabled holds
      · exact (List.rtake_nil _).symm

/-- Only what is dispatched is sent. -/
theorem dispatched_of_purpose? {p : Purpose} (sent : f.purpose? = some p) :
    f.step.outcome = .dispatched := by
  obtain ⟨window, hsent, -⟩ := Option.map_eq_some_iff.mp sent
  by_contra hother
  have hnone : f.step.sent = none := (f.classifier.sent_onTick ..).trans (if_neg hother)
  rw [hnone] at hsent
  cases hsent

/-- A window that is sent is as large as windows are then. -/
theorem purpose?_of_dispatched (enough : 1 ≤ f.service.sequence)
    (dispatched : f.step.outcome = .dispatched) :
    f.purpose? = some (.dispatch f.player f.standing f.step.classifier.window.ticks)
      ∧ f.step.classifier.window.ticks.length = f.service.sequence := by
  have henabled : f.service.isEnabled = true := by
    cases henabled : f.service.isEnabled with
    | true => rfl
    | false =>
        have hstep : f.step = { classifier := f.classifier, outcome := .disabled } :=
          f.classifier.onTick_of_disabled f.service f.inDisabledRegion f.tick f.eligible henabled
        rw [hstep] at dispatched
        cases dispatched
  constructor
  · have hsent : f.step.sent = some f.step.classifier.window.ticks :=
      (f.classifier.sent_onTick ..).trans (if_pos dispatched)
    rw [purpose?, hsent]
    rfl
  · exact (Classifier.length_ticks_of_dispatched dispatched).trans (capacity_step enough henabled)

end Feeding

/-! ### The windows of a host -/

namespace Ledger

variable {l : Ledger}

/-- The ticks that the classifier of a standing was given. -/
def history (l : Ledger) (standing : Nat) : List Feeding :=
  l.feedings.filter (·.standing == standing)

/-- What the books say about windows. -/
structure Gathered (l : Ledger) : Prop where
  /-- Ticks were given under services that were made from valid configurations. -/
  services : ∀ f ∈ l.feedings, f.service.Reachable
  /-- Every classifier holds the latest ticks that it gathered. -/
  windows : ∀ c ∈ l.host.collectors,
    c.window.ticks = (harvest (l.history c.standing)).rtake c.window.capacity
  /-- Requests started with empty buffers. -/
  clean : ∀ s ∈ l.starts, s.dispatcher.pool.Clean

namespace Gathered

/-- A classifier whose history does not change goes on holding what it gathered. -/
theorem windows_of_history (g : l.Gathered) {l' : Ledger} {c : Classifier} (hc : c ∈ l.host.collectors)
    (same : l'.history c.standing = l.history c.standing) :
    c.window.ticks = (harvest (l'.history c.standing)).rtake c.window.capacity := by
  rw [same]
  exact g.windows c hc

/-- Classifiers that come hold nothing. -/
theorem arranged (g : l.Gathered) (reached : l.Reachable) {m : Host.Move}
    (nobody : l.host.feeding? m = none) (idle : m.isWork = false) : (l.after m).Gathered := by
  obtain ⟨gone, kept, hbefore, hafter⟩ := (Host.arranged_after nobody idle).collectors
  have hfeedings : (l.after m).feedings = l.feedings := by
    rw [after, nobody]
    exact List.append_nil _
  have hhistory : ∀ k, (l.after m).history k = l.history k := by
    intro k
    rw [history, hfeedings, history]
  have hkept : ∀ c ∈ kept, c ∈ l.host.collectors :=
    fun c hc => hbefore.mem_iff.mpr (List.mem_append_right gone hc)
  have hclean : ∀ s ∈ (l.after m).starts, s.dispatcher.pool.Clean := by
    rw [(Accounted.after_of_idle l idle).1]
    exact g.clean
  refine ⟨fun f hf => g.services f (hfeedings ▸ hf), ?_, hclean⟩
  intro c hc
  rcases hafter with ⟨hcollectors, -⟩ | ⟨player, hcollectors, -⟩
  · exact g.windows_of_history (hkept c (hcollectors.mem_iff.mp hc)) (hhistory _)
  · rcases List.mem_cons.mp (hcollectors.mem_iff.mp hc) with rfl | hc
    · -- nobody has been given a tick for a standing that is new
      have hnone : (l.after m).history l.host.standings.length = [] := by
        rw [hhistory]
        apply List.filter_eq_nil_iff.mpr
        intro f hf
        rw [beq_iff_eq]
        exact Nat.ne_of_lt (reached.standing_lt f hf)
      change [] = (harvest ((l.after m).history l.host.standings.length)).rtake _
      rw [hnone]
      exact (List.rtake_nil _).symm
    · exact g.windows_of_history (hkept c hc) (hhistory _)

/-- A classifier that takes in a tick gathers it; the others stay as they are. -/
theorem fed (g : l.Gathered) (reached : l.host.Reachable) {m : Host.Move} {f : Feeding}
    (idle : m.isWork = false) (feeding : l.host.feeding? m = some f) : (l.after m).Gathered := by
  have fed := Host.fed_after reached.clean feeding
  obtain ⟨rest, hbefore, hafter⟩ := fed.collectors
  have hfeedings : (l.after m).feedings = l.feedings ++ [f] := by
    rw [after, feeding]
    rfl
  have hservice : f.service.Reachable := fed.service.1 ▸ reached.service
  refine ⟨?_, ?_, ?_⟩
  · intro x hx
    rcases List.mem_append.mp (hfeedings ▸ hx) with hx | hx
    · exact g.services x hx
    · obtain rfl := List.mem_singleton.mp hx
      exact hservice
  · intro c hc
    rcases List.mem_cons.mp (hafter.mem_iff.mp hc) with rfl | hc
    · have hsame : f.step.classifier.standing = f.standing := f.classifier.standing_onTick _ _ _ _
      have hhistory : (l.after m).history f.standing = l.history f.standing ++ [f] := by
        rw [history, hfeedings, List.filter_append]
        simp [history]
      rw [hsame, hhistory, harvest_append]
      apply Feeding.ticks_step hservice.one_le_sequence
      exact g.windows f.classifier fed.mem_collectors
    · -- the classifier that was given the tick is the only one with its standing
      have hne : f.standing ≠ c.standing := by
        have hdistinct := (hbefore.map (·.standing)).nodup reached.owned.distinct
        rw [List.map_cons, List.nodup_cons] at hdistinct
        intro heq
        exact hdistinct.1 (List.mem_map.mpr ⟨c, hc, heq.symm⟩)
      apply g.windows_of_history (hbefore.mem_iff.mpr (List.mem_cons_of_mem _ hc))
      rw [history, hfeedings, List.filter_append, history]
      simp [hne]
  · rw [(Accounted.after_of_idle l idle).1]
    exact g.clean

/-- Requests and outcomes that move on leave all windows alone. -/
theorem worked (g : l.Gathered) (clean : l.host.dispatcher.pool.Clean) {m : Host.Move}
    (works : m.isWork = true) : (l.after m).Gathered := by
  have w := Host.worked_after (h := l.host) works
  have hfeedings : (l.after m).feedings = l.feedings := Accounted.feedings_of_isWork l works
  have hcollectors : (l.after m).host.collectors = l.host.collectors := w.collectors
  refine ⟨?_, ?_, ?_⟩
  · intro f hf
    exact g.services f (hfeedings ▸ hf)
  · intro c hc
    apply g.windows_of_history (hcollectors ▸ hc)
    rw [history, hfeedings, history]
  · intro s hs
    rcases List.mem_append.mp hs with hs | hs
    · exact g.clean s hs
    · cases m with
      | start place =>
          obtain ⟨r, -, rfl⟩ := Option.map_eq_some_iff.mp (Option.mem_toList.mp hs)
          exact clean
      | _ => cases hs

end Gathered

/-- **Classifiers hold the latest ticks that they gathered**, at every moment. -/
theorem Reachable.gathered (reached : l.Reachable) : l.Gathered := by
  induction reached with
  | @made config kind endpoint pool regionsKnown h clean made =>
      obtain ⟨service, -, rfl⟩ := Host.exists_of_ofConfig made
      refine ⟨?_, ?_, ?_⟩ <;> exact fun _ h => absurd h List.not_mem_nil
  | @after l reached m ih =>
      cases hworks : m.isWork with
      | true => exact ih.worked reached.host.clean hworks
      | false =>
          cases hfeeding : l.host.feeding? m with
          | some f => exact ih.fed reached.host hworks hfeeding
          | none => exact ih.arranged reached hfeeding hworks

end Ledger

/-! ### What is sent, and what is written -/

/-- What is written for a request reads back as its window. -/
theorem Start.decode_payload {s : Start} (clean : s.dispatcher.pool.Clean)
    (fits : s.purpose.window.length < 256 ^ Codec.headerLength) :
    Codec.decode s.payload = .ok s.purpose.window := by
  rw [payload_eq_encode clean]
  exact Codec.decode_encode fits

/-- A window holds the latest ticks that were accepted, as many as windows hold, and none from before the
ticks were discarded. -/
structure Latest (window : List Tick) (feedings : List Feeding) (size : Nat) : Prop where
  /-- It is as large as windows are. -/
  length : window.length = size
  /-- It holds the latest ticks that were accepted. -/
  latest : window = (accepted feedings).rtake size
  /-- They were all accepted after the latest tick too far from combat. -/
  near : ∀ before f later, feedings = before ++ f :: later → f.step.outcome = .ineligible →
    window <:+ accepted later
  /-- They were all accepted from the latest tick on that found windows of another size. -/
  sized : ∀ before f later, feedings = before ++ f :: later → f.resizes = true →
    window <:+ accepted (f :: later)

/-- The latest ticks that were gathered are the latest that were accepted. -/
theorem latest_of_gathered {feedings : List Feeding} {size : Nat}
    (full : ((harvest feedings).rtake size).length = size) :
    Latest ((harvest feedings).rtake size) feedings size := by
  have hsuffix : (harvest feedings).rtake size <:+ harvest feedings := rtake_suffix _ _
  refine ⟨full, ?_, ?_, ?_⟩
  · have haccepted : (harvest feedings).rtake size <:+ accepted feedings :=
      hsuffix.trans (foldl_gather_suffix feedings [])
    obtain ⟨earlier, hearlier⟩ := haccepted
    have hlength : (accepted feedings).length - size = earlier.length := by
      rw [← hearlier, List.length_append, full, Nat.add_sub_cancel]
    rw [List.rtake.eq_1 (accepted feedings), hlength, ← hearlier, List.drop_left]
  · rintro before f later rfl far
    exact hsuffix.trans (harvest_suffix_of_ineligible far)
  · rintro before f later rfl resizes
    exact hsuffix.trans (harvest_suffix_of_resizes resizes)

namespace Ledger

variable {l : Ledger}

/-- What becomes of the windows that are sent. -/
structure Delivered (l : Ledger) : Prop where
  /-- Each is with one request, which has not started or has. -/
  dispatched : l.dispatches.Perm
    (l.host.requests.fresh.map (·.purpose) ++ l.starts.map (·.purpose))
  /-- The endpoint got the payload of each request that started while there was a transport to take it. -/
  shipped : l.host.trace.shipments.filter (·.purpose.isDispatch)
    = (l.starts.filter (·.isAdmitted)).map fun s => { purpose := s.purpose, payload := s.payload }
  /-- The payload reads back as the window that was sent. -/
  readable : ∀ s ∈ l.starts, Codec.decode s.payload = .ok s.purpose.window

/-- Windows that are sent can be counted in eight bytes. -/
theorem length_lt_of_mem_dispatches (g : l.Gathered) {p : Purpose} (sent : p ∈ l.dispatches) :
    p.window.length < 256 ^ Codec.headerLength := by
  obtain ⟨f, hf, hpurpose⟩ := List.mem_filterMap.mp sent
  have hservice := g.services f hf
  obtain ⟨hwindow, hlength⟩ := Feeding.purpose?_of_dispatched hservice.one_le_sequence
    (Feeding.dispatched_of_purpose? hpurpose)
  obtain rfl := Option.some.inj (hpurpose.symm.trans hwindow)
  change f.step.classifier.window.ticks.length < _
  rw [hlength]
  exact Nat.lt_of_le_of_lt hservice.sequence_le (by decide)

theorem Reachable.delivered (reached : l.Reachable) : l.Delivered := by
  have acc := reached.accounted
  refine ⟨acc.dispatched, ?_, ?_⟩
  · rw [acc.shipped]
    induction l.starts with
    | nil => rfl
    | cons s starts ih =>
        by_cases hadmitted : s.isAdmitted = true
        · rw [List.filterMap_cons, List.filter_cons, ih]
          simp [Start.shipment?, hadmitted]
        · rw [List.filterMap_cons, List.filter_cons, ih]
          simp [Start.shipment?, hadmitted]
  · intro s hs
    apply Start.decode_payload (reached.gathered.clean s hs)
    apply length_lt_of_mem_dispatches reached.gathered
    exact acc.dispatched.mem_iff.mpr (List.mem_append_right _ (List.mem_map_of_mem hs))

/-- The windows that were sent stay so. -/
theorem dispatches_prefix_run (l : Ledger) (moves : List Host.Move) :
    l.dispatches <+: (l.run moves).dispatches := by
  induction moves generalizing l with
  | nil => exact List.prefix_rfl
  | cons m moves ih =>
      have hone : l.dispatches <+: (l.after m).dispatches := by
        rw [dispatches_after]
        exact List.prefix_append _ _
      exact hone.trans (ih (l.after m))

/-- **A window that is sent** holds the latest ticks that the classifier accepted, as many as windows hold
at that moment. They were all accepted after the latest tick too far from combat, and from the latest tick
on that found windows of another size. Whatever happens later, the window stays with one request, and what
is written for that request reads back as the window. -/
theorem window_of_dispatched (reached : l.Reachable) {m : Host.Move} {f : Feeding}
    (feeding : l.host.feeding? m = some f) (dispatched : f.step.outcome = .dispatched) :
    ∃ window, Latest window (l.history f.standing ++ [f]) l.host.service.sequence
      ∧ ∀ moves : List Host.Move,
          l.dispatches ++ [.dispatch f.player f.standing window]
              <+: ((l.after m).run moves).dispatches
            ∧ ((l.after m).run moves).Delivered := by
  have fed := Host.fed_after reached.host.clean feeding
  have hservice : f.service = l.host.service := fed.service.1
  have henough : 1 ≤ f.service.sequence := hservice ▸ reached.host.service.one_le_sequence
  obtain ⟨hpurpose, hlength⟩ := Feeding.purpose?_of_dispatched henough dispatched
  have hheld := reached.gathered.windows f.classifier fed.mem_collectors
  have hgathered := Feeding.ticks_step henough hheld
  have hsize : f.step.classifier.window.ticks.length = l.host.service.sequence :=
    hlength.trans (congrArg Service.sequence hservice)
  have hcapacity : f.step.classifier.window.capacity = l.host.service.sequence :=
    (Classifier.length_ticks_of_dispatched dispatched).symm.trans hsize
  rw [← harvest_append, hcapacity] at hgathered
  refine ⟨f.step.classifier.window.ticks, ?_, ?_⟩
  · rw [hgathered] at hsize ⊢
    exact latest_of_gathered hsize
  · intro moves
    constructor
    · have hdispatches : (l.after m).dispatches
          = l.dispatches ++ [.dispatch f.player f.standing f.step.classifier.window.ticks] := by
        rw [dispatches_after, feeding, Option.bind_some, hpurpose]
        rfl
      rw [← hdispatches]
      exact dispatches_prefix_run (l.after m) moves
    · exact ((reached.after m).run moves).delivered

/-- Two turns near combat with a tick too far from it between them, while windows hold a single tick: the
second window holds the second turn, and is written as such whichever of the two starts first. -/
theorem window_of_dispatched_discarded :
    ∃ (l : Ledger) (m : Host.Move) (f : Feeding), l.Reachable ∧ l.host.feeding? m = some f
      ∧ f.step.outcome = .dispatched ∧ l.history f.standing ≠ []
      ∧ ∃ turn : Tick, Latest [turn] (l.history f.standing ++ [f]) 1
        ∧ l.dispatches ++ [.dispatch 1 0 [turn]]
            <+: ((l.after m).run [.start 1, .start 0]).dispatches
        ∧ ((l.after m).run [.start 1, .start 0]).Delivered := by
  let turn : Tick := { deltaYaw := ⟨0x3f800000⟩ }
  let l : Ledger := ({ host := Host.swift } : Ledger).run
    [.addClassifier 1, .tick 1 { deltaPitch := ⟨0x3f800000⟩ } true, .tick 1 {} false]
  have reached : l.Reachable := reachable_swift.run _
  obtain ⟨f, feeding, hplayer, hstanding, htick, dispatched⟩ :
      ∃ f, l.host.feeding? (.tick 1 turn true) = some f ∧ f.player = 1 ∧ f.standing = 0
        ∧ f.tick = turn ∧ f.step.outcome = .dispatched := by
    rw [host_run]
    exact ⟨_, rfl, rfl, rfl, rfl, rfl⟩
  obtain ⟨window, latest, later⟩ := window_of_dispatched reached feeding dispatched
  have hsize : l.host.service.sequence = 1 := rfl
  rw [hsize] at latest
  have hwindow : window = [turn] := by
    have hlast : accepted [f] = [turn] := by
      simp [accepted, Feeding.isCollected, dispatched, TickOutcome.isCollected, htick]
    rw [latest.latest, accepted_append, hlast, List.rtake_concat_succ, List.rtake_zero]
    rfl
  have hhistory : l.history f.standing ≠ [] := by
    rw [hstanding]
    exact List.cons_ne_nil _ _
  rw [hwindow] at latest later
  rw [hplayer] at later
  obtain ⟨hsent, hdelivered⟩ := later [.start 1, .start 0]
  rw [hstanding] at hsent
  exact ⟨l, .tick 1 turn true, f, reached, feeding, dispatched, hhistory, turn, latest, hsent,
    hdelivered⟩

end Ledger

end AimAnalysis
