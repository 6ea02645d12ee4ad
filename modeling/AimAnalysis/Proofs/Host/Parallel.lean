import AimAnalysis.Proofs.Host.Alike
import AimAnalysis.Proofs.Host.Outcomes

/-!
# Standings that do not depend on each other

In two hosts in which the same happens the endpoint may answer differently. As long as its answers differ in
probabilities only, and not in those for a standing, that standing is the same in both, at every moment.

* `Host.seen` — what players and requests can see of a host, apart from the endpoint. Standings are not
  among it, and neither are the outcomes that wait or what was said.
* `Host.seen_after` — a move that gives a tick or arranges classifiers depends on that alone.
* `Host.Alike` — hosts that look the same, have the same standing of a number, and whose outcomes and
  requests are alike. Every move keeps them so (`Host.Parallel.alike`).

**Main statement** (`Ledger.outcomes_of_reachable`): outcomes are applied once, in the order in which they
came, and to their own standing; the windows in flight are those whose outcomes were not taken up, and the
evidence is that of the standing's own probabilities.
-/

namespace AimAnalysis

namespace Host

/-- What players and requests can see of a host, apart from the endpoint. -/
def seen (h : Host) : Host :=
  { h with
    dispatcher := h.dispatcher.seen
    requests := { h.requests with waiting := [] }
    standings := List.replicate h.standings.length {} }

/-- Two hosts that can be told apart by the endpoint, by what was said, by the standings of others and by
their probabilities only. -/
structure Alike (k : Nat) (h h' : Host) : Prop where
  /-- Players and requests see the same. -/
  seen : h.seen = h'.seen
  /-- The outcomes that wait are alike. -/
  settled : List.Forall₂ (Settlement.Alike k) h.dispatcher.settled h'.dispatcher.settled
  /-- The requests that wait are alike. -/
  waiting : List.Forall₂ (Timed.Alike k) h.requests.waiting h'.requests.waiting
  /-- The standing is the same. -/
  standing : h.standing k = h'.standing k

variable {k : Nat} {h h' : Host}

/-- What can be told from what is seen. -/
theorem eq_of_seen {α : Type} (f : Host → α) (sees : ∀ h, f h = f h.seen) (seen : h.seen = h'.seen) :
    f h = f h' := by
  rw [sees h, seen, ← sees h']

/-- Requests work with the same. -/
theorem Alike.dispatcher (alike : Alike k h h') : h.dispatcher.Alike k h'.dispatcher :=
  ⟨eq_of_seen (·.dispatcher.seen) (fun _ => rfl) alike.seen, alike.settled⟩

theorem Alike.requests (alike : Alike k h h') : h.requests.Alike k h'.requests :=
  ⟨eq_of_seen (·.requests.now) (fun _ => rfl) alike.seen,
    eq_of_seen (·.requests.fresh) (fun _ => rfl) alike.seen, alike.waiting⟩

/-- Hosts stay alike while requests that are alike move on. -/
theorem withWork_alike (alike : Alike k h h') {d d' : Dispatcher} {t t' : Timeline Request}
    (dispatchers : d.Alike k d') (timelines : t.Alike k t') :
    Alike k (h.withWork (d, t)) (h'.withWork (d', t')) := by
  refine ⟨?_, dispatchers.settled, timelines.waiting, alike.standing⟩
  have hsplit : ∀ (h : Host) (d : Dispatcher) (t : Timeline Request), (h.withWork (d, t)).seen
      = { h.seen with
          dispatcher := d.seen
          requests := { now := t.now, fresh := t.fresh } } := fun _ _ _ => rfl
  rw [hsplit, hsplit, alike.seen, dispatchers.seen, timelines.now, timelines.fresh]

/-! ### What is seen -/

/-- What is seen does not depend on the standings, apart from their number. -/
theorem seen_congr {a b : Host}
    (same : ({ a.seen with standings := [] } : Host) = { b.seen with standings := [] })
    (length : a.standings.length = b.standings.length) : a.seen = b.seen := by
  have hsplit : ∀ h : Host, h.seen
      = { ({ h.seen with standings := [] } : Host) with
          standings := List.replicate h.standings.length {} } := fun _ => rfl
  rw [hsplit a, hsplit b, same, length]

section

variable (h : Host) (player : Nat)

/-- As many standings are seen as there are. -/
theorem length_seen : h.standings.length = h.seen.standings.length := List.length_replicate.symm

theorem seen_seen : h.seen = h.seen.seen := seen_congr rfl h.length_seen

theorem seen_setConnection (c : Connection) :
    (h.setConnection player c).seen = (h.seen.setConnection player c).seen := by
  have honline : h.seen.online = h.online := rfl
  unfold setConnection
  rw [honline]
  cases h.online.get? player with
  | none => exact h.seen_seen
  | some n => exact seen_congr rfl h.length_seen

theorem seen_dispatchSome (standing : Nat) (window : Option (List Tick)) :
    (h.dispatchSome player standing window).seen
      = (h.seen.dispatchSome player standing window).seen := by
  cases window with
  | none => exact h.seen_seen
  | some window =>
      apply seen_congr
      · rfl
      · change (h.standings.modify standing _).length = (h.seen.standings.modify standing _).length
        rw [List.length_modify, List.length_modify]
        exact h.length_seen

/-- What is said is not seen. -/
theorem seen_told (observed : Bool) (notices : List Notice) (tags : List Nat) :
    ((h.say observed notices).noteRan tags).seen = h.seen := rfl

theorem seen_told_setConnection (c : Connection) (observed : Bool) (notices : List Notice)
    (tags : List Nat) :
    (((h.setConnection player c).say observed notices).noteRan tags).seen
      = (((h.seen.setConnection player c).say observed notices).noteRan tags).seen := by
  rw [seen_told, seen_told]
  exact h.seen_setConnection player c

/-- A classifier that is added gets the next number. -/
theorem seen_addClassifier : (h.addClassifier player).seen = (h.seen.addClassifier player).seen := by
  have hstanding : Classifier.ofService player h.seen.standings.length h.seen.service
      = .ofService player h.standings.length h.service := by
    rw [← h.length_seen]
    rfl
  apply seen_congr
  · unfold addClassifier
    rw [hstanding]
    rfl
  · change (h.standings ++ [_]).length = (h.seen.standings ++ [_]).length
    rw [List.length_append, List.length_append, ← h.length_seen]

/-- The connection of a player who connects gets the next number. -/
theorem seen_connect (era : ClientEra) (config : PipelineConfig) (observed : Bool) :
    (h.after (.connect player era config observed)).seen
      = (h.seen.after (.connect player era config observed)).seen := by
  have hmade : Connection.ofConfig player era config h.seen.service h.seen.standings.length observed
      = Connection.ofConfig player era config h.service h.standings.length observed := by
    rw [← h.length_seen]
    rfl
  simp only [after, connect, hmade]
  cases Connection.ofConfig player era config h.service h.standings.length observed with
  | error fault => exact h.seen_seen
  | ok c =>
      apply seen_congr
      · rfl
      · change (h.standings ++ [_]).length = (h.seen.standings ++ [_]).length
        rw [List.length_append, List.length_append, ← h.length_seen]

/-- A deed changes what is seen of a connection. -/
theorem seen_manage (deed : Deed) :
    (h.after (.manage player deed)).seen = (h.seen.after (.manage player deed)).seen := by
  have hconnection : h.seen.connection? player = h.connection? player := rfl
  cases deed with
  | era era =>
      simp only [after, manage?, setEra?, hconnection]
      cases h.connection? player with
      | none => exact h.seen_seen
      | some c => exact h.seen_setConnection player _
  | record r =>
      simp only [after, manage?, startRecording?, hconnection]
      cases h.connection? player with
      | none => exact h.seen_seen
      | some c => exact h.seen_setConnection player _
  | endRecording =>
      simp only [after, manage?, stopRecording?, hconnection]
      cases h.connection? player with
      | none => exact h.seen_seen
      | some c => exact h.seen_setConnection player _
  | marker | teleport | force =>
      simp only [after, manage?, sendMarker?, teleport?, forceRotation?, sendBy?, hconnection]
      cases h.connection? player with
      | none => exact h.seen_seen
      | some c => exact h.seen_setConnection player _
  | act action =>
      simp only [after, manage?, act?, hconnection]
      cases h.connection? player with
      | none => exact h.seen_seen
      | some c => exact h.seen_told_setConnection player _ _ _ _

/-- A packet changes what is seen of a connection, and may send a window. -/
theorem seen_packet (p : Packet) :
    (h.after (.packet player p)).seen = (h.seen.after (.packet player p)).seen := by
  have hconnection : h.seen.connection? player = h.connection? player := rfl
  simp only [after, receive?, hconnection]
  cases h.connection? player with
  | none => exact h.seen_seen
  | some c =>
      let step := c.onPacket h.service (h.inDisabledRegion player) p
      change ((((h.setConnection player step.connection).say c.observed step.notices).noteRan
            step.ran).dispatchSome player c.classifier.standing step.sent).seen
        = ((((h.seen.setConnection player step.connection).say c.observed step.notices).noteRan
            step.ran).dispatchSome player c.classifier.standing step.sent).seen
      rw [seen_dispatchSome, seen_told_setConnection, ← seen_dispatchSome]

/-- A tick changes what is seen of a classifier, and may send a window. -/
theorem seen_tick (t : Tick) (eligible : Bool) :
    (h.after (.tick player t eligible)).seen = (h.seen.after (.tick player t eligible)).seen := by
  have hclassifier : h.seen.classifiers.get? player = h.classifiers.get? player := rfl
  simp only [after, tick?, hclassifier]
  cases h.classifiers.get? player with
  | none => exact h.seen_seen
  | some c =>
      let step := c.onTick h.service (h.inDisabledRegion player) t eligible
      let fed : Host → Host := fun h =>
        ({ h with classifiers := h.classifiers.insert player step.classifier } : Host).say false
          step.notices
      have hfed : (fed h).seen = (fed h.seen).seen := seen_congr rfl h.length_seen
      change ((fed h).dispatchSome player c.standing step.sent).seen
        = ((fed h.seen).dispatchSome player c.standing step.sent).seen
      rw [seen_dispatchSome, hfed, ← seen_dispatchSome]

end

/-- **What is seen after a move** that lets nothing move on is told from what was seen before. -/
theorem seen_after (h : Host) {m : Move} (idle : m.isWork = false) :
    (h.after m).seen = (h.seen.after m).seen := by
  cases m with
  | start | resume | inquire | answer | settle => cases idle
  | connect player era config observed => exact h.seen_connect player era config observed
  | disconnect player =>
      change ((h.online.get? player).map _ |>.getD h).seen
        = ((h.online.get? player).map _ |>.getD h.seen).seen
      cases h.online.get? player with
      | none => exact h.seen_seen
      | some n => exact seen_congr rfl h.length_seen
  | packet player p => exact h.seen_packet player p
  | manage player deed => exact h.seen_manage player deed
  | register player =>
      have honline : h.seen.online.get? player = h.online.get? player := rfl
      have hregistry : h.seen.registry.get? player = h.registry.get? player := rfl
      simp only [after, registered, register?, honline, hregistry]
      cases h.online.get? player with
      | none => exact h.seen_seen
      | some n =>
          cases h.registry.get? player with
          | some _ => exact h.seen_seen
          | none => exact seen_congr rfl h.length_seen
  | unregister player =>
      have hregistered : h.seen.registered? player = h.registered? player := rfl
      simp only [after, unregistered, unregister, hregistered]
      cases h.registered? player with
      | none => exact h.seen_seen
      | some c => exact seen_congr rfl h.length_seen
  | addClassifier player => exact h.seen_addClassifier player
  | dropClassifier player => exact seen_congr rfl h.length_seen
  | tick player t eligible => exact h.seen_tick player t eligible
  | keepHandle standing =>
      have hheld : h.seen.isHeld standing = h.isHeld standing := rfl
      simp only [after, keepHandle?, hheld]
      split
      · exact seen_congr rfl h.length_seen
      · exact h.seen_seen
  | dropHandle standing => exact seen_congr rfl h.length_seen
  | reload config kind =>
      have hlink : linkTo h.seen.dispatcher.guards config.transport kind
          = linkTo h.dispatcher.guards config.transport kind := rfl
      simp only [after, reload, Dispatcher.reload, hlink]
      cases Service.ofConfig config.classifier
          (linkTo h.dispatcher.guards config.transport kind).2 with
      | error fault => exact h.seen_seen
      | ok service => exact seen_congr rfl h.length_seen
  | region player disabled => exact seen_congr rfl h.length_seen
  | endpoint e => exact seen_congr rfl h.length_seen
  | pass milliseconds => exact seen_congr rfl h.length_seen
  | clock time => exact seen_congr rfl h.length_seen

/-! ### Moves in two hosts -/

/-- Lists that are alike have members that are alike at every place. -/
theorem forall₂_getElem? {α β : Type} {R : α → β → Prop} {xs : List α} {ys : List β}
    (alike : List.Forall₂ R xs ys) (i : Nat) : Option.Rel R xs[i]? ys[i]? := by
  induction alike generalizing i with
  | nil => exact .none
  | cons hx _ ih =>
      cases i with
      | zero => exact .some hx
      | succ i => exact ih i

theorem forall₂_eraseIdx {α β : Type} {R : α → β → Prop} {xs : List α} {ys : List β}
    (alike : List.Forall₂ R xs ys) (i : Nat) : List.Forall₂ R (xs.eraseIdx i) (ys.eraseIdx i) := by
  rw [List.eraseIdx_eq_take_drop_succ, List.eraseIdx_eq_take_drop_succ]
  exact List.rel_append (List.forall₂_take i alike) (List.forall₂_drop (i + 1) alike)

/-- Moves that let nothing move on keep hosts alike. -/
theorem Alike.after_of_idle (alike : Alike k h h') (reached : h.Reachable) (reached' : h'.Reachable)
    {m : Move} (idle : m.isWork = false) : Alike k (h.after m) (h'.after m) := by
  have hseen : (h.after m).seen = (h'.after m).seen := by
    rw [seen_after h idle, alike.seen, ← seen_after h' idle]
  have hfeeding : h.feeding? m = h'.feeding? m :=
    eq_of_seen (feeding? · m) (fun h => by cases m <;> rfl) alike.seen
  cases hfed : h.feeding? m with
  | none =>
      have a := arranged_after hfed idle
      have a' := arranged_after (hfeeding ▸ hfed) idle
      refine ⟨hseen, ?_, ?_, ?_⟩
      · rw [a.settled, a'.settled]
        exact alike.settled
      · rw [a.waiting, a'.waiting]
        exact alike.waiting
      · rw [a.standing_eq, a'.standing_eq]
        exact alike.standing
  | some f =>
      have hfed' := hfeeding ▸ hfed
      have fed := fed_after reached.clean hfed
      have fed' := fed_after reached'.clean hfed'
      refine ⟨hseen, ?_, ?_, ?_⟩
      · rw [fed.settled, fed'.settled]
        exact alike.settled
      · rw [fed.waiting, fed'.waiting]
        exact alike.waiting
      · rw [fed.standing_eq (reached.standing_lt_of_feeding? hfed),
          fed'.standing_eq (reached'.standing_lt_of_feeding? hfed'), alike.standing]

/-- Requests that start keep hosts alike. -/
theorem Alike.startAt (alike : Alike k h h') {place : Nat}
    (replies : ∀ r, h.requests.fresh[place]? = some r →
      Reply.Alike (r.purpose.concerns k) h.dispatcher.endpoint.reply h'.dispatcher.endpoint.reply) :
    Alike k (h.startAt place) (h'.startAt place) := by
  obtain ⟨hnow, hfresh, hwaiting⟩ := alike.requests
  unfold Host.startAt
  rw [← hfresh]
  cases hplace : h.requests.fresh[place]? with
  | none => exact alike
  | some r =>
      have hothers : Timeline.Alike k { h.requests with fresh := h.requests.fresh.eraseIdx place }
          { h'.requests with fresh := h.requests.fresh.eraseIdx place } := ⟨hnow, rfl, hwaiting⟩
      obtain ⟨hworld, htimeline⟩ := Timeline.resume_alike hothers alike.dispatcher (.refl k r)
        fun _ => replies r hplace
      exact withWork_alike alike hworld htimeline

/-- Requests that get their answers keep hosts alike. -/
theorem Alike.resumeAt (alike : Alike k h h') (place : Nat) :
    Alike k (h.resumeAt place) (h'.resumeAt place) := by
  obtain ⟨hnow, hfresh, hwaiting⟩ := alike.requests
  have hplace := forall₂_getElem? hwaiting place
  unfold Host.resumeAt
  generalize h.requests.waiting[place]? = x at hplace ⊢
  generalize h'.requests.waiting[place]? = x' at hplace ⊢
  cases hplace with
  | none => exact alike
  | some tasks =>
      have hothers : Timeline.Alike k { h.requests with waiting := h.requests.waiting.eraseIdx place }
          { h'.requests with waiting := h'.requests.waiting.eraseIdx place } :=
        ⟨hnow, hfresh, forall₂_eraseIdx hwaiting place⟩
      obtain ⟨hworld, htimeline⟩ := Timeline.resume_alike hothers alike.dispatcher tasks.task
        fun hstage => absurd hstage tasks.started
      exact withWork_alike alike hworld htimeline

/-- Inquiries keep hosts alike. -/
theorem Alike.inquire (alike : Alike k h h') {window : List Tick}
    (replies : Reply.Alike ((Purpose.inquiry window).concerns k) h.dispatcher.endpoint.reply
      h'.dispatcher.endpoint.reply) :
    Alike k (h.after (.inquire window)) (h'.after (.inquire window)) := by
  have hasked : ({ h.dispatcher with inquired := none } : Dispatcher).Alike k
      { h'.dispatcher with inquired := none } := ⟨alike.dispatcher.seen, alike.settled⟩
  unfold Host.after
  rw [← alike.requests.now]
  exact withWork_alike alike (Dispatcher.make_alike h.requests.now hasked replies).1 alike.requests

/-- The answer to an inquiry keeps hosts alike. -/
theorem Alike.answer (alike : Alike k h h') (window : List Tick) (payload : List UInt8)
    {awaited awaited' : Awaited} (answers : Awaited.Alike false awaited awaited') :
    Alike k (h.after (.answer window payload awaited)) (h'.after (.answer window payload awaited')) := by
  have harrived : (h.dispatcher.arrive (.inquiry window) payload awaited).Alike k
      (h'.dispatcher.arrive (.inquiry window) payload awaited') :=
    Dispatcher.arrive_alike alike.dispatcher answers
  exact withWork_alike alike harrived alike.requests

/-- What is seen after an outcome is told from who holds its standing, and from the service. -/
theorem seen_settle (h : Host) (s : Settlement) :
    (h.settle s).seen
      = { h.seen with
          dispatcher := { h.seen.dispatcher with
            service := if h.isHeld s.standing then
                (h.service.apply s.player (h.standing s.standing) s.outcome).1
              else h.service } } := by
  unfold Host.settle
  cases h.isHeld s.standing with
  | false => rfl
  | true =>
      have hlength : ∀ standing, (h.standings.set s.standing standing).length = h.standings.length :=
        fun _ => List.length_set
      simp only [seen, say, if_true, hlength]
      rfl

/-- An outcome is applied to a standing that exists and is held. -/
theorem standing_settle (h : Host) (s : Settlement) :
    (h.settle s).standing s.standing
      = if h.isHeld s.standing = true ∧ s.standing < h.standings.length then
          { (h.service.apply s.player (h.standing s.standing) s.outcome).2.1 with
            inFlight := (h.service.apply s.player (h.standing s.standing) s.outcome).2.1.inFlight - 1 }
        else h.standing s.standing := by
  by_cases held : h.isHeld s.standing = true
  · by_cases existed : s.standing < h.standings.length
    · rw [if_pos ⟨held, existed⟩]
      exact (settle_of_isHeld held existed).1
    · rw [if_neg fun hboth => existed hboth.2]
      unfold Host.settle
      rw [if_pos held]
      simp only [Host.standing, say, List.set_eq_of_length_le (Nat.le_of_not_lt existed)]
  · rw [if_neg fun hboth => held hboth.1, settle_of_not_isHeld (Bool.eq_false_iff.mpr held)]
    rfl

/-- Applying outcomes that are alike keeps hosts alike. -/
theorem Alike.settle (alike : Alike k h h') {s s' : Settlement} (outcomes : Settlement.Alike k s s') :
    Alike k (h.settle s) (h'.settle s') := by
  obtain ⟨player, standing, outcome⟩ := s
  obtain ⟨player', standing', outcome'⟩ := s'
  obtain ⟨hplayer, hstanding, houtcome⟩ := outcomes
  dsimp only at hplayer hstanding houtcome
  subst hplayer hstanding
  have hheld : h.isHeld standing = h'.isHeld standing :=
    eq_of_seen (isHeld · standing) (fun _ => rfl) alike.seen
  have hservice : h.service = h'.service := eq_of_seen service (fun _ => rfl) alike.seen
  refine ⟨?_, ?_, ?_, ?_⟩
  · have happlied := houtcome.service_apply h.service player (h.standing standing) (h'.standing standing)
    rw [seen_settle, seen_settle, alike.seen, ← hheld, happlied, hservice]
  · rw [(h.requests_settle _).2.1, (h'.requests_settle _).2.1]
    exact alike.settled
  · rw [(h.requests_settle _).1, (h'.requests_settle _).1]
    exact alike.waiting
  · by_cases hk : standing = k
    · subst hk
      cases houtcome with
      | probability others => exact absurd others (by rw [beq_self_eq_true]; exact Bool.noConfusion)
      | same =>
          have hlength : h.standings.length = h'.standings.length :=
            eq_of_seen (·.standings.length) length_seen alike.seen
          have hown := h.standing_settle ⟨player, standing, outcome⟩
          have hown' := h'.standing_settle ⟨player, standing, outcome⟩
          dsimp only at hown hown'
          rw [hown, hown', hheld, hlength, hservice, alike.standing]
    · rw [standing_settle_of_ne hk, standing_settle_of_ne hk]
      exact alike.standing

/-- **Outcomes that are taken up** keep hosts alike. -/
theorem Alike.settleNext (alike : Alike k h h') : Alike k (h.after .settle) (h'.after .settle) := by
  have hsettled := alike.settled
  cases hs : h.dispatcher.settled with
  | nil =>
      rw [hs, List.forall₂_nil_left_iff] at hsettled
      simp only [after, Host.settleNext, hs, hsettled]
      exact alike
  | cons s rest =>
      rw [hs, List.forall₂_cons_left_iff] at hsettled
      obtain ⟨s', rest', outcomes, hrest, hs'⟩ := hsettled
      rw [after_settle hs, after_settle hs']
      apply Alike.settle _ outcomes
      exact ⟨alike.seen, hrest, alike.waiting, alike.standing⟩

/-! ### Two runs -/

/-- What the endpoint is asked for when a move starts a request. -/
def asks? (h : Host) : Move → Option Purpose
  | .start place => h.requests.fresh[place]?.map (·.purpose)
  | .inquire window => some (.inquiry window)
  | _ => none

/-- Two runs in which the same happens, and in which the endpoint answers alike: its replies differ at most
in probabilities, and not at all if the request concerns the standing. -/
inductive Parallel (k : Nat) : Host → Host → Prop where
  /-- Two hosts are made that reach endpoints of their own. -/
  | made {config : PipelineConfig} {kind : Option TransportKind} {endpoint endpoint' : Endpoint}
      {pool : Pool} {regionsKnown : Bool} {h h' : Host} (clean : pool.Clean)
      (made : ofConfig config kind endpoint pool regionsKnown = .ok h)
      (made' : ofConfig config kind endpoint' pool regionsKnown = .ok h') : Parallel k h h'
  /-- The same happens. -/
  | after {h h' : Host} (so : Parallel k h h') (m : Move)
      (replies : ∀ purpose, h.asks? m = some purpose → Reply.Alike (purpose.concerns k)
        h.dispatcher.endpoint.reply h'.dispatcher.endpoint.reply) :
      Parallel k (h.after m) (h'.after m)
  /-- The endpoints get scripts of their own. -/
  | endpoint {h h' : Host} (so : Parallel k h h') (e e' : Endpoint) :
      Parallel k (h.after (.endpoint e)) (h'.after (.endpoint e'))
  /-- An inquiry that was made gets answers that are alike. -/
  | answer {h h' : Host} (so : Parallel k h h') (window : List Tick) (payload : List UInt8)
      {awaited awaited' : Awaited} (answers : Awaited.Alike false awaited awaited') :
      Parallel k (h.after (.answer window payload awaited)) (h'.after (.answer window payload awaited'))

/-- Requests start with the replies of endpoints that have just got scripts of their own. -/
theorem Parallel.start (so : Parallel k h h') (e e' : Endpoint) (place : Nat)
    (replies : ∀ purpose, h.asks? (.start place) = some purpose →
      Reply.Alike (purpose.concerns k) e.reply e'.reply) :
    Parallel k ((h.after (.endpoint e)).after (.start place))
      ((h'.after (.endpoint e')).after (.start place)) :=
  (so.endpoint e e').after (.start place) replies

theorem Parallel.reachable (so : Parallel k h h') : h.Reachable ∧ h'.Reachable := by
  induction so with
  | made clean made made' => exact ⟨.made clean made, .made clean made'⟩
  | after _ m _ ih => exact ⟨ih.1.after m, ih.2.after m⟩
  | endpoint _ e e' ih => exact ⟨ih.1.after _, ih.2.after _⟩
  | answer _ window payload _ ih => exact ⟨ih.1.after _, ih.2.after _⟩

/-- **Hosts stay alike** as long as the same happens and the endpoint answers alike. -/
theorem Parallel.alike (so : Parallel k h h') : Alike k h h' := by
  induction so with
  | @made config kind endpoint endpoint' pool regionsKnown h h' clean made made' =>
      obtain ⟨service, hservice, rfl⟩ := exists_of_ofConfig made
      obtain ⟨service', hservice', rfl⟩ := exists_of_ofConfig made'
      obtain rfl : service = service' := Except.ok.inj (hservice.symm.trans hservice')
      exact ⟨rfl, .nil, .nil, rfl⟩
  | @after h h' so m replies ih =>
      cases m with
      | start place =>
          apply ih.startAt
          intro r hr
          exact replies r.purpose (congrArg (Option.map Request.purpose) hr)
      | resume place => exact ih.resumeAt place
      | inquire window => exact ih.inquire (replies _ rfl)
      | answer window payload awaited => exact ih.answer window payload (.same awaited)
      | settle => exact ih.settleNext
      | _ => exact ih.after_of_idle so.reachable.1 so.reachable.2 rfl
  | endpoint _ e e' ih => exact ⟨ih.seen, ih.settled, ih.waiting, ih.standing⟩
  | answer _ window payload answers ih => exact ih.answer window payload answers

/-- Both runs drain as many outcomes. -/
theorem Parallel.run_settle (so : Parallel k h h') (n : Nat) :
    Parallel k (h.run (List.replicate n .settle)) (h'.run (List.replicate n .settle)) := by
  induction n generalizing h h' with
  | zero => exact so
  | succ n ih => exact ih (so.after .settle fun _ asked => by cases asked)

/-- Applying outcomes lets nobody go. -/
theorem isHeld_run_settle (h : Host) (n k : Nat) :
    (h.run (List.replicate n .settle)).isHeld k = h.isHeld k := by
  induction n generalizing h with
  | zero => rfl
  | succ n ih =>
      have w := worked_after (h := h) (m := .settle) rfl
      have hone : (h.after .settle).isHeld k = h.isHeld k := by
        unfold isHeld refersTo
        rw [w.online, w.registry, w.classifiers, w.handles, w.connections]
      exact (ih (h.after .settle)).trans hone

end Host

namespace Ledger

variable {l : Ledger}

/-- **Outcomes are applied once, in order, and to their own standing.** For a standing that is held, the
windows in flight are those whose outcomes were not taken up, and the evidence is that of the probabilities
that were. Every window that was sent is with one request; the outcomes of the requests that have ended were
taken up in that order, each once, or wait in that order, and draining takes up those that wait, so that the
windows in flight are then those whose requests have not ended or have lost their outcomes. What the endpoint
answers to others does not change the standing. -/
theorem outcomes_of_reachable (reached : l.Reachable) {k : Nat} (held : l.host.isHeld k = true) :
    l.Settles k
      ∧ l.dispatches.Perm (l.host.requests.fresh.map (·.purpose) ++ l.host.underway.map (·.purpose)
          ++ l.endings.map (·.purpose))
      ∧ l.endings.filterMap (·.settlement?)
        = l.applications.map (·.settlement) ++ l.host.dispatcher.settled
      ∧ (let drained := l.run (List.replicate l.host.dispatcher.settled.length .settle)
         drained.host = l.host.drain.1
          ∧ drained.applications.map (·.settlement) = l.endings.filterMap (·.settlement?)
          ∧ drained.Settles k
          ∧ (drained.host.standing k).inFlight
            = l.host.requests.fresh.countP (·.purpose.concerns k)
              + l.host.underway.countP (·.purpose.concerns k) + l.lost k)
      ∧ ∀ h' : Host, Host.Parallel k l.host h' → h'.standing k = l.host.standing k := by
  have acc := reached.accounted
  refine ⟨reached.settles held, ?_, acc.ended, ?_, ?_⟩
  · rw [List.append_assoc]
    exact acc.dispatched.trans (acc.started.append_left _)
  · intro drained
    have hreached : drained.Reachable := reached.run _
    have hhost : drained.host = l.host.drain.1 := by
      rw [Host.drain_eq_run]
      exact l.host_run _
    obtain ⟨hsettled, hrequests, hendings⟩ := l.run_settle l.host.dispatcher.settled.length
    rw [List.drop_length] at hsettled
    have hheld : drained.host.isHeld k = true := by
      change (l.run _).host.isHeld k = true
      rw [l.host_run, Host.isHeld_run_settle]
      exact held
    have hsettles := hreached.settles hheld
    refine ⟨hhost, ?_, hsettles, ?_⟩
    · have hended := hreached.accounted.ended
      rw [hendings, hsettled, List.append_nil] at hended
      exact hended.symm
    · rw [hsettles.inFlight, Host.pending, Host.underway, lost, hendings, hrequests, hsettled]
      rfl
  · intro h' so
    exact so.alike.standing.symm

end Ledger

/-! ### Two players who cross -/

namespace Host

/-- An endpoint that names a probability of one digit. -/
def naming (digit : Char) : Endpoint := { afterwards := { plain := some (.ok (body digit)) } }

/-- Two classifiers send a window each; the second gets its answer first. -/
def crossing (digit : Char) : List Move :=
  [.addClassifier 1, .addClassifier 2, .tick 1 {} true, .tick 2 {} true, .endpoint (naming digit),
    .start 1, .endpoint (naming '1'), .start 0]

theorem settled_crossing (digit : Char) :
    (swift.run (crossing digit)).dispatcher.settled
      = [⟨2, 1, .ofAnswer (.ok (body digit))⟩, ⟨1, 0, .ofAnswer (.ok (body '1'))⟩] := rfl

/-- What the second is answered does not concern the first. -/
theorem parallel_crossing : Parallel 0 (swift.run (crossing '1')) (swift.run (crossing '0')) := by
  have made : Parallel 0 swift swift := .made Pool.clean_empty ofConfig_swift ofConfig_swift
  have first := (made.after (.addClassifier 1) (fun _ asked => by cases asked)).after (.addClassifier 2)
    (fun _ asked => by cases asked)
  have sent := (first.after (.tick 1 {} true) (fun _ asked => by cases asked)).after (.tick 2 {} true)
    (fun _ asked => by cases asked)
  have answered := sent.start (naming '1') (naming '0') 1 fun purpose asked => by
    obtain rfl : .dispatch 2 1 [{}] = purpose := Option.some.inj asked
    have readable : Readable (body '1') := ⟨_, probability_body (.inr ⟨rfl, rfl⟩)⟩
    have readable' : Readable (body '0') := ⟨_, probability_body (.inl ⟨rfl, rfl⟩)⟩
    exact ⟨rfl, .direct rfl readable readable', fun guard => .some (.same .nothing)⟩
  have ended := answered.start (naming '1') (naming '1') 0 fun _ _ => .refl _ _
  simp only [run, crossing, List.foldl_cons, List.foldl_nil]
  exact ended

end Host

namespace Ledger

/-- The second of two players gets its answer first. Whatever that is, nothing is in flight for the first
after draining, and its standing is the same. -/
theorem outcomes_of_reachable_crossing :
    ∃ (l : Ledger) (h' : Host), l.Reachable ∧ l.host.isHeld 0 = true ∧ Host.Parallel 0 l.host h'
      ∧ l.host.dispatcher.settled.head? = some ⟨2, 1, .ok (.probability (Json.Number.natural 1).toFloat)⟩
      ∧ h'.dispatcher.settled.head? = some ⟨2, 1, .ok (.probability (Json.Number.natural 0).toFloat)⟩
      ∧ (l.host.standing 0).inFlight = 1
      ∧ (l.host.drain.1.standing 0).inFlight = 0
      ∧ h'.drain.1.standing 0 = l.host.drain.1.standing 0 := by
  obtain ⟨l, reached, hhost⟩ : ∃ l : Ledger, l.Reachable ∧ l.host = Host.swift.run (Host.crossing '1') :=
    ⟨_, reachable_swift.run (Host.crossing '1'), host_run _ _⟩
  have so : Host.Parallel 0 l.host (Host.swift.run (Host.crossing '0')) := by
    rw [hhost]
    exact Host.parallel_crossing
  have held : l.host.isHeld 0 = true := by
    rw [hhost]
    rfl
  have hwaits : l.host.dispatcher.settled.length = 2 := by
    rw [hhost, Host.settled_crossing]
    rfl
  have hwaits' : (Host.swift.run (Host.crossing '0')).dispatcher.settled.length = 2 := by
    rw [Host.settled_crossing]
    rfl
  have hone : (l.host.standing 0).inFlight = 1 := by
    rw [hhost]
    rfl
  obtain ⟨hsettles, -, -, ⟨hdrained, -, -, hidle⟩, -⟩ := outcomes_of_reachable reached held
  have hown : l.host.dispatcher.settled.countP (·.standing == 0) = 1 := by
    rw [hhost, Host.settled_crossing]
    rfl
  have hpending := hsettles.inFlight
  rw [hone, Host.pending, hown] at hpending
  -- the law holds after draining as well
  obtain ⟨-, -, -, -, same⟩ := outcomes_of_reachable (reached.run (List.replicate 2 .settle))
    (by rw [l.host_run, Host.isHeld_run_settle]; exact held)
  have later := so.run_settle 2
  rw [← l.host_run] at later
  refine ⟨l, _, reached, held, so, ?_, ?_, hone, ?_, ?_⟩
  · rw [hhost, Host.settled_crossing, List.head?_cons, Host.ofAnswer_body (.inr ⟨rfl, rfl⟩)]
  · rw [Host.settled_crossing, List.head?_cons, Host.ofAnswer_body (.inl ⟨rfl, rfl⟩)]
  · rw [← hdrained, hidle]
    omega
  · rw [Host.drain_eq_run, Host.drain_eq_run, hwaits, hwaits', ← l.host_run]
    exact same _ later

end Ledger

end AimAnalysis
