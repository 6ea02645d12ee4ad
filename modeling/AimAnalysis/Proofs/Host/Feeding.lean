import AimAnalysis.Proofs.Connection.Encounter
import AimAnalysis.Proofs.Host.Moves
import Mathlib.Data.List.Perm.Basic

/-!
# Ticks that classifiers are given

The classifiers of a host (`Host.collectors`) are those of its connections and those that stand on their
own. A move gives a tick to one of them (`Host.feeding?`), lets requests and outcomes move on
(`Host.Move.isWork`), or does neither.

* `Host.Arranged` — what the last kind of moves does: classifiers come, with empty windows and new
  standings, and go, but no window changes, and requests and outcomes are left alone.
* `Host.Fed` — what a tick does: the classifier that it was given to takes it in, and the window that is
  sent, if one is, becomes a request that has not started and is counted by the standing.
* `Host.Worked` — requests and outcomes leave alone who refers to what.

These are all moves: `Host.arranged_after`, `Host.fed_after`, `Host.worked_after`. The first leave every
standing as it is (`Host.Arranged.standing_eq`), and a tick changes the count of its own standing at most
(`Host.Fed.standing_eq`). At every moment the idle buffers of a host are empty (`Host.Reachable.clean`), and
its service was made from a valid configuration (`Host.Reachable.service`).
-/

namespace AimAnalysis

/-! ### Feedings -/

/-- A tick that is given to a classifier. -/
structure Feeding where
  /-- The player whose tick it is. -/
  player : Nat
  /-- The classifier, before it takes in the tick. -/
  classifier : Classifier
  /-- The service at that time. -/
  service : Service
  /-- Whether the player's region is without classification. -/
  inDisabledRegion : Bool
  /-- The tick. -/
  tick : Tick
  /-- Whether it is near combat. -/
  eligible : Bool

namespace Feeding

/-- What the tick leads to. -/
def step (f : Feeding) : TickStep :=
  f.classifier.onTick f.service f.inDisabledRegion f.tick f.eligible

/-- The standing of the classifier. -/
def standing (f : Feeding) : Nat := f.classifier.standing

/-- The purpose of the request that the tick leads to, if it leads to one. -/
def purpose? (f : Feeding) : Option Purpose := f.step.sent.map (.dispatch f.player f.standing)

end Feeding

/-- A classifier keeps its player and its standing. -/
theorem Classifier.standing_onTick (c : Classifier) (s : Service) (inDisabledRegion : Bool) (t : Tick)
    (eligible : Bool) : (c.onTick s inDisabledRegion t eligible).classifier.standing = c.standing := by
  have taken := c.takesIn_onTick s inDisabledRegion t eligible
  generalize c.onTick s inDisabledRegion t eligible = step at taken ⊢
  cases taken <;> rfl

namespace Connection

/-- The tick that a packet of a player gives to the classifier of the connection. -/
def feeding? (c : Connection) (player : Nat) (s : Service) (inDisabledRegion : Bool) :
    Packet → Option Feeding
  | .movement report =>
    (c.tick? report).map fun tick =>
      { player, classifier := c.classifier, service := s, inDisabledRegion, tick
        eligible := (c.reconcile report).1.timer.isEligible s.sequence }
  | .acknowledgment _ | .attack _ => none

theorem classifier_of_feeding? {c : Connection} {player : Nat} {s : Service}
    {inDisabledRegion : Bool} {p : Packet} {f : Feeding}
    (feeding : c.feeding? player s inDisabledRegion p = some f) :
    f.player = player ∧ f.classifier = c.classifier ∧ f.service = s := by
  cases p with
  | movement report =>
      obtain ⟨t, -, rfl⟩ := Option.map_eq_some_iff.mp feeding
      exact ⟨rfl, rfl, rfl⟩
  | acknowledgment | attack => cases feeding

/-- The classifier changes, and a window is sent, exactly as the tick makes it. -/
theorem classifier_onPacket (c : Connection) (player : Nat) (s : Service) (inDisabledRegion : Bool)
    (p : Packet) :
    (c.onPacket s inDisabledRegion p).connection.classifier
        = (c.feeding? player s inDisabledRegion p).elim c.classifier (·.step.classifier)
      ∧ (c.onPacket s inDisabledRegion p).sent
        = (c.feeding? player s inDisabledRegion p).bind (·.step.sent) := by
  cases p with
  | movement report =>
      obtain ⟨hclassifier, hsent⟩ := c.classifier_onMovement s inDisabledRegion report
      rw [onPacket, hclassifier, hsent]
      simp only [fed, feeding?]
      cases c.tick? report <;> exact ⟨rfl, rfl⟩
  | acknowledgment name => exact ⟨rfl, rfl⟩
  | attack targetIsPlayer => cases targetIsPlayer <;> exact ⟨rfl, rfl⟩

theorem standing_onPacket (c : Connection) (s : Service) (inDisabledRegion : Bool) (p : Packet) :
    (c.onPacket s inDisabledRegion p).connection.classifier.standing = c.classifier.standing := by
  rw [(c.classifier_onPacket c.player s inDisabledRegion p).1]
  cases hfeeding : c.feeding? c.player s inDisabledRegion p with
  | none => rfl
  | some f =>
      obtain ⟨-, hfed, -⟩ := classifier_of_feeding? hfeeding
      exact (f.classifier.standing_onTick _ _ _ _).trans (congrArg Classifier.standing hfed)

end Connection

namespace Host

/-- All classifiers: those of connections, and those that stand on their own. -/
def collectors (h : Host) : List Classifier :=
  h.connections.map (·.classifier) ++ h.classifiers.values

/-- The tick that a move gives to a classifier, if it does. -/
def feeding? (h : Host) : Move → Option Feeding
  | .packet player p =>
    (h.connection? player).bind fun c => c.feeding? player h.service (h.inDisabledRegion player) p
  | .tick player tick eligible =>
    (h.classifiers.get? player).map fun classifier =>
      { player, classifier, service := h.service
        inDisabledRegion := h.inDisabledRegion player, tick, eligible }
  | _ => none

/-- Whether a move lets requests or outcomes move on. -/
def Move.isWork : Move → Bool
  | .start _ | .resume _ | .inquire _ | .answer _ _ _ | .settle => true
  | _ => false

/-! ### What moves do -/

/-- Requests and outcomes are left alone. -/
structure SameWork (h h' : Host) : Prop where
  /-- The requests that have not started. -/
  fresh : h'.requests.fresh = h.requests.fresh
  /-- The requests that wait. -/
  waiting : h'.requests.waiting = h.requests.waiting
  /-- The outcomes that wait. -/
  settled : h'.dispatcher.settled = h.dispatcher.settled
  /-- The buffers. -/
  pool : h'.dispatcher.pool = h.dispatcher.pool
  /-- What was handed to the endpoint. -/
  shipments : h'.trace.shipments = h.trace.shipments

/-- A move that gives no tick and lets nothing move on. -/
structure Arranged (h h' : Host) : Prop extends SameWork h h' where
  /-- Classifiers go; one may come, with an empty window and a new standing. -/
  collectors : ∃ gone kept, h.collectors.Perm (gone ++ kept)
    ∧ (h'.collectors.Perm kept ∧ h'.standings = h.standings
      ∨ ∃ player, h'.collectors.Perm (.ofService player h.standings.length h.service :: kept)
          ∧ h'.standings = h.standings ++ [({} : Standing)])
  /-- The service stays, or is made anew. -/
  service : h'.service = h.service
    ∨ ∃ config link, Service.ofConfig config link = .ok h'.service

/-- A tick that is given to a classifier. -/
structure Fed (h : Host) (f : Feeding) (h' : Host) : Prop where
  /-- It is the service of the host, which stays. -/
  service : f.service = h.service ∧ h'.service = h.service
  /-- The classifier takes in the tick, and the others stay. -/
  collectors : ∃ rest, h.collectors.Perm (f.classifier :: rest)
    ∧ h'.collectors.Perm (f.step.classifier :: rest)
  /-- The standing counts the window that is sent. -/
  standings : h'.standings
    = f.purpose?.elim h.standings fun _ =>
        h.standings.modify f.standing fun s => { s with inFlight := s.inFlight + 1 }
  /-- The window that is sent becomes a request. -/
  fresh : h'.requests.fresh = h.requests.fresh ++ f.purpose?.toList.map ({ purpose := · })
  /-- The requests that wait are left alone. -/
  waiting : h'.requests.waiting = h.requests.waiting
  /-- The outcomes that wait are left alone. -/
  settled : h'.dispatcher.settled = h.dispatcher.settled
  /-- Nothing is handed to the endpoint. -/
  shipments : h'.trace.shipments = h.trace.shipments
  /-- The idle buffers stay empty. -/
  clean : h'.dispatcher.pool.Clean

/-- Requests or outcomes move on. -/
structure Worked (h h' : Host) : Prop where
  /-- Connections stay. -/
  connections : h'.connections = h.connections
  /-- Players stay online. -/
  online : h'.online = h.online
  /-- The registry stays. -/
  registry : h'.registry = h.registry
  /-- Classifiers on their own stay. -/
  classifiers : h'.classifiers = h.classifiers
  /-- Handles stay. -/
  handles : h'.handles = h.handles
  /-- There are as many standings as before. -/
  standings : h'.standings.length = h.standings.length

section

variable {h h' : Host} {f : Feeding}

/-- Moves that arrange classifiers take no standing away. -/
theorem Arranged.length_standings_le (a : Arranged h h') :
    h.standings.length ≤ h'.standings.length := by
  obtain ⟨gone, kept, -, hafter⟩ := a.collectors
  rcases hafter with ⟨-, hstandings⟩ | ⟨player, -, hstandings⟩
  · exact Nat.le_of_eq (congrArg List.length hstandings.symm)
  · rw [hstandings, List.length_append]
    exact Nat.le_add_right _ _

/-- Moves that arrange classifiers change no standing; one that is added is as it was to be looked up. -/
theorem Arranged.standing_eq (a : Arranged h h') (k : Nat) : h'.standing k = h.standing k := by
  obtain ⟨gone, kept, -, hafter⟩ := a.collectors
  unfold standing
  rcases hafter with ⟨-, hstandings⟩ | ⟨player, -, hstandings⟩
  · rw [hstandings]
  · rw [hstandings]
    by_cases hold : k < h.standings.length
    · rw [List.getElem?_append_left hold]
    · rw [List.getElem?_append_right (Nat.le_of_not_lt hold),
        List.getElem?_eq_none (Nat.le_of_not_lt hold)]
      cases k - h.standings.length <;> rfl

/-- The classifier that is given a tick is one of the host's. -/
theorem Fed.mem_collectors (fed : Fed h f h') : f.classifier ∈ h.collectors := by
  obtain ⟨rest, hbefore, -⟩ := fed.collectors
  exact hbefore.mem_iff.mpr List.mem_cons_self

theorem Fed.length_standings (fed : Fed h f h') : h'.standings.length = h.standings.length := by
  rw [fed.standings]
  cases f.purpose? with
  | none => rfl
  | some p => exact List.length_modify ..

/-- A tick changes the count of its standing, if a window is sent. -/
theorem Fed.standing_eq (fed : Fed h f h') (existed : f.standing < h.standings.length)
    (k : Nat) :
    h'.standing k
      = { h.standing k with
          inFlight := (h.standing k).inFlight + f.purpose?.toList.countP (·.concerns k) } := by
  unfold standing
  rw [fed.standings]
  cases hpurpose : f.purpose? with
  | none => rfl
  | some p =>
      obtain ⟨window, -, rfl⟩ := Option.map_eq_some_iff.mp hpurpose
      simp only [Option.elim_some, Option.toList_some, List.countP_singleton, Purpose.concerns,
        beq_iff_eq]
      by_cases hk : f.standing = k
      · subst hk
        rw [if_pos rfl, List.getElem?_modify_eq, List.getElem?_eq_getElem existed]
        rfl
      · rw [if_neg hk, List.getElem?_modify_ne _ _ hk]
        rfl

theorem Worked.collectors (w : Worked h h') : h'.collectors = h.collectors := by
  rw [Host.collectors, w.connections, w.classifiers]
  rfl

end

section

variable {h : Host}

/-- A move that leaves classifiers and standings alone. -/
theorem Arranged.of_collectors_eq {h' : Host} (same : SameWork h h')
    (collectors : h'.collectors = h.collectors) (standings : h'.standings = h.standings)
    (service : h'.service = h.service) : Arranged h h' :=
  { same with
    collectors := ⟨[], h.collectors, .refl _, .inl ⟨.of_eq collectors, standings⟩⟩
    service := .inl service }

/-- What is refused changes nothing. -/
theorem Arranged.refl : Arranged h h :=
  .of_collectors_eq ⟨rfl, rfl, rfl, rfl, rfl⟩ rfl rfl rfl

/-- What may be refused. -/
theorem Arranged.getD {next? : Option Host} (arranged : ∀ next, next? = some next → Arranged h next) :
    Arranged h (next?.getD h) := by
  cases next? with
  | none => exact .refl
  | some next => exact arranged next rfl

/-- The connection of an online player has a number. -/
theorem connection?_eq_some_iff {player : Nat} {c : Connection} :
    h.connection? player = some c ↔
      ∃ n, h.online.get? player = some n ∧ h.connections[n]? = some c :=
  Option.bind_eq_some_iff

theorem setConnection_eq {player n : Nat} (online : h.online.get? player = some n)
    (c : Connection) :
    h.setConnection player c = { h with connections := h.connections.set n c } := by
  simp only [setConnection, online]

/-- Changing a connection changes its classifier, and no other. -/
theorem collectors_set {n : Nat} {c : Connection} (numbered : h.connections[n]? = some c)
    (c' : Connection) :
    ∃ rest, h.collectors.Perm (c.classifier :: rest)
      ∧ ({ h with connections := h.connections.set n c' } : Host).collectors.Perm
          (c'.classifier :: rest) := by
  obtain ⟨hn, rfl⟩ := List.getElem?_eq_some_iff.mp numbered
  let others := h.connections.eraseIdx n
  have herase : h.connections.Perm (h.connections[n] :: others) :=
    (List.getElem_cons_eraseIdx_perm hn).symm
  have hset : (h.connections.set n c').Perm (c' :: others) := List.set_perm_cons_eraseIdx hn c'
  exact ⟨others.map (·.classifier) ++ h.classifiers.values,
    (herase.map (·.classifier)).append_right _, (hset.map (·.classifier)).append_right _⟩

/-- A connection may change without its classifier. -/
theorem collectors_set_eq {n : Nat} {c c' : Connection} (numbered : h.connections[n]? = some c)
    (classifier : c'.classifier = c.classifier) :
    ({ h with connections := h.connections.set n c' } : Host).collectors = h.collectors := by
  obtain ⟨hn, rfl⟩ := List.getElem?_eq_some_iff.mp numbered
  refine congrArg (· ++ h.classifiers.values) ?_
  have hn' : n < (h.connections.map (·.classifier)).length := by rwa [List.length_map]
  have hget : (h.connections.map (·.classifier))[n] = h.connections[n].classifier :=
    List.getElem_map _
  rw [List.map_set, classifier, ← hget, List.set_getElem_self]

theorem say_nil (h : Host) (observed : Bool) : h.say observed [] = h := by
  simp only [say, Trace.say, Notice.events, Notice.entries, Notice.violations, List.filterMap_nil,
    List.append_nil]
  rfl

theorem noteRan_nil (h : Host) : h.noteRan [] = h := by
  simp only [noteRan, List.append_nil]
  rfl

/-- A connection is changed, and something is said. -/
theorem Arranged.told {player : Nat} {c c' : Connection}
    (connected : h.connection? player = some c) (classifier : c'.classifier = c.classifier)
    (observed : Bool) (notices : List Notice) (tags : List Nat) :
    Arranged h (((h.setConnection player c').say observed notices).noteRan tags) := by
  obtain ⟨n, online, numbered⟩ := connection?_eq_some_iff.mp connected
  rw [setConnection_eq online]
  exact .of_collectors_eq ⟨rfl, rfl, rfl, rfl, rfl⟩ (collectors_set_eq numbered classifier) rfl rfl

/-- **A deed** changes a connection, but not its classifier or its estimator, and what was said. -/
theorem exists_of_manage? {h' : Host} {player : Nat} {deed : Deed}
    (managed : h.manage? player deed = some h') :
    ∃ c c' observed notices tags, h.connection? player = some c
      ∧ (c'.classifier = c.classifier ∧ c'.estimator = c.estimator)
      ∧ h' = ((h.setConnection player c').say observed notices).noteRan tags := by
  have silent : ∀ c', h.setConnection player c'
      = ((h.setConnection player c').say false []).noteRan [] := by
    intro c'
    rw [say_nil, noteRan_nil]
  cases deed with
  | era era =>
      obtain ⟨c, connected, rfl⟩ := Option.map_eq_some_iff.mp managed
      exact ⟨c, c.setEra era, _, _, _, connected, ⟨rfl, rfl⟩, silent _⟩
  | record r =>
      obtain ⟨c, connected, rfl⟩ := Option.map_eq_some_iff.mp managed
      exact ⟨c, c.startRecording r, _, _, _, connected, ⟨rfl, rfl⟩, silent _⟩
  | marker | teleport | force | endRecording =>
      obtain ⟨⟨next, _⟩, hmap, rfl⟩ := Option.map_eq_some_iff.mp managed
      obtain ⟨c, connected, hnext⟩ := Option.map_eq_some_iff.mp hmap
      obtain ⟨rfl, -⟩ := Prod.mk.inj hnext
      refine ⟨c, _, _, _, _, connected, ?_, silent _⟩
      exact ⟨rfl, rfl⟩
  | act action =>
      obtain ⟨c, connected, rfl⟩ := Option.map_eq_some_iff.mp managed
      exact ⟨c, (c.act action).1, _, _, _, connected, ⟨rfl, rfl⟩, rfl⟩

/-- **A player who connects** gets a connection whose classifier has an empty window, and whose estimator has
observed nothing. -/
theorem exists_of_connect {h' : Host} {player : Nat} {era : ClientEra} {config : PipelineConfig}
    {observed : Bool} (connected : h.connect player era config observed = .ok h') :
    ∃ c : Connection,
      (c.classifier = .ofService player h.standings.length h.service
        ∧ c.estimator = .ofConfig config.estimator)
      ∧ h' = { h with
          standings := h.standings ++ [({} : Standing)]
          connections := h.connections ++ [c]
          online := h.online.insert player h.connections.length } := by
  unfold connect at connected
  split at connected
  · cases connected
  · next c made =>
      refine ⟨c, ?_, (Except.ok.inj connected).symm⟩
      rw [Connection.eq_of_ofConfig made]
      exact ⟨rfl, rfl⟩

theorem arranged_connect {h' : Host} {player : Nat} {era : ClientEra} {config : PipelineConfig}
    {observed : Bool} (connected : h.connect player era config observed = .ok h') :
    Arranged h h' := by
  obtain ⟨c, ⟨hclassifier, -⟩, rfl⟩ := exists_of_connect connected
  refine ⟨⟨rfl, rfl, rfl, rfl, rfl⟩, ⟨[], h.collectors, .refl _, .inr ⟨player, ?_, rfl⟩⟩, .inl rfl⟩
  simp only [Host.collectors, List.map_append, List.map_cons, List.map_nil, hclassifier,
    List.append_assoc, List.singleton_append]
  exact List.perm_middle

/-- Another classifier of a player takes the place of an earlier one. -/
theorem arranged_addClassifier (h : Host) (player : Nat) : Arranged h (h.addClassifier player) := by
  let standing := h.standings.length
  let others := h.connections.map (·.classifier) ++ (h.classifiers.erase player).values
  have hbefore : h.collectors.Perm ((h.classifiers.get? player).toList ++ others) :=
    ((h.classifiers.values_perm player).append_left _).trans (List.perm_append_comm_assoc ..)
  have hafter : (h.addClassifier player).collectors.Perm
      (.ofService player standing h.service :: others) :=
    ((h.classifiers.values_insert_perm player _).append_left _).trans List.perm_middle
  exact ⟨⟨rfl, rfl, rfl, rfl, rfl⟩, ⟨_, others, hbefore, .inr ⟨player, hafter, rfl⟩⟩, .inl rfl⟩

theorem arranged_dropClassifier (h : Host) (player : Nat) :
    Arranged h (h.dropClassifier player) := by
  let others := h.connections.map (·.classifier) ++ (h.classifiers.erase player).values
  have hbefore : h.collectors.Perm ((h.classifiers.get? player).toList ++ others) :=
    ((h.classifiers.values_perm player).append_left _).trans (List.perm_append_comm_assoc ..)
  exact ⟨⟨rfl, rfl, rfl, rfl, rfl⟩, ⟨_, others, hbefore, .inl ⟨.refl _, rfl⟩⟩, .inl rfl⟩

/-- **Reloading** makes the service anew, and maybe a guard. -/
theorem eq_of_reload {h' : Host} {config : PipelineConfig} {kind : Option TransportKind}
    (reloaded : h.reload config kind = .ok h') :
    ∃ service,
      Service.ofConfig config.classifier
          (linkTo h.dispatcher.guards config.transport kind).2 = .ok service
        ∧ h' = { h with
          dispatcher := { h.dispatcher with
            service
            guards := (linkTo h.dispatcher.guards config.transport kind).1
            trace := h.trace.say false [.entry service.reloadEntry] } } := by
  simp only [reload, Dispatcher.reload] at reloaded
  split at reloaded
  · cases reloaded
  · next hmade =>
      split at hmade
      · cases hmade
      · next service made =>
          cases hmade
          cases reloaded
          exact ⟨service, made, rfl⟩

theorem exists_of_reload {h' : Host} {config : PipelineConfig} {kind : Option TransportKind}
    (reloaded : h.reload config kind = .ok h') :
    ∃ service guards trace link, Service.ofConfig config.classifier link = .ok service
      ∧ trace.shipments = h.trace.shipments
      ∧ h' = { h with dispatcher := { h.dispatcher with service, guards, trace } } := by
  obtain ⟨service, made, rfl⟩ := eq_of_reload reloaded
  exact ⟨service, _, h.trace.say false [.entry service.reloadEntry], _, made, rfl, rfl⟩

/-- **A packet** changes a connection and what was said, and a window that is sent becomes a request. -/
theorem after_packet {player : Nat} {c : Connection} (connected : h.connection? player = some c)
    (p : Packet) :
    ∃ observed notices tags, h.after (.packet player p)
      = (((h.setConnection player
            (c.onPacket h.service (h.inDisabledRegion player) p).connection).say observed
              notices).noteRan tags).dispatchSome player c.classifier.standing
                (c.onPacket h.service (h.inDisabledRegion player) p).sent := by
  let step := c.onPacket h.service (h.inDisabledRegion player) p
  refine ⟨c.observed, step.notices, step.ran, ?_⟩
  simp only [after, receive?, connected]
  rfl

/-- **Moves that give no tick** and let nothing move on. -/
theorem arranged_after {m : Move} (nobody : h.feeding? m = none) (idle : m.isWork = false) :
    Arranged h (h.after m) := by
  cases m with
  | connect player era config observed =>
      exact .getD fun next hnext => arranged_connect (eq_ok_of_toOption hnext)
  | disconnect player =>
      refine .getD fun next hnext => ?_
      obtain ⟨n, -, rfl⟩ := Option.map_eq_some_iff.mp hnext
      exact .of_collectors_eq ⟨rfl, rfl, rfl, rfl, rfl⟩ rfl rfl rfl
  | packet player p =>
      cases hconnected : h.connection? player with
      | none =>
          simp only [after, receive?, hconnected]
          exact .refl
      | some c =>
          have hnone : c.feeding? player h.service (h.inDisabledRegion player) p = none := by
            simpa only [feeding?, hconnected, Option.bind_some] using nobody
          obtain ⟨hclassifier, hsent⟩ :=
            c.classifier_onPacket player h.service (h.inDisabledRegion player) p
          rw [hnone] at hclassifier hsent
          obtain ⟨observed, notices, tags, hafter⟩ := after_packet hconnected p
          rw [hafter, hsent]
          exact .told hconnected hclassifier observed notices tags
  | manage player deed =>
      refine .getD fun next hmanaged => ?_
      obtain ⟨c, c', observed, notices, tags, connected, ⟨classifier, -⟩, rfl⟩ :=
        exists_of_manage? hmanaged
      exact .told connected classifier observed notices tags
  | register player =>
      simp only [after, registered, register?]
      cases h.online.get? player with
      | none => exact .refl
      | some n =>
          cases h.registry.get? player with
          | some _ => exact .refl
          | none => exact .of_collectors_eq ⟨rfl, rfl, rfl, rfl, rfl⟩ rfl rfl rfl
  | unregister player =>
      simp only [after, unregistered, unregister]
      cases h.registered? player with
      | none => exact .refl
      | some c => exact .of_collectors_eq ⟨rfl, rfl, rfl, rfl, rfl⟩ rfl rfl rfl
  | addClassifier player => exact arranged_addClassifier h player
  | dropClassifier player => exact arranged_dropClassifier h player
  | tick player t eligible =>
      have hnone : h.classifiers.get? player = none := by
        simpa only [feeding?, Option.map_eq_none_iff] using nobody
      simp only [after, tick?, hnone]
      exact .refl
  | keepHandle standing =>
      refine .getD fun next hnext => ?_
      unfold keepHandle? at hnext
      split at hnext <;> cases hnext
      exact .of_collectors_eq ⟨rfl, rfl, rfl, rfl, rfl⟩ rfl rfl rfl
  | reload config kind =>
      refine .getD fun next hnext => ?_
      obtain ⟨service, guards, trace, link, made, shipments, rfl⟩ :=
        exists_of_reload (eq_ok_of_toOption hnext)
      exact ⟨⟨rfl, rfl, rfl, rfl, shipments⟩, ⟨[], h.collectors, .refl _, .inl ⟨.refl _, rfl⟩⟩,
        .inr ⟨_, link, made⟩⟩
  | dropHandle | region | endpoint | pass | clock =>
      exact .of_collectors_eq ⟨rfl, rfl, rfl, rfl, rfl⟩ rfl rfl rfl
  | start | resume | inquire | answer | settle => cases idle

/-- What is done with a tick once the classifier has taken it in. -/
theorem Fed.dispatchSome {told : Host} {f : Feeding} (clean : h.dispatcher.pool.Clean)
    (service : f.service = h.service)
    (collectors : ∃ rest, h.collectors.Perm (f.classifier :: rest)
      ∧ told.collectors.Perm (f.step.classifier :: rest))
    (same : SameWork h told) (standings : told.standings = h.standings)
    (kept : told.service = h.service) :
    Fed h f (told.dispatchSome f.player f.standing f.step.sent) := by
  have hclean : told.dispatcher.pool.Clean := same.pool ▸ clean
  cases hsent : f.step.sent with
  | none =>
      have hpurpose : f.purpose? = none := by rw [Feeding.purpose?, hsent, Option.map_none]
      refine ⟨⟨service, kept⟩, collectors, ?_, ?_, same.waiting, same.settled, same.shipments, hclean⟩
      · rw [hpurpose]
        exact standings
      · rw [hpurpose]
        exact same.fresh.trans (List.append_nil _).symm
  | some window =>
      have hpurpose : f.purpose? = some (.dispatch f.player f.standing window) := by
        rw [Feeding.purpose?, hsent, Option.map_some]
      have hbuffer : told.dispatcher.pool.lendSnapshot.1 = [] := hclean.snapshots.lent_eq_nil
      refine ⟨⟨service, kept⟩, collectors, ?_, ?_, same.waiting, same.settled, same.shipments,
        hclean.lendSnapshot⟩
      · rw [hpurpose]
        exact congrArg (List.modify · f.standing _) standings
      · rw [hpurpose]
        simp only [Host.dispatchSome, dispatch, Timeline.spawn, hbuffer, List.nil_append, same.fresh]
        rfl

/-- **Moves that give a tick** to a classifier. -/
theorem fed_after (clean : h.dispatcher.pool.Clean) {m : Move} {f : Feeding}
    (feeding : h.feeding? m = some f) : Fed h f (h.after m) := by
  cases m with
  | packet player p =>
      obtain ⟨c, connected, hfeeding⟩ := Option.bind_eq_some_iff.mp feeding
      obtain ⟨n, online, numbered⟩ := connection?_eq_some_iff.mp connected
      obtain ⟨hclassifier, hsent⟩ :=
        c.classifier_onPacket player h.service (h.inDisabledRegion player) p
      rw [hfeeding] at hclassifier hsent
      obtain ⟨rfl, hfed, hservice⟩ := Connection.classifier_of_feeding? hfeeding
      obtain ⟨observed, notices, tags, hafter⟩ := after_packet connected p
      obtain ⟨rest, hbefore, hset⟩ := collectors_set numbered
        (c.onPacket h.service (h.inDisabledRegion f.player) p).connection
      rw [hclassifier] at hset
      have hstanding : c.classifier.standing = f.standing := congrArg Classifier.standing hfed.symm
      rw [hafter, hsent, hstanding, setConnection_eq online]
      exact .dispatchSome clean hservice ⟨rest, hfed ▸ hbefore, hset⟩ ⟨rfl, rfl, rfl, rfl, rfl⟩ rfl rfl
  | tick player t eligible =>
      obtain ⟨c, hget, rfl⟩ := Option.map_eq_some_iff.mp feeding
      let others := h.connections.map (·.classifier) ++ (h.classifiers.erase player).values
      have hbefore : h.collectors.Perm (c :: others) := by
        have hvalues := (h.classifiers.values_perm player).append_left
          (h.connections.map (·.classifier))
        rw [hget] at hvalues
        exact hvalues.trans List.perm_middle
      have hinserted : ∀ c', ({ h with classifiers := h.classifiers.insert player c' } :
          Host).collectors.Perm (c' :: others) := fun c' =>
        ((h.classifiers.values_insert_perm player c').append_left _).trans List.perm_middle
      simp only [after, tick?, hget]
      exact .dispatchSome clean rfl ⟨others, hbefore, hinserted _⟩ ⟨rfl, rfl, rfl, rfl, rfl⟩ rfl rfl
  | _ => cases feeding

/-- Applying an outcome changes a standing, the service, and what was said. -/
theorem Worked.settle (h : Host) (s : Settlement) : Worked h (h.settle s) := by
  unfold Host.settle
  split
  · exact ⟨rfl, rfl, rfl, rfl, rfl, List.length_set⟩
  · exact ⟨rfl, rfl, rfl, rfl, rfl, rfl⟩

/-- **Moves that let requests or outcomes move on.** -/
theorem worked_after {m : Move} (works : m.isWork = true) : Worked h (h.after m) := by
  cases m with
  | start place =>
      simp only [after, startAt]
      split <;> exact ⟨rfl, rfl, rfl, rfl, rfl, rfl⟩
  | resume place =>
      simp only [after, resumeAt]
      split <;> exact ⟨rfl, rfl, rfl, rfl, rfl, rfl⟩
  | inquire | answer => exact ⟨rfl, rfl, rfl, rfl, rfl, rfl⟩
  | settle =>
      simp only [after, settleNext]
      split
      · exact ⟨rfl, rfl, rfl, rfl, rfl, rfl⟩
      · next s rest _ =>
          obtain ⟨hconnections, honline, hregistry, hclassifiers, hhandles, hstandings⟩ :=
            Worked.settle { h with dispatcher := { h.dispatcher with settled := rest } } s
          exact ⟨hconnections, honline, hregistry, hclassifiers, hhandles, hstandings⟩
  | _ => cases works

/-- If no request is there to move on, nothing happens. -/
theorem after_of_call?_eq_none {m : Move} (works : m.isWork = true) (idle : m ≠ .settle)
    (nobody : h.call? m = none) : h.after m = h := by
  cases m with
  | start place => simp only [after, startAt, Option.map_eq_none_iff.mp nobody]
  | resume place => simp only [after, resumeAt, Option.map_eq_none_iff.mp nobody]
  | inquire | answer => cases nobody
  | settle => exact absurd rfl idle
  | _ => cases works

/-- **Moves that let requests move on** resume one, or do nothing. -/
theorem dispatcher_after_of_isWork {m : Move} (works : m.isWork = true) (idle : m ≠ .settle) :
    (h.after m).dispatcher = h.dispatcher
      ∨ ∃ inquired r, (h.after m).dispatcher
        = (Dispatcher.requestBody { h.dispatcher with inquired } h.requests.now r).1 := by
  cases hcall : h.call? m with
  | none =>
      left
      rw [after_of_call?_eq_none works idle hcall]
  | some call =>
      right
      obtain ⟨inquired, hsame⟩ := exists_of_call? hcall
      exact ⟨inquired, call.request, hsame ▸ dispatcher_after hcall⟩

/-- Every move keeps idle buffers empty. -/
theorem clean_after (clean : h.dispatcher.pool.Clean) (m : Move) :
    (h.after m).dispatcher.pool.Clean := by
  cases hfeeding : h.feeding? m with
  | some f => exact (fed_after clean hfeeding).clean
  | none =>
      cases hworks : m.isWork with
      | false => exact (arranged_after hfeeding hworks).pool ▸ clean
      | true =>
          by_cases hsettle : m = .settle
          · subst hsettle
            simp only [after, settleNext]
            split
            · exact clean
            · unfold settle
              split <;> exact clean
          · rcases dispatcher_after_of_isWork hworks hsettle with hsame | ⟨inquired, r, hafter⟩
            · rw [hsame]
              exact clean
            · rw [hafter]
              exact Dispatcher.clean_requestBody (d := { h.dispatcher with inquired }) _ clean r

/-- The idle buffers of a host are empty at every moment. -/
theorem Reachable.clean (reached : h.Reachable) : h.dispatcher.pool.Clean := by
  induction reached with
  | @made config kind endpoint pool regionsKnown h clean made =>
      obtain ⟨service, -, rfl⟩ := exists_of_ofConfig made
      exact clean
  | after _ m ih => exact clean_after ih m

/-- Requests that move on leave the service alone. -/
theorem service_after_of_isWork {m : Move} (works : m.isWork = true)
    (idle : m ≠ .settle) : (h.after m).service = h.service := by
  unfold service
  rcases dispatcher_after_of_isWork works idle with hsame | ⟨inquired, r, hafter⟩
  · rw [hsame]
  · rw [hafter]
    exact Dispatcher.service_requestBody _ h.requests.now r

/-- Every move leaves a service that was made from a valid configuration. -/
theorem service_after (clean : h.dispatcher.pool.Clean) (reached : h.service.Reachable) (m : Move) :
    (h.after m).service.Reachable := by
  cases hfeeding : h.feeding? m with
  | some f =>
      rw [(fed_after clean hfeeding).service.2]
      exact reached
  | none =>
      cases hworks : m.isWork with
      | false =>
          rcases (arranged_after hfeeding hworks).service with hsame | ⟨config, link, made⟩
          · rw [hsame]
            exact reached
          · exact .made made
      | true =>
          by_cases hsettle : m = .settle
          · subst hsettle
            simp only [after, settleNext]
            split
            · exact reached
            · unfold settle
              split
              · exact reached.applied _ _ _
              · exact reached
          · rw [service_after_of_isWork hworks hsettle]
            exact reached

/-- The service of a host was made from a valid configuration. -/
theorem Reachable.service (reached : h.Reachable) : h.service.Reachable := by
  induction reached with
  | @made config kind endpoint pool regionsKnown h clean made =>
      obtain ⟨service, hservice, rfl⟩ := exists_of_ofConfig made
      exact .made hservice
  | after reached m ih => exact service_after reached.clean ih m

end

end Host

end AimAnalysis
