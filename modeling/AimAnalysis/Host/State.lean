import AimAnalysis.Host.Request
import AimAnalysis.Player.Connection
import AimAnalysis.Table

/-!
# The host

The host brings everything together: the connections of the players that are online, classifiers that stand
on their own, the registry, the requests in time, and the queue of outcomes for the main context.

Connections and standings are numbered and never renumbered. A connection that was dropped can still be
looked up through a registry entry made while it was online. A standing is *held* as long as a connection
online, a classifier, a registry entry or a handle refers to it; outcomes for a standing that nobody holds
are dropped. A handle is for reading a standing from elsewhere; it can be kept by whoever can reach the
standing.
-/

namespace AimAnalysis

/-- How a service is made to reach its endpoint. -/
inductive TransportKind where
  /-- By a plain transport. -/
  | direct
  /-- Through a new guard. -/
  | guarded
deriving DecidableEq, Repr

/-- The whole system. -/
structure Host where
  /-- The configuration that new connections get unless they bring their own. -/
  config : PipelineConfig
  /-- Service, endpoint, and outcomes for the main context. -/
  dispatcher : Dispatcher
  /-- Requests in time. -/
  requests : Timeline Request := {}
  /-- Whether players' regions are asked for. -/
  regionsKnown : Bool := true
  /-- Players in regions without classification. -/
  disabledRegions : List Nat := []
  /-- All standings, by number. -/
  standings : List Standing := []
  /-- All connections, by number. -/
  connections : List Connection := []
  /-- The number of each online player's connection. -/
  online : Table Nat := .empty
  /-- The numbers of the connections in the registry, by player. -/
  registry : Table Nat := .empty
  /-- Classifiers that stand on their own, by player. -/
  classifiers : Table Classifier := .empty
  /-- The standings that handles refer to, one entry for each handle. -/
  handles : List Nat := []

namespace Host

/-- Adds a guard if the kind of transport asks for one; the second component is the link. -/
def linkTo (guards : List Guard) (transport : TransportConfig) :
    Option TransportKind → List Guard × Option Link
  | none => (guards, none)
  | some .direct => (guards, some .direct)
  | some .guarded => (guards ++ [.ofConfig transport], some (.guarded guards.length))

/-- A host under a configuration, if the service accepts it. -/
def ofConfig (config : PipelineConfig) (kind : Option TransportKind) (endpoint : Endpoint) (pool : Pool)
    (regionsKnown : Bool) : Except Fault Host :=
  let (guards, link) := linkTo [] config.transport kind
  match Service.ofConfig config.classifier link with
  | .error fault => .error fault
  | .ok service => .ok { config, dispatcher := { service, guards, endpoint, pool }, regionsKnown }

/-- Reloads the service; what is refused changes nothing. -/
def reload (h : Host) (config : PipelineConfig) (kind : Option TransportKind) : Except Fault Host :=
  let (guards, link) := linkTo h.dispatcher.guards config.transport kind
  match h.dispatcher.reload config.classifier link with
  | .error fault => .error fault
  | .ok dispatcher => .ok { h with dispatcher := { dispatcher with guards } }

/-! ## Looking up -/

/-- The service. -/
def service (h : Host) : Service := h.dispatcher.service

/-- What has happened so far. -/
def trace (h : Host) : Trace := h.dispatcher.trace

/-- The guard in use. -/
def guard? (h : Host) : Option Guard :=
  match h.service.link with
  | some (.guarded guard) => h.dispatcher.guards[guard]?
  | _ => none

/-- The connection of an online player. -/
def connection? (h : Host) (player : Nat) : Option Connection :=
  (h.online.get? player).bind fun n => h.connections[n]?

/-- The connection that a player is registered with. -/
def registered? (h : Host) (player : Nat) : Option Connection :=
  (h.registry.get? player).bind fun n => h.connections[n]?

/-- The standing of a number. -/
def standing (h : Host) (n : Nat) : Standing := h.standings[n]?.getD {}

/-- Whether the connection of a number has the standing of a number. -/
def refersTo (h : Host) (standing connection : Nat) : Bool :=
  match h.connections[connection]? with
  | none => false
  | some c => c.classifier.standing == standing

/-- Whether somebody refers to a standing. -/
def isHeld (h : Host) (standing : Nat) : Bool :=
  h.online.values.any (h.refersTo standing)
    || h.registry.values.any (h.refersTo standing)
    || h.classifiers.values.any (·.standing == standing)
    || h.handles.contains standing

/-- Whether a player's region is without classification. -/
def inDisabledRegion (h : Host) (player : Nat) : Bool :=
  h.regionsKnown && h.disabledRegions.contains player

/-! ## Changing -/

/-- Adds what was said. -/
def say (h : Host) (observed : Bool) (notices : List Notice) : Host :=
  { h with dispatcher := { h.dispatcher with trace := h.trace.say observed notices } }

/-- Adds the tags of effects that have run. -/
def noteRan (h : Host) (tags : List Nat) : Host :=
  { h with dispatcher := { h.dispatcher with trace := { h.trace with ran := h.trace.ran ++ tags } } }

/-- Replaces the connection of an online player. -/
def setConnection (h : Host) (player : Nat) (c : Connection) : Host :=
  match h.online.get? player with
  | none => h
  | some n => { h with connections := h.connections.set n c }

/-- Adds a window to the requests, copied into a snapshot. -/
def dispatch (h : Host) (player standing : Nat) (window : List Tick) : Host :=
  let (buffer, pool) := h.dispatcher.pool.lendSnapshot
  { h with
    dispatcher := { h.dispatcher with pool }
    standings := h.standings.modify standing fun s => { s with inFlight := s.inFlight + 1 }
    requests := h.requests.spawn { purpose := .dispatch player standing (buffer ++ window) } }

/-- Adds a window to the requests, if there is one to send. -/
def dispatchSome (h : Host) (player standing : Nat) : Option (List Tick) → Host
  | none => h
  | some window => h.dispatch player standing window

end Host

end AimAnalysis
