import GossipComm.Message
import Mathlib.Data.List.Basic

/-!
The comm instance and its goroutines, interleaved.

A `World` is the shared state of one `commImpl` (`CommState`: the `stopping`
flag, the subscription list, `exitChan`, `stopWG`, `deadEndpoints`, the connection
store) together with every goroutine that runs against it, each at a program point
of its own function.  A goroutine's step reads and writes only the shared state and
its own program point, and may start goroutines; `World.step` puts the results in
place, so every step changes the goroutine list the same way.

`World.step` takes one atomic step: either a caller starts an entry point (`Stop`,
`Accept`, `Send`, an inbound `GossipStream`, `CloseConn`), the consumer of
`PresumedDead()` reads, or one goroutine runs to its next atomic action.  Steps are
cut where the Go code touches shared state: an atomic load or store, a channel send,
receive or close, a mutex-guarded block, a store operation.
A step that would block returns `none`.

The connection store, the demultiplexer and the gRPC server are collaborators not
in this repository.  The store is modelled from the spec (section 4.4): a map from
PKI-ID to connection, a dial latch per PKI-ID, `closeByPKIid` removing and closing
whatever the key maps to, `onConnected` refusing a PKI-ID that is present,
`shutdown` closing everything.  The server and the demultiplexer contribute only
what the comm code observes of them: `Serve` returns once the server is stopped, and
a closed demultiplexer delivers nil on the generic channels.

Everything a step does to the outside world is appended to `log`, so properties of
a whole run ("closed exactly once", "never written after Stop returned") are
properties of the log.
-/

namespace GossipComm

/-- The program points of `Stop`. -/
inductive StopPc
  /-- `if c.isStopping() { return }` -/
  | entry
  /-- `atomic.StoreInt32(&c.stopping, int32(1))` -/
  | store
  /-- `if c.gSrv != nil { c.gSrv.Stop() }` -/
  | stopServer
  /-- `if c.lsnr != nil { c.lsnr.Close() }` -/
  | closeListener
  /-- `c.connStore.shutdown()` -/
  | shutdownStore
  /-- `c.exitChan <- struct{}{}` -/
  | sendExit
  /-- `c.msgPublisher.Close()` -/
  | closePublisher
  /-- `c.emptySubscriptions()`, the whole walk under `c.lock` -/
  | emptySubscriptions
  /-- `c.stopWG.Wait()` -/
  | wait
  /-- returned after the wait -/
  | returned
  /-- returned at the `isStopping` test -/
  | skipped
  deriving DecidableEq, Repr

/-- The program points of `Accept`, with the id of the channel it made. -/
inductive AcceptPc
  /-- `c.msgPublisher.AddChannel(acceptor)` and `make(chan proto.ReceivedMessage, 10)` -/
  | entry
  /-- `if c.isStopping()` -/
  | check (ch : Nat)
  /-- `c.subscriptions = append(c.subscriptions, specificChan)` under `c.lock` -/
  | append (ch : Nat)
  /-- `go func() { ... }()` -/
  | spawn (ch : Nat)
  | returned (ch : Nat)
  deriving DecidableEq, Repr

/-- The program points of the goroutine `Accept` starts. -/
inductive BridgePc
  /-- started, before `c.stopWG.Add(1)` -/
  | start
  /-- in the `for { select ... }` loop -/
  | loop
  /-- took the token off `c.exitChan`, before `c.exitChan <- s` -/
  | putBack
  | exited
  deriving DecidableEq, Repr

/-- The program points of `Send`. -/
inductive SendPc
  /-- `if c.isStopping() || len(peers) == 0` -/
  | entry
  /-- the loop of `go c.sendToEndpoint(peer, msg)` -/
  | spawn
  | returned
  deriving DecidableEq, Repr

/-- The program points of `sendToEndpoint` and the `disconnect` it calls. -/
inductive EndpointPc
  /-- `if c.isStopping()` -/
  | entry
  /-- `c.connStore.getConnection(peer)`: look the PKI-ID up, or start a dial -/
  | getConnection
  /-- the dial and handshake of `getConnection`, outside the store lock -/
  | dialing
  /-- `conn.send(msg, disConnectOnErr)` enqueued the message on `conn` -/
  | queued (conn : Nat)
  /-- `c.disconnect(peer.PKIID)`: `if c.isStopping()` -/
  | disconnect
  /-- `c.deadEndpoints <- pkiID` -/
  | writeDead
  /-- `c.connStore.closeByPKIid(pkiID)` -/
  | closeByPKIid
  | returned
  deriving DecidableEq, Repr

/-- The program points of `GossipStream`, serving one inbound stream. -/
inductive StreamPc
  /-- `if c.isStopping()` -/
  | entry
  /-- `c.authenticateRemotePeer(stream)` -/
  | authenticate
  /-- `c.connStore.onConnected(stream, connInfo)` -/
  | onConnected (p : PKIidType)
  /-- `conn.serviceConnection()` -/
  | serving (p : PKIidType) (conn : Nat)
  /-- the deferred `conn.close()`, after `c.connStore.closeByPKIid(connInfo.ID)` -/
  | closeOwn (p : PKIidType) (conn : Nat)
  | returned
  deriving DecidableEq, Repr

/-- One goroutine and where it stands. -/
inductive Proc
  | stop (pc : StopPc)
  | accept (pc : AcceptPc)
  /-- the goroutine `Accept` started for subscription channel `ch` -/
  | bridge (ch : Nat) (pc : BridgePc)
  /-- the `s.Serve(ll)` goroutine of `NewCommInstanceWithServer`, while it runs -/
  | serve (running : Bool)
  | send (peers : List PKIidType) (pc : SendPc)
  | sendToEndpoint (p : PKIidType) (pc : EndpointPc)
  | gossipStream (pc : StreamPc)
  deriving DecidableEq, Repr

/-- What a step does that is seen outside the comm instance. -/
inductive Effect
  | stopServer
  | closeListener
  | shutdownStore
  | sendExit
  | closePublisher
  /-- `close(ch)` on a subscription channel -/
  | closeChan (ch : Nat)
  /-- `c.deadEndpoints <- pkiID` -/
  | writeDead (p : PKIidType)
  /-- the store's `closeByPKIid(p)` -/
  | closeByPKIid (p : PKIidType)
  /-- the store's `closeConn(peer)` for a peer with PKI-ID `p` -/
  | closeConn (p : PKIidType)
  /-- `conn.close()` -/
  | connClose (conn : Nat)
  deriving DecidableEq, Repr

/-- The shared state of the comm instance: the fields of `commImpl` the goroutines
share, the connection store, and the log of effects. -/
structure CommState where
  /-- `c.port`; the server, its listener and the `Serve` goroutine exist iff it is positive -/
  port : Int
  stopping : Bool
  subscriptions : List Nat
  /-- the tokens in `c.exitChan`, of capacity one -/
  exitChan : Nat
  stopWG : Nat
  /-- the unread entries of `c.deadEndpoints`, of capacity 100 -/
  deadEndpoints : List PKIidType
  /-- the store's map from PKI-ID to connection -/
  pki2Conn : List (PKIidType × Nat)
  /-- the PKI-IDs with a dial in flight -/
  dialing : List PKIidType
  /-- the store's `isClosing` -/
  storeClosing : Bool
  publisherClosed : Bool
  serverStopped : Bool
  /-- the next channel or connection id -/
  fresh : Nat
  log : List Effect
  deriving DecidableEq, Repr

/-- The comm instance and its goroutines. -/
structure World where
  comm : CommState
  procs : List Proc
  deriving DecidableEq, Repr

/-- What the environment decides in a goroutine's step: which ready case a `select`
takes, and how the step's I/O ends. -/
inductive Input
  /-- nothing to decide: the step is determined, its I/O succeeds, or a `select` takes
  its exit case (a dial succeeds only with `peer`) -/
  | none
  /-- the I/O fails: a dial, a handshake, the send of a queued message, or the stream a
  session serves -/
  | fail
  /-- a message arrives on the bridge's generic channel -/
  | message
  /-- a handshake, inbound or the dial's, authenticated the remote as `p` -/
  | peer (p : PKIidType)
  deriving DecidableEq, Repr

/-- Inputs from outside the instance: a caller starting an entry point, the reader of
`PresumedDead()`, or one goroutine's next step. -/
inductive Act
  | stop
  | accept
  | send (peers : List PKIidType)
  /-- a remote opens a stream: the server runs `GossipStream` -/
  | gossipStream
  /-- `CloseConn` for a peer with this PKI-ID -/
  | closeConn (p : PKIidType)
  | presumedDead
  /-- goroutine `i` steps; `input` is what the environment decides in that step -/
  | run (i : Nat) (input : Input)
  deriving DecidableEq, Repr

/-- The connection a store map holds for `p`. -/
def lookupConn (p : PKIidType) : List (PKIidType × Nat) → Option Nat
  | [] => none
  | e :: rest => if e.1 = p then some e.2 else lookupConn p rest

namespace CommState

variable (c : CommState)

/-- The shared state `NewCommInstanceWithServer(port, ...)` sets up. -/
def init (port : Int) : CommState where
  port := port
  stopping := false
  subscriptions := []
  exitChan := 0
  stopWG := if 0 < port then 1 else 0
  deadEndpoints := []
  pki2Conn := []
  dialing := []
  storeClosing := false
  publisherClosed := false
  serverStopped := false
  fresh := 0
  log := []

/-- The connection the store holds for `p`. -/
def connOf (p : PKIidType) : Option Nat := lookupConn p c.pki2Conn

def emit (es : List Effect) : CommState := { c with log := c.log ++ es }

/-- Modelled from the spec: remove `p`'s entry from the store and close its connection,
logging `e` first.  `closeByPKIid` and `closeConn` both do this. -/
def dropKey (p : PKIidType) (e : Effect) : CommState :=
  { c with
    pki2Conn := c.pki2Conn.filter fun entry => decide (entry.1 ≠ p)
    log := c.log ++ e :: (c.connOf p).toList.map .connClose }

/-- Modelled from the spec: the store's `closeByPKIid(p)`. -/
def closeByPKIid (p : PKIidType) : CommState := c.dropKey p (.closeByPKIid p)

/-- Modelled from the spec: the store's `closeConn(peer)`. -/
def closeConn (p : PKIidType) : CommState := c.dropKey p (.closeConn p)

/-- Modelled from the spec: the store's `shutdown()`: mark it closing and close every
connection. -/
def shutdownStore : CommState :=
  { c with
    storeClosing := true
    pki2Conn := []
    log := c.log ++ .shutdownStore :: c.pki2Conn.map fun entry => .connClose entry.2 }

/-- One step of `Stop`. -/
def stepStop : StopPc → Option (StopPc × CommState)
  | .entry => some (if c.stopping then .skipped else .store, c)
  | .store => some (.stopServer, { c with stopping := true })
  | .stopServer =>
    some (.closeListener,
      if 0 < c.port then { c.emit [.stopServer] with serverStopped := true } else c)
  | .closeListener =>
    some (.shutdownStore,
      if 0 < c.port then { c.emit [.closeListener] with serverStopped := true } else c)
  | .shutdownStore => some (.sendExit, c.shutdownStore)
  | .sendExit =>
    if c.exitChan < 1 then
      some (.closePublisher, { c.emit [.sendExit] with exitChan := c.exitChan + 1 })
    else none
  | .closePublisher =>
    some (.emptySubscriptions, { c.emit [.closePublisher] with publisherClosed := true })
  | .emptySubscriptions => some (.wait, c.emit (c.subscriptions.map .closeChan))
  | .wait => if c.stopWG = 0 then some (.returned, c) else none
  | .returned => none
  | .skipped => none

/-- One step of `Accept`, with the goroutines it starts; channel ids come from
`fresh`. -/
def stepAccept : AcceptPc → Option (AcceptPc × List Proc × CommState)
  | .entry => some (.check c.fresh, [], { c with fresh := c.fresh + 1 })
  | .check ch => some (if c.stopping then .returned ch else .append ch, [], c)
  | .append ch => some (.spawn ch, [], { c with subscriptions := c.subscriptions ++ [ch] })
  | .spawn ch => some (.returned ch, [.bridge ch .start], c)
  | .returned _ => none

/-- One step of the goroutine `Accept` starts.  The generic-channel case of the select
reads nil once the demultiplexer is closed, and the type assertion on it panics; a
message forwarded to a closed `ch` panics too.  Either way the deferred `recover` ends
the goroutine, after its deferred `stopWG.Done()`. -/
def stepBridge (ch : Nat) (input : Input) : BridgePc → Option (BridgePc × CommState)
  | .start => some (.loop, { c with stopWG := c.stopWG + 1 })
  | .loop =>
    match input with
    | .message =>
      if c.publisherClosed || decide (Effect.closeChan ch ∈ c.log) then
        some (.exited, { c with stopWG := c.stopWG - 1 })
      else some (.loop, c)
    | _ =>
      if 0 < c.exitChan then some (.putBack, { c with exitChan := c.exitChan - 1 })
      else none
  | .putBack =>
    if c.exitChan < 1 then
      some (.exited, { c with exitChan := c.exitChan + 1, stopWG := c.stopWG - 1 })
    else none
  | .exited => none

/-- One step of the `Serve` goroutine: it returns once the server is stopped. -/
def stepServe : Bool → Option (Bool × CommState)
  | true => if c.serverStopped then some (false, { c with stopWG := c.stopWG - 1 }) else none
  | false => none

/-- One step of `Send`, with the goroutines it starts. -/
def stepSend (peers : List PKIidType) : SendPc → Option (SendPc × List Proc × CommState)
  | .entry => some (if c.stopping || peers.isEmpty then .returned else .spawn, [], c)
  | .spawn => some (.returned, peers.map (.sendToEndpoint · .entry), c)
  | .returned => none

/-- One step of `sendToEndpoint` for PKI-ID `p`.  `getConnection` is modelled from the
spec: an existing connection for `p` is reused, a dial in flight for `p` is waited for, and
a dial whose handshake authenticated the peer as `id` commits its connection under `id`,
the peer's own PKI-ID, unless the store already holds one for `id` or is closing, in which
case the new one is closed.  Any other input ends the dial as a failure. -/
def stepEndpoint (p : PKIidType) (input : Input) : EndpointPc → Option (EndpointPc × CommState)
  | .entry => some (if c.stopping then .returned else .getConnection, c)
  | .getConnection =>
    if c.storeClosing then some (.disconnect, c)
    else match c.connOf p with
      | some conn => some (.queued conn, c)
      | none =>
        if p ∈ c.dialing then none else some (.dialing, { c with dialing := p :: c.dialing })
  | .dialing =>
    match input with
    | .peer (some id) =>
      if c.storeClosing then
        some (.disconnect, { c.emit [.connClose c.fresh] with
          dialing := c.dialing.erase p, fresh := c.fresh + 1 })
      else match c.connOf (some id) with
        | some other =>
          some (.queued other, { c.emit [.connClose c.fresh] with
            dialing := c.dialing.erase p, fresh := c.fresh + 1 })
        | none =>
          some (.queued c.fresh, { c with
            dialing := c.dialing.erase p, fresh := c.fresh + 1,
            pki2Conn := (some id, c.fresh) :: c.pki2Conn })
    | _ => some (.disconnect, { c with dialing := c.dialing.erase p })
  | .queued _ =>
    match input with
    | .fail => some (.disconnect, c)
    | _ => some (.returned, c)
  | .disconnect => some (if c.stopping then .returned else .writeDead, c)
  | .writeDead =>
    if c.deadEndpoints.length < 100 then
      some (.closeByPKIid, { c.emit [.writeDead p] with deadEndpoints := c.deadEndpoints ++ [p] })
    else none
  | .closeByPKIid => some (.returned, c.closeByPKIid p)
  | .returned => none

/-- One step of `GossipStream`.  `onConnected` is modelled from the spec: it refuses a
PKI-ID the store already holds. -/
def stepStream (input : Input) : StreamPc → Option (StreamPc × CommState)
  | .entry => some (if c.stopping then .returned else .authenticate, c)
  | .authenticate =>
    match input with
    | .peer (some id) => some (.onConnected (some id), c)
    | _ => some (.returned, c)
  | .onConnected p =>
    match c.connOf p with
    | some _ => some (.returned, c)
    | none =>
      some (.serving p c.fresh,
        { c with pki2Conn := (p, c.fresh) :: c.pki2Conn, fresh := c.fresh + 1 })
  | .serving p conn =>
    match input with
    | .fail => some (.closeOwn p conn, c.closeByPKIid p)
    | _ => none
  | .closeOwn _ conn => some (.returned, c.emit [.connClose conn])
  | .returned => none

/-- A step of a function that starts no goroutine, as a step of the goroutine `mk pc`. -/
def lift {π : Type} (mk : π → Proc) :
    Option (π × CommState) → Option (Proc × List Proc × CommState) :=
  Option.map fun (pc, c) => (mk pc, [], c)

/-- A step of a function that may start goroutines, as a step of the goroutine `mk pc`. -/
def liftSpawn {π : Type} (mk : π → Proc) :
    Option (π × List Proc × CommState) → Option (Proc × List Proc × CommState) :=
  Option.map fun (pc, qs, c) => (mk pc, qs, c)

/-- One step of a goroutine standing at `q`: where it moves, the goroutines it starts,
and the shared state after. -/
def stepProc (input : Input) : Proc → Option (Proc × List Proc × CommState)
  | .stop pc => lift .stop (c.stepStop pc)
  | .accept pc => liftSpawn .accept (c.stepAccept pc)
  | .bridge ch pc => lift (.bridge ch) (c.stepBridge ch input pc)
  | .serve running => lift .serve (c.stepServe running)
  | .send peers pc => liftSpawn (.send peers) (c.stepSend peers pc)
  | .sendToEndpoint p pc => lift (.sendToEndpoint p) (c.stepEndpoint p input pc)
  | .gossipStream pc => lift .gossipStream (c.stepStream input pc)

variable {c' : CommState} {q' : Proc} {qs : List Proc}

@[simp] theorem lift_eq_some {π : Type} {mk : π → Proc} {x : Option (π × CommState)} :
    lift mk x = some (q', qs, c') ↔ ∃ pc, x = some (pc, c') ∧ q' = mk pc ∧ qs = [] := by
  constructor
  · intro h
    obtain ⟨⟨pc, c''⟩, hx, h⟩ := Option.map_eq_some'.mp h
    cases h
    exact ⟨pc, hx, rfl, rfl⟩
  · rintro ⟨pc, rfl, rfl, rfl⟩
    rfl

@[simp] theorem liftSpawn_eq_some {π : Type} {mk : π → Proc}
    {x : Option (π × List Proc × CommState)} :
    liftSpawn mk x = some (q', qs, c') ↔ ∃ pc, x = some (pc, qs, c') ∧ q' = mk pc := by
  constructor
  · intro h
    obtain ⟨⟨pc, qs', c''⟩, hx, h⟩ := Option.map_eq_some'.mp h
    cases h
    exact ⟨pc, hx, rfl⟩
  · rintro ⟨pc, rfl, rfl⟩
    rfl

end CommState

namespace World

/-- The instance `NewCommInstanceWithServer(port, ...)` returns, with its `Serve`
goroutine when it has a server. -/
def init (port : Int) : World :=
  ⟨CommState.init port, if 0 < port then [.serve true] else []⟩

variable (w : World)

/-- One atomic step of the whole instance; `none` when it would block. -/
def step : Act → Option World
  | .stop => some ⟨w.comm, w.procs ++ [.stop .entry]⟩
  | .accept => some ⟨w.comm, w.procs ++ [.accept .entry]⟩
  | .send peers => some ⟨w.comm, w.procs ++ [.send peers .entry]⟩
  | .gossipStream => some ⟨w.comm, w.procs ++ [.gossipStream .entry]⟩
  | .closeConn p => some ⟨w.comm.closeConn p, w.procs⟩
  | .presumedDead =>
    match w.comm.deadEndpoints with
    | [] => none
    | _ :: rest => some ⟨{ w.comm with deadEndpoints := rest }, w.procs⟩
  | .run i input =>
    match w.procs[i]? with
    | none => none
    | some q =>
      (w.comm.stepProc input q).map fun (q', qs, c') => ⟨c', w.procs.set i q' ++ qs⟩

end World

/-- The state after a sequence of steps, if none of them blocks. -/
def World.run : World → List Act → Option World
  | w, [] => some w
  | w, a :: as => (w.step a).bind fun w' => w'.run as

/-! ### What every step keeps -/

namespace CommState

variable {c c' : CommState} {input : Input}

/-- A goroutine's step only appends to the log and never clears `stopping`. -/
theorem stepProc_mono {q q' : Proc} {qs : List Proc}
    (h : c.stepProc input q = some (q', qs, c')) :
    c.log <+: c'.log ∧ (c.stopping = true → c'.stopping = true) := by
  cases q with
  | stop pc | bridge _ pc | serve pc | sendToEndpoint _ pc | gossipStream pc =>
    obtain ⟨_, hx, -, -⟩ := lift_eq_some.mp h
    cases pc <;> simp only [stepStop, stepBridge, stepServe, stepEndpoint, stepStream] at hx <;>
      (repeat' split at hx) <;> cases hx <;> simp [emit, shutdownStore, closeByPKIid, dropKey]
  | accept pc | send _ pc =>
    obtain ⟨_, hx, -⟩ := liftSpawn_eq_some.mp h
    cases pc <;> simp only [stepAccept, stepSend] at hx <;> (repeat' split at hx) <;> cases hx <;>
      simp

/-- The goroutines a step starts are bridges and `sendToEndpoint`s at their first line. -/
theorem stepProc_spawned {q q' : Proc} {qs : List Proc}
    (h : c.stepProc input q = some (q', qs, c')) :
    ∀ r ∈ qs, (∃ ch, r = .bridge ch .start) ∨ ∃ p, r = .sendToEndpoint p .entry := by
  cases q with
  | stop pc | bridge _ pc | serve pc | sendToEndpoint _ pc | gossipStream pc =>
    obtain ⟨_, -, -, rfl⟩ := lift_eq_some.mp h
    simp
  | accept pc | send _ pc =>
    obtain ⟨_, hx, -⟩ := liftSpawn_eq_some.mp h
    cases pc <;> simp only [stepAccept, stepSend] at hx <;> (repeat' split at hx) <;> cases hx <;>
      simp

end CommState

namespace World

variable {w w' : World}

/-- **What one step of the instance can do.**  A caller starts a goroutine at the entry of
its function, `CloseConn` drops a key from the store, `PresumedDead()` takes the oldest
entry, or one goroutine steps in place and appends what it starts. -/
theorem step_cases {a : Act} (h : w.step a = some w') :
    (∃ q, (q = .stop .entry ∨ q = .accept .entry ∨ (∃ peers, q = .send peers .entry) ∨
        q = .gossipStream .entry) ∧ w' = ⟨w.comm, w.procs ++ [q]⟩) ∨
    (∃ p, w' = ⟨w.comm.closeConn p, w.procs⟩) ∨
    (∃ p rest, w.comm.deadEndpoints = p :: rest ∧
      w' = ⟨{ w.comm with deadEndpoints := rest }, w.procs⟩) ∨
    (∃ i input q q' qs c', w.procs[i]? = some q ∧
      w.comm.stepProc input q = some (q', qs, c') ∧
      w' = ⟨c', w.procs.set i q' ++ qs⟩) := by
  cases a with
  | stop => cases h; exact .inl ⟨_, .inl rfl, rfl⟩
  | accept => cases h; exact .inl ⟨_, .inr (.inl rfl), rfl⟩
  | send peers => cases h; exact .inl ⟨_, .inr (.inr (.inl ⟨peers, rfl⟩)), rfl⟩
  | gossipStream => cases h; exact .inl ⟨_, .inr (.inr (.inr rfl)), rfl⟩
  | closeConn p => cases h; exact .inr (.inl ⟨p, rfl⟩)
  | presumedDead =>
    simp only [step] at h
    split at h
    · cases h
    · cases h; exact .inr (.inr (.inl ⟨_, _, ‹_›, rfl⟩))
  | run i input =>
    simp only [step] at h
    split at h
    · cases h
    · simp only [Option.map_eq_some', Prod.exists] at h
      obtain ⟨q', qs, c', hx, rfl⟩ := h
      exact .inr (.inr (.inr ⟨i, input, _, q', qs, c', ‹_›, hx, rfl⟩))

/-- A step of the instance only appends to the log and never clears `stopping`. -/
theorem step_mono {a : Act} (h : w.step a = some w') :
    w.comm.log <+: w'.comm.log ∧ (w.comm.stopping = true → w'.comm.stopping = true) := by
  rcases step_cases h with ⟨_, -, rfl⟩ | ⟨p, rfl⟩ | ⟨_, _, -, rfl⟩ |
    ⟨_, _, _, _, _, _, -, hx, rfl⟩
  · exact ⟨List.prefix_refl _, id⟩
  · exact ⟨List.prefix_append _ _, id⟩
  · exact ⟨List.prefix_refl _, id⟩
  · exact CommState.stepProc_mono hx

/-- What every step keeps, every run keeps. -/
theorem run_preserves (P : World → Prop)
    (hstep : ∀ {w w' : World} {a : Act}, P w → w.step a = some w' → P w') :
    ∀ {w w' : World} {as : List Act}, P w → w.run as = some w' → P w'
  | _, _, [], hw, h => by cases h; exact hw
  | _, _, a :: as, hw, h => by
    simp only [World.run, Option.bind_eq_some] at h
    obtain ⟨w₁, h₁, h⟩ := h
    exact run_preserves P hstep (hstep hw h₁) h

/-- A run only appends to the log and never clears `stopping`. -/
theorem run_mono : ∀ {w : World} {as : List Act}, w.run as = some w' →
    w.comm.log <+: w'.comm.log ∧ (w.comm.stopping = true → w'.comm.stopping = true) :=
  fun {w} _ h => run_preserves
    (fun v => w.comm.log <+: v.comm.log ∧ (w.comm.stopping = true → v.comm.stopping = true))
    (fun hv hs => ⟨hv.1.trans (step_mono hs).1, (step_mono hs).2 ∘ hv.2⟩)
    ⟨List.prefix_refl _, id⟩ h

/-- Running two sequences runs the second from where the first ends. -/
theorem run_append {w : World} {as bs : List Act} :
    w.run (as ++ bs) = (w.run as).bind fun w' => w'.run bs := by
  induction as generalizing w with
  | nil => rfl
  | cons a as ih =>
    simp only [List.cons_append, World.run]
    cases w.step a <;> simp [ih]

/-- Running one goroutine whose step starts nothing replaces it in place. -/
theorem step_run_eq {w : World} {k : Nat} {input : Input} {q q' : Proc} {c' : CommState}
    (hk : w.procs[k]? = some q) (hx : w.comm.stepProc input q = some (q', [], c')) :
    w.step (.run k input) = some ⟨c', w.procs.set k q'⟩ := by
  simp [World.step, hk, hx]

end World

/-- The states some run of a comm instance reaches. -/
inductive Reachable : World → Prop
  | init (port : Int) : Reachable (World.init port)
  | step {w w' : World} (a : Act) : Reachable w → w.step a = some w' → Reachable w'

theorem Reachable.run {w w' : World} (h : Reachable w) (as : List Act)
    (hr : w.run as = some w') : Reachable w' :=
  World.run_preserves Reachable (fun hw hs => .step _ hw hs) h hr

end GossipComm
