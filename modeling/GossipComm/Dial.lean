import GossipComm.Exchange

/-!
The two outbound entry points that run the handshake.

`createConnection` dials an endpoint for the connection store and keeps the
session; `Handshake` dials, authenticates and drops it, returning the peer's
identity.  Both dial, ping, open a stream and call `authenticateRemotePeer`, and
both then compare the authenticated PKI-ID with the caller's expectation.  The
comparisons are guarded differently: `createConnection` skips it only for a nil
expectation (`expectedPKIID != nil`), `Handshake` for any empty one
(`len(remotePeer.PKIID) > 0`).  On every nil and every non-empty expectation the
two agree (`handshake_ok_iff_createConnection_ok`); on the non-nil empty slice
they do not (`createConnection_rejects_empty_expectation`).

`Probe` only dials and pings, with no stream and no handshake (`probe`).
-/

namespace GossipComm

/-- What dialling one endpoint leads to: the results of `grpc.Dial`, `Ping` and
`GossipStream`, the address and certificate hash the transport reports for the stream,
and what reaches the handshake's read first. -/
structure Remote where
  dial : Except Error Unit
  ping : Except Error Unit
  stream : Except Error Unit
  address : String
  certHash : Bytes
  first : RecvEvent

/-- `RemotePeer`: an endpoint and the PKI-ID expected there, which may be nil or empty. -/
structure RemotePeer where
  endpoint : String
  PKIID : PKIidType

/-- The fields of `connection` that `createConnection` sets from the handshake. -/
structure Connection where
  pkiID : PKIidType
  info : ConnectionInfo

/-- A network where every endpoint answers, without TLS, with a `ConnEstablish` for PKI-ID
and identity `[1]`. -/
def peerOneNet : String → Remote := fun _ =>
  ⟨.ok (), .ok (), .ok (), "peer", none,
    .received (.ok ⟨Codec.escaped.marshal ⟨.EMPTY, 0, .conn ⟨some [1], some [1], none⟩⟩,
      some [0]⟩)⟩

variable {σ : Type} (codec : Codec)

namespace CommImpl

variable (c : CommImpl σ)

/-- Dial, ping and open a stream on `r`; the first error stops the sequence. -/
def openStream (r : Remote) : Except Error Unit := do
  r.dial
  r.ping
  r.stream

/-- `Probe`: dial and ping, with no stream and no handshake. -/
def probe (stopping : Bool) (net : String → Remote) (remotePeer : RemotePeer) :
    Except Error Unit :=
  if stopping then .error .stopping else do
    (net remotePeer.endpoint).dial
    (net remotePeer.endpoint).ping

/-- `createConnection`, with `stopping` for `c.isStopping()` and `net` for what each
endpoint does. -/
def createConnection (st : σ) (stopping : Bool) (net : String → Remote) (endpoint : String)
    (expectedPKIID : PKIidType) : Except Error Connection × σ :=
  if stopping then (.error .stopping, st) else
  let r := net endpoint
  match openStream r with
  | .error err => (.error err, st)
  | .ok () =>
    let out := c.authenticateRemotePeer codec st r.address r.certHash r.first
    match out.result with
    | .error err => (.error err, out.store)
    | .ok connInfo =>
      if expectedPKIID.isSome && !bytesEqual connInfo.ID expectedPKIID then
        (.error .authFailure, out.store)
      else (.ok ⟨connInfo.ID, connInfo⟩, out.store)

/-- `Handshake`. -/
def handshake (st : σ) (net : String → Remote) (remotePeer : RemotePeer) :
    Except Error PeerIdentityType × σ :=
  let r := net remotePeer.endpoint
  match openStream r with
  | .error err => (.error err, st)
  | .ok () =>
    let out := c.authenticateRemotePeer codec st r.address r.certHash r.first
    match out.result with
    | .error err => (.error err, out.store)
    | .ok connInfo =>
      if remotePeer.PKIID.len > 0 && !bytesEqual connInfo.ID remotePeer.PKIID then
        (.error .pkiIDMismatch, out.store)
      else (.ok connInfo.identity, out.store)

/-! ### Where the two guards agree -/

/-- On a nil or a non-empty expectation the two guards reject the same PKI-IDs. -/
theorem guards_agree (expected ID : PKIidType) (h : expected = none ∨ 0 < expected.len) :
    (expected.isSome && !bytesEqual ID expected) = (decide (expected.len > 0) &&
      !bytesEqual ID expected) := by
  rcases h with rfl | h
  · simp [Bytes.len, Bytes.data, bytesEqual]
  · cases expected with
    | none => simp [Bytes.len, Bytes.data] at h
    | some bs => simp [h]

/-- **`Handshake` refines `createConnection` off the empty slice.**  While the instance is
not stopping, for an expectation that is nil or non-empty, `Handshake` returns identity
`I` exactly when `createConnection` returns a connection whose identity is `I`. -/
theorem handshake_ok_iff_createConnection_ok (st : σ) (net : String → Remote)
    (rp : RemotePeer) (h : rp.PKIID = none ∨ 0 < rp.PKIID.len) (I : PeerIdentityType) :
    (c.handshake codec st net rp).1 = .ok I ↔
      ∃ conn, (c.createConnection codec st false net rp.endpoint rp.PKIID).1 = .ok conn ∧
        conn.info.identity = I := by
  unfold handshake createConnection
  cases hs : openStream (net rp.endpoint) with
  | error err => simp [hs]
  | ok _ =>
    cases ha : (c.authenticateRemotePeer codec st (net rp.endpoint).address
        (net rp.endpoint).certHash (net rp.endpoint).first).result with
    | error err => simp [hs, ha]
    | ok ci =>
      simp only [hs, ha, Bool.false_eq_true, if_false]
      rw [guards_agree _ _ h]
      split <;> simp [eq_comm]

theorem handshake_agrees_on_peer_one :
    ((echo (some [5]) none).handshake Codec.escaped () peerOneNet
        ⟨"peer:7051", some [1]⟩).1 = .ok (some [1]) ↔
      ∃ conn, ((echo (some [5]) none).createConnection Codec.escaped () false peerOneNet
        "peer:7051" (some [1])).1 = .ok conn ∧ conn.info.identity = some [1] :=
  handshake_ok_iff_createConnection_ok Codec.escaped (echo (some [5]) none) () peerOneNet
    ⟨"peer:7051", some [1]⟩ (.inr (by decide)) (some [1])

end CommImpl

/-- With the non-nil empty slice as the expected PKI-ID, `Handshake` accepts the peer and
`createConnection` rejects it. -/
theorem createConnection_rejects_empty_expectation :
    (CommImpl.echo (some [5]) none).handshake Codec.escaped () peerOneNet
        ⟨"peer:7051", some []⟩ = (.ok (some [1]), ()) ∧
      (CommImpl.echo (some [5]) none).createConnection Codec.escaped () false peerOneNet
        "peer:7051" (some []) = (.error .authFailure, ()) :=
  ⟨rfl, rfl⟩

end GossipComm
