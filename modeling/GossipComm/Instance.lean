import GossipComm.Exchange
import GossipComm.World

/-!
Building an instance.

`NewCommInstanceWithServer(port, ...)` makes the gRPC layer only on a positive port.
There `createGRPCLayer` generates a key pair, loads it, takes the hash of the first
certificate of the chain and listens on the port; each of its failures is a panic but
one.  When `generateCertificates` fails, the layer falls back to `grpc.WithInsecure()` and
returns no certificate hash.  `NewCommInstance` builds a server-less instance (port `-1`)
and takes its hash from the certificate it is given, if any.  Either way the instance
registers its own identity with the mapper and ignores the error, and the goroutines it
starts are those of `World.init port` (`newCommInstanceWithServer_reachable`), so every
result over reachable states holds of the instances the constructors build.

The hash decides the handshake.  An instance without one never binds a stream to TLS
(`newCommInstanceWithServer_selfCertHash`): it sends its `ConnEstablish` unsigned and takes
a peer on the mapper's word alone (`unbound_instance_trusts_mapper`).  That is the instance
built on a port that is not positive, the one `NewCommInstance` builds without a
certificate, and also, with no error, the one built on a positive port whose certificate
generation failed.
-/

namespace GossipComm

/-- What `createGRPCLayer` meets on the host. -/
structure Host where
  /-- `generateCertificates(keyFileName, certFileName)` returned no error -/
  generated : Bool
  /-- `tls.LoadX509KeyPair(certFileName, keyFileName)`: the raw chain, or the error's text -/
  keyPair : Except String (List Bytes)
  /-- `net.Listen("tcp", listenAddress)`: the error's text, when it fails -/
  listenErr : Option String

section Construct

variable {σ : Type} (certHashFromRawCert : Bytes → Bytes)

/-- `createGRPCLayer(port)`, down to the certificate hash it returns; `.error` is a panic,
with its text.  `certHashFromRawCert` is not in the repository.  The server, listener and
dial option it also returns are left out: `gSrv` and `lsnr` are set exactly when
`0 < port`, and that is how the shutdown model reads them. -/
def createGRPCLayer (host : Host) : Except String Bytes := do
  let returnedCertHash ←
    if host.generated then
      match host.keyPair with
      | .error err => throw err
      | .ok [] => throw "Certificate chain is nil"
      | .ok (cert :: _) => pure (certHashFromRawCert cert)
    else pure none
  match host.listenErr with
  | some err => throw err
  | none => pure returnedCertHash

/-- `NewCommInstanceWithServer(port, idMapper, peerIdentity, ...)`: the instance, the
mapper's store after the instance's own `Put` (whose error the code ignores), and the
instance's shared state with the `Serve` goroutine it starts.  `.error` is a panic of
`createGRPCLayer`: the `error` the Go function returns is always `nil`.  `skipHandshake` is
`viper.GetBool("peer.gossip.skipHandshake")`. -/
def newCommInstanceWithServer (host : Host) (skipHandshake : Bool) (port : Int)
    (idMapper : Mapper σ) (st : σ) (peerIdentity : PeerIdentityType) :
    Except String (CommImpl σ × σ × World) := do
  let certHash ← if 0 < port then createGRPCLayer certHashFromRawCert host else pure none
  let commInst : CommImpl σ :=
    ⟨skipHandshake, certHash, peerIdentity, idMapper, idMapper.getPKIidOfCert peerIdentity, rfl⟩
  let st' :=
    match idMapper.put st (idMapper.getPKIidOfCert peerIdentity) peerIdentity with
    | .ok st' => st'
    | .error _ => st
  pure (commInst, st', World.init port)

/-- `NewCommInstance(s, cert, idStore, peerIdentity, ...)`: a server-less instance (port
`-1`) whose certificate hash is that of the first certificate of `cert`'s chain.  `.error`
is the panic on an empty chain.  Registering the instance with `s` is left out. -/
def newCommInstance (host : Host) (skipHandshake : Bool) (cert : Option (List Bytes))
    (idStore : Mapper σ) (st : σ) (peerIdentity : PeerIdentityType) :
    Except String (CommImpl σ × σ × World) := do
  let (inst, st', w) ←
    newCommInstanceWithServer certHashFromRawCert host skipHandshake (-1) idStore st peerIdentity
  match cert with
  | none => pure (inst, st', w)
  | some [] => throw "Certificate supplied but certificate chain is empty"
  | some (raw :: _) => pure ({ inst with selfCertHash := certHashFromRawCert raw }, st', w)

/-- `createGRPCLayer` returns a hash only when it listens, and the hash is that of the
first certificate of the loaded chain, or none when no key pair was generated. -/
theorem createGRPCLayer_eq_ok (host : Host) (hash : Bytes) :
    createGRPCLayer certHashFromRawCert host = .ok hash ↔
      host.listenErr = none ∧
        (host.generated = false ∧ hash = none ∨
          host.generated = true ∧ ∃ raw rest, host.keyPair = .ok (raw :: rest) ∧
            hash = certHashFromRawCert raw) := by
  rcases host with ⟨_ | _, _ | _ | ⟨raw, rest⟩, _ | _⟩ <;>
    simp [createGRPCLayer, throw, throwThe, MonadExceptOf.throw, eq_comm]

variable {certHashFromRawCert} {host : Host} {skipHandshake : Bool} {port : Int}
  {idMapper : Mapper σ} {st st' : σ} {peerIdentity : PeerIdentityType} {c : CommImpl σ}
  {w : World}

/-- What `NewCommInstanceWithServer` builds: the configuration it was given, the goroutines
of `World.init port`, and a certificate hash from `createGRPCLayer` on a positive port. -/
theorem newCommInstanceWithServer_eq_ok
    (hc : newCommInstanceWithServer certHashFromRawCert host skipHandshake port idMapper st
      peerIdentity = .ok (c, st', w)) :
    c.skipHandshake = skipHandshake ∧ c.peerIdentity = peerIdentity ∧ c.idMapper = idMapper ∧
      w = World.init port ∧
      (if 0 < port then createGRPCLayer certHashFromRawCert host else pure none) =
        .ok c.selfCertHash := by
  by_cases hp : 0 < port
  · rcases hl : createGRPCLayer certHashFromRawCert host with err | hash <;>
      simp only [newCommInstanceWithServer, hp, hl, ↓reduceIte, bind, Except.bind, pure,
        Except.pure, Except.ok.injEq, Prod.mk.injEq, reduceCtorEq] at hc
    obtain ⟨rfl, -, rfl⟩ := hc
    exact ⟨rfl, rfl, rfl, rfl, by simp only [hp, hl, ↓reduceIte]⟩
  · simp only [newCommInstanceWithServer, hp, ↓reduceIte, bind, Except.bind, pure, Except.pure,
      Except.ok.injEq, Prod.mk.injEq] at hc
    obtain ⟨rfl, -, rfl⟩ := hc
    exact ⟨rfl, rfl, rfl, rfl, by simp only [hp, ↓reduceIte]; rfl⟩

/-- Every instance `NewCommInstanceWithServer` builds starts in a reachable state. -/
theorem newCommInstanceWithServer_reachable
    (hc : newCommInstanceWithServer certHashFromRawCert host skipHandshake port idMapper st
      peerIdentity = .ok (c, st', w)) : Reachable w := by
  rw [(newCommInstanceWithServer_eq_ok hc).2.2.2.1]
  exact .init port

/-- An instance of `NewCommInstanceWithServer` has no certificate hash exactly when its
port is not positive, its key pair was not generated, or the hash of the first
certificate of the chain is nil. -/
theorem newCommInstanceWithServer_selfCertHash
    (hc : newCommInstanceWithServer certHashFromRawCert host skipHandshake port idMapper st
      peerIdentity = .ok (c, st', w)) :
    c.selfCertHash = none ↔ port ≤ 0 ∨ host.generated = false ∨
      ∃ raw rest, host.keyPair = .ok (raw :: rest) ∧ certHashFromRawCert raw = none := by
  have hl := (newCommInstanceWithServer_eq_ok hc).2.2.2.2
  split at hl
  · have hp : ¬port ≤ 0 := by omega
    obtain ⟨-, hg | ⟨hg, raw, rest, hk, hh⟩⟩ := (createGRPCLayer_eq_ok _ _ _).mp hl
    · simp [hg.1, hg.2]
    · simp [hg, hk, hh, hp]
  · have h0 : c.selfCertHash = none := (Except.ok.inj hl).symm
    simp [h0, show port ≤ 0 by omega]

/-- `NewCommInstance` without a certificate is `NewCommInstanceWithServer` on port `-1`. -/
theorem newCommInstance_none :
    newCommInstance certHashFromRawCert host skipHandshake none idMapper st peerIdentity =
      newCommInstanceWithServer certHashFromRawCert host skipHandshake (-1) idMapper st
        peerIdentity := by
  unfold newCommInstance
  rcases newCommInstanceWithServer certHashFromRawCert host skipHandshake (-1) idMapper st
    peerIdentity with _ | ⟨_, _, _⟩ <;> rfl

/-- **An instance without a certificate hash takes peers on the mapper's word.**  For an
instance `NewCommInstanceWithServer` builds on a port that is not positive, or on one
whose key pair was not generated, and for every remote certificate hash and first
message: `authenticateRemotePeer` sends the marshalled `ConnEstablish` of the mapper's
PKI-ID for `peerIdentity`, `peerIdentity` and no hash, with the payload itself as its
signature, and accepts exactly the peers whose first message is a `ConnEstablish` with a
PKI-ID that the mapper's `Put` takes, whatever hash they claim, recording no `AuthInfo`. -/
theorem unbound_instance_trusts_mapper (codec : Codec)
    (hc : newCommInstanceWithServer certHashFromRawCert host skipHandshake port idMapper st
      peerIdentity = .ok (c, st', w))
    (hno : port ≤ 0 ∨ host.generated = false) (st₀ : σ) (address : String) (h : Bytes)
    (ev : RecvEvent) (ci : ConnectionInfo) :
    let payload := codec.marshal
      ⟨.EMPTY, 0, .conn ⟨idMapper.getPKIidOfCert peerIdentity, peerIdentity, none⟩⟩
    (c.authenticateRemotePeer codec st₀ address h ev).sent = some ⟨payload, payload⟩ ∧
      ((c.authenticateRemotePeer codec st₀ address h ev).result = .ok ci ↔
        ∃ m ce st₁, readWithTimeout codec ev address = .ok m ∧ m.getConn = some ce ∧
          ce.pkiId ≠ none ∧ idMapper.put st₀ ce.pkiId ce.cert = .ok st₁ ∧
          ci = ⟨ce.pkiId, ce.cert, none⟩) := by
  obtain ⟨-, hpi, hm, -⟩ := newCommInstanceWithServer_eq_ok hc
  have hs : c.selfCertHash = none :=
    (newCommInstanceWithServer_selfCertHash hc).mpr (hno.imp id .inl)
  have hb : c.bindsTLS h = false := by simp [CommImpl.bindsTLS, hs]
  have hpk : c.PKIID = idMapper.getPKIidOfCert peerIdentity := by rw [c.PKIID_eq, hm, hpi]
  refine ⟨?_, ?_⟩
  · show c.handshakeMsg codec h = _
    simp [CommImpl.handshakeMsg_eq_sign, CommImpl.signer, CommImpl.connMsg, hb, hs, hpi, hpk,
      Except.toOption]
  · simp only [CommImpl.authenticateRemotePeer, CommImpl.receiveConn_eq_ok,
      CommImpl.checkBinding_eq_ok, hb, hs, hm]
    simp

/-- A host whose certificate generation failed and which listens. -/
def noKeyHost : Host := ⟨false, .error "no key pair", none⟩

/-- A remote's `ConnEstablish` for PKI-ID and identity `[2]` that claims certificate hash
`[7]`. -/
def claimsHashSeven : RecvEvent :=
  .received (.ok ⟨Codec.escaped.marshal ⟨.EMPTY, 0, .conn ⟨some [2], some [2], some [7]⟩⟩,
    some [0]⟩)

/-- On port `1` with no key pair, the instance accepts `[2]` although the transport
observed hash `[9]` and the peer claims `[7]`. -/
theorem unbound_instance_trusts_mapper_on_port_one :
    ((1 : Int) ≤ 0 ∨ noKeyHost.generated = false) ∧
      ∃ c st' w, newCommInstanceWithServer id noKeyHost false 1 Mapper.echo () (some [1]) =
          .ok (c, st', w) ∧
        (c.authenticateRemotePeer Codec.escaped () "a" (some [9]) claimsHashSeven).result =
          .ok ⟨some [2], some [2], none⟩ ∧
        let payload := Codec.escaped.marshal
          ⟨.EMPTY, 0, .conn ⟨Mapper.echo.getPKIidOfCert (some [1]), some [1], none⟩⟩
        (c.authenticateRemotePeer Codec.escaped () "a" (some [9]) claimsHashSeven).sent =
            some ⟨payload, payload⟩ ∧
          ((c.authenticateRemotePeer Codec.escaped () "a" (some [9]) claimsHashSeven).result =
              .ok ⟨some [2], some [2], none⟩ ↔
            ∃ m ce st₁, readWithTimeout Codec.escaped claimsHashSeven "a" = .ok m ∧
              m.getConn = some ce ∧ ce.pkiId ≠ none ∧
              Mapper.echo.put () ce.pkiId ce.cert = .ok st₁ ∧
              (⟨some [2], some [2], none⟩ : ConnectionInfo) = ⟨ce.pkiId, ce.cert, none⟩) := by
  have hc : newCommInstanceWithServer id noKeyHost false 1 Mapper.echo () (some [1]) =
      .ok (⟨false, none, some [1], Mapper.echo, some [1], rfl⟩, (), World.init 1) := rfl
  exact ⟨.inr rfl, _, _, _, hc, rfl,
    unbound_instance_trusts_mapper Codec.escaped hc (.inr rfl) () "a" (some [9]) claimsHashSeven _⟩

end Construct

/-- `GetPKIid()`: the instance's PKI-ID, which the mapper gives its own identity and which is
never nil. -/
def CommImpl.getPKIid {σ : Type} (c : CommImpl σ) : PKIidType := c.PKIID

theorem CommImpl.getPKIid_ne_nil {σ : Type} (c : CommImpl σ) : c.getPKIid ≠ none := by
  rw [CommImpl.getPKIid, c.PKIID_eq]
  exact c.idMapper.getPKIidOfCert_ne_nil _

end GossipComm
