import GossipComm.Message

/-!
The handshake that opens every stream.

`authenticateRemotePeer` sends one `ConnEstablish` and reads one back.  Which
signer it uses, and whether it checks the peer's transport binding, both turn on
one test: the remote presented a TLS certificate, this instance has one, and
`skipHandshake` is off (`bindsTLS`).  When the test holds the envelope is signed by
the identity mapper and the reply must carry the observed certificate hash and
verify under the identity it declares; when it fails the envelope is "signed" by
the identity function and no `AuthInfo` is recorded.  A last check turns away a
peer without TLS when this instance has TLS and does not skip the handshake.

The identity mapper is a collaborator the source sees only through
`identity.Mapper`.  Its store is the type parameter `σ`: `Put` may change it, and
the verifier reads the store `Put` left behind.

The main result is `authenticateRemotePeer_accepts_iff`: the exact condition under
which a handshake returns a `ConnectionInfo`, what that info holds, and which
envelope went out.
-/

namespace GossipComm

/-- Modelled from the spec: the identity mapper (`identity.Mapper`), given by interface
only.  PKI-IDs are digests of identities (section 3), so no identity maps to the nil
slice. -/
structure Mapper (σ : Type) where
  put : σ → PKIidType → PeerIdentityType → Except Error σ
  sign : Signer
  verify : σ → PKIidType → Bytes → Bytes → Except Error Unit
  getPKIidOfCert : PeerIdentityType → PKIidType
  getPKIidOfCert_ne_nil : ∀ identity, getPKIidOfCert identity ≠ none

/-- The fields of `commImpl` the handshake reads.  Both constructors set `PKIID` to the
mapper's PKI-ID of `peerIdentity`, and nothing changes it afterwards. -/
structure CommImpl (σ : Type) where
  skipHandshake : Bool
  selfCertHash : Bytes
  peerIdentity : PeerIdentityType
  idMapper : Mapper σ
  PKIID : PKIidType
  PKIID_eq : PKIID = idMapper.getPKIidOfCert peerIdentity

/-- `proto.AuthInfo`. -/
structure AuthInfo where
  signature : Bytes
  signedData : Bytes
  deriving DecidableEq, Repr

/-- `proto.ConnectionInfo`. -/
structure ConnectionInfo where
  ID : PKIidType
  identity : PeerIdentityType
  auth : Option AuthInfo
  deriving DecidableEq, Repr

/-- What reaches `readWithTimeout` first: the ticker, or the result of the read
goroutine's `Recv`. -/
inductive RecvEvent
  | timeout
  | received (r : Except Error Envelope)

/-- What `authenticateRemotePeer` leaves behind: the envelope it handed to
`stream.Send`, its result, and the mapper's store. -/
structure AuthOutcome (σ : Type) where
  sent : Option Envelope
  result : Except Error ConnectionInfo
  store : σ

variable {σ : Type} (codec : Codec)

/-- `readWithTimeout`.  A `Recv` that fails posts on neither channel, so the select
waits for the ticker. -/
def readWithTimeout (ev : RecvEvent) (address : String) : Except Error SignedGossipMessage :=
  match ev with
  | .timeout => .error (.timedOut address)
  | .received (.error _) => .error (.timedOut address)
  | .received (.ok e) => e.toGossipMessage codec

/-- `createConnectionMsg`. -/
def createConnectionMsg (pkiID : PKIidType) (hash : Bytes) (cert : PeerIdentityType)
    (signer : Signer) : SignedGossipMessage :=
  SignedGossipMessage.sign codec ⟨⟨.EMPTY, 0, .conn ⟨pkiID, cert, hash⟩⟩, none⟩ signer

/-- A message read off the stream travels in the envelope it was decoded from. -/
theorem readWithTimeout_envelope {ev : RecvEvent} {address : String} {m : SignedGossipMessage}
    (h : readWithTimeout codec ev address = .ok m) : m.envelope = some ⟨m.payload, m.signature⟩ := by
  rcases ev with _ | _ | e <;> simp only [readWithTimeout, reduceCtorEq] at h
  unfold Envelope.toGossipMessage at h
  split at h <;> cases h
  rfl

namespace CommImpl

variable (c : CommImpl σ)

/-- The message `createConnectionMsg` builds for `c`. -/
def connMsg : GossipMessage :=
  ⟨.EMPTY, 0, .conn ⟨c.PKIID, c.peerIdentity, c.selfCertHash⟩⟩

/-- `remoteCertHash != nil && c.selfCertHash != nil && !c.skipHandshake`, tested twice
by `authenticateRemotePeer`: for the signer and for the binding check. -/
def bindsTLS (remoteCertHash : Bytes) : Bool :=
  remoteCertHash.isSome && c.selfCertHash.isSome && !c.skipHandshake

@[simp] theorem bindsTLS_eq_true (h : Bytes) :
    c.bindsTLS h = true ↔ h ≠ none ∧ c.selfCertHash ≠ none ∧ c.skipHandshake = false := by
  simp [bindsTLS, Option.isSome_iff_ne_none, and_assoc]

/-- The signer of the handshake envelope: the mapper when the binding is checked, the
identity function otherwise. -/
def signer (remoteCertHash : Bytes) : Signer :=
  if c.bindsTLS remoteCertHash then c.idMapper.sign else fun msg => .ok msg

/-- `cMsg.Envelope`, what `authenticateRemotePeer` sends. -/
def handshakeMsg (remoteCertHash : Bytes) : Option Envelope :=
  (createConnectionMsg codec c.PKIID c.selfCertHash c.peerIdentity
    (c.signer remoteCertHash)).envelope

/-- The verifier closure of `authenticateRemotePeer`, over the store `st`. -/
def verifier (st : σ) : Verifier :=
  fun peerIdentity signature message =>
    c.idMapper.verify st (c.idMapper.getPKIidOfCert peerIdentity) signature message

/-- The tail of `authenticateRemotePeer`, from `connInfo := ...` to the end. -/
def checkBinding (st : σ) (address : String) (remoteCertHash : Bytes)
    (m : SignedGossipMessage) (receivedMsg : ConnEstablish) : Except Error ConnectionInfo := do
  let connInfo : ConnectionInfo := ⟨receivedMsg.pkiId, receivedMsg.cert, none⟩
  let connInfo ← if c.bindsTLS remoteCertHash then do
      if !bytesEqual remoteCertHash receivedMsg.hash then
        throw (.hashMismatch remoteCertHash receivedMsg.hash)
      m.verify receivedMsg.cert (c.verifier st)
      pure { connInfo with auth := some ⟨m.signature, m.payload⟩ }
    else pure connInfo
  if remoteCertHash.isNone && c.selfCertHash.isSome && !c.skipHandshake then
    throw (.noTLSCert address)
  pure connInfo

/-- The receiving half of `authenticateRemotePeer`: read, check the type and the PKI-ID,
hand the identity to the mapper, then `checkBinding`. -/
def receiveConn (st : σ) (address : String) (remoteCertHash : Bytes) (ev : RecvEvent) :
    Except Error ConnectionInfo × σ :=
  match readWithTimeout codec ev address with
  | .error err => (.error (.readFailed address err), st)
  | .ok m =>
    match m.getConn with
    | none => (.error .wrongType, st)
    | some receivedMsg =>
      if receivedMsg.pkiId.isNone then (.error (.noPKIid address), st)
      else
        match c.idMapper.put st receivedMsg.pkiId receivedMsg.cert with
        | .error err => (.error err, st)
        | .ok st' => (c.checkBinding st' address remoteCertHash m receivedMsg, st')

/-- `authenticateRemotePeer`: send the handshake envelope, then receive the peer's. -/
def authenticateRemotePeer (st : σ) (address : String) (remoteCertHash : Bytes)
    (ev : RecvEvent) : AuthOutcome σ :=
  let (result, store) := c.receiveConn codec st address remoteCertHash ev
  ⟨c.handshakeMsg codec remoteCertHash, result, store⟩

/-! ### What the binding check accepts -/

theorem checkBinding_eq_ok (st : σ) (address : String) (h : Bytes) (m : SignedGossipMessage)
    (ce : ConnEstablish) (ci : ConnectionInfo) :
    c.checkBinding st address h m ce = .ok ci ↔
      ¬(h = none ∧ c.selfCertHash ≠ none ∧ c.skipHandshake = false) ∧
      (c.bindsTLS h = true →
        bytesEqual h ce.hash = true ∧ m.verify ce.cert (c.verifier st) = .ok ()) ∧
      ci = ⟨ce.pkiId, ce.cert,
        if c.bindsTLS h then some ⟨m.signature, m.payload⟩ else none⟩ := by
  unfold checkBinding
  cases hh : h <;> cases hs : c.selfCertHash <;> cases hk : c.skipHandshake <;>
    simp only [bindsTLS, hh, hs, hk] <;> simp <;> try exact eq_comm
  -- TLS at both ends, checked: the hash, then the signature
  cases bytesEqual _ ce.hash <;> cases m.verify ce.cert (c.verifier st) <;> simp [eq_comm]

/-! ### What the handshake accepts -/

theorem receiveConn_eq_ok (st : σ) (address : String) (h : Bytes) (ev : RecvEvent)
    (ci : ConnectionInfo) :
    (c.receiveConn codec st address h ev).1 = .ok ci ↔
      ∃ m ce st', readWithTimeout codec ev address = .ok m ∧ m.getConn = some ce ∧
        ce.pkiId ≠ none ∧ c.idMapper.put st ce.pkiId ce.cert = .ok st' ∧
        c.checkBinding st' address h m ce = .ok ci := by
  unfold receiveConn
  rcases readWithTimeout codec ev address with err | m
  · simp
  rcases hce : m.getConn with _ | ce
  · simp [hce]
  by_cases hp : ce.pkiId = none
  · simp [hce, hp]
  rcases hput : c.idMapper.put st ce.pkiId ce.cert with err | st' <;> simp [hce, hp, hput]

/-- The envelope `authenticateRemotePeer` sends: the marshalled `ConnEstablish` under the
signature of the signer it chose, or none when that signer fails. -/
theorem handshakeMsg_eq_sign (h : Bytes) :
    c.handshakeMsg codec h = ((c.signer h) (codec.marshal c.connMsg)).toOption.map
      fun sig => ⟨codec.marshal c.connMsg, sig⟩ := by
  unfold handshakeMsg createConnectionMsg SignedGossipMessage.sign connMsg
  dsimp only
  split <;> simp [*, Except.toOption]

/-- The signature check of a message read off the stream is the mapper's verification of
its signature over its payload, under the PKI-ID of the identity it declares. -/
theorem verify_of_read {ev : RecvEvent} {address : String} {m : SignedGossipMessage}
    (hm : readWithTimeout codec ev address = .ok m) (cert : PeerIdentityType) (st : σ) :
    m.verify cert (c.verifier st) =
      c.idMapper.verify st (c.idMapper.getPKIidOfCert cert) m.signature m.payload := by
  rw [SignedGossipMessage.verify, readWithTimeout_envelope codec hm]
  rfl

/-- **The handshake's accept condition.**  `authenticateRemotePeer` sends one envelope: the
marshalled `ConnEstablish` of its PKI-ID, identity and certificate hash, signed by the
mapper when the binding is checked, and with the payload itself as its signature (the
identity signer) otherwise.  It returns a `ConnectionInfo` exactly when the first message
is a `ConnEstablish` with a PKI-ID, the mapper takes its identity, the peer is not TLS-less
against a TLS instance that checks, and, when the binding is checked, the peer's hash is
the observed one and the mapper verifies the peer's signature over its payload.  The info
is the peer's PKI-ID and identity, with `AuthInfo` exactly when the binding was checked. -/
theorem authenticateRemotePeer_accepts_iff (st : σ) (address : String) (h : Bytes)
    (ev : RecvEvent) (ci : ConnectionInfo) :
    let payload := codec.marshal ⟨.EMPTY, 0, .conn ⟨c.PKIID, c.peerIdentity, c.selfCertHash⟩⟩
    (c.authenticateRemotePeer codec st address h ev).sent =
        (if c.bindsTLS h then (c.idMapper.sign payload).toOption else some payload).map
          (fun sig => ⟨payload, sig⟩) ∧
      ((c.authenticateRemotePeer codec st address h ev).result = .ok ci ↔
        ∃ m ce st', readWithTimeout codec ev address = .ok m ∧ m.getConn = some ce ∧
          ce.pkiId ≠ none ∧ c.idMapper.put st ce.pkiId ce.cert = .ok st' ∧
          ¬(h = none ∧ c.selfCertHash ≠ none ∧ c.skipHandshake = false) ∧
          (c.bindsTLS h = true → bytesEqual h ce.hash = true ∧
            c.idMapper.verify st' (c.idMapper.getPKIidOfCert ce.cert) m.signature m.payload =
              .ok ()) ∧
          ci = ⟨ce.pkiId, ce.cert,
            if c.bindsTLS h then some ⟨m.signature, m.payload⟩ else none⟩) := by
  refine ⟨?_, ?_⟩
  · show c.handshakeMsg codec h = _
    rw [handshakeMsg_eq_sign, signer]
    split <;> rfl
  · simp only [authenticateRemotePeer, receiveConn_eq_ok, checkBinding_eq_ok]
    exact exists_congr fun m => exists_congr fun _ => exists_congr fun _ =>
      and_congr_right fun hm => by rw [verify_of_read codec c hm]

end CommImpl

end GossipComm
