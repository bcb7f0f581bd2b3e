import GossipComm.Handshake

/-!
Both ends of one stream.

The handshake is symmetric and single-round: each end sends its `ConnEstablish`
and then reads the other's.  What an end sends depends only on its own
configuration and the certificate hash its transport observed, never on what it
receives, so the two sends may happen in either order and the two reads see the
same envelopes.  `Wire` and `Pair.Step` are that exchange as a transition system, and
`Pair.Reach.inv` says that in every run a side that has read holds the result of
`receiveConn` on the other's `handshakeMsg`.

Over that, `handshake_agreement` settles when both sides accept.  The signer
choice is computed by the sender and the verification by the receiver, each from
its own fields; with one `skipHandshake` setting and each transport observing the
other's certificate hash, the two tests are the same test, so a side that expects
a signature always gets one.  Both sides accept exactly when the handshake is
skipped or TLS is on at both ends or at neither.
-/

namespace GossipComm

variable {σ τ : Type} (codec : Codec)

/-- What the far end's first `Recv` sees when this end sent `e`.  A nil envelope is never
put on the wire, since marshalling it fails, and the read times out. -/
def deliver : Option Envelope → RecvEvent
  | some e => .received (.ok e)
  | none => .timeout

/-- Every payload `signer` signs verifies at `verifier` under `identity`, in store `st`:
Verify(pkiOf(I), Sign_I(x), x) succeeds. -/
def SignatureSound (signer : Mapper τ) (verifier : Mapper σ) (st : σ)
    (identity : PeerIdentityType) : Prop :=
  ∀ x, ∃ sig, signer.sign x = .ok sig ∧
    verifier.verify st (verifier.getPKIidOfCert identity) sig x = .ok ()

namespace CommImpl

/-- The sender's signer choice and the receiver's check are one test. -/
theorem bindsTLS_comm (a : CommImpl σ) (b : CommImpl τ)
    (hk : a.skipHandshake = b.skipHandshake) :
    b.bindsTLS a.selfCertHash = a.bindsTLS b.selfCertHash := by
  simp only [bindsTLS, hk]
  cases a.selfCertHash.isSome <;> cases b.selfCertHash.isSome <;> rfl

/-- The envelope `b` sends holds its marshalled `ConnEstablish`, under a signature that,
when the binding is checked, verifies at `a`. -/
theorem handshakeMsg_eq (a : CommImpl σ) (b : CommImpl τ) (stA : σ)
    (hk : a.skipHandshake = b.skipHandshake)
    (hsound : a.bindsTLS b.selfCertHash = true →
      SignatureSound b.idMapper a.idMapper stA b.peerIdentity) :
    ∃ sig, b.handshakeMsg codec a.selfCertHash = some ⟨codec.marshal b.connMsg, sig⟩ ∧
      (a.bindsTLS b.selfCertHash = true →
        a.idMapper.verify stA (a.idMapper.getPKIidOfCert b.peerIdentity) sig
          (codec.marshal b.connMsg) = .ok ()) := by
  have hsig : ∃ sig, b.signer a.selfCertHash (codec.marshal b.connMsg) = .ok sig ∧
      (a.bindsTLS b.selfCertHash = true →
        a.idMapper.verify stA (a.idMapper.getPKIidOfCert b.peerIdentity) sig
          (codec.marshal b.connMsg) = .ok ()) := by
    cases hT : a.bindsTLS b.selfCertHash
    · exact ⟨codec.marshal b.connMsg, by simp [signer, bindsTLS_comm a b hk, hT], by simp⟩
    · obtain ⟨sig, hs, hv⟩ := hsound hT (codec.marshal b.connMsg)
      exact ⟨sig, by simp [signer, bindsTLS_comm a b hk, hT, hs], fun _ => hv⟩
  obtain ⟨sig, hs, hv⟩ := hsig
  exact ⟨sig, (toGossipMessage_sign codec _ _ hs).1, hv⟩

/-- The binding check on `b`'s message at `a`, whose transport observed `b`'s hash. -/
theorem checkBinding_peer (a : CommImpl σ) (b : CommImpl τ) (st : σ) (address : String)
    (e : Envelope) (hv : a.bindsTLS b.selfCertHash = true →
      (⟨b.connMsg, some e⟩ : SignedGossipMessage).verify b.peerIdentity (a.verifier st) =
        .ok ()) :
    a.checkBinding st address b.selfCertHash ⟨b.connMsg, some e⟩
        ⟨b.PKIID, b.peerIdentity, b.selfCertHash⟩ =
      if b.selfCertHash = none ∧ a.selfCertHash ≠ none ∧ a.skipHandshake = false then
        .error (.noTLSCert address)
      else .ok ⟨b.PKIID, b.peerIdentity,
        if a.bindsTLS b.selfCertHash then some ⟨e.signature, e.payload⟩ else none⟩ := by
  unfold checkBinding
  cases hb : b.selfCertHash <;> cases hs : a.selfCertHash <;> cases hk : a.skipHandshake <;>
    simp [bindsTLS, hb, hs, hk] at hv ⊢
  simp [hv, SignedGossipMessage.signature, SignedGossipMessage.payload]

/-- What `a` makes of `b`'s handshake: `b`'s PKI-ID and identity, with `AuthInfo` exactly
when the binding is checked, unless `a` has TLS, checks, and `b` has none. -/
theorem receiveConn_peer (a : CommImpl σ) (b : CommImpl τ) (stA stA' : σ) (address : String)
    (hk : a.skipHandshake = b.skipHandshake)
    (hput : a.idMapper.put stA b.PKIID b.peerIdentity = .ok stA')
    (hsound : a.bindsTLS b.selfCertHash = true →
      SignatureSound b.idMapper a.idMapper stA' b.peerIdentity) :
    ∃ auth : Option AuthInfo, (auth ≠ none ↔ a.bindsTLS b.selfCertHash = true) ∧
      (a.receiveConn codec stA address b.selfCertHash
          (deliver (b.handshakeMsg codec a.selfCertHash))).1 =
        if b.selfCertHash = none ∧ a.selfCertHash ≠ none ∧ a.skipHandshake = false then
          .error (.noTLSCert address)
        else .ok ⟨b.PKIID, b.peerIdentity, auth⟩ := by
  obtain ⟨sig, hmsg, hv⟩ := handshakeMsg_eq codec a b stA' hk hsound
  refine ⟨if a.bindsTLS b.selfCertHash then some ⟨sig, codec.marshal b.connMsg⟩ else none,
    by split <;> simp [*], ?_⟩
  have hpki : b.PKIID ≠ none := b.PKIID_eq ▸ b.idMapper.getPKIidOfCert_ne_nil _
  have hcb := checkBinding_peer a b stA' address ⟨codec.marshal b.connMsg, sig⟩
    (by simpa [SignedGossipMessage.verify, verifier] using hv)
  simp only at hcb
  rw [hmsg, ← hcb]
  simp [receiveConn, deliver, readWithTimeout, Envelope.toGossipMessage,
    codec.unmarshal_marshal, SignedGossipMessage.getConn, GossipMessage.getConn, connMsg,
    hpki, hput]

end CommImpl

/-! ### The exchange as a transition system -/

/-- The two ends of one stream: their instances and identity stores, the address each
logs for the other, and the certificate hash each one's transport observed. -/
structure Pair (σ τ : Type) where
  a : CommImpl σ
  b : CommImpl τ
  stA : σ
  stB : τ
  addrA : String
  addrB : String
  hashA : Bytes
  hashB : Bytes

/-- One end of the stream during the handshake. -/
inductive Phase (σ : Type)
  | start
  | waiting
  | done (r : Except Error ConnectionInfo × σ)

def Phase.isStart {σ : Type} : Phase σ → Bool
  | .start => true
  | _ => false

def Phase.isDone {σ : Type} : Phase σ → Bool
  | .done _ => true
  | _ => false

/-- Both ends, and the envelopes in flight towards each. -/
structure Wire (σ τ : Type) where
  a : Phase σ
  b : Phase τ
  toA : List (Option Envelope)
  toB : List (Option Envelope)

/-- Neither end has sent. -/
def Wire.init : Wire σ τ := ⟨.start, .start, [], []⟩

namespace Pair

variable (P : Pair σ τ)

/-- What each end ends up with: `receiveConn` on the other's envelope. -/
def resultA : Except Error ConnectionInfo × σ :=
  P.a.receiveConn codec P.stA P.addrA P.hashA (deliver (P.b.handshakeMsg codec P.hashB))

def resultB : Except Error ConnectionInfo × τ :=
  P.b.receiveConn codec P.stB P.addrB P.hashB (deliver (P.a.handshakeMsg codec P.hashA))

/-- The four moves: each end sends, and reads once an envelope is in flight to it. -/
inductive Step : Wire σ τ → Wire σ τ → Prop
  | sendA (w : Wire σ τ) : w.a = .start →
      Step w { w with a := .waiting, toB := w.toB ++ [P.a.handshakeMsg codec P.hashA] }
  | sendB (w : Wire σ τ) : w.b = .start →
      Step w { w with b := .waiting, toA := w.toA ++ [P.b.handshakeMsg codec P.hashB] }
  | recvA (w : Wire σ τ) (e : Option Envelope) (rest : List (Option Envelope)) :
      w.a = .waiting → w.toA = e :: rest →
      Step w { w with a := .done (P.a.receiveConn codec P.stA P.addrA P.hashA (deliver e)),
                      toA := rest }
  | recvB (w : Wire σ τ) (e : Option Envelope) (rest : List (Option Envelope)) :
      w.b = .waiting → w.toB = e :: rest →
      Step w { w with b := .done (P.b.receiveConn codec P.stB P.addrB P.hashB (deliver e)),
                      toB := rest }

inductive Reach : Wire σ τ → Prop
  | init : Reach Wire.init
  | step {w w' : Wire σ τ} : Reach w → P.Step codec w w' → Reach w'

/-- What every reachable wire satisfies: an envelope is in flight to an end exactly
while the other has sent and this one has not read, and an end that has read holds
its result, after the other has sent. -/
structure Inv (w : Wire σ τ) : Prop where
  toA : w.toA = if !w.b.isStart && !w.a.isDone then [P.b.handshakeMsg codec P.hashB] else []
  toB : w.toB = if !w.a.isStart && !w.b.isDone then [P.a.handshakeMsg codec P.hashA] else []
  doneA : ∀ r, w.a = .done r → r = P.resultA codec
  doneB : ∀ r, w.b = .done r → r = P.resultB codec
  orderA : w.a.isDone = true → w.b.isStart = false
  orderB : w.b.isDone = true → w.a.isStart = false

theorem Inv.init : P.Inv codec Wire.init :=
  ⟨rfl, rfl, fun _ h => (nomatch h), fun _ h => (nomatch h), fun h => (nomatch h),
    fun h => (nomatch h)⟩

theorem Inv.step {w w' : Wire σ τ} (hi : P.Inv codec w) (hs : P.Step codec w w') :
    P.Inv codec w' := by
  obtain ⟨htoA, htoB, hdA, hdB, hoA, hoB⟩ := hi
  cases hs with
  | sendA ha =>
    have hb : w.b.isDone = false := by
      cases hbd : w.b.isDone; rfl; simpa [ha, Phase.isStart] using hoB hbd
    refine ⟨by simpa [ha, Phase.isDone] using htoA, ?_, fun _ h => (nomatch h), hdB,
      fun h => (nomatch h), fun _ => rfl⟩
    simp [ha, hb, htoB, Phase.isStart]
  | sendB hb =>
    have ha : w.a.isDone = false := by
      cases had : w.a.isDone; rfl; simpa [hb, Phase.isStart] using hoA had
    refine ⟨?_, by simpa [hb, Phase.isDone] using htoB, hdA, fun _ h => (nomatch h),
      fun _ => rfl, fun h => (nomatch h)⟩
    simp [ha, hb, htoA, Phase.isStart]
  | recvA e rest ha he =>
    rw [he] at htoA
    split at htoA
    · rename_i hc
      obtain ⟨rfl, rfl⟩ := List.cons_eq_cons.mp htoA
      simp only [Bool.and_eq_true, Bool.not_eq_true'] at hc
      refine ⟨by simp [Phase.isDone], by simpa [ha, Phase.isDone, Phase.isStart] using htoB,
        fun _ h => by cases h; rfl, hdB, fun _ => hc.1, fun _ => by simp [ha, Phase.isStart]⟩
    · cases htoA
  | recvB e rest hb he =>
    rw [he] at htoB
    split at htoB
    · rename_i hc
      obtain ⟨rfl, rfl⟩ := List.cons_eq_cons.mp htoB
      simp only [Bool.and_eq_true, Bool.not_eq_true'] at hc
      refine ⟨by simpa [hb, Phase.isDone, Phase.isStart] using htoA, by simp [Phase.isDone],
        hdA, fun _ h => by cases h; rfl, fun _ => by simp [hb, Phase.isStart], fun _ => hc.1⟩
    · cases htoB

theorem Reach.inv {w : Wire σ τ} (h : P.Reach codec w) : P.Inv codec w := by
  induction h with
  | init => exact Inv.init codec P
  | step _ hs ih => exact Inv.step codec P ih hs

/-- **Both ends accept exactly when their binding tests agree.**  Two instances with one
`skipHandshake` setting, each transport observing the other's certificate hash, each
mapper taking the other's identity, and sound signatures: in every run of the exchange,
whichever end sends first, both ends accept iff the handshake is skipped or TLS is on at
both ends or at neither.  Then each end holds the other's PKI-ID and identity, with
`AuthInfo` exactly when TLS is on at both ends and the binding is checked. -/
theorem handshake_agreement (stA' : σ) (stB' : τ)
    (hk : P.a.skipHandshake = P.b.skipHandshake)
    (hA : P.hashA = P.b.selfCertHash) (hB : P.hashB = P.a.selfCertHash)
    (hputA : P.a.idMapper.put P.stA P.b.PKIID P.b.peerIdentity = .ok stA')
    (hputB : P.b.idMapper.put P.stB P.a.PKIID P.a.peerIdentity = .ok stB')
    (hsoundA : SignatureSound P.b.idMapper P.a.idMapper stA' P.b.peerIdentity)
    (hsoundB : SignatureSound P.a.idMapper P.b.idMapper stB' P.a.peerIdentity)
    {w : Wire σ τ} (hw : P.Reach codec w) {rA : Except Error ConnectionInfo × σ}
    {rB : Except Error ConnectionInfo × τ} (hdA : w.a = .done rA) (hdB : w.b = .done rB) :
    ((∃ ciA ciB, rA.1 = .ok ciA ∧ rB.1 = .ok ciB) ↔
        P.a.skipHandshake = true ∨ (P.a.selfCertHash ≠ none ↔ P.b.selfCertHash ≠ none)) ∧
      ∀ ciA ciB, rA.1 = .ok ciA → rB.1 = .ok ciB →
        ciA.ID = P.b.PKIID ∧ ciA.identity = P.b.peerIdentity ∧
        ciB.ID = P.a.PKIID ∧ ciB.identity = P.a.peerIdentity ∧
        (ciA.auth ≠ none ↔
          P.a.selfCertHash ≠ none ∧ P.b.selfCertHash ≠ none ∧ P.a.skipHandshake = false) ∧
        (ciB.auth ≠ none ↔
          P.a.selfCertHash ≠ none ∧ P.b.selfCertHash ≠ none ∧
            P.a.skipHandshake = false) := by
  have hi := Reach.inv codec P hw
  obtain rfl := hi.doneA rA hdA
  obtain rfl := hi.doneB rB hdB
  obtain ⟨authA, hauthA, hrA⟩ :=
    P.a.receiveConn_peer codec P.b P.stA stA' P.addrA hk hputA fun _ => hsoundA
  obtain ⟨authB, hauthB, hrB⟩ :=
    P.b.receiveConn_peer codec P.a P.stB stB' P.addrB hk.symm hputB fun _ => hsoundB
  simp only [resultA, resultB, hA, hB, hrA, hrB]
  rw [CommImpl.bindsTLS_eq_true] at hauthA hauthB
  cases hsa : P.a.selfCertHash <;> cases hsb : P.b.selfCertHash <;>
    cases hka : P.a.skipHandshake <;> simp_all

end Pair

/-- A mapper with one store, which takes every identity and signs `x` as `0 :: x`. -/
def Mapper.echo : Mapper Unit where
  put _ _ _ := .ok ()
  sign x := .ok (some (0 :: x.data))
  verify _ _ sig x :=
    if sig = some (0 :: x.data) then .ok () else .error (.external "bad signature")
  getPKIidOfCert identity := some identity.data
  getPKIidOfCert_ne_nil _ := by simp

/-- An instance with TLS on, over `Mapper.echo`. -/
def CommImpl.echo (identity : PeerIdentityType) (hash : Bytes) : CommImpl Unit :=
  ⟨false, hash, identity, Mapper.echo, some identity.data, rfl⟩

/-- Two TLS instances, each transport observing the other's certificate hash. -/
def tlsPair : Pair Unit Unit :=
  ⟨CommImpl.echo (some [1]) (some [7]), CommImpl.echo (some [2]) (some [8]), (), (), "b", "a",
    some [8], some [7]⟩

theorem echo_sound (identity : PeerIdentityType) :
    SignatureSound Mapper.echo Mapper.echo () identity :=
  fun _ => ⟨_, rfl, by simp [Mapper.echo]⟩

theorem handshake_agreement_tls :
    ((∃ ciA ciB, (tlsPair.resultA Codec.escaped).1 = .ok ciA ∧
        (tlsPair.resultB Codec.escaped).1 = .ok ciB) ↔
      tlsPair.a.skipHandshake = true ∨
        (tlsPair.a.selfCertHash ≠ none ↔ tlsPair.b.selfCertHash ≠ none)) ∧
    ∀ ciA ciB, (tlsPair.resultA Codec.escaped).1 = .ok ciA →
      (tlsPair.resultB Codec.escaped).1 = .ok ciB →
        ciA.ID = tlsPair.b.PKIID ∧ ciA.identity = tlsPair.b.peerIdentity ∧
        ciB.ID = tlsPair.a.PKIID ∧ ciB.identity = tlsPair.a.peerIdentity ∧
        (ciA.auth ≠ none ↔ tlsPair.a.selfCertHash ≠ none ∧
          tlsPair.b.selfCertHash ≠ none ∧ tlsPair.a.skipHandshake = false) ∧
        (ciB.auth ≠ none ↔ tlsPair.a.selfCertHash ≠ none ∧
          tlsPair.b.selfCertHash ≠ none ∧ tlsPair.a.skipHandshake = false) :=
  Pair.handshake_agreement Codec.escaped tlsPair () () rfl rfl rfl rfl rfl
    (echo_sound _) (echo_sound _)
    (.step (.step (.step (.step .init (.sendA _ rfl)) (.sendB _ rfl)) (.recvA _ _ [] rfl rfl))
      (.recvB _ _ [] rfl rfl)) rfl rfl

end GossipComm
