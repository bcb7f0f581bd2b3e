import Mathlib.Data.List.Basic

/-!
The messages the comm layer puts on a stream.

A Go `[]byte` is either the nil slice or a slice holding some bytes, and the
handshake tells the two apart: `receivedMsg.PkiId == nil` rejects a nil PKI-ID
but lets an empty one through, while `bytes.Equal` and `len` read nil as empty.
`Bytes` keeps the distinction, so both readings are available.

The envelope codec and the `Sign`/`Verify`/`ToGossipMessage` methods live in
`protos/gossip`, which is not part of this repository.  They are modelled from
the spec (section 4.1): the codec carries its round-trip guarantee as a field,
signing runs the signer over the marshalled payload, and verifying runs the
verifier over the envelope's signature and payload.
-/

namespace GossipComm

/-- A Go byte slice: `none` is the nil slice. -/
abbrev Bytes := Option (List UInt8)

/-- `common.PKIidType`. -/
abbrev PKIidType := Bytes

/-- `api.PeerIdentityType`. -/
abbrev PeerIdentityType := Bytes

/-- The bytes a slice holds; the nil slice holds none. -/
def Bytes.data : Bytes → List UInt8
  | none => []
  | some bs => bs

/-- `bytes.Equal`: the same bytes, with a nil slice equal to an empty one. -/
def bytesEqual (a b : Bytes) : Bool := a.data == b.data

/-- `len(b)`. -/
def Bytes.len (b : Bytes) : Nat := b.data.length

/-! ### `Except` as the code's `(value, error)` pair -/

section Except

variable {ε α β : Type}

@[simp] theorem except_pure_eq (a : α) : (pure a : Except ε α) = .ok a := rfl

@[simp] theorem except_throw_eq (e : ε) : (throw e : Except ε α) = .error e := rfl

@[simp] theorem except_ok_bind (a : α) (f : α → Except ε β) : (Except.ok a >>= f) = f a := rfl

@[simp] theorem except_error_bind (e : ε) (f : α → Except ε β) :
    (Except.error e >>= f) = .error e := rfl

@[simp] theorem except_map_ok (f : α → β) (a : α) :
    (f <$> Except.ok a : Except ε β) = .ok (f a) := rfl

@[simp] theorem except_map_error (f : α → β) (e : ε) :
    (f <$> (Except.error e : Except ε α)) = .error e := rfl

end Except

@[simp] theorem bytesEqual_self (a : Bytes) : bytesEqual a a = true := by
  simp [bytesEqual]

/-- The errors of the comm layer, one constructor for each place the code builds one.
Errors that a collaborator returns (gRPC, the identity mapper, the codec) are passed
through unchanged as `external`. -/
inductive Error
  | external (msg : String)
  /-- `"Timed out waiting for connection message from %s"` -/
  | timedOut (address : String)
  /-- `"Failed reading messge from %s, reason: %v"` -/
  | readFailed (address : String) (reason : Error)
  /-- `"Wrong type"` -/
  | wrongType
  /-- `"%s didn't send a pkiID"` -/
  | noPKIid (address : String)
  /-- `"Expected %v in remote hash, but got %v"` -/
  | hashMismatch (expected got : Bytes)
  /-- `"Remote peer %s didn't send TLS certificate"` -/
  | noTLSCert (address : String)
  /-- `"Stopping"` -/
  | stopping
  /-- `"Authentication failure"` -/
  | authFailure
  /-- `"PKI-ID of remote peer doesn't match expected PKI-ID"` -/
  | pkiIDMismatch
  deriving DecidableEq, Repr

/-- `proto.ConnEstablish`, the first message on every stream. -/
structure ConnEstablish where
  pkiId : PKIidType
  cert : PeerIdentityType
  hash : Bytes
  deriving DecidableEq, Repr

/-- `proto.GossipMessage_Tag`; only `EMPTY` is used by this layer. -/
inductive Tag
  | EMPTY
  | other (code : Nat)
  deriving DecidableEq, Repr

/-- The content of a gossip message.  Every kind but `ConnEstablish` is opaque here. -/
inductive Content
  | conn (ce : ConnEstablish)
  | other (kind : Nat)
  deriving DecidableEq, Repr

/-- `proto.GossipMessage`. -/
structure GossipMessage where
  tag : Tag
  nonce : Nat
  content : Content
  deriving DecidableEq, Repr

/-- `GetConn()`: the `ConnEstablish` a message carries, if it is one. -/
def GossipMessage.getConn (m : GossipMessage) : Option ConnEstablish :=
  match m.content with
  | .conn ce => some ce
  | .other _ => none

/-- `proto.Envelope`: a payload and a signature over it. -/
structure Envelope where
  payload : Bytes
  signature : Bytes
  deriving DecidableEq, Repr

/-- `proto.SignedGossipMessage`: a message and the envelope it travels in, which is nil
until the message is signed. -/
structure SignedGossipMessage where
  gossipMessage : GossipMessage
  envelope : Option Envelope
  deriving DecidableEq, Repr

/-- `m.Payload`, promoted from the embedded envelope.  Every message read off a stream
carries an envelope, so the nil case is never read. -/
def SignedGossipMessage.payload (m : SignedGossipMessage) : Bytes :=
  match m.envelope with
  | some e => e.payload
  | none => none

/-- `m.Signature`, promoted from the embedded envelope. -/
def SignedGossipMessage.signature (m : SignedGossipMessage) : Bytes :=
  match m.envelope with
  | some e => e.signature
  | none => none

/-- `m.GetConn()`, through the embedded message. -/
def SignedGossipMessage.getConn (m : SignedGossipMessage) : Option ConnEstablish :=
  m.gossipMessage.getConn

/-- `proto.Signer`. -/
abbrev Signer := Bytes → Except Error Bytes

/-- `proto.Verifier`: identity, signature, signed bytes. -/
abbrev Verifier := PeerIdentityType → Bytes → Bytes → Except Error Unit

/-- Modelled from the spec: the envelope codec of `protos/gossip` (section 4.1), which
"guarantees round-trip of envelope and typed message". -/
structure Codec where
  marshal : GossipMessage → Bytes
  unmarshal : Bytes → Except String GossipMessage
  unmarshal_marshal : ∀ m, unmarshal (marshal m) = .ok m

section Codec

variable (codec : Codec)

/-- Modelled from the spec: `sign(envelope, signer)`.  The signer runs over the marshalled
message; when it fails the message keeps the envelope it had. -/
def SignedGossipMessage.sign (m : SignedGossipMessage) (signer : Signer) :
    SignedGossipMessage :=
  let payload := codec.marshal m.gossipMessage
  match signer payload with
  | .ok sig => { m with envelope := some ⟨payload, sig⟩ }
  | .error _ => m

/-- Modelled from the spec: `verify(envelope, identity, verifier)` runs the verifier over
the envelope's signature and payload. -/
def SignedGossipMessage.verify (m : SignedGossipMessage) (peerIdentity : PeerIdentityType)
    (verifier : Verifier) : Except Error Unit :=
  match m.envelope with
  | some e => verifier peerIdentity e.signature e.payload
  | none => .error (.external "Missing envelope")

/-- Modelled from the spec: `ToGossipMessage` decodes the payload and keeps the envelope. -/
def Envelope.toGossipMessage (e : Envelope) : Except Error SignedGossipMessage :=
  match codec.unmarshal e.payload with
  | .ok gm => .ok ⟨gm, some e⟩
  | .error msg => .error (.external msg)

/-- What a signed message decodes to at the far end: the message itself, in the
envelope it was sent in. -/
theorem toGossipMessage_sign (m : SignedGossipMessage) (signer : Signer) {sig : Bytes}
    (h : signer (codec.marshal m.gossipMessage) = .ok sig) :
    (m.sign codec signer).envelope = some ⟨codec.marshal m.gossipMessage, sig⟩ ∧
      Envelope.toGossipMessage codec ⟨codec.marshal m.gossipMessage, sig⟩
        = .ok ⟨m.gossipMessage, some ⟨codec.marshal m.gossipMessage, sig⟩⟩ := by
  simp [SignedGossipMessage.sign, Envelope.toGossipMessage, h, codec.unmarshal_marshal]

end Codec

/-! ### A codec that meets the law

The round-trip field is satisfiable: an escaped encoding, one marker byte before every
datum, decodes back exactly.  Concrete runs of the handshake use it.
-/

namespace Codec

/-- A byte list, each byte behind a `1` marker and the end marked by `0`. -/
def encList : List UInt8 → List UInt8
  | [] => [0]
  | b :: bs => 1 :: b :: encList bs

def decList : List UInt8 → Option (List UInt8 × List UInt8)
  | 0 :: rest => some ([], rest)
  | 1 :: b :: rest => (decList rest).map fun r => (b :: r.1, r.2)
  | _ => none

theorem decList_encList (bs rest : List UInt8) :
    decList (encList bs ++ rest) = some (bs, rest) := by
  induction bs with
  | nil => rfl
  | cons b bs ih => simp [encList, decList, ih]

/-- A number in unary. -/
def encNat : Nat → List UInt8
  | 0 => [0]
  | n + 1 => 1 :: encNat n

def decNat : List UInt8 → Option (Nat × List UInt8)
  | 0 :: rest => some (0, rest)
  | 1 :: rest => (decNat rest).map fun r => (r.1 + 1, r.2)
  | _ => none

theorem decNat_encNat (n : Nat) (rest : List UInt8) :
    decNat (encNat n ++ rest) = some (n, rest) := by
  induction n with
  | zero => rfl
  | succ n ih => simp [encNat, decNat, ih]

def encBytes : Bytes → List UInt8
  | none => [0]
  | some bs => 1 :: encList bs

def decBytes : List UInt8 → Option (Bytes × List UInt8)
  | 0 :: rest => some (none, rest)
  | 1 :: rest => (decList rest).map fun r => (some r.1, r.2)
  | _ => none

theorem decBytes_encBytes (b : Bytes) (rest : List UInt8) :
    decBytes (encBytes b ++ rest) = some (b, rest) := by
  cases b <;> simp [encBytes, decBytes, decList_encList]

def encTag : Tag → List UInt8
  | .EMPTY => [0]
  | .other n => 1 :: encNat n

def decTag : List UInt8 → Option (Tag × List UInt8)
  | 0 :: rest => some (.EMPTY, rest)
  | 1 :: rest => (decNat rest).map fun r => (.other r.1, r.2)
  | _ => none

theorem decTag_encTag (t : Tag) (rest : List UInt8) :
    decTag (encTag t ++ rest) = some (t, rest) := by
  cases t <;> simp [encTag, decTag, decNat_encNat]

def encContent : Content → List UInt8
  | .conn ce => 0 :: (encBytes ce.pkiId ++ encBytes ce.cert ++ encBytes ce.hash)
  | .other k => 1 :: encNat k

def decContent : List UInt8 → Option Content
  | 0 :: rest => do
    let (pkiId, rest) ← decBytes rest
    let (cert, rest) ← decBytes rest
    let (hash, rest) ← decBytes rest
    if rest.isEmpty then some (.conn ⟨pkiId, cert, hash⟩) else none
  | 1 :: rest => do
    let (k, rest) ← decNat rest
    if rest.isEmpty then some (.other k) else none
  | _ => none

theorem decContent_encContent (c : Content) : decContent (encContent c) = some c := by
  cases c with
  | conn ce =>
    have := decBytes_encBytes ce.hash []
    rw [List.append_nil] at this
    simp [encContent, decContent, decBytes_encBytes, this]
  | other k =>
    have := decNat_encNat k []
    rw [List.append_nil] at this
    simp [encContent, decContent, this]

def encMessage (m : GossipMessage) : List UInt8 :=
  encTag m.tag ++ encNat m.nonce ++ encContent m.content

def decMessage (bs : List UInt8) : Option GossipMessage := do
  let (tag, rest) ← decTag bs
  let (nonce, rest) ← decNat rest
  let content ← decContent rest
  some ⟨tag, nonce, content⟩

theorem decMessage_encMessage (m : GossipMessage) : decMessage (encMessage m) = some m := by
  simp [decMessage, encMessage, List.append_assoc, decTag_encTag, decNat_encNat,
    decContent_encContent]

/-- The escaped codec. -/
def escaped : Codec where
  marshal m := some (encMessage m)
  unmarshal b := match decMessage b.data with
    | some m => .ok m
    | none => .error "proto: cannot parse invalid wire-format data"
  unmarshal_marshal m := by simp [Bytes.data, decMessage_encMessage]

end Codec

end GossipComm
