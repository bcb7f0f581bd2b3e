import GossipComm.Store
import GossipComm.Dial

/-!
One session per peer.

The store is keyed by the peer's own PKI-ID, and the comm code adds to it in two places:
the dial of `getConnection`, on behalf of a `sendToEndpoint` goroutine, and `onConnected`,
on behalf of an inbound `GossipStream`.  Both add a key only when it is absent, and both add
the PKI-ID a handshake authenticated, which is never nil: the dial commits under the PKI-ID
its `createConnection` authenticated, whatever the caller expected, so a `Send` to a peer
whose PKI-ID it does not know does not open a second session with a known peer.  Every
removal (`closeByPKIid`, `closeConn`, `shutdown`) drops every entry of its key.  So in every
run the store holds at most one connection per peer, under a non-nil PKI-ID, and its list of
entries is exactly the map `connOf` reads (`store_holds_one_connection_per_peer`).

Concurrent `getConnection` calls for one PKI-ID share a single dial: the dial latch records
exactly the goroutines dialing outside the store lock, and a call that finds the latch set
waits, so at most one dial per PKI-ID is ever in flight (`one_dial_per_peer`).  The wait
never strands the caller: the latch is held by a goroutine that is dialing, whose dial can
end, and a full dead-endpoint channel empties as `PresumedDead()` is read, so from every
reachable state each `sendToEndpoint` goroutine has a schedule that returns it
(`sendToEndpoint_returns`).  When an outbound dial and an inbound session for the same peer
race, the one that commits to the store first wins, and the loser's connection is never
registered (`crossed_dials_first_commit_wins`).

`createConnection` returns a connection only when the handshake authenticated a non-nil
PKI-ID, and exactly the expected one when the caller expected one
(`createConnection_authenticates_expected`); a dial for a known PKI-ID therefore registers
its connection under that PKI-ID (`dial_registers_authenticated_peer`).

After `Stop` has stored the flag and shut the store down, `getConnection` registers
nothing and `GossipStream` turns new streams away at its `isStopping` test.  A session
already past that test still registers its connection, into the closed store, so the store
grows after its shutdown by at most the sessions past the test at that moment
(`store_after_shutdown_bounded`).
-/

namespace GossipComm

/-! ### The store as a map -/

/-- The PKI-IDs the store holds connections for, one per entry. -/
def CommState.keys (c : CommState) : List PKIidType := c.pki2Conn.map Prod.fst

theorem lookupConn_eq_none {p : PKIidType} :
    ∀ {l : List (PKIidType × Nat)}, lookupConn p l = none ↔ p ∉ l.map Prod.fst
  | [] => by simp [lookupConn]
  | e :: l => by
    unfold lookupConn
    split
    · simp [*]
    · simp [lookupConn_eq_none, Ne.symm ‹¬e.1 = p›]

/-- With unique keys, every entry is the one a lookup of its key finds. -/
theorem lookupConn_of_mem {p : PKIidType} {conn : Nat} :
    ∀ {l : List (PKIidType × Nat)}, (l.map Prod.fst).Nodup → (p, conn) ∈ l →
      lookupConn p l = some conn
  | [], _, h => by cases h
  | e :: l, hk, h => by
    rw [List.map_cons, List.nodup_cons] at hk
    unfold lookupConn
    rcases List.mem_cons.mp h with rfl | h
    · simp
    · have hne : e.1 ≠ p := fun he => hk.1 (he ▸ List.mem_map_of_mem Prod.fst h)
      rw [if_neg hne]
      exact lookupConn_of_mem hk.2 h

namespace CommState

variable {c c' : CommState}

/-- Every step keeps the keys unique and non-nil: it adds a key only when the key is
absent, and only one a dial authenticated or the one a session at `onConnected` holds. -/
theorem StoreStep.keys_ok {q : Proc} (h : StoreStep c c' q)
    (hq : ∀ p, q = .gossipStream (.onConnected p) → p ≠ none)
    (hk : c.keys.Nodup ∧ none ∉ c.keys) : c'.keys.Nodup ∧ none ∉ c'.keys := by
  cases h with
  | frame hm _ _ => simpa [keys, hm] using hk
  | register p hp hnone hm _ _ =>
    have hp' : p ≠ none := hp.elim id (hq p)
    rw [keys, hm, List.map_cons, List.nodup_cons, List.mem_cons]
    exact ⟨⟨lookupConn_eq_none.mp hnone, hk.1⟩, fun hn => hn.elim (fun he => hp' he.symm) hk.2⟩
  | closeNew hm _ _ => simpa [keys, hm] using hk
  | dropKey p e _ hc =>
    subst hc
    have hsub : (c.dropKey p e).keys.Sublist c.keys := (List.filter_sublist _).map Prod.fst
    exact ⟨hk.1.sublist hsub, fun hn => hk.2 (hsub.subset hn)⟩
  | shutdown hc => subst hc; simp [keys, shutdownStore]
  | closeOwn _ _ _ hm _ _ => simpa [keys, hm] using hk

/-- A session reaches `onConnected` only with the non-nil PKI-ID its handshake
authenticated. -/
theorem stepProc_onConnected {input : Input} {q q' : Proc} {qs : List Proc}
    (h : c.stepProc input q = some (q', qs, c')) {p : PKIidType}
    (hq' : q' = .gossipStream (.onConnected p)) : p ≠ none := by
  subst hq'
  cases q with
  | gossipStream pc =>
    obtain ⟨_, hx, hq, -⟩ := lift_eq_some.mp h
    cases hq
    cases pc <;> simp only [stepStream] at hx <;> (repeat' split at hx) <;> cases hx
    exact Option.some_ne_none _
  | stop | bridge | serve | sendToEndpoint =>
    obtain ⟨_, -, hq, -⟩ := lift_eq_some.mp h
    cases hq
  | accept | send =>
    obtain ⟨_, -, hq⟩ := liftSpawn_eq_some.mp h
    cases hq

end CommState

/-- The store's keys, and the keys the sessions about to register hold. -/
structure World.KeysOK (w : World) : Prop where
  /-- no PKI-ID is a key twice -/
  nodup : w.comm.keys.Nodup
  /-- no connection is registered under the nil PKI-ID -/
  ne_none : none ∉ w.comm.keys
  /-- a session at `onConnected` holds a non-nil PKI-ID -/
  pending : ∀ p, Proc.gossipStream (.onConnected p) ∈ w.procs → p ≠ none

theorem World.keysOK_init (port : Int) : (World.init port).KeysOK := by
  unfold World.init
  split <;> exact ⟨List.nodup_nil, List.not_mem_nil _, by simp⟩

theorem World.keysOK_step {w w' : World} {a : Act} (hk : w.KeysOK) (h : w.step a = some w') :
    w'.KeysOK := by
  rcases World.step_cases h with ⟨q, hq, rfl⟩ | ⟨p, rfl⟩ | ⟨_, _, -, rfl⟩ |
    ⟨i, input, q, q', qs, c', hq, hx, rfl⟩
  · refine ⟨hk.nodup, hk.ne_none, fun p hp => ?_⟩
    rcases List.mem_append.mp hp with hp | hp
    · exact hk.pending p hp
    · rcases hq with rfl | rfl | ⟨_, rfl⟩ | rfl <;> simp at hp
  · have hst : w.comm.StoreStep (w.comm.closeConn p) (.stop .entry) := .dropKey p _ (.inr rfl) rfl
    obtain ⟨hn, hne⟩ := hst.keys_ok (fun _ h => by cases h) ⟨hk.nodup, hk.ne_none⟩
    exact ⟨hn, hne, hk.pending⟩
  · exact ⟨hk.nodup, hk.ne_none, hk.pending⟩
  · have hmem := List.getElem?_mem hq
    obtain ⟨hn, hne⟩ := (CommState.stepProc_storeStep hx).keys_ok
      (fun p hp => hk.pending p (hp ▸ hmem)) ⟨hk.nodup, hk.ne_none⟩
    refine ⟨hn, hne, fun p hp => ?_⟩
    rcases List.mem_append.mp hp with hp | hp
    · rcases List.mem_or_eq_of_mem_set hp with hp | hp
      · exact hk.pending p hp
      · exact CommState.stepProc_onConnected hx hp.symm
    · rcases CommState.stepProc_spawned hx _ hp with ⟨_, h⟩ | ⟨_, h⟩ <;> cases h

theorem Reachable.keysOK {w : World} (h : Reachable w) : w.KeysOK := by
  induction h with
  | init port => exact World.keysOK_init port
  | step _ _ hs ih => exact World.keysOK_step ih hs

/-- **One connection per peer.**  In every reachable state the store's keys are PKI-IDs a
handshake authenticated, so none is nil, and no PKI-ID appears twice among them.  The
store's entries are then exactly what a lookup finds: `(p, conn)` is an entry iff the
store's connection for `p` is `conn`. -/
theorem store_holds_one_connection_per_peer {w : World} (h : Reachable w) :
    w.comm.keys.Nodup ∧ none ∉ w.comm.keys ∧
      ∀ p conn, (p, conn) ∈ w.comm.pki2Conn ↔ w.comm.connOf p = some conn :=
  ⟨h.keysOK.nodup, h.keysOK.ne_none,
    fun _ _ => ⟨lookupConn_of_mem h.keysOK.nodup, mem_of_lookupConn⟩⟩

/-- An inbound session (goroutine 0) registers connection `0` for `[1]`; then a `Send` to a
peer whose PKI-ID is not known (nil) dials it (goroutine 2), and its handshake authenticates
`[1]`: the dial finds `[1]` taken, closes its own connection `1`, and uses connection `0`. -/
def nilDialMeetsSession : List Act :=
  [.gossipStream, .run 0 .none, .run 0 (.peer (some [1])), .run 0 .none, .send [none],
    .run 1 .none, .run 1 .none, .run 2 .none, .run 2 .none, .run 2 (.peer (some [1]))]

theorem store_holds_one_connection_per_peer_nil_dial :
    ∃ w, (World.init 0).run nilDialMeetsSession = some w ∧ w.comm.pki2Conn = [(some [1], 0)] ∧
      w.procs[2]? = some (.sendToEndpoint none (.queued 0)) ∧
      w.comm.keys.Nodup ∧ none ∉ w.comm.keys ∧
      ∀ p conn, (p, conn) ∈ w.comm.pki2Conn ↔ w.comm.connOf p = some conn :=
  ⟨_, rfl, rfl, rfl, store_holds_one_connection_per_peer (.run (.init 0) nilDialMeetsSession rfl)⟩

/-! ### The dial latch -/

/-- A `sendToEndpoint` goroutine dialing `p` outside the store lock. -/
def Proc.dialingFor (p : PKIidType) : Proc → Bool
  | .sendToEndpoint p' .dialing => decide (p' = p)
  | _ => false

namespace CommState

variable {c c' : CommState} {input : Input} {q q' : Proc} {qs : List Proc}

/-- **What a step does to the dial latch.**  Setting it moves the goroutine to its dial,
clearing it ends the dial; a latch is set only when it is clear. -/
theorem stepProc_dialing (h : c.stepProc input q = some (q', qs, c')) (p : PKIidType)
    (hq : q.dialingFor p = true → p ∈ c.dialing) :
    c'.dialing.count p + (if q.dialingFor p then 1 else 0) =
        c.dialing.count p + (if q'.dialingFor p then 1 else 0) ∧
      (c.dialing.Nodup → c'.dialing.Nodup) := by
  cases q with
  | sendToEndpoint p' pc =>
    obtain ⟨_, hx, rfl, -⟩ := lift_eq_some.mp h
    cases pc <;> simp only [stepEndpoint] at hx <;> (repeat' split at hx) <;> cases hx <;>
      try exact ⟨rfl, id⟩
    -- setting the latch, which was clear
    · exact ⟨by simp [Proc.dialingFor, List.count_cons], fun hn => List.nodup_cons.mpr ⟨‹_›, hn⟩⟩
    -- the four ways a dial ends clear the latch
    all_goals
      refine ⟨?_, fun hn => hn.erase _⟩
      simp only [Proc.dialingFor, emit, List.count_erase, decide_eq_true_eq] at hq ⊢
      by_cases hp : p' = p
      · have := List.count_pos_iff.mpr (hq hp); simp [hp]; omega
      · simp [hp]
  | stop pc | bridge _ pc | serve pc | gossipStream pc =>
    obtain ⟨_, hx, rfl, -⟩ := lift_eq_some.mp h
    cases pc <;> simp only [stepStop, stepBridge, stepServe, stepStream] at hx <;>
      (repeat' split at hx) <;> cases hx <;> exact ⟨rfl, id⟩
  | accept pc | send _ pc =>
    obtain ⟨_, hx, rfl⟩ := liftSpawn_eq_some.mp h
    cases pc <;> simp only [stepAccept, stepSend] at hx <;> (repeat' split at hx) <;> cases hx <;>
      exact ⟨rfl, id⟩

end CommState

/-- The dial latch records exactly the goroutines dialing, each PKI-ID at most once. -/
structure World.DialOK (w : World) : Prop where
  latch : ∀ p, w.comm.dialing.count p = w.procs.countP (Proc.dialingFor p)
  nodup : w.comm.dialing.Nodup

theorem World.dialOK_init (port : Int) : (World.init port).DialOK := by
  unfold World.init CommState.init
  split <;> exact ⟨fun _ => rfl, List.nodup_nil⟩

theorem World.dialOK_step {w w' : World} {a : Act} (hd : w.DialOK) (h : w.step a = some w') :
    w'.DialOK := by
  rcases World.step_cases h with ⟨q, hq, rfl⟩ | ⟨p, rfl⟩ | ⟨_, _, -, rfl⟩ |
    ⟨i, input, q, q', qs, c', hq, hx, rfl⟩
  · refine ⟨fun p => ?_, hd.nodup⟩
    rcases hq with rfl | rfl | ⟨_, rfl⟩ | rfl <;> simpa [Proc.dialingFor] using hd.latch p
  · exact ⟨hd.latch, hd.nodup⟩
  · exact ⟨hd.latch, hd.nodup⟩
  · obtain ⟨hi, rfl⟩ := List.getElem?_eq_some_iff.mp hq
    have hin : ∀ p, w.procs[i].dialingFor p = true → p ∈ w.comm.dialing := fun p hp => by
      have hle := List.boole_getElem_le_countP (Proc.dialingFor p) w.procs i hi
      rw [hp, if_pos rfl, ← hd.latch p] at hle
      exact List.count_pos_iff.mp hle
    refine ⟨fun p => ?_, (CommState.stepProc_dialing hx none (hin none)).2 hd.nodup⟩
    have hqs : qs.countP (Proc.dialingFor p) = 0 := List.countP_eq_zero.mpr fun r hr => by
      rcases CommState.stepProc_spawned hx r hr with ⟨_, rfl⟩ | ⟨_, rfl⟩ <;>
        exact Bool.false_ne_true
    have hs := (CommState.stepProc_dialing hx p (hin p)).1
    have hle := List.boole_getElem_le_countP (Proc.dialingFor p) w.procs i hi
    have := hd.latch p
    simp only [List.countP_append, List.countP_set _ _ _ _ hi, hqs]
    omega

theorem Reachable.dialOK {w : World} (h : Reachable w) : w.DialOK := by
  induction h with
  | init port => exact World.dialOK_init port
  | step _ _ hs ih => exact World.dialOK_step ih hs

/-- **One dial in flight per peer.**  In every reachable state, at most one
`sendToEndpoint` goroutine is dialing any given PKI-ID: the latch records exactly the
goroutines dialing, and a `getConnection` that finds it set waits. -/
theorem one_dial_per_peer {w : World} (h : Reachable w) (p : PKIidType) :
    w.procs.countP (Proc.dialingFor p) ≤ 1 := by
  rw [← h.dialOK.latch p]
  convert List.nodup_iff_count_le_one.mp h.dialOK.nodup p

/-- A `Send` to `[1]` twice over: the first `sendToEndpoint` (goroutine 1) sets the latch
and dials, the second (goroutine 2) reaches `getConnection`. -/
def sendTwiceToOnePeer : List Act :=
  [.send [some [1], some [1]], .run 0 .none, .run 0 .none, .run 1 .none, .run 2 .none,
    .run 1 .none]

def afterSendTwiceToOnePeer : World := ((World.init 0).run sendTwiceToOnePeer).get rfl

theorem one_dial_per_peer_send_twice :
    afterSendTwiceToOnePeer.procs.countP (Proc.dialingFor (some [1])) ≤ 1 ∧
      afterSendTwiceToOnePeer.procs[2]? = some (.sendToEndpoint (some [1]) .getConnection) ∧
      afterSendTwiceToOnePeer.step (.run 2 .none) = none :=
  ⟨one_dial_per_peer (.run (.init 0) sendTwiceToOnePeer rfl) _, rfl, rfl⟩

/-! ### No `Send` is stuck

A `sendToEndpoint` goroutine blocks in two places only: at `getConnection` while another
goroutine holds the dial latch for its peer, and at the write to a full `deadEndpoints`.
Neither strands it.  The latch is held by a goroutine that is dialing (`World.DialOK`), and
that dial can end; the channel empties as `PresumedDead()` is read.
-/

/-- How far a `sendToEndpoint` goroutine is from returning, on the path its steps take
when nothing fails. -/
def EndpointPc.rank : EndpointPc → Nat
  | .entry => 7
  | .getConnection => 6
  | .dialing => 5
  | .disconnect => 4
  | .writeDead => 3
  | .closeByPKIid => 2
  | .queued _ => 1
  | .returned => 0

/-- Every step in which nothing fails brings a `sendToEndpoint` goroutine nearer its
return. -/
theorem CommState.stepEndpoint_rank {c c' : CommState} {p : PKIidType} {pc pc' : EndpointPc}
    (h : c.stepEndpoint p .none pc = some (pc', c')) : pc'.rank < pc.rank := by
  cases pc <;> simp only [CommState.stepEndpoint] at h <;> (repeat' split at h) <;> cases h <;>
    simp [EndpointPc.rank]

/-- Readers of `PresumedDead()` can empty `deadEndpoints`. -/
theorem World.drain_dead : ∀ (l : List PKIidType) (w : World), w.comm.deadEndpoints = l →
    ∃ c, w.run (List.replicate l.length .presumedDead) = some ⟨c, w.procs⟩ ∧
      c.deadEndpoints = []
  | [], w, hd => ⟨w.comm, rfl, hd⟩
  | _ :: rest, w, hd => by
    obtain ⟨c, h, h'⟩ := World.drain_dead rest ⟨{ w.comm with deadEndpoints := rest }, w.procs⟩ rfl
    exact ⟨c, by simpa [World.run, World.step, hd] using h, h'⟩

/-- A run that leaves goroutine `i` where it is and enables its step, then that step. -/
theorem World.endpoint_after {w w₁ : World} {as : List Act} {i : Nat} {p : PKIidType}
    {pc : EndpointPc} (h₁ : w.run as = some w₁) (hi : w₁.procs[i]? = some (.sendToEndpoint p pc))
    (hx : (w₁.comm.stepEndpoint p .none pc).isSome) :
    ∃ as w' pc', w.run as = some w' ∧ w'.procs[i]? = some (.sendToEndpoint p pc') ∧
      pc'.rank < pc.rank := by
  obtain ⟨⟨pc', c'⟩, hx⟩ := Option.isSome_iff_exists.mp hx
  have hx' : w₁.comm.stepProc .none (.sendToEndpoint p pc) =
      some (.sendToEndpoint p pc', [], c') := by
    simp [CommState.stepProc, CommState.lift, hx]
  refine ⟨as ++ [.run i .none], ⟨c', w₁.procs.set i (.sendToEndpoint p pc')⟩, pc',
    by simp [World.run_append, h₁, World.run, World.step_run_eq hi hx'], ?_,
    CommState.stepEndpoint_rank hx⟩
  exact List.getElem?_set_self (List.getElem?_eq_some_iff.mp hi).1

/-- **One step nearer.**  From a reachable state, some run brings a `sendToEndpoint`
goroutine that has not returned nearer its return: its own step, after the goroutine that
holds the latch for its peer has ended its dial, or after `PresumedDead()` has emptied a
full `deadEndpoints`. -/
theorem World.endpoint_progress {w : World} (hr : Reachable w) {i : Nat} {p : PKIidType}
    {pc : EndpointPc} (hi : w.procs[i]? = some (.sendToEndpoint p pc)) (hpc : pc ≠ .returned) :
    ∃ as w' pc', w.run as = some w' ∧ w'.procs[i]? = some (.sendToEndpoint p pc') ∧
      pc'.rank < pc.rank := by
  by_cases hx : (w.comm.stepEndpoint p .none pc).isSome
  · exact World.endpoint_after (show w.run [] = some w from rfl) hi hx
  cases pc with
  | getConnection =>
    -- blocked on the latch, which a goroutine dialing `p` holds
    cases hsc : w.comm.storeClosing <;> cases hco : w.comm.connOf p <;>
      by_cases hl : p ∈ w.comm.dialing <;> simp [CommState.stepEndpoint, hsc, hco, hl] at hx
    have hpos : 0 < w.procs.countP (Proc.dialingFor p) := by
      rw [← hr.dialOK.latch p]
      exact List.count_pos_iff.mpr hl
    obtain ⟨q, hq, hqd⟩ := List.countP_pos_iff.mp hpos
    obtain ⟨j, hj⟩ := List.getElem?_of_mem hq
    match q, hqd with
    | .sendToEndpoint p' .dialing, hqd =>
      obtain rfl : p' = p := of_decide_eq_true hqd
      have hji : j ≠ i := by
        rintro rfl
        rw [hi] at hj
        cases hj
      -- the holder's dial fails, which clears the latch
      have hfail : w.comm.stepProc .fail (.sendToEndpoint p' .dialing) =
          some (.sendToEndpoint p' .disconnect, [],
            { w.comm with dialing := w.comm.dialing.erase p' }) := by
        simp [CommState.stepProc, CommState.lift, CommState.stepEndpoint]
      have h₁ : w.run [.run j .fail] = some ⟨{ w.comm with dialing := w.comm.dialing.erase p' },
          w.procs.set j (.sendToEndpoint p' .disconnect)⟩ := by
        simp [World.run, World.step_run_eq hj hfail]
      refine World.endpoint_after h₁ (by simpa [List.getElem?_set_ne hji] using hi) ?_
      simp only [CommState.connOf] at hco
      simp [CommState.stepEndpoint, CommState.connOf, hsc, hco,
        hr.dialOK.nodup.not_mem_erase]
  | writeDead =>
    obtain ⟨c, h₁, hnil⟩ := World.drain_dead _ w rfl
    exact World.endpoint_after h₁ hi (by simp [CommState.stepEndpoint, hnil])
  | returned => exact absurd rfl hpc
  | entry | dialing | queued _ | disconnect | closeByPKIid =>
    exact absurd (by simp only [CommState.stepEndpoint]; (repeat' split) <;> rfl) hx

/-- **No `Send` is stuck.**  From every reachable state, each `sendToEndpoint` goroutine
has a schedule that brings it to its return: the goroutine that holds the dial latch for
its peer can end its dial, and `PresumedDead()` can empty the dead-endpoint channel. -/
theorem sendToEndpoint_returns {w : World} (hr : Reachable w) {i : Nat} {p : PKIidType}
    {pc : EndpointPc} (hi : w.procs[i]? = some (.sendToEndpoint p pc)) :
    ∃ as w', w.run as = some w' ∧ w'.procs[i]? = some (.sendToEndpoint p .returned) := by
  suffices ∀ n (w : World) (pc : EndpointPc), pc.rank = n → Reachable w →
      w.procs[i]? = some (.sendToEndpoint p pc) →
      ∃ as w', w.run as = some w' ∧ w'.procs[i]? = some (.sendToEndpoint p .returned) from
    this _ w pc rfl hr hi
  intro n
  induction n using Nat.strong_induction_on with
  | _ n ih =>
    intro w pc hn hr hi
    by_cases hpc : pc = .returned
    · exact ⟨[], w, rfl, hpc ▸ hi⟩
    obtain ⟨as, w₁, pc₁, h₁, hi₁, hlt⟩ := World.endpoint_progress hr hi hpc
    obtain ⟨bs, w₂, h₂, hi₂⟩ := ih _ (hn ▸ hlt) w₁ pc₁ rfl (hr.run as h₁) hi₁
    exact ⟨as ++ bs, w₂, by simp [World.run_append, h₁, h₂], hi₂⟩

/-- Goroutine 2 of `sendTwiceToOnePeer`, waiting on the latch goroutine 1 holds, returns. -/
theorem sendToEndpoint_returns_send_twice :
    afterSendTwiceToOnePeer.procs[2]? = some (.sendToEndpoint (some [1]) .getConnection) ∧
      ∃ as w', afterSendTwiceToOnePeer.run as = some w' ∧
        w'.procs[2]? = some (.sendToEndpoint (some [1]) .returned) :=
  ⟨rfl, sendToEndpoint_returns (.run (.init 0) sendTwiceToOnePeer rfl) rfl⟩

/-! ### Crossed dials -/

/-- **Crossed dials: the first to commit wins.**  In any state where a `sendToEndpoint`
goroutine `i` is dialing, its handshake having authenticated the peer as `id`, an inbound
session `j` for `id` is at `onConnected`, and the store is open with nothing for `id`: if
the dial commits first, its connection is registered and the session is turned away; if
the session commits first, its connection is registered and the dial closes its own.
Either way the store then holds exactly one entry for `id`, the first committer's, and the
dial ends queued on it. -/
theorem crossed_dials_first_commit_wins {w : World} {i j : Nat} {p : PKIidType}
    {id : List UInt8} (hij : i ≠ j) (hi : w.procs[i]? = some (.sendToEndpoint p .dialing))
    (hj : w.procs[j]? = some (.gossipStream (.onConnected (some id))))
    (hnone : w.comm.connOf (some id) = none) (hopen : w.comm.storeClosing = false) :
    (∃ w₁, w.run [.run i (.peer (some id)), .run j .none] = some w₁ ∧
      w₁.comm.pki2Conn.filter (fun e => e.1 = some id) = [(some id, w.comm.fresh)] ∧
      w₁.procs[i]? = some (.sendToEndpoint p (.queued w.comm.fresh)) ∧
      w₁.procs[j]? = some (.gossipStream .returned)) ∧
    (∃ w₂, w.run [.run j .none, .run i (.peer (some id))] = some w₂ ∧
      w₂.comm.pki2Conn.filter (fun e => e.1 = some id) = [(some id, w.comm.fresh)] ∧
      w₂.procs[j]? = some (.gossipStream (.serving (some id) w.comm.fresh)) ∧
      w₂.procs[i]? = some (.sendToEndpoint p (.queued w.comm.fresh)) ∧
      Effect.connClose (w.comm.fresh + 1) ∈ w₂.comm.log) := by
  have hfree : w.comm.pki2Conn.filter (fun e => e.1 = some id) = [] :=
    List.filter_eq_nil_iff.mpr fun e he hep => lookupConn_eq_none.mp hnone
      (of_decide_eq_true hep ▸ List.mem_map_of_mem Prod.fst he)
  have hnone' : lookupConn (some id) w.comm.pki2Conn = none := hnone
  have hi' : i < w.procs.length := (List.getElem?_eq_some_iff.mp hi).1
  have hj' : j < w.procs.length := (List.getElem?_eq_some_iff.mp hj).1
  simp [World.run, World.step, hi, hj, CommState.stepProc, CommState.lift, CommState.stepEndpoint,
    CommState.stepStream, hopen, hnone', CommState.connOf, lookupConn, List.getElem?_set_ne hij,
    List.getElem?_set_ne (Ne.symm hij), hfree, List.filter_cons, CommState.emit, hi', hj']

/-- A `Send` to `[1]` whose `sendToEndpoint` (goroutine 1) is dialing, and an inbound stream
(goroutine 2) authenticated as `[1]` at `onConnected`. -/
def crossedDials : List Act :=
  [.send [some [1]], .run 0 .none, .run 0 .none, .run 1 .none, .run 1 .none, .gossipStream,
    .run 2 .none, .run 2 (.peer (some [1]))]

def afterCrossedDials : World := ((World.init 0).run crossedDials).get rfl

theorem crossed_dials_first_commit_wins_peer_one :
    afterCrossedDials.procs[1]? = some (.sendToEndpoint (some [1]) .dialing) ∧
      afterCrossedDials.procs[2]? = some (.gossipStream (.onConnected (some [1]))) ∧
      (∃ w₁, afterCrossedDials.run [.run 1 (.peer (some [1])), .run 2 .none] = some w₁ ∧
        w₁.comm.pki2Conn.filter (fun e => e.1 = some [1]) = [(some [1], 0)] ∧
        w₁.procs[1]? = some (.sendToEndpoint (some [1]) (.queued 0)) ∧
        w₁.procs[2]? = some (.gossipStream .returned)) ∧
      (∃ w₂, afterCrossedDials.run [.run 2 .none, .run 1 (.peer (some [1]))] = some w₂ ∧
        w₂.comm.pki2Conn.filter (fun e => e.1 = some [1]) = [(some [1], 0)] ∧
        w₂.procs[2]? = some (.gossipStream (.serving (some [1]) 0)) ∧
        w₂.procs[1]? = some (.sendToEndpoint (some [1]) (.queued 0)) ∧
        Effect.connClose 1 ∈ w₂.comm.log) :=
  ⟨rfl, rfl, @crossed_dials_first_commit_wins afterCrossedDials 1 2 (some [1]) [1] (by decide) rfl
    rfl rfl rfl⟩

/-! ### A dialled connection is keyed by what it authenticated -/

/-- A handshake that succeeds authenticates a non-nil PKI-ID. -/
theorem authenticateRemotePeer_ID_ne_none {σ : Type} (codec : Codec) (c : CommImpl σ)
    (st : σ) (address : String) (h : Bytes) (ev : RecvEvent) {ci : ConnectionInfo}
    (hr : (c.authenticateRemotePeer codec st address h ev).result = .ok ci) : ci.ID ≠ none := by
  obtain ⟨m, ce, st', -, -, hpki, -, hcb⟩ := (c.receiveConn_eq_ok codec st address h ev ci).mp hr
  rw [((c.checkBinding_eq_ok st' address h m ce ci).mp hcb).2.2]
  exact hpki

/-- `bytes.Equal` on two non-nil byte strings is equality. -/
theorem eq_of_bytesEqual {a b : Bytes} (h : bytesEqual a b = true) (ha : a ≠ none)
    (hb : b ≠ none) : a = b := by
  obtain ⟨x, rfl⟩ := Option.ne_none_iff_exists'.mp ha
  obtain ⟨y, rfl⟩ := Option.ne_none_iff_exists'.mp hb
  simpa [bytesEqual, Bytes.data] using h

/-- What `createConnection` returns: when the instance is not stopping, the stream opens
and the handshake succeeds with some `ConnectionInfo` whose PKI-ID a non-nil expectation
does not contradict, the connection keyed by that PKI-ID. -/
theorem CommImpl.createConnection_eq_ok {σ : Type} (codec : Codec) (c : CommImpl σ)
    (st : σ) (stopping : Bool) (net : String → Remote) (endpoint : String)
    (expected : PKIidType) (conn : Connection) :
    (c.createConnection codec st stopping net endpoint expected).1 = .ok conn ↔
      stopping = false ∧ CommImpl.openStream (net endpoint) = .ok () ∧
      ∃ ci, (c.authenticateRemotePeer codec st (net endpoint).address (net endpoint).certHash
          (net endpoint).first).result = .ok ci ∧
        (expected.isSome && !bytesEqual ci.ID expected) = false ∧ conn = ⟨ci.ID, ci⟩ := by
  cases stopping
  · cases hs : CommImpl.openStream (net endpoint) with
    | error => simp [CommImpl.createConnection, hs]
    | ok u =>
      cases ha : (c.authenticateRemotePeer codec st (net endpoint).address
          (net endpoint).certHash (net endpoint).first).result with
      | error => simp [CommImpl.createConnection, hs, ha]
      | ok ci =>
        simp only [CommImpl.createConnection, hs, ha, Bool.false_eq_true, if_false, true_and,
          Except.ok.injEq, exists_eq_left']
        split
        · simp_all
        · simp_all
          exact eq_comm
  · simp [CommImpl.createConnection]

/-- **`createConnection` returns only what the handshake authenticated.**  A connection it
returns carries the authenticated PKI-ID, never nil, both as `pkiID` and in its info; when
the caller expected a PKI-ID, that is exactly the one authenticated. -/
theorem createConnection_authenticates_expected {σ : Type} (codec : Codec) (c : CommImpl σ)
    (st : σ) (stopping : Bool) (net : String → Remote) (endpoint : String)
    (expected : PKIidType) {conn : Connection}
    (h : (c.createConnection codec st stopping net endpoint expected).1 = .ok conn) :
    conn.pkiID = conn.info.ID ∧ conn.info.ID ≠ none ∧ (expected ≠ none → conn.info.ID = expected) := by
  obtain ⟨-, -, ci, ha, hexp, rfl⟩ := (c.createConnection_eq_ok codec st stopping net endpoint
    expected conn).mp h
  have hne := authenticateRemotePeer_ID_ne_none codec c st _ _ _ ha
  exact ⟨rfl, hne, fun hx => eq_of_bytesEqual (by simpa [Option.isSome_iff_ne_none, hx] using hexp)
    hne hx⟩

theorem createConnection_authenticates_peer_one :
    ∃ conn, ((CommImpl.echo (some [5]) none).createConnection Codec.escaped () false peerOneNet
        "peer:7051" (some [1])).1 = .ok conn ∧
      conn.pkiID = conn.info.ID ∧ conn.info.ID ≠ none ∧
        ((some [1] : PKIidType) ≠ none → conn.info.ID = some [1]) :=
  ⟨_, rfl, createConnection_authenticates_expected Codec.escaped (CommImpl.echo (some [5]) none) ()
    false peerOneNet "peer:7051" (some [1]) rfl⟩

/-- What the environment decides in the dial step of `getConnection`, from the outcome of
`createConnection`: the PKI-ID the connection authenticated, or a failure. -/
def Input.ofDial : Except Error Connection → Input
  | .ok conn => .peer conn.pkiID
  | .error _ => .fail

/-- **A dial registers only a connection authenticated as its key.**  When the dial step of
a `sendToEndpoint` goroutine for a non-nil PKI-ID `p` takes `createConnection`'s outcome and
changes what the store holds for `p`, `createConnection` returned a connection authenticated
as exactly `p`, and the store now holds it under `p`. -/
theorem dial_registers_authenticated_peer {σ : Type} (codec : Codec) (c : CommImpl σ) (st : σ)
    (stopping : Bool) (net : String → Remote) (endpoint : String) (cs : CommState)
    {p : PKIidType} (hp : p ≠ none) {pc : EndpointPc} {cs' : CommState}
    (hstep : cs.stepEndpoint p (.ofDial (c.createConnection codec st stopping net endpoint p).1)
      .dialing = some (pc, cs'))
    (hreg : cs'.connOf p ≠ cs.connOf p) :
    ∃ conn, (c.createConnection codec st stopping net endpoint p).1 = .ok conn ∧
      conn.pkiID = p ∧ conn.info.ID = p ∧ cs'.connOf p = some cs.fresh := by
  cases hr : (c.createConnection codec st stopping net endpoint p).1 with
  | error =>
    simp only [hr, Input.ofDial, CommState.stepEndpoint, Option.some.injEq, Prod.mk.injEq] at hstep
    obtain ⟨-, rfl⟩ := hstep
    exact absurd rfl hreg
  | ok conn =>
    obtain ⟨-, -, ci, ha, hexp, rfl⟩ := (c.createConnection_eq_ok codec st stopping net endpoint p
      conn).mp hr
    have hID : ci.ID = p := eq_of_bytesEqual
      (by simpa [Option.isSome_iff_ne_none, hp] using hexp)
      (authenticateRemotePeer_ID_ne_none codec c st _ _ _ ha) hp
    refine ⟨_, rfl, hID, hID, ?_⟩
    obtain ⟨id, rfl⟩ := Option.ne_none_iff_exists'.mp hp
    simp only [hr, Input.ofDial, hID, CommState.stepEndpoint] at hstep
    split at hstep
    · cases hstep; exact absurd rfl hreg
    · split at hstep <;> cases hstep
      · exact absurd rfl hreg
      · simp [CommState.connOf, lookupConn]

/-- The dial of `crossedDials` (below), taking the outcome of a dial to a peer that
authenticates as `[1]`, registers its connection. -/
theorem dial_registers_peer_one :
    ∃ pc cs', afterCrossedDials.comm.stepEndpoint (some [1])
        (.ofDial ((CommImpl.echo (some [5]) none).createConnection Codec.escaped () false
          peerOneNet "peer:7051" (some [1])).1) .dialing = some (pc, cs') ∧
      cs'.connOf (some [1]) ≠ afterCrossedDials.comm.connOf (some [1]) ∧
      ∃ conn, ((CommImpl.echo (some [5]) none).createConnection Codec.escaped () false
          peerOneNet "peer:7051" (some [1])).1 = .ok conn ∧
        conn.pkiID = some [1] ∧ conn.info.ID = some [1] ∧
        cs'.connOf (some [1]) = some afterCrossedDials.comm.fresh :=
  ⟨_, _, rfl, by decide, dial_registers_authenticated_peer Codec.escaped
    (CommImpl.echo (some [5]) none) () false peerOneNet "peer:7051" afterCrossedDials.comm
    (by decide) rfl (by decide)⟩

/-! ### The store after its shutdown -/

/-- An inbound session past `GossipStream`'s `isStopping` test that has not yet registered
a connection. -/
def Proc.pendingSession : Proc → Bool
  | .gossipStream .authenticate => true
  | .gossipStream (.onConnected _) => true
  | _ => false

/-- **What a step does to a closed store.**  With the flag set and the store closing, only a
pending session can add an entry, and it is then no longer pending. -/
theorem CommState.stepProc_closedStore {c c' : CommState} {input : Input} {q q' : Proc}
    {qs : List Proc} (h : c.stepProc input q = some (q', qs, c')) (hs : c.stopping = true)
    (hc : c.storeClosing = true) :
    c'.storeClosing = true ∧
      c'.pki2Conn.length + (if q'.pendingSession then 1 else 0) ≤
        c.pki2Conn.length + (if q.pendingSession then 1 else 0) := by
  cases q with
  | stop pc | bridge _ pc | serve pc | sendToEndpoint _ pc | gossipStream pc =>
    obtain ⟨_, hx, rfl, -⟩ := lift_eq_some.mp h
    cases pc <;> simp only [stepStop, stepBridge, stepServe, stepEndpoint, stepStream] at hx <;>
      (repeat' split at hx) <;> cases hx <;>
      first
        | exact ⟨hc, Nat.le_refl _⟩
        | simp_all [Proc.pendingSession, emit, shutdownStore, closeByPKIid, dropKey,
            List.length_filter_le]
  | accept pc | send _ pc =>
    obtain ⟨_, hx, rfl⟩ := liftSpawn_eq_some.mp h
    cases pc <;> simp only [stepAccept, stepSend] at hx <;> (repeat' split at hx) <;> cases hx <;>
      exact ⟨hc, Nat.le_refl _⟩

/-- The store's size, and what the pending sessions can still add to it. -/
def World.storeBound (w : World) : Nat :=
  w.comm.pki2Conn.length + w.procs.countP Proc.pendingSession

theorem World.storeBound_step {w w' : World} {a : Act} (h : w.step a = some w')
    (hs : w.comm.stopping = true) (hc : w.comm.storeClosing = true) :
    w'.comm.storeClosing = true ∧ w'.storeBound ≤ w.storeBound := by
  unfold World.storeBound
  rcases World.step_cases h with ⟨q, hq, rfl⟩ | ⟨p, rfl⟩ | ⟨_, _, -, rfl⟩ |
    ⟨i, input, q, q', qs, c', hq, hx, rfl⟩
  · refine ⟨hc, ?_⟩
    rcases hq with rfl | rfl | ⟨_, rfl⟩ | rfl <;> simp [Proc.pendingSession]
  · exact ⟨hc, Nat.add_le_add_right (List.length_filter_le _ _) _⟩
  · exact ⟨hc, Nat.le_refl _⟩
  · obtain ⟨hc', hle⟩ := CommState.stepProc_closedStore hx hs hc
    have hqs : qs.countP Proc.pendingSession = 0 := List.countP_eq_zero.mpr fun r hr => by
      rcases CommState.stepProc_spawned hx r hr with ⟨_, rfl⟩ | ⟨_, rfl⟩ <;>
        exact Bool.false_ne_true
    obtain ⟨hi, rfl⟩ := List.getElem?_eq_some_iff.mp hq
    have hq := List.boole_getElem_le_countP Proc.pendingSession w.procs i hi
    refine ⟨hc', ?_⟩
    simp only [List.countP_append, List.countP_set _ _ _ _ hi, hqs]
    omega

/-- **After its shutdown, the store grows only by sessions already past their test.**  From
any state in which `stopping` is set and the store has been shut down, over any run, the
store holds at most the connections it held then plus one for each inbound session that
was between `GossipStream`'s `isStopping` test and `onConnected`.  `getConnection`
registers nothing into a closing store, and every later `GossipStream` returns at its
test; but `onConnected` does not check the store's state. -/
theorem store_after_shutdown_bounded {w w' : World} {as : List Act}
    (hs : w.comm.stopping = true) (hc : w.comm.storeClosing = true)
    (hrun : w.run as = some w') :
    w'.comm.pki2Conn.length ≤ w.comm.pki2Conn.length + w.procs.countP Proc.pendingSession :=
  Nat.le_trans (Nat.le_add_right _ _)
    (World.run_preserves (fun v => v.comm.stopping = true ∧ v.comm.storeClosing = true ∧
        v.storeBound ≤ w.storeBound)
      (fun hv h₁ => ⟨(World.step_mono h₁).2 hv.1, (World.storeBound_step h₁ hv.1 hv.2.1).1,
        Nat.le_trans (World.storeBound_step h₁ hv.1 hv.2.1).2 hv.2.2⟩)
      ⟨hs, hc, Nat.le_refl _⟩ hrun).2.2

/-- An inbound stream passes `GossipStream`'s `isStopping` test (goroutine 0), then a `Stop`
(goroutine 1) runs to the end. -/
def sessionDuringStop : List Act :=
  [.gossipStream, .run 0 .none, .stop, .run 1 .none, .run 1 .none, .run 1 .none,
    .run 1 .none, .run 1 .none, .run 1 .none, .run 1 .none, .run 1 .none, .run 1 .none]

def afterSessionDuringStop : World := ((World.init 0).run sessionDuringStop).get rfl

/-- After `Stop` has returned, the session authenticates `[1]` and registers its
connection in the shut-down store, which the bound allows. -/
theorem store_after_shutdown_bounded_session :
    afterSessionDuringStop.procs[1]? = some (.stop .returned) ∧
      afterSessionDuringStop.comm.pki2Conn = [] ∧
      ∃ w', afterSessionDuringStop.run [.run 0 (.peer (some [1])), .run 0 .none] = some w' ∧
        w'.comm.pki2Conn = [(some [1], 0)] ∧
        w'.comm.pki2Conn.length ≤ afterSessionDuringStop.comm.pki2Conn.length +
          afterSessionDuringStop.procs.countP Proc.pendingSession :=
  ⟨rfl, rfl, _, rfl, rfl, @store_after_shutdown_bounded afterSessionDuringStop _
    [.run 0 (.peer (some [1])), .run 0 .none] rfl rfl rfl⟩

end GossipComm
