import GossipComm.World
import Mathlib.Data.List.Nodup

/-!
The connection store under interleaving.

The store is keyed by PKI-ID, and every teardown the comm code triggers names the
key, not the connection: `GossipStream`'s deferred `closeByPKIid(connInfo.ID)`,
`disconnect`'s `closeByPKIid(pkiID)`, `CloseConn`.  So a teardown caused by an old
connection removes and closes whatever the key maps to by then.  When a newer
connection has replaced the old one under the same PKI-ID, the stale teardown
closes the newer one (`stale_teardown_closes_new_connection`).  What does hold is
the key-level statement: a connection registered under `p` stays registered, and
open, until a teardown keyed by `p` or the store's shutdown
(`registered_until_teardown`).

The proof of `registered_until_teardown` rests on one summary of what a goroutine's step does to the store
(`StoreStep`, derived once in `stepProc_storeStep`) and on the store's invariant
(`StoreOK` and `SessionOK`): connection ids come from `fresh` and are never reused,
no id is registered twice, a registered connection has not been closed, and a
session whose teardown has run no longer finds its connection in the store.

`disconnect` tests `isStopping()` one step before it writes to `deadEndpoints`, and
the `sendToEndpoint` goroutines are not joined by `Stop`, so a PKI-ID can be written
to `deadEndpoints` after `Stop` has returned (`dead_endpoint_written_after_stop`).
The window is exactly those goroutines: once the flag is set, a run makes at most as
many writes as there were goroutines between the test and the write
(`dead_writes_after_flag_bounded`).
-/

namespace GossipComm

/-! ### The store's map -/

theorem mem_of_lookupConn {p : PKIidType} {conn : Nat} :
    ∀ {l : List (PKIidType × Nat)}, lookupConn p l = some conn → (p, conn) ∈ l
  | [], h => by cases h
  | e :: l, h => by
    unfold lookupConn at h
    split at h
    · cases h; simp [← ‹e.1 = p›]
    · exact List.mem_cons_of_mem _ (mem_of_lookupConn h)

theorem lookupConn_cons_ne {p p' : PKIidType} {x : Nat} {l : List (PKIidType × Nat)}
    (h : p' ≠ p) : lookupConn p ((p', x) :: l) = lookupConn p l := by
  simp [lookupConn, h]

theorem lookupConn_filter_ne {p p' : PKIidType} (h : p' ≠ p) :
    ∀ l : List (PKIidType × Nat),
      lookupConn p (l.filter fun entry => decide (entry.1 ≠ p')) = lookupConn p l
  | [] => rfl
  | e :: l => by
    have ih := lookupConn_filter_ne h l
    by_cases he : e.1 = p'
    · rw [List.filter_cons_of_neg (by simpa using he), ih, lookupConn, if_neg (he ▸ h)]
    · rw [List.filter_cons_of_pos (by simpa using he), lookupConn, lookupConn, ih]

/-- With distinct connection ids, one id is registered under one key only. -/
theorem key_eq_of_nodup {l : List (PKIidType × Nat)} (h : (l.map Prod.snd).Nodup)
    {e e' : PKIidType × Nat} (he : e ∈ l) (he' : e' ∈ l) (hx : e.2 = e'.2) : e = e' :=
  List.inj_on_of_nodup_map h he he' hx

namespace CommState

variable {c c' : CommState}

/-! ### What a step does to the store -/

/-- What one step does to the connection store, the connection ids and the
`conn.close()` calls in the log; `q` is the goroutine that steps. -/
inductive StoreStep (c c' : CommState) (q : Proc) : Prop
  /-- the map is left alone and no connection is closed -/
  | frame : c'.pki2Conn = c.pki2Conn → c.fresh ≤ c'.fresh →
      (∀ x, Effect.connClose x ∈ c'.log ↔ Effect.connClose x ∈ c.log) → StoreStep c c' q
  /-- a new connection is registered under a PKI-ID the map does not hold: one a dial
  authenticated, never nil, or the one the session `q` at `onConnected` holds -/
  | register (p : PKIidType) : (p ≠ none ∨ q = .gossipStream (.onConnected p)) →
      c.connOf p = none →
      c'.pki2Conn = (p, c.fresh) :: c.pki2Conn → c'.fresh = c.fresh + 1 → c'.log = c.log →
      StoreStep c c' q
  /-- a new connection is closed without being registered -/
  | closeNew : c'.pki2Conn = c.pki2Conn → c'.fresh = c.fresh + 1 →
      c'.log = c.log ++ [.connClose c.fresh] → StoreStep c c' q
  /-- the store's `closeByPKIid(p)` or `closeConn` of a peer with PKI-ID `p` -/
  | dropKey (p : PKIidType) (e : Effect) : (e = .closeByPKIid p ∨ e = .closeConn p) →
      c' = c.dropKey p e → StoreStep c c' q
  | shutdown : c' = c.shutdownStore → StoreStep c c' q
  /-- a session's deferred `conn.close()` -/
  | closeOwn (p : PKIidType) (x : Nat) : q = .gossipStream (.closeOwn p x) →
      c'.pki2Conn = c.pki2Conn → c'.fresh = c.fresh → c'.log = c.log ++ [.connClose x] →
      StoreStep c c' q

/-- **What a goroutine's step does to the store.** -/
theorem stepProc_storeStep {input : Input} {q q' : Proc} {qs : List Proc}
    (h : c.stepProc input q = some (q', qs, c')) : StoreStep c c' q := by
  cases q with
  | stop pc | bridge _ pc | serve pc | sendToEndpoint _ pc | gossipStream pc =>
    obtain ⟨_, hx, -, -⟩ := lift_eq_some.mp h
    cases pc <;> simp only [stepStop, stepBridge, stepServe, stepEndpoint, stepStream] at hx <;>
      (repeat' split at hx) <;> cases hx <;>
      first
        | exact .frame rfl (Nat.le_refl _) fun _ => Iff.rfl
        | exact .register _ (.inl (Option.some_ne_none _)) ‹_› rfl rfl rfl
        | exact .register _ (.inr rfl) ‹_› rfl rfl rfl
        | exact .closeNew rfl rfl rfl
        | exact .dropKey _ _ (.inl rfl) rfl
        | exact .shutdown rfl
        | exact .closeOwn _ _ rfl rfl rfl rfl
        | exact .frame rfl (Nat.le_refl _) (by simp [emit])
  | accept pc | send _ pc =>
    obtain ⟨_, hx, -⟩ := liftSpawn_eq_some.mp h
    cases pc <;> simp only [stepAccept, stepSend] at hx <;> (repeat' split at hx) <;> cases hx <;>
      exact .frame rfl (by simp) (by simp)

/-! ### The store's invariant -/

/-- The connection store's invariant. -/
structure StoreOK (c : CommState) : Prop where
  /-- every registered connection id has been handed out -/
  lt_fresh : ∀ e ∈ c.pki2Conn, e.2 < c.fresh
  /-- no connection is registered twice -/
  nodup : (c.pki2Conn.map Prod.snd).Nodup
  /-- a registered connection has not been closed -/
  registered_open : ∀ e ∈ c.pki2Conn, Effect.connClose e.2 ∉ c.log
  /-- every closed connection id has been handed out -/
  closed_lt : ∀ x, Effect.connClose x ∈ c.log → x < c.fresh

/-- What a `GossipStream` goroutine knows of the store: while it serves connection `x`
for `p`, `x` is registered under `p` if at all; once its teardown has run, `x` is not
registered. -/
def SessionOK (c : CommState) : Proc → Prop
  | .gossipStream (.serving p x) => x < c.fresh ∧ ∀ e ∈ c.pki2Conn, e.2 = x → e.1 = p
  | .gossipStream (.closeOwn _ x) => x < c.fresh ∧ ∀ e ∈ c.pki2Conn, e.2 ≠ x
  | _ => True

theorem StoreOK.registered {c : CommState} (hs : c.StoreOK) {p : PKIidType} {conn : Nat}
    (h : c.connOf p = some conn) : Effect.connClose conn ∉ c.log :=
  hs.registered_open _ (mem_of_lookupConn h)

/-- `dropKey p e` keeps the invariant: it closes the one connection it removes. -/
theorem StoreOK.dropKey (hs : c.StoreOK) {p : PKIidType} {e : Effect}
    (he : ∀ x, e ≠ .connClose x) : (c.dropKey p e).StoreOK := by
  have hdrop : ∀ y, c.connOf p = some y → ∀ e' ∈ c.pki2Conn, e'.1 ≠ p → e'.2 ≠ y :=
    fun y hy e' he' hne hx => hne (congrArg Prod.fst
      (key_eq_of_nodup hs.nodup he' (mem_of_lookupConn hy) hx))
  refine ⟨fun e' he' => hs.lt_fresh e' (List.mem_filter.mp he').1,
    hs.nodup.sublist ((List.filter_sublist _).map Prod.snd), fun e' he' hm => ?_, fun x hx => ?_⟩
  · obtain ⟨he', hne⟩ := List.mem_filter.mp he'
    simp only [CommState.dropKey, List.mem_append, List.mem_cons, List.mem_map,
      Option.mem_toList] at hm
    rcases hm with hm | hm | ⟨y, hy, hxy⟩
    · exact hs.registered_open e' he' hm
    · exact he _ hm.symm
    · exact hdrop y hy e' he' (by simpa using hne) (Effect.connClose.inj hxy).symm
  · simp only [CommState.dropKey, List.mem_append, List.mem_cons, List.mem_map,
      Option.mem_toList] at hx
    rcases hx with hx | hx | ⟨y, hy, hxy⟩
    · exact hs.closed_lt x hx
    · exact absurd hx.symm (he x)
    · cases hxy
      exact hs.lt_fresh _ (mem_of_lookupConn hy)

theorem StoreOK.shutdownStore (hs : c.StoreOK) : c.shutdownStore.StoreOK := by
  refine ⟨by simp [CommState.shutdownStore], by simp [CommState.shutdownStore],
    by simp [CommState.shutdownStore], fun x hx => ?_⟩
  simp only [CommState.shutdownStore, List.mem_append, List.mem_cons, List.mem_map,
    reduceCtorEq, false_or] at hx
  rcases hx with hx | ⟨e, he, hxe⟩
  · exact hs.closed_lt x hx
  · cases hxe
    exact hs.lt_fresh e he

/-- **Every step keeps the store's invariant**, given what the stepping goroutine knows. -/
theorem StoreStep.storeOK {q : Proc} (h : StoreStep c c' q) (hs : c.StoreOK)
    (hq : c.SessionOK q) : c'.StoreOK := by
  cases h with
  | frame hm hf hl =>
    refine ⟨fun e he => ?_, hm ▸ hs.nodup, fun e he => ?_, fun x hx => ?_⟩
    · exact Nat.lt_of_lt_of_le (hs.lt_fresh e (hm ▸ he)) hf
    · rw [hl]; exact hs.registered_open e (hm ▸ he)
    · exact Nat.lt_of_lt_of_le (hs.closed_lt x ((hl x).mp hx)) hf
  | register p _ _ hm hf hl =>
    have hnew : Effect.connClose c.fresh ∉ c.log := fun h => Nat.lt_irrefl _ (hs.closed_lt _ h)
    refine ⟨fun e he => ?_, ?_, fun e he => ?_, fun x hx => ?_⟩
    · rw [hm, List.mem_cons] at he
      rcases he with rfl | he
      · omega
      · have := hs.lt_fresh e he; omega
    · rw [hm, List.map_cons, List.nodup_cons]
      exact ⟨fun hm' => by
        obtain ⟨e, he, hx⟩ := List.mem_map.mp hm'
        exact Nat.lt_irrefl _ (hx ▸ hs.lt_fresh e he), hs.nodup⟩
    · rw [hm, List.mem_cons] at he
      rw [hl]
      rcases he with rfl | he
      · exact hnew
      · exact hs.registered_open e he
    · have := hs.closed_lt x (hl ▸ hx); omega
  | closeNew hm hf hl =>
    refine ⟨fun e he => ?_, hm ▸ hs.nodup, fun e he => ?_, fun x hx => ?_⟩
    · have := hs.lt_fresh e (hm ▸ he); omega
    · rw [hm] at he
      rw [hl, List.mem_append, List.mem_singleton, Effect.connClose.injEq, not_or]
      exact ⟨hs.registered_open e he, Nat.ne_of_lt (hs.lt_fresh e he)⟩
    · rw [hl, List.mem_append, List.mem_singleton, Effect.connClose.injEq] at hx
      rcases hx with hx | rfl
      · have := hs.closed_lt x hx; omega
      · omega
  | dropKey p e he hc =>
    subst hc
    exact hs.dropKey (by rcases he with rfl | rfl <;> simp)
  | shutdown hc => subst hc; exact hs.shutdownStore
  | closeOwn p x hq' hm hf hl =>
    subst hq'
    obtain ⟨hx, hfree⟩ := hq
    refine ⟨fun e he => hf ▸ hs.lt_fresh e (hm ▸ he), hm ▸ hs.nodup, fun e he => ?_,
      fun y hy => ?_⟩
    · rw [hm] at he
      rw [hl, List.mem_append, List.mem_singleton, Effect.connClose.injEq, not_or]
      exact ⟨hs.registered_open e he, hfree e he⟩
    · rw [hl, List.mem_append, List.mem_singleton, Effect.connClose.injEq] at hy
      rw [hf]
      rcases hy with hy | rfl
      · exact hs.closed_lt y hy
      · exact hx

/-- A step only adds connections with new ids, so what a session knows survives it. -/
theorem StoreStep.grows {q : Proc} (h : StoreStep c c' q) :
    c.fresh ≤ c'.fresh ∧ ∀ e ∈ c'.pki2Conn, e ∈ c.pki2Conn ∨ c.fresh ≤ e.2 := by
  cases h with
  | frame hm hf _ => exact ⟨hf, fun e he => .inl (hm ▸ he)⟩
  | register p _ _ hm hf _ =>
    refine ⟨by omega, fun e he => ?_⟩
    rw [hm, List.mem_cons] at he
    rcases he with rfl | he
    · exact .inr (Nat.le_refl _)
    · exact .inl he
  | closeNew hm hf _ => exact ⟨by omega, fun e he => .inl (hm ▸ he)⟩
  | dropKey p e _ hc =>
    subst hc
    exact ⟨Nat.le_refl _, fun e he => .inl (List.mem_filter.mp he).1⟩
  | shutdown hc => subst hc; exact ⟨Nat.le_refl _, by simp [CommState.shutdownStore]⟩
  | closeOwn p x _ hm hf _ => exact ⟨hf ▸ Nat.le_refl _, fun e he => .inl (hm ▸ he)⟩

theorem SessionOK.mono {r : Proc} (h : c.SessionOK r) (hf : c.fresh ≤ c'.fresh)
    (hm : ∀ e ∈ c'.pki2Conn, e ∈ c.pki2Conn ∨ c.fresh ≤ e.2) : c'.SessionOK r := by
  match r, h with
  | .gossipStream (.serving p x), ⟨hx, hkey⟩ =>
    refine ⟨Nat.lt_of_lt_of_le hx hf, fun e he hex => ?_⟩
    rcases hm e he with he | he
    · exact hkey e he hex
    · omega
  | .gossipStream (.closeOwn p x), ⟨hx, hfree⟩ =>
    refine ⟨Nat.lt_of_lt_of_le hx hf, fun e he hex => ?_⟩
    rcases hm e he with he | he
    · exact hfree e he hex
    · omega
  | .stop _, _ | .accept _, _ | .bridge _ _, _ | .serve _, _ | .send _ _, _
  | .sendToEndpoint _ _, _ | .gossipStream .entry, _ | .gossipStream .authenticate, _
  | .gossipStream (.onConnected _), _ | .gossipStream .returned, _ => trivial

/-- The goroutine that steps keeps what it knows: a session that registers its
connection finds it under its own PKI-ID, and one whose teardown has run finds it gone. -/
theorem stepProc_sessionOK {input : Input} {q q' : Proc} {qs : List Proc}
    (h : c.stepProc input q = some (q', qs, c')) (hs : c.StoreOK) (hq : c.SessionOK q) :
    c'.SessionOK q' := by
  cases q with
  | gossipStream pc =>
    obtain ⟨_, hx, rfl, -⟩ := lift_eq_some.mp h
    cases pc with
    | onConnected p =>
      simp only [stepStream] at hx
      split at hx <;> cases hx
      · trivial
      · refine ⟨Nat.lt_succ_self _, fun e he hex => ?_⟩
        rcases List.mem_cons.mp he with rfl | he
        · rfl
        · exact absurd hex (Nat.ne_of_lt (hs.lt_fresh e he))
    | serving p x =>
      simp only [stepStream] at hx
      split at hx <;> cases hx
      refine ⟨hq.1, fun e he hex => ?_⟩
      obtain ⟨he, hne⟩ := List.mem_filter.mp he
      exact absurd (hq.2 e he hex) (by simpa using hne)
    | entry | authenticate | closeOwn | returned =>
      simp only [stepStream] at hx; (repeat' split at hx) <;> cases hx <;> trivial
  | stop | bridge | serve | sendToEndpoint =>
    obtain ⟨_, -, rfl, -⟩ := lift_eq_some.mp h
    trivial
  | accept | send => obtain ⟨_, -, rfl⟩ := liftSpawn_eq_some.mp h; trivial

/-- **A step keeps `p`'s connection** unless it is a teardown keyed by `p` or the
store's shutdown. -/
theorem StoreStep.connOf_keeps {q : Proc} (h : StoreStep c c' q) {p : PKIidType}
    {conn : Nat} (hc : c.connOf p = some conn) {es : List Effect} (hlog : c'.log = c.log ++ es)
    (hquiet : .closeByPKIid p ∉ es ∧ .closeConn p ∉ es ∧ .shutdownStore ∉ es) :
    c'.connOf p = some conn := by
  cases h with
  | frame hm _ _ => simpa [connOf, hm] using hc
  | register p' _ hnone hm _ _ =>
    have hne : p' ≠ p := by rintro rfl; simp [hnone] at hc
    simpa [connOf, hm, lookupConn_cons_ne hne] using hc
  | closeNew hm _ _ => simpa [connOf, hm] using hc
  | dropKey p' e he hc' =>
    subst hc'
    have hes : es = e :: (c.connOf p').toList.map .connClose :=
      (List.append_cancel_left hlog).symm
    have hne : p' ≠ p := by
      rintro rfl
      rcases he with rfl | rfl
      · exact hquiet.1 (hes ▸ List.mem_cons_self _ _)
      · exact hquiet.2.1 (hes ▸ List.mem_cons_self _ _)
    exact (lookupConn_filter_ne hne _).trans hc
  | shutdown hc' =>
    subst hc'
    have hes : es = .shutdownStore :: c.pki2Conn.map fun entry => .connClose entry.2 :=
      (List.append_cancel_left hlog).symm
    exact absurd (hes ▸ List.mem_cons_self _ _) hquiet.2.2
  | closeOwn _ _ _ hm _ _ => simpa [connOf, hm] using hc

end CommState

/-! ### Over whole runs -/

/-- The store's invariant and what every session knows, in one state of the instance. -/
structure World.StoreInv (w : World) : Prop where
  store : w.comm.StoreOK
  sessions : ∀ q ∈ w.procs, w.comm.SessionOK q

theorem World.storeInv_init (port : Int) : (World.init port).StoreInv where
  store := ⟨by simp [World.init, CommState.init], by simp [World.init, CommState.init],
    by simp [World.init, CommState.init], by simp [World.init, CommState.init]⟩
  sessions := by unfold World.init; split <;> simp [CommState.SessionOK]

/-- A step that moves no goroutine keeps the invariant when it is a step on the store. -/
theorem World.storeInv_of_storeStep {w : World} {c' : CommState} (hinv : w.StoreInv)
    (hst : w.comm.StoreStep c' (.stop .entry)) : World.StoreInv ⟨c', w.procs⟩ :=
  ⟨hst.storeOK hinv.store trivial,
    fun r hr => (hinv.sessions r hr).mono hst.grows.1 hst.grows.2⟩

theorem World.storeInv_step {w w' : World} {a : Act} (hinv : w.StoreInv)
    (h : w.step a = some w') : w'.StoreInv := by
  rcases World.step_cases h with ⟨q, hq, rfl⟩ | ⟨p, rfl⟩ | ⟨_, _, -, rfl⟩ |
    ⟨i, input, q, q', qs, c', hq, hx, rfl⟩
  · refine ⟨hinv.store, fun r hr => ?_⟩
    rcases List.mem_append.mp hr with hr | hr
    · exact hinv.sessions r hr
    · rcases hq with rfl | rfl | ⟨_, rfl⟩ | rfl <;> simp_all [CommState.SessionOK]
  · exact World.storeInv_of_storeStep hinv (.dropKey p _ (.inr rfl) rfl)
  · exact World.storeInv_of_storeStep hinv (.frame rfl (Nat.le_refl _) fun _ => Iff.rfl)
  · have hmem : q ∈ w.procs := List.getElem?_mem hq
    have hst := CommState.stepProc_storeStep hx
    refine ⟨hst.storeOK hinv.store (hinv.sessions q hmem), fun r hr => ?_⟩
    rcases List.mem_append.mp hr with hr | hr
    · rcases List.mem_or_eq_of_mem_set hr with hr | rfl
      · exact (hinv.sessions r hr).mono hst.grows.1 hst.grows.2
      · exact CommState.stepProc_sessionOK hx hinv.store (hinv.sessions q hmem)
    · rcases CommState.stepProc_spawned hx r hr with ⟨_, rfl⟩ | ⟨_, rfl⟩ <;> trivial

theorem Reachable.storeInv {w : World} (h : Reachable w) : w.StoreInv := by
  induction h with
  | init port => exact World.storeInv_init port
  | step _ _ hs ih => exact World.storeInv_step ih hs

/-- An inbound session for PKI-ID `[1]` (goroutine 0) serves connection `0`; a
`CloseConn` for `[1]` removes it, and a `Send` to `[1]` (goroutines 1 and 2) dials and
registers connection `1`. -/
def staleTeardown : List Act :=
  [.gossipStream, .run 0 .none, .run 0 (.peer (some [1])), .run 0 .none,
    .closeConn (some [1]), .send [some [1]], .run 1 .none, .run 1 .none, .run 2 .none,
    .run 2 .none, .run 2 (.peer (some [1]))]

/-- **The store holds open connections only.**  In every reachable state, the connection
the store holds for a PKI-ID has not been closed. -/
theorem registered_connection_open {w : World} {p : PKIidType} {conn : Nat}
    (h : Reachable w) (hc : w.comm.connOf p = some conn) :
    Effect.connClose conn ∉ w.comm.log :=
  h.storeInv.store.registered hc

/-- The instance after `staleTeardown`: the store holds connection `1` for `[1]`. -/
def afterStaleTeardown : World := ((World.init 0).run staleTeardown).get rfl

theorem registered_connection_open_after_redial :
    afterStaleTeardown.comm.connOf (some [1]) = some 1 ∧
      Effect.connClose 1 ∉ afterStaleTeardown.comm.log :=
  ⟨rfl, @registered_connection_open afterStaleTeardown (some [1]) 1
    (.run (.init 0) staleTeardown rfl) rfl⟩

theorem World.step_connOf_keeps {w w' : World} {a : Act} (h : w.step a = some w')
    {p : PKIidType} {conn : Nat} (hc : w.comm.connOf p = some conn) {es : List Effect}
    (hlog : w'.comm.log = w.comm.log ++ es)
    (hquiet : .closeByPKIid p ∉ es ∧ .closeConn p ∉ es ∧ .shutdownStore ∉ es) :
    w'.comm.connOf p = some conn := by
  rcases World.step_cases h with ⟨q, -, rfl⟩ | ⟨p', rfl⟩ | ⟨_, _, -, rfl⟩ |
    ⟨i, input, q, q', qs, c', hq, hx, rfl⟩
  · exact hc
  · exact (CommState.StoreStep.dropKey (q := .stop .entry) p' _ (.inr rfl) rfl).connOf_keeps
      hc hlog hquiet
  · exact hc
  · exact (CommState.stepProc_storeStep hx).connOf_keeps hc hlog hquiet

theorem World.run_connOf_keeps {p : PKIidType} {conn : Nat} :
    ∀ {w w' : World} {as : List Act} {es : List Effect},
      w.comm.connOf p = some conn → w.run as = some w' → w'.comm.log = w.comm.log ++ es →
      (.closeByPKIid p ∉ es ∧ .closeConn p ∉ es ∧ .shutdownStore ∉ es) →
      w'.comm.connOf p = some conn
  | _, _, [], _, hc, h, _, _ => by cases h; exact hc
  | w, w', a :: as, es, hc, h, hlog, hquiet => by
    simp only [World.run, Option.bind_eq_some] at h
    obtain ⟨w₁, h₁, h⟩ := h
    obtain ⟨es₁, hes₁⟩ := (World.step_mono h₁).1
    obtain ⟨es₂, hes₂⟩ := (World.run_mono h).1
    have hes : w.comm.log ++ es = w.comm.log ++ (es₁ ++ es₂) := by
      rw [← hlog, ← hes₂, ← hes₁, List.append_assoc]
    rw [List.append_cancel_left hes] at hquiet
    simp only [List.mem_append, not_or] at hquiet
    exact World.run_connOf_keeps
      (World.step_connOf_keeps h₁ hc hes₁.symm ⟨hquiet.1.1, hquiet.2.1.1, hquiet.2.2.1⟩)
      h hes₂.symm ⟨hquiet.1.2, hquiet.2.1.2, hquiet.2.2.2⟩

/-- **Teardown is keyed by PKI-ID.**  From any reachable state in which the store holds
connection `conn` for `p`, over any run that logs no `closeByPKIid(p)`, no `CloseConn`
of `p` and no shutdown of the store, `conn` stays registered under `p` and open. -/
theorem registered_until_teardown {w w' : World} {as : List Act} {p : PKIidType}
    {conn : Nat} {es : List Effect} (hr : Reachable w) (hc : w.comm.connOf p = some conn)
    (hrun : w.run as = some w') (hlog : w'.comm.log = w.comm.log ++ es)
    (hquiet : .closeByPKIid p ∉ es ∧ .closeConn p ∉ es ∧ .shutdownStore ∉ es) :
    w'.comm.connOf p = some conn ∧ Effect.connClose conn ∉ w'.comm.log := by
  have hc' := World.run_connOf_keeps hc hrun hlog hquiet
  exact ⟨hc', (hr.run as hrun).storeInv.store.registered hc'⟩

/-- A second `Send` to `[1]` (goroutines 3 and 4) that finds connection `1` and queues on
it. -/
def resend : List Act :=
  [.send [some [1]], .run 3 .none, .run 3 .none, .run 4 .none, .run 4 .none, .run 4 .none]

theorem registered_until_teardown_resend :
    ∃ w', afterStaleTeardown.run resend = some w' ∧
      w'.comm.connOf (some [1]) = some 1 ∧ Effect.connClose 1 ∉ w'.comm.log :=
  ⟨_, rfl, @registered_until_teardown afterStaleTeardown _ resend (some [1]) 1 []
    (.run (.init 0) staleTeardown rfl) rfl rfl rfl (by decide)⟩

/-- When the old session's stream then fails, its deferred `closeByPKIid([1])` removes
and closes connection `1`. -/
theorem stale_teardown_closes_new_connection :
    ∃ w w', (World.init 0).run staleTeardown = some w ∧
      w.procs[0]? = some (.gossipStream (.serving (some [1]) 0)) ∧
      w.comm.connOf (some [1]) = some 1 ∧
      w.step (.run 0 .fail) = some w' ∧
      w'.comm.connOf (some [1]) = none ∧ Effect.connClose 1 ∈ w'.comm.log :=
  ⟨_, _, rfl, rfl, rfl, rfl, rfl, by decide⟩

/-! ### `deadEndpoints` after `Stop` -/

/-- A `Send` to `[1]` whose dial fails (goroutine 1 passes `disconnect`'s `isStopping`
test), then a `Stop` (goroutine 2) that runs to the end. -/
def sendDuringStop : List Act :=
  [.send [some [1]], .run 0 .none, .run 0 .none, .run 1 .none, .run 1 .none, .run 1 .fail,
    .run 1 .none, .stop, .run 2 .none, .run 2 .none, .run 2 .none, .run 2 .none,
    .run 2 .none, .run 2 .none, .run 2 .none, .run 2 .none, .run 2 .none]

/-- After `Stop` has returned, the `sendToEndpoint` goroutine writes `[1]` to
`deadEndpoints`. -/
theorem dead_endpoint_written_after_stop :
    ∃ w w', (World.init 0).run sendDuringStop = some w ∧
      w.procs[2]? = some (.stop .returned) ∧
      w.step (.run 1 .none) = some w' ∧
      w'.comm.log = w.comm.log ++ [.writeDead (some [1])] ∧
      w'.comm.deadEndpoints = w.comm.deadEndpoints ++ [some [1]] :=
  ⟨_, _, rfl, rfl, rfl, rfl, rfl⟩

/-- A `sendToEndpoint` goroutine between `disconnect`'s `isStopping` test and its write
to `deadEndpoints`. -/
def Proc.atWriteDead : Proc → Bool
  | .sendToEndpoint _ .writeDead => true
  | _ => false

/-- A write to `deadEndpoints`. -/
def Effect.isWriteDead : Effect → Bool
  | .writeDead _ => true
  | _ => false

/-- The writes to `deadEndpoints` made so far, and those that goroutines past
`disconnect`'s test are still to make. -/
def World.deadWrites (w : World) : Nat :=
  w.comm.log.countP Effect.isWriteDead + w.procs.countP Proc.atWriteDead

/-- Once the flag is set no goroutine passes `disconnect`'s test, so a step can only turn
a pending write into a made one. -/
theorem CommState.stepProc_deadWrites {c c' : CommState} {input : Input} {q q' : Proc}
    {qs : List Proc} (h : c.stepProc input q = some (q', qs, c')) (hs : c.stopping = true) :
    c'.log.countP Effect.isWriteDead + (if q'.atWriteDead then 1 else 0) ≤
      c.log.countP Effect.isWriteDead + (if q.atWriteDead then 1 else 0) := by
  cases q with
  | stop pc | bridge _ pc | serve pc | sendToEndpoint _ pc | gossipStream pc =>
    obtain ⟨_, hx, rfl, -⟩ := lift_eq_some.mp h
    cases pc <;> simp only [stepStop, stepBridge, stepServe, stepEndpoint, stepStream] at hx <;>
      (repeat' split at hx) <;> cases hx <;>
      simp [hs, Proc.atWriteDead, Effect.isWriteDead, emit, shutdownStore, closeByPKIid, dropKey,
        List.countP_map, Function.comp_def]
  | accept pc | send _ pc =>
    obtain ⟨_, hx, rfl⟩ := liftSpawn_eq_some.mp h
    cases pc <;> simp only [stepAccept, stepSend] at hx <;> (repeat' split at hx) <;> cases hx <;>
      simp [Proc.atWriteDead]

theorem World.deadWrites_step {w w' : World} {a : Act} (h : w.step a = some w')
    (hs : w.comm.stopping = true) : w'.deadWrites ≤ w.deadWrites := by
  unfold World.deadWrites
  rcases World.step_cases h with ⟨q, hq, rfl⟩ | ⟨p, rfl⟩ | ⟨_, _, -, rfl⟩ |
    ⟨i, input, q, q', qs, c', hq, hx, rfl⟩
  · rcases hq with rfl | rfl | ⟨_, rfl⟩ | rfl <;> simp [Proc.atWriteDead]
  · simp [CommState.closeConn, CommState.dropKey, Effect.isWriteDead, List.countP_map,
      Function.comp_def]
  · exact Nat.le_refl _
  · have hstep := CommState.stepProc_deadWrites hx hs
    have hqs : qs.countP Proc.atWriteDead = 0 := List.countP_eq_zero.mpr fun r hr => by
      rcases CommState.stepProc_spawned hx r hr with ⟨_, rfl⟩ | ⟨_, rfl⟩ <;>
        simp [Proc.atWriteDead]
    obtain ⟨hi, rfl⟩ := List.getElem?_eq_some_iff.mp hq
    have hle := List.boole_getElem_le_countP Proc.atWriteDead w.procs i hi
    simp only [List.countP_append, List.countP_set _ _ _ _ hi, hqs]
    omega

theorem World.deadWrites_run {w w' : World} {as : List Act} (hs : w.comm.stopping = true)
    (h : w.run as = some w') : w'.deadWrites ≤ w.deadWrites :=
  (World.run_preserves (fun v => v.comm.stopping = true ∧ v.deadWrites ≤ w.deadWrites)
    (fun hv h₁ => ⟨(World.step_mono h₁).2 hv.1,
      Nat.le_trans (World.deadWrites_step h₁ hv.1) hv.2⟩)
    ⟨hs, Nat.le_refl _⟩ h).2

/-- **After the flag, dead-endpoint writes are bounded.**  From any state in which
`stopping` is set, a run writes to `deadEndpoints` at most as many times as there were
goroutines between `disconnect`'s `isStopping` test and its write; with none there,
nothing is written after `Stop` has stored the flag. -/
theorem dead_writes_after_flag_bounded {w w' : World} {as : List Act}
    (hflag : w.comm.stopping = true) (hrun : w.run as = some w') :
    w'.comm.log.countP Effect.isWriteDead ≤
      w.comm.log.countP Effect.isWriteDead + w.procs.countP Proc.atWriteDead :=
  Nat.le_trans (Nat.le_add_right _ _) (World.deadWrites_run hflag hrun)

/-- The instance after `sendDuringStop`: `Stop` has returned, one goroutine is still to
write. -/
def afterSendDuringStop : World := ((World.init 0).run sendDuringStop).get rfl

theorem dead_writes_after_flag_bounded_one :
    afterSendDuringStop.procs.countP Proc.atWriteDead = 1 ∧
      ∃ w', afterSendDuringStop.run [.run 1 .none] = some w' ∧
        w'.comm.log.countP Effect.isWriteDead ≤ afterSendDuringStop.comm.log.countP
          Effect.isWriteDead + afterSendDuringStop.procs.countP Proc.atWriteDead :=
  ⟨rfl, _, rfl, @dead_writes_after_flag_bounded afterSendDuringStop _ [.run 1 .none] rfl rfl⟩

end GossipComm
