import GossipComm.World

/-!
`Stop`, `Accept` and the join barrier.

`Stop` is guarded by `isStopping()`, and the flag is stored one step later, so two
calls can both pass the guard and both run the whole shutdown
(`stop_twice_runs_shutdown_twice`): the server is stopped twice, the store shut
down twice, and every subscription channel closed twice.  Without a bridge goroutine to
take the first exit token, the second call instead blocks for good at its send on the
one-slot `exitChan` (`stop_blocked_at_exit_send`).

`emptySubscriptions` closes every channel on `c.subscriptions` when it walks the
list, and a closed channel stays closed (`emptySubscriptions_closes`).  `Accept` tests
`isStopping()` outside `c.lock` and appends its channel in a later step, so an `Accept`
that saw the flag clear can append its channel after the walk, and `Stop` returns with it
registered and open (`stop_returns_with_subscription_open`).  An `Accept` that sees the
flag set hands back a channel it never registers, as its warning says, and `Stop` does
not close that one either.

`stopWG` counts exactly the goroutines between their `Add` and their `Done`
(`Reachable.waitGroupOK`), so `Wait` returns only when none is there
(`wait_returns_when_none_joined`).  The `Serve` goroutine is added before it starts,
so once `Stop` has returned it has exited (`serve_exited_after_stop`); a bridge
goroutine adds itself after it starts, so `Wait` can return before the bridge has run
at all, and the bridge then enters its loop after `Stop` returned
(`stop_returns_before_bridge_runs`).
-/

namespace GossipComm

/-! ### Concurrent `Stop` calls -/

/-- Two `Stop` calls (goroutines 3 and 4) that both pass `isStopping()` before either
stores the flag, with one subscription whose bridge (goroutine 2) takes the exit token
and lets the second token in. -/
def doubleStop : List Act :=
  [.accept, .run 1 .none, .run 1 .none, .run 1 .none, .run 1 .none, .run 2 .none,
    .stop, .stop, .run 3 .none, .run 4 .none, .run 3 .none, .run 4 .none,
    .run 3 .none, .run 4 .none, .run 3 .none, .run 4 .none, .run 3 .none, .run 4 .none,
    .run 3 .none, .run 2 .none, .run 4 .none, .run 3 .none, .run 4 .none,
    .run 3 .none, .run 4 .none]

/-- Both calls stop the server, shut the store down, send an exit token, close the
demultiplexer, and close subscription channel `0`. -/
theorem stop_twice_runs_shutdown_twice :
    ∃ w, (World.init 1).run doubleStop = some w ∧
      w.comm.log.count .stopServer = 2 ∧ w.comm.log.count .closeListener = 2 ∧
      w.comm.log.count .shutdownStore = 2 ∧ w.comm.log.count .sendExit = 2 ∧
      w.comm.log.count .closePublisher = 2 ∧ w.comm.log.count (.closeChan 0) = 2 :=
  ⟨_, rfl, rfl, rfl, rfl, rfl, rfl, rfl⟩

/-- A goroutine that can take the exit token off `exitChan`: a bridge, or an `Accept` past
its `isStopping` test, which will start one. -/
def Proc.mayTakeExit : Proc → Bool
  | .bridge _ _ => true
  | .accept (.append _) => true
  | .accept (.spawn _) => true
  | _ => false

/-- With the flag set, the token in `exitChan` and no goroutine that can take it, a step
keeps all three. -/
theorem CommState.stepProc_keeps_exit {c c' : CommState} {input : Input} {q q' : Proc}
    {qs : List Proc} (h : c.stepProc input q = some (q', qs, c')) (hs : c.stopping = true)
    (he : c.exitChan = 1) (hq : q.mayTakeExit = false) :
    c'.exitChan = 1 ∧ q'.mayTakeExit = false ∧ ∀ r ∈ qs, r.mayTakeExit = false := by
  cases q with
  | stop pc | bridge _ pc | serve pc | sendToEndpoint _ pc | gossipStream pc =>
    obtain ⟨_, hx, rfl, rfl⟩ := lift_eq_some.mp h
    cases pc <;> simp only [stepStop, stepBridge, stepServe, stepEndpoint, stepStream] at hx <;>
      (repeat' split at hx) <;> cases hx <;>
      simp_all [Proc.mayTakeExit, emit, shutdownStore, closeByPKIid, dropKey]
  | accept pc | send _ pc =>
    obtain ⟨_, hx, rfl⟩ := liftSpawn_eq_some.mp h
    cases pc <;> simp only [stepAccept, stepSend] at hx <;> (repeat' split at hx) <;> cases hx <;>
      simp_all [Proc.mayTakeExit]

/-- A `Stop` (goroutine `i`) at `c.exitChan <- struct{}{}` with the token already in the
channel, the flag set, and no goroutine that can take the token. -/
structure World.ExitBlocked (w : World) (i : Nat) : Prop where
  stopping : w.comm.stopping = true
  token : w.comm.exitChan = 1
  none_take : ∀ q ∈ w.procs, q.mayTakeExit = false
  blocked : w.procs[i]? = some (.stop .sendExit)

theorem World.ExitBlocked.step {w w' : World} {i : Nat} {a : Act} (hb : w.ExitBlocked i)
    (h : w.step a = some w') : w'.ExitBlocked i := by
  have hi : i < w.procs.length := (List.getElem?_eq_some_iff.mp hb.blocked).1
  rcases World.step_cases h with ⟨q, hq, rfl⟩ | ⟨p, rfl⟩ | ⟨_, _, -, rfl⟩ |
    ⟨j, input, q, q', qs, c', hq, hx, rfl⟩
  · refine ⟨hb.stopping, hb.token, fun r hr => ?_,
      by rw [List.getElem?_append_left hi]; exact hb.blocked⟩
    rcases List.mem_append.mp hr with hr | hr
    · exact hb.none_take r hr
    · rcases hq with rfl | rfl | ⟨_, rfl⟩ | rfl <;> simp_all [Proc.mayTakeExit]
  · exact ⟨hb.stopping, hb.token, hb.none_take, hb.blocked⟩
  · exact ⟨hb.stopping, hb.token, hb.none_take, hb.blocked⟩
  · have hj : j ≠ i := by
      rintro rfl
      rw [hb.blocked] at hq
      cases hq
      simp [CommState.stepProc, CommState.lift, CommState.stepStop, hb.token] at hx
    obtain ⟨he, hq', hqs⟩ := CommState.stepProc_keeps_exit hx hb.stopping hb.token
      (hb.none_take q (List.getElem?_mem hq))
    refine ⟨(CommState.stepProc_mono hx).2 hb.stopping, he, fun r hr => ?_, ?_⟩
    · rcases List.mem_append.mp hr with hr | hr
      · rcases List.mem_or_eq_of_mem_set hr with hr | rfl
        · exact hb.none_take r hr
        · exact hq'
      · exact hqs r hr
    · rw [List.getElem?_append_left (by simpa using hi), List.getElem?_set_ne hj]
      exact hb.blocked

/-- **A concurrent second `Stop` can block forever.**  Once the flag is set, with the
exit token in `exitChan` and no bridge goroutine and no `Accept` about to start one, a
`Stop` at its exit send is still there, unable to step, after every run. -/
theorem stop_blocked_at_exit_send {w w' : World} {i : Nat} {as : List Act}
    (hs : w.comm.stopping = true) (he : w.comm.exitChan = 1)
    (hnone : ∀ q ∈ w.procs, q.mayTakeExit = false) (hq : w.procs[i]? = some (.stop .sendExit))
    (hrun : w.run as = some w') :
    w'.procs[i]? = some (.stop .sendExit) ∧ ∀ input, w'.step (.run i input) = none := by
  have hb : w'.ExitBlocked i :=
    World.run_preserves (·.ExitBlocked i) (fun hb h => hb.step h) ⟨hs, he, hnone, hq⟩ hrun
  exact ⟨hb.blocked, fun input => by
    simp [World.step, hb.blocked, CommState.stepProc, CommState.lift, CommState.stepStop,
      hb.token]⟩

/-- Two `Stop` calls on an instance without a server, both past `isStopping()`; the
first returns, the second reaches its exit send after the first's token. -/
def stopStuck : World :=
  ((World.init 0).run [.stop, .stop, .run 0 .none, .run 1 .none, .run 0 .none, .run 1 .none,
    .run 0 .none, .run 0 .none, .run 0 .none, .run 0 .none, .run 1 .none, .run 1 .none,
    .run 1 .none, .run 0 .none, .run 0 .none, .run 0 .none]).get rfl

theorem second_stop_blocked :
    stopStuck.procs[0]? = some (.stop .returned) ∧
      ∃ w', stopStuck.run [.accept, .run 2 .none, .run 2 .none] = some w' ∧
        w'.procs[1]? = some (.stop .sendExit) ∧ ∀ input, w'.step (.run 1 input) = none :=
  ⟨rfl, _, rfl, @stop_blocked_at_exit_send stopStuck _ 1 [.accept, .run 2 .none, .run 2 .none]
    rfl rfl (by decide) rfl rfl⟩

/-! ### Subscriptions -/

/-- **`Stop` closes what it walks.**  Every channel on `c.subscriptions` when
`emptySubscriptions` runs is closed in every later state of the run, in particular
when `Stop` returns. -/
theorem emptySubscriptions_closes {w w₁ w' : World} {i : Nat} {input : Input}
    {as : List Act} (hq : w.procs[i]? = some (.stop .emptySubscriptions))
    (hstep : w.step (.run i input) = some w₁) (hrun : w₁.run as = some w') :
    ∀ ch ∈ w.comm.subscriptions, Effect.closeChan ch ∈ w'.comm.log := by
  simp only [World.step, hq, CommState.stepProc, CommState.stepStop, CommState.lift,
    Option.map_some', Option.some.injEq] at hstep
  subst hstep
  intro ch hch
  exact (World.run_mono hrun).1.subset (by simp [CommState.emit, hch])

/-- An `Accept` (goroutine 1) that starts while `Stop` (goroutine 0) is running, after
the flag is stored. -/
def acceptDuringStop : List Act :=
  [.stop, .run 0 .none, .run 0 .none, .accept, .run 1 .none, .run 1 .none,
    .run 0 .none, .run 0 .none, .run 0 .none, .run 0 .none, .run 0 .none, .run 0 .none,
    .run 0 .none]

/-- The `Accept` of `acceptDuringStop` sees the flag and hands back channel `0` without
registering it; `Stop` never walks it, and it stays open. -/
example : ∃ w, (World.init 0).run acceptDuringStop = some w ∧
    w.procs = [.stop .returned, .accept (.returned 0)] ∧ w.comm.subscriptions = [] ∧
    Effect.closeChan 0 ∉ w.comm.log :=
  ⟨_, rfl, rfl, rfl, by decide⟩

/-- An `Accept` (goroutine 0) that passes its `isStopping` test before a `Stop`
(goroutine 1) stores the flag, and appends its channel after `Stop` has walked the
subscriptions. -/
def appendAfterWalk : List Act :=
  [.accept, .run 0 .none, .run 0 .none, .stop, .run 1 .none, .run 1 .none, .run 1 .none,
    .run 1 .none, .run 1 .none, .run 1 .none, .run 1 .none, .run 1 .none, .run 0 .none,
    .run 1 .none, .run 0 .none]

/-- **A subscription registered after the walk stays open.**  In `appendAfterWalk`,
`Stop` returns with channel `0` on `c.subscriptions`, and channel `0` is not closed. -/
theorem stop_returns_with_subscription_open :
    ∃ w, (World.init 0).run appendAfterWalk = some w ∧
      w.procs = [.accept (.returned 0), .stop .returned, .bridge 0 .start] ∧
      w.comm.subscriptions = [0] ∧ Effect.closeChan 0 ∉ w.comm.log :=
  ⟨_, rfl, rfl, rfl, by decide⟩

/-! ### The join barrier -/

/-- The goroutines `stopWG` counts: `Serve` while it runs, and a bridge from its `Add`
to its `Done`. -/
def Proc.joined : Proc → Bool
  | .serve true => true
  | .bridge _ .loop => true
  | .bridge _ .putBack => true
  | _ => false

/-- `1` for a goroutine `stopWG` counts. -/
def Proc.weight (q : Proc) : Nat := if q.joined then 1 else 0

namespace CommState

variable {c c' : CommState} {input : Input} {q q' : Proc} {qs : List Proc}

/-- A step moves `stopWG` by what it changes of the goroutine's own weight, provided
`stopWG` counts the goroutine when it is joined. -/
theorem stepProc_stopWG (h : c.stepProc input q = some (q', qs, c'))
    (hq : q.joined = true → 0 < c.stopWG) :
    c'.stopWG + q.weight = c.stopWG + q'.weight := by
  cases q with
  | stop pc | bridge _ pc | serve pc | sendToEndpoint _ pc | gossipStream pc =>
    obtain ⟨_, hx, rfl, -⟩ := lift_eq_some.mp h
    cases pc <;> simp only [stepStop, stepBridge, stepServe, stepEndpoint, stepStream] at hx <;>
      (repeat' split at hx) <;> cases hx <;>
      simp only [Proc.weight, Proc.joined] at hq ⊢ <;>
      simp [emit, shutdownStore, closeByPKIid, dropKey] at hq ⊢ <;> omega
  | accept pc | send _ pc =>
    obtain ⟨_, hx, rfl⟩ := liftSpawn_eq_some.mp h
    cases pc <;> simp only [stepAccept, stepSend] at hx <;> (repeat' split at hx) <;> cases hx <;>
      rfl

/-- No step starts the `Serve` goroutine again. -/
theorem stepProc_ne_serve (h : c.stepProc input q = some (q', qs, c')) : q' ≠ .serve true := by
  rintro rfl
  cases q with
  | serve b =>
    obtain ⟨_, hx, ⟨⟩, -⟩ := lift_eq_some.mp h
    cases b <;> simp only [stepServe] at hx <;> (repeat' split at hx) <;> cases hx
  | stop | bridge | sendToEndpoint | gossipStream =>
    obtain ⟨_, -, ⟨⟩, -⟩ := lift_eq_some.mp h
  | accept | send => obtain ⟨_, -, ⟨⟩⟩ := liftSpawn_eq_some.mp h

/-- `Stop` returns only from `Wait`, and only when `stopWG` is zero. -/
theorem stepProc_returned (h : c.stepProc input q = some (.stop .returned, qs, c')) :
    q = .stop .wait ∧ c.stopWG = 0 := by
  cases q with
  | stop pc =>
    obtain ⟨_, hx, ⟨⟩, -⟩ := lift_eq_some.mp h
    cases pc <;> simp only [stepStop] at hx <;> (repeat' split at hx) <;> cases hx
    exact ⟨rfl, ‹_›⟩
  | bridge | serve | sendToEndpoint | gossipStream =>
    obtain ⟨_, -, ⟨⟩, -⟩ := lift_eq_some.mp h
  | accept | send => obtain ⟨_, -, ⟨⟩⟩ := liftSpawn_eq_some.mp h

end CommState

/-- `stopWG` counts exactly the goroutines between their `Add` and their `Done`. -/
def World.WaitGroupOK (w : World) : Prop := w.comm.stopWG = w.procs.countP Proc.joined

theorem World.waitGroupOK_init (port : Int) : (World.init port).WaitGroupOK := by
  unfold World.WaitGroupOK World.init CommState.init
  split <;> rfl

/-- A goroutine's weight is counted in the goroutine list it stands in. -/
theorem weight_le_countP {procs : List Proc} {i : Nat} {q : Proc} (hq : procs[i]? = some q) :
    q.weight ≤ procs.countP Proc.joined := by
  obtain ⟨hi, rfl⟩ := List.getElem?_eq_some_iff.mp hq
  exact List.boole_getElem_le_countP _ _ _ hi

theorem World.waitGroupOK_step {w w' : World} {a : Act} (hwg : w.WaitGroupOK)
    (h : w.step a = some w') : w'.WaitGroupOK := by
  unfold World.WaitGroupOK at *
  rcases World.step_cases h with ⟨q, hq, rfl⟩ | ⟨p, rfl⟩ | ⟨_, _, -, rfl⟩ |
    ⟨i, input, q, q', qs, c', hq, hx, rfl⟩
  · rcases hq with rfl | rfl | ⟨_, rfl⟩ | rfl <;> simpa [Proc.joined] using hwg
  · exact hwg
  · exact hwg
  · have hle := weight_le_countP hq
    have hwt := CommState.stepProc_stopWG hx fun hj => by
      simp only [Proc.weight, hj, if_true] at hle; omega
    have hqs : qs.countP Proc.joined = 0 := List.countP_eq_zero.mpr fun r hr => by
      rcases CommState.stepProc_spawned hx r hr with ⟨_, rfl⟩ | ⟨_, rfl⟩ <;>
        simp [Proc.joined]
    obtain ⟨hi, rfl⟩ := List.getElem?_eq_some_iff.mp hq
    simp only [List.countP_append, List.countP_set _ _ _ _ hi, hqs]
    simp only [Proc.weight] at hwt hle
    omega

/-- **`stopWG` is exact.**  In every reachable state, `stopWG` is the number of goroutines
that have run their `Add` and not yet their `Done`. -/
theorem Reachable.waitGroupOK {w : World} (h : Reachable w) : w.WaitGroupOK := by
  induction h with
  | init port => exact World.waitGroupOK_init port
  | step _ _ hs ih => exact World.waitGroupOK_step ih hs

/-- **`Wait` returns only on an empty barrier.**  When `Stop` passes `stopWG.Wait()` in a
reachable state, no goroutine is between its `Add` and its `Done`. -/
theorem wait_returns_when_none_joined {w w' : World} {i : Nat} {input : Input}
    (hr : Reachable w) (hq : w.procs[i]? = some (.stop .wait))
    (h : w.step (.run i input) = some w') : ∀ q ∈ w.procs, q.joined = false := by
  simp only [World.step, hq, Option.map_eq_some', Prod.exists] at h
  obtain ⟨_, _, _, hx, -⟩ := h
  obtain ⟨_, hx, -, -⟩ := CommState.lift_eq_some.mp hx
  have h0 : w.comm.stopWG = 0 := by
    simp only [CommState.stepStop] at hx
    split at hx
    · assumption
    · cases hx
  rw [hr.waitGroupOK] at h0
  simpa using List.countP_eq_zero.mp h0

/-- One `Stop` on an instance with a server. -/
def stopWithServer : List Act :=
  [.stop, .run 1 .none, .run 1 .none, .run 1 .none, .run 0 .none, .run 1 .none,
    .run 1 .none, .run 1 .none, .run 1 .none, .run 1 .none, .run 1 .none]

/-- That instance with its `Stop` at `Wait`. -/
def stopAtWait : World := ((World.init 1).run stopWithServer.dropLast).get rfl

theorem wait_returns_when_none_joined_port_one : stopAtWait.procs.countP Proc.joined = 0 :=
  List.countP_eq_zero.mpr fun q hq => by
    simp [@wait_returns_when_none_joined stopAtWait _ 1 .none
      (.run (.init 1) stopWithServer.dropLast rfl) rfl rfl q hq]

/-- Once `Stop` has returned, the `Serve` goroutine is not running. -/
def World.ServeJoined (w : World) : Prop := .stop .returned ∈ w.procs → .serve true ∉ w.procs

theorem World.serveJoined_step {w w' : World} {a : Act} (hwg : w.WaitGroupOK)
    (hsj : w.ServeJoined) (h : w.step a = some w') : w'.ServeJoined := by
  unfold World.ServeJoined at *
  rcases World.step_cases h with ⟨q, hq, rfl⟩ | ⟨p, rfl⟩ | ⟨_, _, -, rfl⟩ |
    ⟨i, input, q, q', qs, c', hq, hx, rfl⟩
  · rcases hq with rfl | rfl | ⟨_, rfl⟩ | rfl <;> simpa using hsj
  · exact hsj
  · exact hsj
  · have hnew : ∀ r ∈ qs, r ≠ .stop .returned ∧ r ≠ .serve true := fun r hr => by
      rcases CommState.stepProc_spawned hx r hr with ⟨_, rfl⟩ | ⟨_, rfl⟩ <;> simp
    have hserve : Proc.serve true ∈ w.procs.set i q' ++ qs → Proc.serve true ∈ w.procs := by
      intro hm
      rcases List.mem_append.mp hm with hm | hm
      · rcases List.mem_or_eq_of_mem_set hm with hm | hm
        · exact hm
        · exact absurd hm.symm (CommState.stepProc_ne_serve hx)
      · exact absurd rfl (hnew _ hm).2
    intro hret hs
    rcases List.mem_append.mp hret with hm | hm
    · rcases List.mem_or_eq_of_mem_set hm with hm | rfl
      · exact hsj hm (hserve hs)
      · obtain ⟨-, h0⟩ := CommState.stepProc_returned hx
        rw [hwg] at h0
        exact List.countP_eq_zero.mp h0 _ (hserve hs) rfl
    · exact (hnew _ hm).1 rfl

theorem Reachable.serveJoined {w : World} (h : Reachable w) : w.ServeJoined := by
  induction h with
  | init port => simp [World.ServeJoined, World.init]
  | step _ hr hs ih => exact World.serveJoined_step hr.waitGroupOK ih hs

/-- **The barrier covers `Serve`.**  In every reachable state in which a `Stop` has
returned, the `Serve` goroutine of `NewCommInstanceWithServer` has exited. -/
theorem serve_exited_after_stop {w : World} (h : Reachable w)
    (hret : .stop .returned ∈ w.procs) : .serve true ∉ w.procs :=
  h.serveJoined hret

theorem serve_exited_after_stop_port_one :
    ∃ w, (World.init 1).run stopWithServer = some w ∧ .stop .returned ∈ w.procs ∧
      .serve true ∉ w.procs :=
  ⟨_, rfl, by decide, serve_exited_after_stop (.run (.init 1) stopWithServer rfl) (by decide)⟩

/-- `Accept` registers channel `0` and starts its bridge (goroutine 1), and a `Stop`
(goroutine 2) runs to the end before the bridge takes a step. -/
def stopBeforeBridge : List Act :=
  [.accept, .run 0 .none, .run 0 .none, .run 0 .none, .run 0 .none, .stop,
    .run 2 .none, .run 2 .none, .run 2 .none, .run 2 .none, .run 2 .none, .run 2 .none,
    .run 2 .none, .run 2 .none, .run 2 .none]

/-- `Stop` returns while the bridge of a registered subscription has not yet run, and the
bridge then runs its `Add` and enters its loop. -/
theorem stop_returns_before_bridge_runs :
    ∃ w w', (World.init 0).run stopBeforeBridge = some w ∧
      w.comm.subscriptions = [0] ∧
      w.procs = [.accept (.returned 0), .bridge 0 .start, .stop .returned] ∧
      w.step (.run 1 .none) = some w' ∧ w'.procs[1]? = some (.bridge 0 .loop) :=
  ⟨_, _, rfl, rfl, rfl, rfl, rfl⟩

end GossipComm
