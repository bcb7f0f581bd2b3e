import GossipComm.Shutdown

/-!
The exit token and what it does to concurrent `Stop` calls.

`exitChan` has one slot.  Each `Stop` that gets past `isStopping()` sends one token
into it, and a bridge goroutine that takes the token puts it straight back before it
returns, so the token is handed on from bridge to bridge and never consumed.  Nothing
else reads or writes the channel.  So the tokens are neither lost nor duplicated: the
token in the channel, plus the tokens bridges hold between their receive and their
put-back, are exactly the `Stop` calls past their send (`exit_tokens_conserved`).

With one slot, a second token has nowhere to go but a bridge's hand.  That bridge is
counted by `stopWG` (it is between its `Add` and its `Done`), and it cannot put the
token back while the slot is full.  So once two `Stop` calls have sent, `stopWG` stays
positive for the rest of the run, and every `Stop` that reaches `Wait` stays there
(`stop_never_returns_after_two_exit_sends`).  A call can only return while it is the
only one to have sent, so in every run at most one `Stop` call returns
(`at_most_one_stop_returns`).  Together with `stop_twice_runs_shutdown_twice` and
`stop_blocked_at_exit_send`, this settles what the racing calls do: both run the
shutdown, and at most one of them ever comes back.

A call on its own is not stuck this way: from every reachable state in which no call has
stored the flag, a `Stop` called now has a schedule that brings it back
(`lone_stop_completes`).  The schedule lets each bridge in its loop take the exit token; a
bridge in the middle of a forward to its subscriber's channel (ten slots) is taken to get
through, which needs the subscriber to read, and the model does not represent a bridge
blocked there.
-/

namespace GossipComm

/-- The points of `Stop` after `c.exitChan <- struct{}{}`. -/
def StopPc.sentExit : StopPc → Bool
  | .closePublisher | .emptySubscriptions | .wait | .returned => true
  | _ => false

/-- A `Stop` call that has sent its exit token. -/
def Proc.sentExit : Proc → Bool
  | .stop pc => pc.sentExit
  | _ => false

/-- A bridge goroutine holding the token it took off `exitChan`, before `c.exitChan <- s`. -/
def Proc.holdsExit : Proc → Bool
  | .bridge _ .putBack => true
  | _ => false

/-- A `Stop` call that has returned from `Wait`. -/
def Proc.stopReturned : Proc → Bool
  | .stop .returned => true
  | _ => false

/-- A bridge holding the token is between its `Add` and its `Done`. -/
theorem Proc.joined_of_holdsExit {q : Proc} (h : q.holdsExit = true) : q.joined = true := by
  match q, h with
  | .bridge _ .putBack, _ => rfl

theorem Proc.sentExit_of_stopReturned {q : Proc} (h : q.stopReturned = true) :
    q.sentExit = true := by
  match q, h with
  | .stop .returned, _ => rfl

namespace CommState

variable {c c' : CommState} {input : Input} {q q' : Proc} {qs : List Proc}

/-- **What a step does to the exit token.**  Sending adds one, a bridge's receive moves
one from the channel to its hand and its put-back moves it back; the channel never
holds more than its one slot. -/
theorem stepProc_exitChan (h : c.stepProc input q = some (q', qs, c')) :
    c'.exitChan + (if q'.holdsExit then 1 else 0) + (if q.sentExit then 1 else 0) =
        c.exitChan + (if q.holdsExit then 1 else 0) + (if q'.sentExit then 1 else 0) ∧
      (c.exitChan ≤ 1 → c'.exitChan ≤ 1) := by
  cases q with
  | stop pc | bridge _ pc | serve pc | sendToEndpoint _ pc | gossipStream pc =>
    obtain ⟨_, hx, rfl, -⟩ := lift_eq_some.mp h
    cases pc <;> simp only [stepStop, stepBridge, stepServe, stepEndpoint, stepStream] at hx <;>
      (repeat' split at hx) <;> cases hx <;>
      first
        | exact ⟨rfl, id⟩
        | simp [Proc.holdsExit, Proc.sentExit, StopPc.sentExit, emit]; omega
  | accept pc | send _ pc =>
    obtain ⟨_, hx, rfl⟩ := liftSpawn_eq_some.mp h
    cases pc <;> simp only [stepAccept, stepSend] at hx <;> (repeat' split at hx) <;> cases hx <;>
      exact ⟨rfl, id⟩

/-- A `Stop` past its send stays past it. -/
theorem stepProc_sentExit (h : c.stepProc input q = some (q', qs, c')) (hq : q.sentExit = true) :
    q'.sentExit = true := by
  match q, hq with
  | .stop pc, hq =>
    obtain ⟨_, hx, rfl, -⟩ := lift_eq_some.mp h
    cases pc <;> simp only [StopPc.sentExit, Proc.sentExit, Bool.false_eq_true] at hq <;>
      simp only [stepStop] at hx <;> (repeat' split at hx) <;> cases hx <;> rfl

end CommState

/-- The goroutines a step starts neither hold nor have sent a token, nor returned. -/
theorem CommState.stepProc_spawned_quiet {c c' : CommState} {input : Input} {q q' : Proc}
    {qs : List Proc} (h : c.stepProc input q = some (q', qs, c')) :
    qs.countP Proc.holdsExit = 0 ∧ qs.countP Proc.sentExit = 0 ∧
      qs.countP Proc.stopReturned = 0 := by
  refine ⟨?_, ?_, ?_⟩ <;> refine List.countP_eq_zero.mpr fun r hr => ?_ <;>
    rcases CommState.stepProc_spawned h r hr with ⟨_, rfl⟩ | ⟨_, rfl⟩ <;> exact Bool.false_ne_true

/-! ### Conservation of the exit token -/

/-- The tokens in `exitChan` and in bridges' hands are the `Stop` calls past their send,
and the channel holds at most one. -/
structure World.TokenOK (w : World) : Prop where
  conserved : w.comm.exitChan + w.procs.countP Proc.holdsExit = w.procs.countP Proc.sentExit
  capacity : w.comm.exitChan ≤ 1

theorem World.tokenOK_init (port : Int) : (World.init port).TokenOK := by
  unfold World.init CommState.init
  split <;> exact ⟨rfl, Nat.zero_le _⟩

theorem World.tokenOK_step {w w' : World} {a : Act} (ht : w.TokenOK) (h : w.step a = some w') :
    w'.TokenOK := by
  rcases World.step_cases h with ⟨q, hq, rfl⟩ | ⟨p, rfl⟩ | ⟨_, _, -, rfl⟩ |
    ⟨i, input, q, q', qs, c', hq, hx, rfl⟩
  · refine ⟨?_, ht.capacity⟩
    rcases hq with rfl | rfl | ⟨_, rfl⟩ | rfl <;>
      simpa [Proc.holdsExit, Proc.sentExit, StopPc.sentExit] using ht.conserved
  · exact ⟨ht.conserved, ht.capacity⟩
  · exact ⟨ht.conserved, ht.capacity⟩
  · obtain ⟨hcons, hcap⟩ := CommState.stepProc_exitChan hx
    obtain ⟨hh, hs, -⟩ := CommState.stepProc_spawned_quiet hx
    obtain ⟨hi, rfl⟩ := List.getElem?_eq_some_iff.mp hq
    have hleh := List.boole_getElem_le_countP Proc.holdsExit w.procs i hi
    have hles := List.boole_getElem_le_countP Proc.sentExit w.procs i hi
    have := ht.conserved
    refine ⟨?_, hcap ht.capacity⟩
    simp only [List.countP_append, List.countP_set _ _ _ _ hi, hh, hs]
    omega

theorem Reachable.tokenOK {w : World} (h : Reachable w) : w.TokenOK := by
  induction h with
  | init port => exact World.tokenOK_init port
  | step _ _ hs ih => exact World.tokenOK_step ih hs

/-- **The exit token is neither lost nor duplicated.**  In every reachable state,
`exitChan` holds at most one token, and the token in the channel plus those that bridge
goroutines hold between their receive and their put-back are exactly the `Stop` calls
past their send. -/
theorem exit_tokens_conserved {w : World} (h : Reachable w) :
    w.comm.exitChan ≤ 1 ∧
      w.comm.exitChan + w.procs.countP Proc.holdsExit = w.procs.countP Proc.sentExit :=
  ⟨h.tokenOK.capacity, h.tokenOK.conserved⟩

/-- The instance after `doubleStop`: both `Stop` calls have sent, the bridge holds the
first token and the second fills the slot. -/
def afterDoubleStop : World := ((World.init 1).run doubleStop).get rfl

theorem exit_tokens_conserved_double_stop :
    afterDoubleStop.procs.countP Proc.sentExit = 2 ∧ afterDoubleStop.comm.exitChan ≤ 1 ∧
      afterDoubleStop.comm.exitChan + afterDoubleStop.procs.countP Proc.holdsExit =
        afterDoubleStop.procs.countP Proc.sentExit :=
  ⟨rfl, exit_tokens_conserved (.run (.init 1) doubleStop rfl)⟩

/-! ### What two sends do to `Wait` -/

/-- With two tokens sent, one is in a bridge's hand, so `stopWG` is positive. -/
theorem World.stopWG_pos_of_two_sent {w : World} (ht : w.TokenOK) (hwg : w.WaitGroupOK)
    (h2 : 2 ≤ w.procs.countP Proc.sentExit) : 0 < w.comm.stopWG := by
  have hle : w.procs.countP Proc.holdsExit ≤ w.procs.countP Proc.joined :=
    List.countP_mono_left fun _ _ => Proc.joined_of_holdsExit
  have := ht.conserved
  have := ht.capacity
  rw [hwg]
  omega

/-- A `Stop` that has returned was alone past its send when it passed `Wait`. -/
theorem World.sentExit_le_one_of_wait {w : World} (ht : w.TokenOK) (hwg : w.WaitGroupOK)
    (h0 : w.comm.stopWG = 0) : w.procs.countP Proc.sentExit ≤ 1 := by
  by_contra h2
  have := World.stopWG_pos_of_two_sent ht hwg (by omega)
  omega

/-- No step takes a `Stop` back before its send. -/
theorem World.sentExit_step {w w' : World} {a : Act} (h : w.step a = some w') :
    w.procs.countP Proc.sentExit ≤ w'.procs.countP Proc.sentExit := by
  rcases World.step_cases h with ⟨q, -, rfl⟩ | ⟨p, rfl⟩ | ⟨_, _, -, rfl⟩ |
    ⟨i, input, q, q', qs, c', hq, hx, rfl⟩
  · simp
  · exact Nat.le_refl _
  · exact Nat.le_refl _
  · obtain ⟨hi, rfl⟩ := List.getElem?_eq_some_iff.mp hq
    have hle := List.boole_getElem_le_countP Proc.sentExit w.procs i hi
    have hmono := CommState.stepProc_sentExit hx
    rw [List.countP_append, List.countP_set _ _ _ _ hi]
    by_cases hs : w.procs[i].sentExit = true
    · simp [hs, hmono hs] at hle ⊢; omega
    · simp only [hs, Bool.false_eq_true, if_false, Nat.sub_zero]; split <;> omega

/-- **Once two `Stop` calls have sent the exit token, no `Stop` call returns.**  From any
reachable state in which two calls are past `c.exitChan <- struct{}{}`, in every state a
run reaches, a `Stop` at `stopWG.Wait()` cannot take a step. -/
theorem stop_never_returns_after_two_exit_sends {w w' : World} {as : List Act} {i : Nat}
    (hr : Reachable w) (h2 : 2 ≤ w.procs.countP Proc.sentExit) (hrun : w.run as = some w')
    (hq : w'.procs[i]? = some (.stop .wait)) (input : Input) :
    w'.step (.run i input) = none := by
  have h2' : 2 ≤ w'.procs.countP Proc.sentExit :=
    World.run_preserves (fun v => 2 ≤ v.procs.countP Proc.sentExit)
      (fun hv hs => Nat.le_trans hv (World.sentExit_step hs)) h2 hrun
  have hr' := hr.run as hrun
  have hpos := World.stopWG_pos_of_two_sent hr'.tokenOK hr'.waitGroupOK h2'
  simp [World.step, hq, CommState.stepProc, CommState.lift, CommState.stepStop,
    Nat.pos_iff_ne_zero.mp hpos]

theorem stop_never_returns_after_double_stop :
    2 ≤ afterDoubleStop.procs.countP Proc.sentExit ∧
      afterDoubleStop.procs[3]? = some (.stop .wait) ∧
      afterDoubleStop.step (.run 3 .none) = none :=
  ⟨by decide, rfl,
    @stop_never_returns_after_two_exit_sends afterDoubleStop _ [] 3
      (.run (.init 1) doubleStop rfl) (by decide) rfl rfl .none⟩

/-! ### At most one `Stop` returns -/

theorem World.stopReturned_step {w w' : World} {a : Act} (hr : Reachable w)
    (h1 : w.procs.countP Proc.stopReturned ≤ 1) (h : w.step a = some w') :
    w'.procs.countP Proc.stopReturned ≤ 1 := by
  rcases World.step_cases h with ⟨q, hq, rfl⟩ | ⟨p, rfl⟩ | ⟨_, _, -, rfl⟩ |
    ⟨i, input, q, q', qs, c', hq, hx, rfl⟩
  · rcases hq with rfl | rfl | ⟨_, rfl⟩ | rfl <;> simpa [Proc.stopReturned] using h1
  · exact h1
  · exact h1
  · obtain ⟨-, -, hqs⟩ := CommState.stepProc_spawned_quiet hx
    obtain ⟨hi, rfl⟩ := List.getElem?_eq_some_iff.mp hq
    simp only [List.countP_append, hqs, Nat.add_zero]
    cases hret : q'.stopReturned
    · rw [List.countP_set _ _ _ _ hi, hret]
      exact Nat.le_trans (Nat.sub_le _ _) h1
    · -- the step is a `Stop` passing `Wait`, alone past its send
      match q', hret with
      | .stop .returned, _ =>
        obtain ⟨hwait, h0⟩ := CommState.stepProc_returned hx
        have hone := World.sentExit_le_one_of_wait hr.tokenOK hr.waitGroupOK h0
        calc (w.procs.set i (.stop .returned)).countP Proc.stopReturned
            ≤ (w.procs.set i (.stop .returned)).countP Proc.sentExit :=
              List.countP_mono_left fun _ _ => Proc.sentExit_of_stopReturned
          _ = w.procs.countP Proc.sentExit := by
              have hle := List.boole_getElem_le_countP Proc.sentExit w.procs i hi
              rw [List.countP_set _ _ _ _ hi, hwait] at *
              simp only [Proc.sentExit, StopPc.sentExit, if_true] at hle ⊢
              omega
          _ ≤ 1 := hone

/-- **At most one `Stop` call returns.**  In every reachable state, at most one `Stop`
call has returned from `stopWG.Wait()`: a call passes `Wait` only while it is the only
one to have sent the exit token, and once a second has sent, none passes. -/
theorem at_most_one_stop_returns {w : World} (h : Reachable w) :
    w.procs.countP Proc.stopReturned ≤ 1 := by
  induction h with
  | init port => unfold World.init; split <;> exact Nat.zero_le _
  | step _ hr hs ih => exact World.stopReturned_step hr ih hs

theorem at_most_one_stop_returns_with_server :
    ∃ w, (World.init 1).run stopWithServer = some w ∧
      w.procs.countP Proc.stopReturned = 1 ∧ w.procs.countP Proc.stopReturned ≤ 1 :=
  ⟨_, rfl, rfl, at_most_one_stop_returns (.run (.init 1) stopWithServer rfl)⟩

/-! ### A lone `Stop` can always return

Two racing calls can leave both stuck; one call on its own never is.  From every
reachable state in which no `Stop` has stored the flag, a `Stop` called now has a schedule
that brings it back from `Wait` (`lone_stop_completes`).  Its own steps are always
enabled: its exit send finds the slot empty, since no other call has sent.  At `Wait`, the
goroutines `stopWG` counts can each be retired in turn (`World.Draining.drain`): `Serve`
returns because the call stopped the server, and a bridge in its loop takes the token and
puts it back.
-/

/-- A `Stop` call that has seen the flag set or has set it itself. -/
def Proc.afterFlag : Proc → Bool
  | .stop .entry | .stop .store => false
  | .stop _ => true
  | _ => false

theorem Proc.afterFlag_of_sentExit {q : Proc} (h : q.sentExit = true) : q.afterFlag = true := by
  match q, h with
  | .stop .closePublisher, _ | .stop .emptySubscriptions, _ | .stop .wait, _
  | .stop .returned, _ => rfl

namespace CommState

variable {c c' : CommState} {input : Input} {q q' : Proc} {qs : List Proc}

/-- A `Stop` gets past the flag only by seeing it set or setting it. -/
theorem stepProc_afterFlag (h : c.stepProc input q = some (q', qs, c'))
    (hq' : q'.afterFlag = true) : q.afterFlag = true ∨ c'.stopping = true := by
  cases q with
  | stop pc =>
    obtain ⟨_, hx, rfl, -⟩ := lift_eq_some.mp h
    cases pc <;> simp only [stepStop] at hx <;> (repeat' split at hx) <;> cases hx <;>
      first | exact .inl rfl | exact .inr rfl | exact .inr ‹_› | cases hq'
  | bridge | serve | sendToEndpoint | gossipStream =>
    obtain ⟨_, -, rfl, -⟩ := lift_eq_some.mp h
    cases hq'
  | accept | send =>
    obtain ⟨_, -, rfl⟩ := liftSpawn_eq_some.mp h
    cases hq'

/-- No step changes the port. -/
theorem stepProc_port (h : c.stepProc input q = some (q', qs, c')) : c'.port = c.port := by
  cases q with
  | stop pc | bridge _ pc | serve pc | sendToEndpoint _ pc | gossipStream pc =>
    obtain ⟨_, hx, -, -⟩ := lift_eq_some.mp h
    cases pc <;> simp only [stepStop, stepBridge, stepServe, stepEndpoint, stepStream] at hx <;>
      (repeat' split at hx) <;> cases hx <;> rfl
  | accept pc | send _ pc =>
    obtain ⟨_, hx, -⟩ := liftSpawn_eq_some.mp h
    cases pc <;> simp only [stepAccept, stepSend] at hx <;> (repeat' split at hx) <;> cases hx <;>
      rfl

end CommState

/-- What a `Stop` called now relies on: a call past the flag means the flag is set, and the
`Serve` goroutine runs only on an instance with a server. -/
structure World.StopReady (w : World) : Prop where
  flag : ∀ q ∈ w.procs, q.afterFlag = true → w.comm.stopping = true
  serve : .serve true ∈ w.procs → 0 < w.comm.port

theorem World.stopReady_init (port : Int) : (World.init port).StopReady := by
  unfold World.init
  split
  · exact ⟨by simp [Proc.afterFlag], fun _ => ‹_›⟩
  · exact ⟨by simp, by simp⟩

theorem World.stopReady_step {w w' : World} {a : Act} (hr : w.StopReady)
    (h : w.step a = some w') : w'.StopReady := by
  rcases World.step_cases h with ⟨q, hq, rfl⟩ | ⟨p, rfl⟩ | ⟨_, _, -, rfl⟩ |
    ⟨i, input, q, q', qs, c', hq, hx, rfl⟩
  · refine ⟨fun r hr' => ?_, fun hm => hr.serve ?_⟩
    · rcases List.mem_append.mp hr' with hr' | hr'
      · exact hr.flag r hr'
      · rcases hq with rfl | rfl | ⟨_, rfl⟩ | rfl <;> simp_all [Proc.afterFlag]
    · rcases List.mem_append.mp hm with hm | hm
      · exact hm
      · rcases hq with rfl | rfl | ⟨_, rfl⟩ | rfl <;> simp at hm
  · exact ⟨hr.flag, hr.serve⟩
  · exact ⟨hr.flag, hr.serve⟩
  · have hmono := (CommState.stepProc_mono hx).2
    have hnew : ∀ r ∈ qs, r.afterFlag = false ∧ r ≠ .serve true := fun r hr' => by
      rcases CommState.stepProc_spawned hx r hr' with ⟨_, rfl⟩ | ⟨_, rfl⟩ <;> simp [Proc.afterFlag]
    refine ⟨fun r hr' hf => ?_, fun hm => ?_⟩
    · rcases List.mem_append.mp hr' with hr' | hr'
      · rcases List.mem_or_eq_of_mem_set hr' with hr' | rfl
        · exact hmono (hr.flag r hr' hf)
        · rcases CommState.stepProc_afterFlag hx hf with hf | hs
          · exact hmono (hr.flag q (List.getElem?_mem hq) hf)
          · exact hs
      · exact absurd hf (by simp [(hnew r hr').1])
    · rw [CommState.stepProc_port hx]
      rcases List.mem_append.mp hm with hm | hm
      · rcases List.mem_or_eq_of_mem_set hm with hm | hm
        · exact hr.serve hm
        · exact absurd hm.symm (CommState.stepProc_ne_serve hx)
      · exact absurd rfl (hnew _ hm).2

theorem Reachable.stopReady {w : World} (h : Reachable w) : w.StopReady := by
  induction h with
  | init port => exact World.stopReady_init port
  | step _ _ hs ih => exact World.stopReady_step ih hs

/-- A `Stop` (goroutine `s`) at `stopWG.Wait()`, the exit token in the channel and in no
bridge's hand, the server stopped while `Serve` runs, and `stopWG` exact. -/
structure World.Draining (w : World) (s : Nat) : Prop where
  stop : w.procs[s]? = some (.stop .wait)
  token : w.comm.exitChan = 1
  none_held : ∀ q ∈ w.procs, q.holdsExit = false
  server : .serve true ∈ w.procs → w.comm.serverStopped = true
  wg : w.WaitGroupOK

namespace World.Draining

variable {w : World} {s : Nat}

/-- Retiring one goroutine that `stopWG` counts keeps the barrier draining, one count lower. -/
theorem retire (hd : w.Draining s) {k : Nat} {q q' : Proc} {c' : CommState}
    (hk : w.procs[k]? = some q) (hq : q.joined = true) (hq' : q'.joined = false)
    (hh : q'.holdsExit = false) (hserve : q' ≠ .serve true) (he : c'.exitChan = 1)
    (hsv : c'.serverStopped = w.comm.serverStopped) (hwg : c'.stopWG = w.comm.stopWG - 1) :
    World.Draining ⟨c', w.procs.set k q'⟩ s ∧
      (w.procs.set k q').countP Proc.joined < w.procs.countP Proc.joined := by
  have hks : k ≠ s := by
    rintro rfl
    rw [hd.stop] at hk
    cases hk
    cases hq
  obtain ⟨hkl, rfl⟩ := List.getElem?_eq_some_iff.mp hk
  have hcount : (w.procs.set k q').countP Proc.joined + 1 = w.procs.countP Proc.joined := by
    have : 0 < w.procs.countP Proc.joined :=
      List.countP_pos_iff.mpr ⟨_, List.getElem_mem hkl, hq⟩
    rw [List.countP_set _ _ _ _ hkl, hq, hq']
    simp
    omega
  have hwg' := hd.wg
  unfold World.WaitGroupOK at hwg'
  refine ⟨⟨by rw [List.getElem?_set_ne hks]; exact hd.stop, he, fun r hr => ?_, fun hm => ?_, ?_⟩,
    by omega⟩
  · rcases List.mem_or_eq_of_mem_set hr with hr | rfl
    · exact hd.none_held r hr
    · exact hh
  · rcases List.mem_or_eq_of_mem_set hm with hm | hm
    · exact hsv ▸ hd.server hm
    · exact absurd hm.symm hserve
  · show c'.stopWG = (w.procs.set k q').countP Proc.joined
    omega

/-- **One more goroutine off the barrier.**  While any goroutine is counted by `stopWG`, a
run of at most two steps retires one: `Serve` returns, the server being stopped, and a
bridge in its loop takes the token and puts it back. -/
theorem drain_one (hd : w.Draining s) (hpos : 0 < w.procs.countP Proc.joined) :
    ∃ as w', w.run as = some w' ∧ w'.Draining s ∧
      w'.procs.countP Proc.joined < w.procs.countP Proc.joined := by
  obtain ⟨q, hq, hj⟩ := List.countP_pos_iff.mp hpos
  obtain ⟨k, hk⟩ := List.getElem?_of_mem hq
  match q, hj with
  | .serve true, _ =>
    have hstep : w.step (.run k .none) =
        some ⟨{ w.comm with stopWG := w.comm.stopWG - 1 }, w.procs.set k (.serve false)⟩ :=
      World.step_run_eq hk (by simp [CommState.stepProc, CommState.lift, CommState.stepServe,
        hd.server hq])
    exact ⟨[.run k .none], ⟨{ w.comm with stopWG := w.comm.stopWG - 1 }, w.procs.set k (.serve false)⟩,
      by simp [World.run, hstep],
      hd.retire hk rfl rfl rfl (by simp) hd.token rfl rfl⟩
  | .bridge ch .loop, _ =>
    have hkl := (List.getElem?_eq_some_iff.mp hk).1
    have hstep₁ : w.step (.run k .none) =
        some ⟨{ w.comm with exitChan := 0 }, w.procs.set k (.bridge ch .putBack)⟩ :=
      World.step_run_eq hk (by simp [CommState.stepProc, CommState.lift, CommState.stepBridge,
        hd.token])
    have hstep₂ : World.step ⟨{ w.comm with exitChan := 0 }, w.procs.set k (.bridge ch .putBack)⟩
        (.run k .none) = some ⟨{ w.comm with exitChan := 1, stopWG := w.comm.stopWG - 1 },
          w.procs.set k (.bridge ch .exited)⟩ := by
      have hx : CommState.stepProc { w.comm with exitChan := 0 } .none (.bridge ch .putBack) =
          some (.bridge ch .exited, [], { w.comm with exitChan := 1, stopWG := w.comm.stopWG - 1 }) := by
        simp [CommState.stepProc, CommState.lift, CommState.stepBridge]
      rw [World.step_run_eq (by simp [hkl]) hx, List.set_set]
    exact ⟨[.run k .none, .run k .none], ⟨{ w.comm with exitChan := 1, stopWG := w.comm.stopWG - 1 },
      w.procs.set k (.bridge ch .exited)⟩,
      by simp [World.run, hstep₁, hstep₂], hd.retire hk rfl rfl rfl (by simp) rfl rfl rfl⟩
  | .bridge _ .putBack, _ => exact absurd (hd.none_held _ hq) (by simp [Proc.holdsExit])

/-- From a draining barrier, some run retires every goroutine `stopWG` counts. -/
theorem drain : ∀ (n : Nat) {w : World}, w.procs.countP Proc.joined = n → w.Draining s →
    ∃ as w', w.run as = some w' ∧ w'.Draining s ∧ w'.procs.countP Proc.joined = 0 := by
  intro n
  induction n using Nat.strong_induction_on with
  | _ n ih =>
    intro w hn hd
    rcases Nat.eq_zero_or_pos n with rfl | hpos
    · exact ⟨[], w, rfl, hd, hn⟩
    · obtain ⟨as, w₁, h₁, hd₁, hlt⟩ := hd.drain_one (hn ▸ hpos)
      obtain ⟨bs, w₂, h₂, hd₂, h0⟩ := ih _ (hn ▸ hlt) rfl hd₁
      exact ⟨as ++ bs, w₂, by simp [World.run_append, h₁, h₂], hd₂, h0⟩

end World.Draining

/-- A `Stop` at the end of the goroutine list takes its step in place. -/
theorem World.step_last_stop (procs : List Proc) (c : CommState) (pc : StopPc) :
    World.step ⟨c, procs ++ [.stop pc]⟩ (.run procs.length .none) =
      (c.stepStop pc).map fun r => ⟨r.2, procs ++ [.stop r.1]⟩ := by
  simp [World.step, CommState.stepProc, CommState.lift]
  rfl

/-- A `Stop` called when no call has stored the flag and the slot is empty runs to `Wait`
on its own: it sends the token and stops the server if there is one. -/
theorem World.stop_reaches_wait {w : World} (hs : w.comm.stopping = false)
    (he : w.comm.exitChan = 0) :
    ∃ c, w.run (.stop :: List.replicate 8 (.run w.procs.length .none)) =
        some ⟨c, w.procs ++ [.stop .wait]⟩ ∧
      c.exitChan = 1 ∧ (0 < w.comm.port → c.serverStopped = true) := by
  have h0 : w.step .stop = some ⟨w.comm, w.procs ++ [.stop .entry]⟩ := rfl
  by_cases hp : 0 < w.comm.port <;>
    simp [World.run, h0, World.step_last_stop, CommState.stepStop, CommState.emit,
      CommState.shutdownStore, hs, he, hp]

/-- **A lone `Stop` can always return.**  From every reachable state in which no `Stop`
call has stored the flag, a `Stop` called now has a schedule that runs it to its return:
its own steps are enabled, and each goroutine `stopWG` counts can be retired in turn.  A
bridge's forward to its subscriber is taken not to block, so the schedule relies on the
subscribers reading their channels. -/
theorem lone_stop_completes {w : World} (hr : Reachable w) (hs : w.comm.stopping = false) :
    ∃ as w', w.run (.stop :: as) = some w' ∧
      w'.procs[w.procs.length]? = some (.stop .returned) := by
  -- no call has sent the token, so the slot is empty and no bridge holds one
  have hsent : w.procs.countP Proc.sentExit = 0 := List.countP_eq_zero.mpr fun q hq hse => by
    simp [hr.stopReady.flag q hq (Proc.afterFlag_of_sentExit hse)] at hs
  have hcons := hr.tokenOK.conserved
  obtain ⟨c, hrun, hex, hsv⟩ := World.stop_reaches_wait hs (by omega)
  have hd : World.Draining ⟨c, w.procs ++ [.stop .wait]⟩ w.procs.length := by
    refine ⟨List.getElem?_concat_length _ _, hex, fun q hq => ?_, fun hm => ?_,
      (hr.run _ hrun).waitGroupOK⟩
    · rcases List.mem_append.mp hq with hq | hq
      · exact eq_false_of_ne_true (List.countP_eq_zero.mp (by omega) q hq)
      · rw [List.mem_singleton.mp hq]; rfl
    · exact hsv (hr.stopReady.serve (by simpa using hm))
  obtain ⟨bs, w', hrun', hd', h0⟩ := World.Draining.drain _ rfl hd
  have hwait : w'.comm.stopWG = 0 := hd'.wg.trans h0
  refine ⟨List.replicate 8 (.run w.procs.length .none) ++ bs ++ [.run w.procs.length .none],
    ⟨w'.comm, w'.procs.set w.procs.length (.stop .returned)⟩, ?_, ?_⟩
  · rw [← List.cons_append, ← List.cons_append, World.run_append, World.run_append, hrun]
    simp [hrun', World.run, World.step, hd'.stop, CommState.stepProc, CommState.lift,
      CommState.stepStop, hwait]
  · simp [(List.getElem?_eq_some_iff.mp hd'.stop).1]

/-- An instance with a server and one subscription, whose bridge (goroutine 2) is in its
loop. -/
def acceptWithServer : List Act :=
  [.accept, .run 1 .none, .run 1 .none, .run 1 .none, .run 1 .none, .run 2 .none]

def afterAcceptWithServer : World := ((World.init 1).run acceptWithServer).get rfl

theorem lone_stop_completes_with_bridge :
    afterAcceptWithServer.comm.stopping = false ∧
      afterAcceptWithServer.procs.countP Proc.joined = 2 ∧
      ∃ as w', afterAcceptWithServer.run (.stop :: as) = some w' ∧
        w'.procs[afterAcceptWithServer.procs.length]? = some (.stop .returned) :=
  ⟨rfl, rfl, lone_stop_completes (.run (.init 1) acceptWithServer rfl) rfl⟩

end GossipComm
