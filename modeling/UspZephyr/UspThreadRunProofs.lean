import UspZephyr.UspThreadMutexProofs

/-! # The USP thread in every run

    The engines run alone (`engine_excludes_calls`), nobody is ahead of the
    initialisation (`initialization_awaited`), and no wake-up is slept through
    (`wakeUp_not_slept_through`), in every run of the USP thread and any number of
    application threads. -/

namespace UspThread

open KMutex StepRun

variable {T : Type}

/-! ## Before a sleep -/

section Sleep

variable [DecidableEq T] {cfg : Config} {s s' : System T}

/-- The semaphore stays up until the loop is at its top. -/
theorem step_sem {e : Event T} (hsem : s.lbmMainLoopSem = true)
    (hstep : step cfg s e = some s') :
    s'.lbmMainLoopSem = true ∨ s'.pc = .lock := by
  cases he : e.thread with
  | none => exact step_outside he hstep
  | some x =>
      obtain ⟨s₁, hmoved, hpassed⟩ := step_moved he hstep
      refine hmoved.sem.imp (fun hsame => hpassed.sem.trans (hsame.trans hsem))
        fun hpc => ?_
      rcases hpassed.pc with hsame | hafter
      · exact hsame.trans hpc
      · rw [hafter, hpc]
        rfl

/-- A thread that comes out of `k_mutex_lock` does not sleep. -/
theorem afterLock_blocked {pc pc' : UspPc}
    (h : pc' = pc ∨ pc' = pc.afterLock cfg) (hblocked : pc' = .blocked) :
    pc = .blocked := by
  rcases h with rfl | rfl
  · exact hblocked
  · cases hpc : pc <;> rw [hpc] at hblocked <;> first | rfl | cases hblocked | skip
    case lockPending =>
      simp only [UspPc.afterLock] at hblocked
      split at hblocked <;> cases hblocked

/-- Where the USP thread sets out to sleep, and for how long. -/
theorem step_blocked {e : Event T} (hpc : s.pc ≠ .blocked)
    (hstep : step cfg s e = some s') (hblocked : s'.pc = .blocked) :
    ∃ ms, s' = interruptibleMsleep ms s
      ∧ ((s.pc = .sleepEarly ∧ ms = 50)
        ∨ (s.pc = .msleep ∧ ms = s.sleepTimeMs)) := by
  -- no other thread moves the USP thread, but for letting it through
  have huser : ∀ t, e.thread = some (.user t) → False := by
    intro t he
    obtain ⟨s₁, hmoved, hpassed⟩ := step_moved he hstep
    have hpc₁ := afterLock_blocked hpassed.pc hblocked
    exact hpc ((hmoved.usp nofun).symm.trans hpc₁)
  cases e with
  | usp a place =>
      dsimp only [step] at hstep
      rw [statement] at hstep
      cases hp : s.pc <;> rw [hp] at hstep <;> try (cases hstep; done)
      case sleepEarly =>
        exact ⟨50, (Option.some.inj hstep).symm, Or.inl ⟨rfl, rfl⟩⟩
      case msleep =>
        exact ⟨s.sleepTimeMs, (Option.some.inj hstep).symm, Or.inr ⟨rfl, rfl⟩⟩
      case notifyLock | lock =>
        obtain rfl := Option.some.inj hstep
        cases afterLock_blocked (acquire_passed cfg _ _ _ place).pc hblocked
      case notifyUnlock | unlockEarly | unlock =>
        obtain rfl := Option.some.inj hstep
        cases afterLock_blocked (release_passed cfg _ _ _).pc hblocked
      case isModemInitialized | irqPending =>
        obtain rfl := Option.some.inj hstep
        dsimp only at hblocked
        split at hblocked <;> cases hblocked
      case racRunEngine =>
        dsimp only at hstep
        split at hstep
        · cases hstep
        · obtain rfl := Option.some.inj hstep
          dsimp only at hblocked
          split at hblocked <;> cases hblocked
      case modemRunEngine | flrpRunEngine =>
        dsimp only at hstep
        split at hstep
        · cases hstep
        · obtain rfl := Option.some.inj hstep
          cases hblocked
      all_goals
        obtain rfl := Option.some.inj hstep
        cases hblocked
  | callbackCall =>
      dsimp only [step] at hstep
      split at hstep
      · obtain ⟨m, -, rfl⟩ := Option.map_eq_some_iff.mp hstep
        exact absurd hblocked hpc
      · cases hstep
  | callbackRet =>
      dsimp only [step] at hstep
      split at hstep
      · cases hstep
      · obtain rfl := Option.some.inj hstep
        exact absurd (afterLock_blocked (release_passed cfg _ _ _).pc hblocked) hpc
  | user t place => exact (huser t rfl).elim
  | call t place => exact (huser t rfl).elim
  | ret t => exact (huser t rfl).elim
  | wakeUp =>
      obtain rfl := Option.some.inj hstep
      rw [wakeUp, if_neg hpc] at hblocked
      exact absurd hblocked hpc
  | timeout =>
      dsimp only [step] at hstep
      rw [if_neg hpc] at hstep
      cases hstep

end Sleep

private def sampleConfig : Config := ⟨true, true, false, 1000⟩

private def sampleAnswers : Answers := ⟨true, 5000, false, false⟩

/-- A thread of the application begins to wait, before the notification. -/
private def sampleWaits : List (Event Bool) :=
  [.user true 0, .usp sampleAnswers 0, .user true 0]

/-- The notification, and the first turn of the loop up to the first engine. -/
private def sampleEngine : List (Event Bool) :=
  sampleWaits ++ List.replicate 6 (.usp sampleAnswers 0)

/-- The rest of a turn, and the next turn up to the sleep. -/
private def sampleTurns : List (Event Bool) :=
  List.replicate 14 (.usp sampleAnswers 0)

private def sampleAfter (s : System Bool) (es : List (Event Bool)) :
    System Bool :=
  (run (step sampleConfig) s es).getD s

private theorem sampleWaits_run : run (step sampleConfig) initial sampleWaits
    = some (sampleAfter initial sampleWaits) := rfl

private theorem sampleEngine_run : run (step sampleConfig) initial sampleEngine
    = some (sampleAfter initial sampleEngine) := rfl

/-! ## What holds in every run -/

section Main

variable [DecidableEq T] {cfg : Config} {s : System T} {es : List (Event T)}

/-- **THE ENGINES RUN ALONE**: at most one thread runs an engine or is inside a
    call of the API.  While the USP thread sleeps, only another call makes a call
    wait. -/
theorem engine_excludes_calls (hcfg : cfg.threadsMutexes = true)
    (hrun : run (step cfg) initial es = some s) :
    (∀ x y, s.Inside x → s.Inside y → x = y)
      ∧ (s.pc = .sleepEarly ∨ s.pc = .msleep ∨ s.pc = .blocked →
        ∀ t, (∀ u, u ≠ t → ¬ s.Inside (.user u)) →
          ∃ m, s.lock cfg .racApi (.user t) = some m) := by
  have hinv := run_inv (inv_initial cfg) hrun
  have hheld := hinv.mutexes.held .racApi hcfg
  refine ⟨fun x y hx hy => hheld.unique (inside_depth hx) (inside_depth hy), ?_⟩
  intro hpc t halone
  have hengine : s.pc.engine = false ∧ s.pc.holds .racApi = false := by
    rcases hpc with hpc | hpc | hpc <;> rw [hpc] <;> exact ⟨rfl, rfl⟩
  have hlock : s.lock cfg .racApi (.user t) = (s.mutex .racApi).lock (.user t) :=
    if_pos hcfg
  rw [hlock]
  refine Option.ne_none_iff_exists'.mp fun hnone => ?_
  obtain ⟨y, hy, -, hpos⟩ := hheld.available.mp hnone
  cases y with
  | usp =>
      have hdepth : 0 < (s.pc.holds .racApi).toNat + s.nested := hpos
      rw [hengine.2, hinv.control.not_nested hengine.1] at hdepth
      cases hdepth
  | user u =>
      refine halone u (fun hut => hy (congrArg Thread.user hut)) ?_
      have hcalls : 0 < (s.user u).depth .racApi := hpos
      cases hp : s.user u <;> rw [hp] at hcalls <;>
        first | exact ⟨_, hp⟩ | cases hcalls

/-- The USP thread in an engine, and nobody else. -/
theorem engine_excludes_calls_sample :
    (sampleAfter initial sampleEngine).Inside .usp
      ∧ ∀ x, (sampleAfter initial sampleEngine).Inside x → x = .usp :=
  ⟨rfl, fun x hx =>
    (engine_excludes_calls rfl sampleEngine_run).1 x .usp hx rfl⟩

/-- **NOBODY IS AHEAD OF THE INITIALISATION** and nobody misses its end: who has
    come back from `zephyr_usp_initialization_wait` finds the HAL initialised, and
    who waits will be woken. -/
theorem initialization_awaited (hrun : run (step cfg) initial es = some s)
    (t : T) :
    ((s.user t).ready = true → s.halInitialized = true ∧ s.isUspInited = true)
      ∧ (s.user t = .waiting →
        s.pc.beforeSet = true ∨ s.pc = .notifyBroadcast) := by
  have hinv := (run_inv (inv_initial cfg) hrun).control
  refine ⟨fun hready => ⟨hinv.hal fun hpc => ?_, hinv.ready t hready⟩,
    hinv.waiting t⟩
  have hset := (hinv.ready t hready).symm.trans hinv.inited
  rw [hpc] at hset
  cases hset

theorem initialization_awaited_sample :
    (sampleAfter initial sampleWaits).user true = .waiting
      ∧ ((sampleAfter initial sampleWaits).pc.beforeSet = true
        ∨ (sampleAfter initial sampleWaits).pc = .notifyBroadcast) :=
  ⟨rfl, (initialization_awaited sampleWaits_run true).2 rfl⟩

/-- **NO WAKE-UP IS SLEPT THROUGH**: whenever the USP thread sleeps after a
    wake-up, it was at the top of its loop in between.  It sets out to sleep for
    50 ms when the modem is not initialised, whatever the maximum, and for a time
    within the maximum at the end of a turn, where there is one; without one, for
    whatever `smtc_modem_run_engine` returns. -/
theorem wakeUp_not_slept_through {fs : List (Event T)} {u : System T}
    (hrun : run (step cfg) initial es = some s)
    (hrun' : run (step cfg) (wakeUp s) fs = some u) :
    (u.pc = .blocked → ∃ fs₁ v, fs₁ <+: fs
        ∧ run (step cfg) (wakeUp s) fs₁ = some v ∧ v.pc = .lock)
      ∧ (∀ e v, u.pc ≠ .blocked → step cfg u e = some v → v.pc = .blocked →
        ∃ ms, v = interruptibleMsleep ms u
          ∧ ((u.pc = .sleepEarly ∧ cfg.loraBasicsModem = true ∧ ms = 50)
            ∨ (u.pc = .msleep ∧ ms = u.sleepTimeMs
              ∧ (cfg.loraBasicsModem = false ∨ cfg.mainThreadMaxSleepMs ≠ 0 →
                ms ≤ cfg.mainThreadMaxSleepMs))))
      ∧ (cfg.loraBasicsModem = true → cfg.mainThreadMaxSleepMs = 0 →
        ∀ ms, ∃ gs w, run (step cfg) (initial : System T) gs = some w
          ∧ w.pc = .msleep ∧ w.sleepTimeMs = ms) := by
  have hinv : Inv cfg (wakeUp s) := wakeUp_inv (run_inv (inv_initial cfg) hrun)
  have hinv' : Inv cfg u := run_inv hinv hrun'
  refine ⟨fun hblocked => ?_, fun e v hpc hstep hblocked => ?_,
    fun hmodem hmax ms => ?_⟩
  · by_cases hpc : s.pc = .blocked
    · refine ⟨[], wakeUp s, List.nil_prefix, rfl, ?_⟩
      rw [wakeUp, if_pos hpc]
    · have hsem : (wakeUp s).lbmMainLoopSem = true := by
        rw [wakeUp, if_neg hpc]
      rcases run_unless (fun v => v.lbmMainLoopSem = true) (fun v => v.pc = .lock)
          (fun _ _ _ h hstep => step_sem h hstep) hsem hrun' with hup | htop
      · rw [hinv'.control.blocked hblocked] at hup
        cases hup
      · exact htop
  · obtain ⟨ms, hv, ⟨hearly, hms⟩ | ⟨hmsleep, hms⟩⟩ :=
      step_blocked hpc hstep hblocked
    · exact ⟨ms, hv, Or.inl ⟨hearly, hinv'.control.ofModem (by rw [hearly]; rfl),
        hms⟩⟩
    · refine ⟨ms, hv, Or.inr ⟨hmsleep, hms, fun hor => ?_⟩⟩
      rw [hms]
      exact hinv'.control.sleepTime (hor.imp_right fun hmax => ⟨hmsleep, hmax⟩)
  · -- the initialisation and a turn in which the engine returns `ms`
    refine ⟨List.replicate (if cfg.flrp then 13 else 12)
      (.usp ⟨true, ms, false, false⟩ 0), ?_⟩
    obtain ⟨mutexes, modem, flrp, max⟩ := cfg
    obtain rfl : modem = true := hmodem
    obtain rfl : max = 0 := hmax
    cases mutexes <;> cases flrp <;> exact ⟨_, rfl, rfl, rfl⟩

/-- A wake-up while an engine runs ends the sleep of this turn, not of the next. -/
theorem wakeUp_not_slept_through_sample :
    ∃ fs₁ v, fs₁ <+: sampleTurns
      ∧ run (step sampleConfig) (wakeUp (sampleAfter initial sampleEngine)) fs₁
        = some v
      ∧ v.pc = .lock :=
  (wakeUp_not_slept_through sampleEngine_run
    (u := sampleAfter (wakeUp (sampleAfter initial sampleEngine)) sampleTurns)
    rfl).1 rfl

end Main

end UspThread
