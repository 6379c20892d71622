import Mathlib.Logic.Function.Iterate
import UspZephyr.GpioProofs
import UspZephyr.StepRunProofs

/-! # The DIO interrupts of the SX126x

    `sx126x_init` gives each DIO of the device tree a callback object of its own,
    `data->dio1_cb` to `data->dio3_cb`.  What the driver is for has no GPIO in it:
    while interrupts are enabled, every DIO on a pin that becomes active reports
    one event, at once or through the work queue.  `dios_reported` says that
    this is what it does, in every run after the initialisation. -/

namespace Sx126xBoard

open Gpio StepRun

inductive Dio where
  | dio1
  | dio2
  | dio3
  deriving DecidableEq, Repr

/-- The callback objects of the system: this device's, and those of others. -/
inductive CallbackObject where
  | dioCb (d : Dio)
  | other (n : Nat)
  deriving DecidableEq, Repr

inductive Handler where
  | sx126xBoardDioCallback (d : Dio)
  | other (n : Nat)
  deriving DecidableEq, Repr

/-- `CONFIG_LORA_BASICS_MODEM_DRIVERS_EVENT_TRIGGER_*`.  The own-thread variant
    gives a semaphore that the data structure does not have. -/
inductive TriggerMode where
  | globalThread
  | noThread
  deriving DecidableEq, Repr

/-- The DIOs of `sx126x_hal_context_cfg_t`; `none` for a null port. -/
structure Config (Port : Type) where
  dio1 : Option (Port × Fin 32)
  dio2 : Option (Port × Fin 32)
  dio3 : Option (Port × Fin 32)

/-- What the calls of `sx126x_init` return. -/
structure Outcomes where
  spiReady : Bool
  reset : Int
  busy : Int
  gpioPinConfigure : Dio → Int
  gpioAddCallback : Dio → Int

def eIo : Int := 5
def eInval : Int := 22

variable {Port EventCb : Type}

/-! ## The driver -/

section Driver

variable [DecidableEq Port]

/-- The pin of a DIO made an input, if there is one. -/
def configureDio (o : Outcomes) (d : Dio) (spec : Option (Port × Fin 32))
    (ret : Int) : Except Int Int :=
  match spec with
  | none => .ok ret
  | some _ =>
      if o.gpioPinConfigure d < 0 then .error (o.gpioPinConfigure d)
      else .ok (o.gpioPinConfigure d)

/-- The callback of a DIO; false when it could not be added. -/
def registerDio (o : Outcomes) (d : Dio) (spec : Option (Port × Fin 32))
    (g : State Port CallbackObject Handler) :
    Bool × State Port CallbackObject Handler :=
  match spec with
  | none => (true, g)
  | some (port, pin) =>
      let g := gpioInitCallback (.dioCb d) (.sx126xBoardDioCallback d) (bit pin) g
      if o.gpioAddCallback d ≠ 0 then (false, g)
      else (true, gpioAddCallback port (.dioCb d) g)

/-- The part of `sx126x_init` that makes the pins inputs. -/
def configureDios (o : Outcomes) (c : Config Port) : Except Int Int := do
  let ret ← configureDio o .dio1 c.dio1 o.busy
  let ret ← configureDio o .dio2 c.dio2 ret
  configureDio o .dio3 c.dio3 ret

/-- The part of `sx126x_init` that adds the callbacks, up to the first that
    could not be added. -/
def registerDios (o : Outcomes) (c : Config Port)
    (g : State Port CallbackObject Handler) :
    Bool × State Port CallbackObject Handler :=
  let r1 := registerDio o .dio1 c.dio1 g
  if r1.1 = false then r1
  else
    let r2 := registerDio o .dio2 c.dio2 r1.2
    if r2.1 = false then r2 else registerDio o .dio3 c.dio3 r2.2

/-- `sx126x_init`. -/
def sx126xInit (o : Outcomes) (c : Config Port)
    (g : State Port CallbackObject Handler) :
    Int × State Port CallbackObject Handler :=
  if o.spiReady = false then (-eInval, g)
  else if o.reset < 0 then (o.reset, g)
  else if o.busy < 0 then (o.busy, g)
  else
    match configureDios o c with
    | .error ret => (ret, g)
    | .ok ret =>
        let r := registerDios o c g
        if r.1 = false then (-eIo, r.2) else (ret, r.2)

def configureInterrupt (trigger : Trigger) (spec : Option (Port × Fin 32))
    (g : State Port CallbackObject Handler) : State Port CallbackObject Handler :=
  match spec with
  | none => g
  | some (port, pin) => gpioPinInterruptConfigure port pin trigger g

/-- `lora_transceiver_board_enable_interrupt`, and with `GPIO_INT_DISABLE`
    `lora_transceiver_board_disable_interrupt`. -/
def configureInterrupts (trigger : Trigger) (c : Config Port)
    (g : State Port CallbackObject Handler) : State Port CallbackObject Handler :=
  configureInterrupt trigger c.dio3
    (configureInterrupt trigger c.dio2 (configureInterrupt trigger c.dio1 g))

def loraTransceiverBoardEnableInterrupt (c : Config Port)
    (g : State Port CallbackObject Handler) : State Port CallbackObject Handler :=
  configureInterrupts .edgeToActive c g

def loraTransceiverBoardDisableInterrupt (c : Config Port)
    (g : State Port CallbackObject Handler) : State Port CallbackObject Handler :=
  configureInterrupts .off c g

end Driver

/-- `sx126x_hal_context_data_t`: the event callback, and whether the work is
    submitted; with the calls of event callbacks so far. -/
structure Data (EventCb : Type) where
  eventInterruptCb : Option EventCb
  workSubmitted : Bool
  calls : List EventCb

/-- `data->event_interrupt_cb( data->sx126x_dev )`, if it is not null. -/
def Data.callEventCb (data : Data EventCb) : Data EventCb :=
  { data with calls := data.calls ++ data.eventInterruptCb.toList }

/-- `sx126x_work_cb`. -/
def sx126xWorkCb (data : Data EventCb) : Data EventCb :=
  { data with workSubmitted := false }.callEventCb

/-- `sx126x_board_event_callback`; work that is submitted already stays so. -/
def sx126xBoardEventCallback (mode : TriggerMode) (data : Data EventCb) :
    Data EventCb :=
  match mode with
  | .globalThread => { data with workSubmitted := true }
  | .noThread => data.callEventCb

/-- A handler that an edge runs. -/
def runHandler (mode : TriggerMode) (data : Data EventCb) :
    Handler × CallbackObject → Data EventCb
  | (.sx126xBoardDioCallback _, _) => sx126xBoardEventCallback mode data
  | (.other _, _) => data

/-- The ports and the device. -/
structure Device (Port EventCb : Type) where
  gpio : State Port CallbackObject Handler
  data : Data EventCb

inductive Event (Port EventCb : Type) where
  /-- `lora_transceiver_board_attach_interrupt`. -/
  | attach (cb : Option EventCb)
  | enable
  | disable
  | edge (port : Port) (pin : Fin 32) (level : Bool)
  /-- The work queue comes to the work of this device. -/
  | work

def step [DecidableEq Port] (mode : TriggerMode) (c : Config Port)
    (dev : Device Port EventCb) : Event Port EventCb →
    Option (Device Port EventCb)
  | .attach cb => some { dev with data := { dev.data with eventInterruptCb := cb } }
  | .enable =>
      some { dev with gpio := loraTransceiverBoardEnableInterrupt c dev.gpio }
  | .disable =>
      some { dev with gpio := loraTransceiverBoardDisableInterrupt c dev.gpio }
  | .edge port pin level =>
      some { dev with
        data := (edge dev.gpio port pin level).foldl (runHandler mode) dev.data }
  | .work =>
      if dev.data.workSubmitted then
        some { dev with data := sx126xWorkCb dev.data }
      else none

/-! ## What it is for -/

/-- The pins of the DIOs. -/
def Config.pins (c : Config Port) : List (Port × Fin 32) :=
  c.dio1.toList ++ c.dio2.toList ++ c.dio3.toList

/-- A device without ports or callback objects: it makes reports, each of which
    calls the callback that is attached, and may put them off. -/
structure Reporter (EventCb : Type) where
  enabled : Bool
  attached : Option EventCb
  /-- A report has been put off. -/
  pending : Bool
  /-- The calls so far. -/
  reported : List EventCb

/-- Reports are put off. -/
def TriggerMode.deferred : TriggerMode → Bool
  | .globalThread => true
  | .noThread => false

/-- It makes `n` reports: so many calls, or one to come. -/
def Reporter.report (deferred : Bool) (n : Nat) (r : Reporter EventCb) :
    Reporter EventCb :=
  if deferred then { r with pending := r.pending || decide (0 < n) }
  else { r with
    reported := r.reported ++ r.attached.elim [] (List.replicate n) }

def reporterStep [DecidableEq Port] (mode : TriggerMode) (c : Config Port)
    (r : Reporter EventCb) : Event Port EventCb → Option (Reporter EventCb)
  | .attach cb => some { r with attached := cb }
  | .enable => some { r with enabled := true }
  | .disable => some { r with enabled := false }
  | .edge port pin level =>
      -- one report for each DIO that is wired to the pin
      some (if r.enabled && level then
          r.report mode.deferred (c.pins.count (port, pin))
        else r)
  | .work =>
      if r.pending then
        some { r with
          pending := false, reported := r.reported ++ r.attached.toList }
      else none

/-- Before the initialisation: no interrupt of the pins is configured, and the
    objects of the device are linked nowhere, nor its handlers those of other
    objects. -/
structure Fresh (c : Config Port) (g : State Port CallbackObject Handler) :
    Prop where
  trigger : ∀ p ∈ c.pins, g.trigger p.1 p.2 = .off
  linked : ∀ port, ∀ obj ∈ g.linked port, ∃ n m,
    obj = .other n ∧ (g.callbacks obj).handler = .other m

def start : Data EventCb := ⟨none, false, []⟩

def idle : Reporter EventCb := ⟨false, none, false, []⟩

/-! ## After the initialisation -/

section Init

variable [DecidableEq Port] {o : Outcomes} {c : Config Port}
  {g : State Port CallbackObject Handler}

/-- What `sx126x_init` registers for a DIO. -/
def registration (d : Dio) (spec : Option (Port × Fin 32)) :
    List (Registration Port CallbackObject Handler) :=
  spec.toList.map fun p => ⟨.dioCb d, .sx126xBoardDioCallback d, p.1, p.2⟩

def Config.registrations (c : Config Port) :
    List (Registration Port CallbackObject Handler) :=
  registration .dio1 c.dio1 ++ registration .dio2 c.dio2
    ++ registration .dio3 c.dio3

omit [DecidableEq Port] in
theorem configureDio_error {d : Dio} {spec : Option (Port × Fin 32)}
    {ret r : Int} (h : configureDio o d spec ret = .error r) : r < 0 := by
  cases spec with
  | none => cases h
  | some p =>
      rw [configureDio] at h
      split at h
      · next hneg =>
          obtain rfl := Except.error.inj h
          exact hneg
      · cases h

omit [DecidableEq Port] in
/-- An error is the negative code of the call that failed. -/
theorem configureDios_error {r : Int} (h : configureDios o c = .error r) :
    r < 0 := by
  rw [configureDios] at h
  cases h1 : configureDio o .dio1 c.dio1 o.busy with
  | error r1 =>
      rw [h1] at h
      obtain rfl := Except.error.inj h
      exact configureDio_error h1
  | ok ret1 =>
      rw [h1] at h
      cases h2 : configureDio o .dio2 c.dio2 ret1 with
      | error r2 =>
          have h : configureDio o .dio2 c.dio2 ret1 >>= _ = .error r := h
          rw [h2] at h
          obtain rfl := Except.error.inj h
          exact configureDio_error h2
      | ok ret2 =>
          have h : configureDio o .dio2 c.dio2 ret1 >>= _ = .error r := h
          rw [h2] at h
          exact configureDio_error h

theorem registerDio_ok {d : Dio} {spec : Option (Port × Fin 32)}
    (h : (registerDio o d spec g).1 ≠ false) :
    (registerDio o d spec g).2 = registerEach (registration d spec) g := by
  cases spec with
  | none => rfl
  | some p =>
      rw [registerDio] at h ⊢
      by_cases hadd : o.gpioAddCallback d ≠ 0
      · rw [if_pos hadd] at h
        exact absurd rfl h
      · rw [if_neg hadd]
        rfl

theorem registerDios_ok (h : (registerDios o c g).1 ≠ false) :
    (registerDios o c g).2 = registerEach c.registrations g := by
  rw [Config.registrations, registerEach_append, registerEach_append]
  rw [registerDios] at h ⊢
  by_cases h1 : (registerDio o .dio1 c.dio1 g).1 = false
  · rw [if_pos h1] at h
    exact absurd h1 h
  rw [if_neg h1] at h ⊢
  rw [← registerDio_ok h1]
  by_cases h2 : (registerDio o .dio2 c.dio2
      (registerDio o .dio1 c.dio1 g).2).1 = false
  · rw [if_pos h2] at h
    exact absurd h2 h
  rw [if_neg h2] at h ⊢
  rw [← registerDio_ok h2]
  exact registerDio_ok h

/-- Without an error each DIO has its object. -/
theorem sx126xInit_ok (hinit : 0 ≤ (sx126xInit o c g).1) :
    (sx126xInit o c g).2 = registerEach c.registrations g := by
  have hIo : ¬ (0 : Int) ≤ -eIo := by decide
  have hInval : ¬ (0 : Int) ≤ -eInval := by decide
  rw [sx126xInit] at hinit ⊢
  by_cases hspi : o.spiReady = false
  · rw [if_pos hspi] at hinit
    exact absurd hinit hInval
  rw [if_neg hspi] at hinit ⊢
  by_cases hreset : o.reset < 0
  · rw [if_pos hreset] at hinit
    exact absurd hreset (Int.not_lt.mpr hinit)
  rw [if_neg hreset] at hinit ⊢
  by_cases hbusy : o.busy < 0
  · rw [if_pos hbusy] at hinit
    exact absurd hbusy (Int.not_lt.mpr hinit)
  rw [if_neg hbusy] at hinit ⊢
  cases hdios : configureDios o c with
  | error ret =>
      rw [hdios] at hinit
      exact absurd (configureDios_error hdios) (Int.not_lt.mpr hinit)
  | ok ret =>
      rw [hdios] at hinit
      have hinit : (0 : Int) ≤ (if (registerDios o c g).1 = false then _
        else _ : Int × _).1 := hinit
      show (if (registerDios o c g).1 = false then _ else _ : Int × _).2 = _
      by_cases hadded : (registerDios o c g).1 = false
      · rw [if_pos hadded] at hinit
        exact absurd hinit hIo
      · rw [if_neg hadded]
        exact registerDios_ok hadded

omit [DecidableEq Port] in
/-- The handlers of the device's own objects. -/
theorem registrations_handler {r : Registration Port CallbackObject Handler}
    (h : r ∈ c.registrations) :
    ∃ d, r.obj = .dioCb d ∧ r.handler = .sx126xBoardDioCallback d := by
  have hone : ∀ {d : Dio} {spec : Option (Port × Fin 32)},
      r ∈ registration d spec →
        r.obj = .dioCb d ∧ r.handler = .sx126xBoardDioCallback d := by
    intro d spec hmem
    obtain ⟨p, -, rfl⟩ := List.mem_map.mp hmem
    exact ⟨rfl, rfl⟩
  rcases List.mem_append.mp h with h | h
  · rcases List.mem_append.mp h with h | h
    · exact ⟨.dio1, hone h⟩
    · exact ⟨.dio2, hone h⟩
  · exact ⟨.dio3, hone h⟩

omit [DecidableEq Port] in
/-- No two DIOs share an object. -/
theorem registrations_distinct (c : Config Port) :
    (c.registrations.map (·.obj)).Nodup := by
  obtain ⟨_ | p1, _ | p2, _ | p3⟩ := c <;>
    simp [Config.registrations, registration]

/-- As many objects are registered for a pin as DIOs are wired to it. -/
theorem registeredAt_length (c : Config Port) (port : Port) (pin : Fin 32) :
    (registeredAt c.registrations port pin).length
      = c.pins.count (port, pin) := by
  have hone : ∀ (d : Dio) (spec : Option (Port × Fin 32)),
      (registeredAt (registration d spec) port pin).length
        = spec.toList.count (port, pin) := by
    intro d spec
    cases spec with
    | none => rfl
    | some p =>
        show (List.filter _ [_]).length = [p].count (port, pin)
        by_cases hp : p = (port, pin)
        · subst hp
          simp
        · have hpair : ¬ (p.1 = port ∧ p.2 = pin) := fun h =>
            hp (Prod.ext h.1 h.2)
          simp [hp, hpair]
  have hone1 := hone .dio1 c.dio1
  have hone2 := hone .dio2 c.dio2
  have hone3 := hone .dio3 c.dio3
  rw [registeredAt] at hone1 hone2 hone3 ⊢
  rw [Config.registrations, List.filter_append, List.filter_append,
    List.length_append, List.length_append, hone1, hone2, hone3, Config.pins,
    List.count_append, List.count_append]

theorem configureInterrupts_eq (trigger : Trigger) (c : Config Port)
    (g : State Port CallbackObject Handler) :
    configureInterrupts trigger c g = configureAll trigger c.pins g := by
  obtain ⟨_ | p1, _ | p2, _ | p3⟩ := c <;> rfl

end Init

/-! ## One report for each DIO -/

/-- The handlers of the device each report once. -/
theorem foldl_own {mode : TriggerMode} {rs : List (Registration Port
    CallbackObject Handler)}
    (h : ∀ r ∈ rs, ∃ d, r.handler = .sx126xBoardDioCallback d)
    (data : Data EventCb) :
    (rs.map fun r => (r.handler, r.obj)).foldl (runHandler mode) data
      = ((sx126xBoardEventCallback mode)^[rs.length]) data := by
  induction rs generalizing data with
  | nil => rfl
  | cons r rs ih =>
      obtain ⟨d, hd⟩ := h r List.mem_cons_self
      have hstep : runHandler mode data (r.handler, r.obj)
          = sx126xBoardEventCallback mode data := by
        rw [hd]
        rfl
      rw [List.map_cons, List.foldl_cons, hstep,
        ih fun q hq => h q (List.mem_cons_of_mem r hq)]
      rfl

/-- Those of others leave the device alone. -/
theorem foldl_others {mode : TriggerMode} {ran : List (Handler × CallbackObject)}
    (h : ∀ x ∈ ran, ∃ m, x.1 = .other m) (data : Data EventCb) :
    ran.foldl (runHandler mode) data = data := by
  induction ran with
  | nil => rfl
  | cons x xs ih =>
      obtain ⟨m, hm⟩ := h x List.mem_cons_self
      have hstep : runHandler mode data x = data := by
        rw [show x = (.other m, x.2) from Prod.ext hm rfl]
        rfl
      rw [List.foldl_cons, hstep]
      exact ih fun y hy => h y (List.mem_cons_of_mem x hy)

/-- The reporter's view of the device. -/
structure Viewed (data : Data EventCb) (r : Reporter EventCb) : Prop where
  attached : data.eventInterruptCb = r.attached
  pending : data.workSubmitted = r.pending
  reported : data.calls = r.reported

/-- So many calls of the handlers are so many reports. -/
theorem Viewed.report {data : Data EventCb} {r : Reporter EventCb}
    (h : Viewed data r) (mode : TriggerMode) (n : Nat) :
    Viewed ((sx126xBoardEventCallback mode)^[n] data)
      (r.report mode.deferred n) := by
  obtain ⟨cb, submitted, calls⟩ := data
  obtain ⟨enabled, attached, pending, reported⟩ := r
  obtain ⟨hattached, hpending, hreported⟩ := h
  obtain rfl : cb = attached := hattached
  obtain rfl : submitted = pending := hpending
  obtain rfl : calls = reported := hreported
  induction n generalizing submitted calls with
  | zero =>
      cases mode with
      | globalThread => exact ⟨rfl, (Bool.or_false _).symm, rfl⟩
      | noThread =>
          refine ⟨rfl, rfl, ?_⟩
          show calls = calls ++ cb.elim [] (List.replicate 0)
          cases cb <;> exact (List.append_nil calls).symm
  | succ n ih =>
      cases mode with
      | globalThread =>
          obtain ⟨hattached, hpending, hreported⟩ := ih true calls
          refine ⟨hattached, ?_, hreported⟩
          rw [Function.iterate_succ_apply]
          refine hpending.trans ?_
          show (true || decide (0 < n)) = (submitted || decide (0 < n + 1))
          rw [Bool.true_or, decide_eq_true (Nat.succ_pos n), Bool.or_true]
      | noThread =>
          obtain ⟨hattached, hpending, hreported⟩ :=
            ih submitted (calls ++ cb.toList)
          refine ⟨hattached, hpending, ?_⟩
          rw [Function.iterate_succ_apply]
          refine hreported.trans ?_
          show calls ++ cb.toList ++ cb.elim [] (List.replicate n)
            = calls ++ cb.elim [] (List.replicate (n + 1))
          cases cb with
          | none => simp
          | some cb => simp [List.replicate_succ]

section Reports

variable [DecidableEq Port] {mode : TriggerMode} {c : Config Port}
  {g : State Port CallbackObject Handler}

/-- What an edge does to the device, for any triggers. -/
theorem edge_reports (hfresh : Fresh c g) (t : Port → Fin 32 → Trigger)
    (port : Port) (pin : Fin 32) (level : Bool) (data : Data EventCb) :
    (edge (registerEach c.registrations { g with trigger := t }) port pin
        level).foldl (runHandler mode) data
      = if (t port pin).asksFor level = true then
          ((sx126xBoardEventCallback mode)^[c.pins.count (port, pin)]) data
        else data := by
  have hnew : ∀ r ∈ c.registrations, ∀ port,
      r.obj ∉ ({ g with trigger := t } : State Port _ _).linked port := by
    intro r hr port hmem
    obtain ⟨d, hobj, -⟩ := registrations_handler hr
    obtain ⟨n, m, hother, -⟩ := hfresh.linked port r.obj hmem
    rw [hobj] at hother
    cases hother
  have hothers : ∀ x ∈ edge { g with trigger := t } port pin level,
      ∃ m, x.1 = .other m := by
    rintro ⟨h, obj⟩ hx
    obtain ⟨-, hlinked, -, hhandler⟩ := mem_edge.mp hx
    obtain ⟨n, m, -, hother⟩ := hfresh.linked port obj hlinked
    exact ⟨m, hhandler.symm.trans hother⟩
  have hown : ∀ r ∈ (registeredAt c.registrations port pin).reverse,
      ∃ d, r.handler = .sx126xBoardDioCallback d := by
    intro r hr
    have hmem : r ∈ c.registrations :=
      List.mem_of_mem_filter (List.mem_reverse.mp hr)
    obtain ⟨d, -, hhandler⟩ := registrations_handler hmem
    exact ⟨d, hhandler⟩
  rw [edge_registerEach (registrations_distinct c) hnew, List.foldl_append,
    foldl_others hothers]
  show (if (t port pin).asksFor level = true then _ else []).foldl _ _ = _
  by_cases ht : (t port pin).asksFor level = true
  · rw [if_pos ht, if_pos ht, foldl_own hown, List.length_reverse,
      registeredAt_length]
  · rw [if_neg ht, if_neg ht]
    rfl

/-- The device and the reporter: its view, the objects registered, and the pins of
    the DIOs armed together. -/
structure Related (c : Config Port) (g : State Port CallbackObject Handler)
    (dev : Device Port EventCb) (r : Reporter EventCb) : Prop where
  viewed : Viewed dev.data r
  armed : ∃ t : Port → Fin 32 → Trigger,
    dev.gpio = registerEach c.registrations { g with trigger := t }
      ∧ ∀ p ∈ c.pins, t p.1 p.2 = if r.enabled then .edgeToActive else .off

/-- Enabling or disabling moves all pins of the DIOs. -/
theorem configure_related {dev : Device Port EventCb} {r : Reporter EventCb}
    (h : Related c g dev r) {trigger : Trigger} {enabled : Bool}
    (htrigger : trigger = if enabled then .edgeToActive else .off) :
    Related c g { dev with gpio := configureInterrupts trigger c dev.gpio }
      { r with enabled := enabled } := by
  obtain ⟨⟨hattached, hpending, hreported⟩, t, hgpio, -⟩ := h
  refine ⟨⟨hattached, hpending, hreported⟩,
    (configureAll trigger c.pins dev.gpio).trigger, ?_, ?_⟩
  · show configureInterrupts trigger c dev.gpio = _
    rw [configureInterrupts_eq, configureAll_eq]
    generalize (configureAll trigger c.pins dev.gpio).trigger = t'
    rw [hgpio, registerEach_trigger]
    exact (registerEach_trigger c.registrations g t').symm
  · intro p hp
    rw [configureAll_of_mem hp]
    exact htrigger

theorem report_enabled (deferred : Bool) (n : Nat) (r : Reporter EventCb) :
    (r.report deferred n).enabled = r.enabled := by
  cases deferred <;> rfl

/-- An edge is as many reports as DIOs are wired to the pin. -/
theorem edge_related (hfresh : Fresh c g) {dev : Device Port EventCb}
    {r : Reporter EventCb} (h : Related c g dev r) (port : Port) (pin : Fin 32)
    (level : Bool) :
    Related c g
      { dev with
        data := (edge dev.gpio port pin level).foldl (runHandler mode) dev.data }
      (if r.enabled && level then
          r.report mode.deferred (c.pins.count (port, pin))
        else r) := by
  obtain ⟨hviewed, t, hgpio, hpins⟩ := h
  have henabled : (if (r.enabled && level) = true then
      r.report mode.deferred (c.pins.count (port, pin)) else r).enabled
        = r.enabled := by
    split
    · exact report_enabled _ _ r
    · rfl
  refine ⟨?_, t, hgpio, fun p hp => by rw [henabled]; exact hpins p hp⟩
  show Viewed ((edge dev.gpio port pin level).foldl (runHandler mode) dev.data) _
  rw [hgpio, edge_reports hfresh]
  by_cases hmem : (port, pin) ∈ c.pins
  · -- the pin is armed just while interrupts are enabled
    have harmed : (t port pin).asksFor level = (r.enabled && level) := by
      rw [hpins (port, pin) hmem]
      cases r.enabled with
      | false => rfl
      | true => rfl
    rw [harmed]
    split
    · exact hviewed.report mode _
    · exact hviewed
  · have hnone := hviewed.report mode 0
    rw [List.count_eq_zero.mpr hmem]
    have hsame : r.report mode.deferred 0 = r := by
      obtain ⟨enabled, attached, pending, reported⟩ := r
      cases mode <;> cases attached <;> simp [Reporter.report, TriggerMode.deferred]
    rw [hsame, ite_self]
    split <;> exact hviewed

/-- **ONE EVENT**: the device and the reporter go on together. -/
theorem step_related (hfresh : Fresh c g) (dev : Device Port EventCb)
    (r : Reporter EventCb) (e : Event Port EventCb) (h : Related c g dev r) :
    Option.Rel (Related c g) (step mode c dev e) (reporterStep mode c r e) := by
  obtain ⟨hattached, hpending, hreported⟩ := h.viewed
  cases e with
  | attach cb => exact .some ⟨⟨rfl, hpending, hreported⟩, h.armed⟩
  | enable => exact .some (configure_related h rfl)
  | disable => exact .some (configure_related h rfl)
  | edge port pin level => exact .some (edge_related hfresh h port pin level)
  | work =>
      show Option.Rel _ (if dev.data.workSubmitted = true then _ else none)
        (if r.pending = true then _ else none)
      rw [hpending]
      by_cases hwork : r.pending = true
      · rw [if_pos hwork, if_pos hwork]
        refine .some ⟨⟨hattached, rfl, ?_⟩, h.armed⟩
        show dev.data.calls ++ dev.data.eventInterruptCb.toList = _
        rw [hattached, hreported]
      · rw [if_neg hwork, if_neg hwork]
        exact .none

/-- **EVERY DIO REPORTS**: after an initialisation without error, whatever is
    attached, enabled and disabled in whatever order, the device calls what the
    reporter calls: one report for each DIO on a pin that becomes active while
    interrupts are enabled, and none for anything else. -/
theorem dios_reported {o : Outcomes} (hinit : 0 ≤ (sx126xInit o c g).1)
    (hfresh : Fresh c g) (es : List (Event Port EventCb)) :
    (run (step mode c) ⟨(sx126xInit o c g).2, start⟩ es).map
        (fun dev => (dev.data.workSubmitted, dev.data.calls))
      = (run (reporterStep mode c) idle es).map
        (fun r => (r.pending, r.reported)) := by
  have hstart : Related c g ⟨(sx126xInit o c g).2, (start : Data EventCb)⟩ idle :=
    ⟨⟨rfl, rfl, rfl⟩, g.trigger, sx126xInit_ok hinit, hfresh.trigger⟩
  have hrun : Option.Rel (Related c g)
      (run (step mode c) ⟨(sx126xInit o c g).2, start⟩ es)
      (run (reporterStep mode c) idle es) :=
    run_rel (Related c g) (step_related hfresh) hstart es
  generalize run (step mode c) _ es = left, run (reporterStep mode c) _ es = right
    at hrun
  cases hrun with
  | none => rfl
  | some h => exact congrArg some (Prod.ext h.viewed.pending h.viewed.reported)

end Reports

def pin1 : Fin 32 := ⟨9, by decide⟩
def pin3 : Fin 32 := ⟨7, by decide⟩

/-- Two DIOs beside an object of another driver on the pin of one of them. -/
def twoDios : Config Unit := ⟨some ((), pin1), none, some ((), pin3)⟩

def otherDriver : State Unit CallbackObject Handler where
  callbacks := fun _ => ⟨.other 0, bit pin1⟩
  linked := fun _ => [.other 0]
  trigger := fun _ _ => .off

theorem otherDriver_fresh : Fresh twoDios otherDriver where
  trigger := fun _ _ => rfl
  linked := fun _ _ hobj => ⟨0, 0, List.mem_singleton.mp hobj, rfl⟩

theorem dios_reported_sample :
    (run (step .globalThread twoDios)
        ⟨(sx126xInit ⟨true, 0, 0, fun _ => 0, fun _ => 0⟩ twoDios
          otherDriver).2, start⟩
        [.edge () pin1 true, .attach (some ()), .enable, .edge () pin1 true,
          .edge () pin3 false, .work]).map
        (fun dev => (dev.data.workSubmitted, dev.data.calls))
      = some (false, [()]) :=
  (dios_reported (by decide) otherDriver_fresh _).trans rfl

end Sx126xBoard
