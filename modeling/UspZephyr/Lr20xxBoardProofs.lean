import UspZephyr.GpioProofs

/-! # Which IRQ DIOs of the LR20xx are heard

    `lr20xx_init` walks the DIOs of the device tree and registers ONE callback
    object, `data->dios_cb`, for each DIO whose function is IRQ:
    `gpio_init_callback` writes the pin mask anew every time, and
    `gpio_add_callback` links the object into one port after another.  What is
    left is an object on every port with the mask of the last pin.
    `lora_transceiver_board_enable_interrupt` walks the same list and arms every
    IRQ pin.

    `every_irq_dio_heard_iff` says for which device trees the two agree: those
    whose IRQ DIOs all use the same pin number. -/

namespace Lr20xxBoard

open Gpio

/-- `LR20XX_SYSTEM_DIO_FUNC_*`; the property is an integer. -/
inductive DioFunc where
  | none
  | irq
  | rfSwitch
  | gpioLow
  | gpioHigh
  | hfClkOut
  | lfClkOut
  | txTrigger
  | rxTrigger
  | other (value : Nat)
  deriving DecidableEq, Repr

/-- `lr20xx_dio_cfg_t`, as far as the GPIO code reads it. -/
structure DioCfg (Port : Type) where
  function : DioFunc
  port : Port
  pin : Fin 32
  deriving DecidableEq

/-- The callback objects of the system: this device's, and those of others. -/
inductive CallbackObject where
  | diosCb
  | other (n : Nat)
  deriving DecidableEq, Repr

inductive Handler where
  | lr20xxBoardEventCallback
  | other (n : Nat)
  deriving DecidableEq, Repr

/-- `CONFIG_LORA_BASICS_MODEM_DRIVERS_EVENT_TRIGGER_*`.  The own-thread variant
    gives a semaphore that the data structure does not have. -/
inductive TriggerMode where
  | globalThread
  | noThread
  deriving DecidableEq, Repr

/-- What the calls of `lr20xx_init` return; the DIOs by their place in the
    list. -/
structure Outcomes where
  spiReady : Bool
  busy : Int
  reset : Int
  gpioPinConfigure : Nat → Int
  gpioAddCallback : Nat → Int

def eIo : Int := 5
def eInval : Int := 22

variable {Port : Type}

/-- `config->dios_config_num`, the array size in a `uint8_t`. -/
def diosConfigNum (diosConfig : List (DioCfg Port)) : Nat :=
  diosConfig.length % 256

/-- The DIO loop of `lr20xx_init` from entry `i` on. -/
def initDios [DecidableEq Port] (o : Outcomes) : List (DioCfg Port) → Nat → Int →
    State Port CallbackObject Handler →
    Int × State Port CallbackObject Handler
  | [], _, ret, g => (ret, g)
  | d :: ds, i, ret, g =>
      if d.function = .irq then
        if o.gpioPinConfigure i < 0 then (o.gpioPinConfigure i, g)
        else
          let g := gpioInitCallback .diosCb .lr20xxBoardEventCallback (bit d.pin) g
          if o.gpioAddCallback i ≠ 0 then (-eIo, g)
          else
            initDios o ds (i + 1) (o.gpioPinConfigure i)
              (gpioAddCallback d.port .diosCb g)
      else initDios o ds (i + 1) ret g

/-- `lr20xx_init`. -/
def lr20xxInit [DecidableEq Port] (o : Outcomes)
    (diosConfig : List (DioCfg Port)) (g : State Port CallbackObject Handler) :
    Int × State Port CallbackObject Handler :=
  if o.spiReady = false then (-eInval, g)
  else if o.busy < 0 then (o.busy, g)
  else if o.reset < 0 then (o.reset, g)
  else initDios o (diosConfig.take (diosConfigNum diosConfig)) 0 o.reset g

/-- The loop of `lora_transceiver_board_enable_interrupt`. -/
def enableDios [DecidableEq Port] : List (DioCfg Port) →
    State Port CallbackObject Handler → State Port CallbackObject Handler
  | [], g => g
  | d :: ds, g =>
      enableDios ds
        (if d.function = .irq then
          gpioPinInterruptConfigure d.port d.pin .edgeToActive g
        else g)

/-- `lora_transceiver_board_enable_interrupt`. -/
def loraTransceiverBoardEnableInterrupt [DecidableEq Port]
    (diosConfig : List (DioCfg Port)) (g : State Port CallbackObject Handler) :
    State Port CallbackObject Handler :=
  enableDios (diosConfig.take (diosConfigNum diosConfig)) g

variable {EventCb : Type}

/-- `lr20xx_work_cb`: the event callback, if one is attached. -/
def lr20xxWorkCb (eventInterruptCb : Option EventCb) : List EventCb :=
  eventInterruptCb.toList

/-- `lr20xx_board_event_callback`: what it schedules, through the work queue or
    by calling it. -/
def lr20xxBoardEventCallback (mode : TriggerMode)
    (eventInterruptCb : Option EventCb) : List EventCb :=
  match mode with
  -- k_work_submit( &data->work )
  | .globalThread => lr20xxWorkCb eventInterruptCb
  | .noThread => eventInterruptCb.toList

/-- The event callbacks that an edge schedules for this device. -/
def scheduled (mode : TriggerMode) (eventInterruptCb : Option EventCb)
    (g : State Port CallbackObject Handler) (port : Port) (pin : Fin 32)
    (level : Bool) : List EventCb :=
  if (Handler.lr20xxBoardEventCallback, CallbackObject.diosCb)
      ∈ edge g port pin level then
    lr20xxBoardEventCallback mode eventInterruptCb
  else []

/-- The GPIOs of the IRQ DIOs of a list. -/
def irqPins (dios : List (DioCfg Port)) : List (Port × Fin 32) :=
  (dios.filter (fun d => d.function = .irq)).map (fun d => (d.port, d.pin))

/-- The GPIOs of the IRQ DIOs that the loops reach. -/
def reachedPins (diosConfig : List (DioCfg Port)) : List (Port × Fin 32) :=
  irqPins (diosConfig.take (diosConfigNum diosConfig))

/-- Whatever GPIO state the driver finds and whatever its calls return: once
    `lr20xx_init` has returned 0, the callback is attached and interrupts are
    enabled, an active edge on the GPIO of any IRQ DIO schedules the event
    callback, and an edge on another GPIO of their ports does not. -/
def EveryIrqDioHeard [DecidableEq Port] (mode : TriggerMode) (cb : EventCb)
    (diosConfig : List (DioCfg Port)) : Prop :=
  ∀ (o : Outcomes) (g : State Port CallbackObject Handler),
    (∀ port, CallbackObject.diosCb ∉ g.linked port) →
    (lr20xxInit o diosConfig g).1 = 0 →
    (∀ p ∈ irqPins diosConfig,
      scheduled mode (some cb) (loraTransceiverBoardEnableInterrupt diosConfig
        (lr20xxInit o diosConfig g).2) p.1 p.2 true = [cb])
    ∧ ∀ (port : Port) (pin : Fin 32) (level : Bool),
        (∃ p ∈ irqPins diosConfig, p.1 = port) →
        (port, pin) ∉ irqPins diosConfig →
        scheduled mode (some cb) (loraTransceiverBoardEnableInterrupt diosConfig
          (lr20xxInit o diosConfig g).2) port pin level = []

/-- All IRQ DIOs use the same pin number, and the loops reach their GPIOs. -/
def OnePinNumber (diosConfig : List (DioCfg Port)) : Prop :=
  (∀ p ∈ irqPins diosConfig, p ∈ reachedPins diosConfig)
    ∧ ∀ p ∈ irqPins diosConfig, ∀ q ∈ irqPins diosConfig, p.2 = q.2

variable {diosConfig : List (DioCfg Port)} {mode : TriggerMode} {cb : EventCb}

/-- An edge schedules the attached callback exactly when it runs this device's
    callback object. -/
theorem scheduled_eq (g : State Port CallbackObject Handler) (port : Port)
    (pin : Fin 32) (level : Bool) :
    scheduled mode (some cb) g port pin level
      = if (Handler.lr20xxBoardEventCallback, CallbackObject.diosCb)
          ∈ edge g port pin level then [cb] else [] := by
  cases mode with
  | globalThread => rfl
  | noThread => rfl

/-- The pins the loops reach are pins of the list. -/
theorem mem_irqPins_of_reached {p : Port × Fin 32}
    (h : p ∈ reachedPins diosConfig) : p ∈ irqPins diosConfig := by
  simp only [reachedPins, irqPins, List.mem_map, List.mem_filter] at h ⊢
  obtain ⟨d, ⟨hd, hirq⟩, rfl⟩ := h
  exact ⟨d, ⟨List.mem_of_mem_take hd, hirq⟩, rfl⟩

/-! ## The two loops as folds -/

section Loops

variable [DecidableEq Port] {o : Outcomes}
  {g : State Port CallbackObject Handler}

/-- The enable loop arms the IRQ pins. -/
theorem enableDios_eq (dios : List (DioCfg Port))
    (g : State Port CallbackObject Handler) :
    enableDios dios g = configureAll .edgeToActive (irqPins dios) g := by
  induction dios generalizing g with
  | nil => rfl
  | cons d ds ih =>
      rw [enableDios, ih, irqPins]
      by_cases hd : d.function = .irq
      · simp [hd, irqPins]
      · simp [hd, irqPins]

/-- An init loop that returns 0 has registered the object for every IRQ pin. -/
theorem initDios_eq {dios : List (DioCfg Port)} {i : Nat} {ret : Int}
    (h : (initDios o dios i ret g).1 = 0) :
    (initDios o dios i ret g).2
      = registerAll .diosCb .lr20xxBoardEventCallback (irqPins dios) g := by
  induction dios generalizing i ret g with
  | nil => rfl
  | cons d ds ih =>
      rw [initDios] at h ⊢
      by_cases hd : d.function = .irq
      · rw [if_pos hd] at h ⊢
        by_cases hconf : o.gpioPinConfigure i < 0
        · rw [if_pos hconf] at h
          exact absurd h (Int.ne_of_lt hconf)
        · rw [if_neg hconf] at h ⊢
          by_cases hadd : o.gpioAddCallback i ≠ 0
          · rw [if_pos hadd] at h
            exact absurd h (show (-eIo : Int) ≠ 0 by decide)
          · rw [if_neg hadd] at h ⊢
            rw [ih h]
            simp [irqPins, hd]
      · rw [if_neg hd] at h ⊢
        rw [ih h]
        simp [irqPins, hd]

/-- `lr20xx_init` that returns 0. -/
theorem lr20xxInit_eq
    (h : (lr20xxInit o diosConfig g).1 = 0) :
    (lr20xxInit o diosConfig g).2
      = registerAll .diosCb .lr20xxBoardEventCallback (reachedPins diosConfig)
          g := by
  rw [lr20xxInit] at h ⊢
  by_cases hs : o.spiReady = false
  · rw [if_pos hs] at h
    exact absurd h (show (-eInval : Int) ≠ 0 by decide)
  · rw [if_neg hs] at h ⊢
    by_cases hb : o.busy < 0
    · rw [if_pos hb] at h
      exact absurd h (Int.ne_of_lt hb)
    · rw [if_neg hb] at h ⊢
      by_cases hr : o.reset < 0
      · rw [if_pos hr] at h
        exact absurd h (Int.ne_of_lt hr)
      · rw [if_neg hr] at h ⊢
        exact initDios_eq h

/-- Calls that all succeed. -/
def allSucceed : Outcomes where
  spiReady := true
  busy := 0
  reset := 0
  gpioPinConfigure := fun _ => 0
  gpioAddCallback := fun _ => 0

/-- Ports on which nothing is linked or armed. -/
def idleGpio : State Port CallbackObject Handler where
  callbacks := fun _ => ⟨.other 0, 0⟩
  linked := fun _ => []
  trigger := fun _ _ => .off

theorem initDios_allSucceed (dios : List (DioCfg Port)) (i : Nat)
    (g : State Port CallbackObject Handler) :
    (initDios allSucceed dios i 0 g).1 = 0 := by
  induction dios generalizing i g with
  | nil => rfl
  | cons d ds ih =>
      rw [initDios]
      split
      · exact ih _ _
      · exact ih _ _

/-- The GPIO state once interrupts are enabled. -/
theorem enabled_eq (hret : (lr20xxInit o diosConfig g).1 = 0) :
    loraTransceiverBoardEnableInterrupt diosConfig (lr20xxInit o diosConfig g).2
      = configureAll .edgeToActive (reachedPins diosConfig)
          (registerAll .diosCb .lr20xxBoardEventCallback
            (reachedPins diosConfig) g) := by
  rw [loraTransceiverBoardEnableInterrupt, enableDios_eq, lr20xxInit_eq hret]
  rfl

/-! ## What an edge schedules -/

/-- With one pin number every IRQ DIO is heard, and no other pin. -/
theorem heard_of_onePinNumber (h : OnePinNumber diosConfig) :
    EveryIrqDioHeard mode cb diosConfig := by
  obtain ⟨hreached, hsame⟩ := h
  intro o g hfree hret
  rw [enabled_eq hret]
  rcases List.eq_nil_or_concat' (reachedPins diosConfig) with
    hnil | ⟨ps, last, hlast⟩
  · -- no IRQ DIO at all
    have hno : ∀ p, p ∉ irqPins diosConfig := by
      intro p hp
      have := hreached p hp
      rw [hnil] at this
      exact nomatch this
    constructor
    · intro p hp
      exact absurd hp (hno p)
    · rintro port pin level ⟨p, hp, -⟩ _
      exact absurd hp (hno p)
  · have hmem : last ∈ irqPins diosConfig :=
      mem_irqPins_of_reached (by rw [hlast]; simp)
    constructor
    · intro p hp
      have hp' := hreached p hp
      rw [scheduled_eq, if_pos]
      rw [mem_edge_registered hfree hlast, configureAll_of_mem hp']
      exact ⟨rfl, ⟨p, hp', rfl⟩, hsame last hmem p hp⟩
    · rintro port pin level ⟨p, hp, rfl⟩ hout
      rw [scheduled_eq, if_neg]
      rw [mem_edge_registered hfree hlast]
      rintro ⟨-, -, hpin⟩
      -- on a port of an IRQ DIO the last pin number is that DIO's
      refine hout ?_
      rw [← hpin, hsame last hmem p hp]
      exact hp

/-- A device tree whose IRQ DIOs are all heard gives them one pin number. -/
theorem onePinNumber_of_heard (h : EveryIrqDioHeard mode cb diosConfig) :
    OnePinNumber diosConfig := by
  have hret : (lr20xxInit allSucceed diosConfig idleGpio).1 = 0 :=
    initDios_allSucceed _ _ _
  have hfree : ∀ port : Port, CallbackObject.diosCb ∉ idleGpio.linked port :=
    fun _ => List.not_mem_nil
  have hheard : ∀ p ∈ irqPins diosConfig,
      (Handler.lr20xxBoardEventCallback, CallbackObject.diosCb)
        ∈ edge (loraTransceiverBoardEnableInterrupt diosConfig
          (lr20xxInit allSucceed diosConfig idleGpio).2) p.1 p.2 true := by
    intro p hp
    have hp' := (h allSucceed idleGpio hfree hret).1 p hp
    rw [scheduled_eq] at hp'
    by_contra hno
    rw [if_neg hno] at hp'
    exact nomatch hp'
  rw [enabled_eq hret] at hheard
  rcases List.eq_nil_or_concat' (reachedPins diosConfig) with
    hnil | ⟨ps, last, hlast⟩
  · -- nothing is registered, so there is nothing to hear
    have hno : ∀ p, p ∉ irqPins diosConfig := by
      intro p hp
      have hmem := hheard p hp
      rw [hnil] at hmem
      exact nomatch (mem_edge.mp hmem).2.1
    exact ⟨fun p hp => absurd hp (hno p), fun p hp => absurd hp (hno p)⟩
  · have hmem : ∀ p ∈ irqPins diosConfig,
        p ∈ reachedPins diosConfig ∧ last.2 = p.2 := by
      intro p hp
      obtain ⟨harmed, -, hpin⟩ :=
        (mem_edge_registered hfree hlast).mp (hheard p hp)
      refine ⟨?_, hpin⟩
      by_contra hout
      rw [configureAll_of_not_mem hout] at harmed
      exact nomatch harmed
    constructor
    · intro p hp
      exact (hmem p hp).1
    · intro p hp q hq
      exact (hmem p hp).2.symm.trans (hmem q hq).2

/-- **WHICH IRQ DIOS ARE HEARD**: all of them exactly when they share one pin
    number. -/
theorem every_irq_dio_heard_iff (mode : TriggerMode) (cb : EventCb)
    (diosConfig : List (DioCfg Port)) :
    EveryIrqDioHeard mode cb diosConfig ↔ OnePinNumber diosConfig :=
  ⟨onePinNumber_of_heard, heard_of_onePinNumber⟩

end Loops

/-- Two IRQ DIOs on one port, with an RF switch between them. -/
def twoIrqDios : List (DioCfg Nat) :=
  [⟨.irq, 0, 3⟩, ⟨.rfSwitch, 0, 4⟩, ⟨.irq, 0, 5⟩]

/-- **THE FIRST OF TWO IRQ DIOS IS NOT HEARD**: pin 3 is armed, but the mask of
    the callback is that of pin 5. -/
theorem first_irq_dio_unheard :
    (lr20xxInit allSucceed twoIrqDios idleGpio).1 = 0
      ∧ scheduled .globalThread (some ()) (loraTransceiverBoardEnableInterrupt
          twoIrqDios (lr20xxInit allSucceed twoIrqDios idleGpio).2) 0 3 true = []
      ∧ ¬ EveryIrqDioHeard .globalThread () twoIrqDios := by
  refine ⟨rfl, by decide, ?_⟩
  intro h
  have hfirst := (h allSucceed idleGpio (fun _ => List.not_mem_nil) rfl).1 (0, 3)
    (by decide)
  exact absurd hfirst (by decide)

end Lr20xxBoard
