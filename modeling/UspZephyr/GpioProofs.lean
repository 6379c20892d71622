import Mathlib.Logic.Function.Basic
import Mathlib.Data.List.Basic

/-! # GPIO ports and their callbacks

    The interrupt side of the operating system's GPIO drivers: callback objects
    with a handler and a pin mask, a list of them on each port and a trigger on
    each pin.  Initialising an object overwrites its handler and its mask,
    whatever lists it is on; adding it to a port moves it to the front of that
    port's list; an edge runs the linked callbacks whose mask has the pin.

    The loops of a driver that does one of these for each of its pins are folds,
    and the lemmas say what a fold leaves. -/

namespace Gpio

/-- What the interrupt of a pin is configured for. -/
inductive Trigger where
  | edgeToActive
  | edgeToInactive
  | edgeBoth
  | off
  deriving DecidableEq, Repr

/-- A change to `level` is an edge that the trigger asks for. -/
def Trigger.asksFor : Trigger → Bool → Bool
  | .edgeToActive, level => level
  | .edgeToInactive, level => !level
  | .edgeBoth, _ => true
  | .off, _ => false

/-- `struct gpio_callback`, without its place in a list. -/
structure Callback (Handler : Type) where
  handler : Handler
  pinMask : BitVec 32

/-- The ports, the callback objects and the pin interrupts. -/
structure State (Port Obj Handler : Type) where
  callbacks : Obj → Callback Handler
  linked : Port → List Obj
  trigger : Port → Fin 32 → Trigger

/-- `BIT( pin )`. -/
def bit (pin : Fin 32) : BitVec 32 := BitVec.twoPow 32 pin

variable {Port Obj Handler : Type}

/-- `gpio_init_callback`. -/
def gpioInitCallback [DecidableEq Obj] (obj : Obj) (handler : Handler) (pinMask : BitVec 32)
    (g : State Port Obj Handler) : State Port Obj Handler :=
  { g with callbacks := Function.update g.callbacks obj ⟨handler, pinMask⟩ }

/-- `gpio_add_callback`, when it succeeds. -/
def gpioAddCallback [DecidableEq Port] [DecidableEq Obj] (port : Port)
    (obj : Obj) (g : State Port Obj Handler) : State Port Obj Handler :=
  { g with
    linked := Function.update g.linked port (obj :: (g.linked port).erase obj) }

/-- `gpio_pin_interrupt_configure_dt`. -/
def gpioPinInterruptConfigure [DecidableEq Port] (port : Port) (pin : Fin 32)
    (trigger : Trigger) (g : State Port Obj Handler) : State Port Obj Handler :=
  { g with
    trigger := fun p k =>
      if p = port ∧ k = pin then trigger else g.trigger p k }

/-- The callbacks run when the pin goes to `level`, each with its object. -/
def edge (g : State Port Obj Handler) (port : Port) (pin : Fin 32)
    (level : Bool) : List (Handler × Obj) :=
  if (g.trigger port pin).asksFor level then
    ((g.linked port).filter
        (fun obj => (g.callbacks obj).pinMask.getLsbD pin)).map
      (fun obj => ((g.callbacks obj).handler, obj))
  else []

/-- Which callbacks an edge runs. -/
theorem mem_edge {g : State Port Obj Handler} {port : Port} {pin : Fin 32}
    {level : Bool} {h : Handler} {obj : Obj} :
    (h, obj) ∈ edge g port pin level
      ↔ (g.trigger port pin).asksFor level = true ∧ obj ∈ g.linked port
        ∧ (g.callbacks obj).pinMask.getLsbD pin = true
        ∧ (g.callbacks obj).handler = h := by
  rw [edge]
  by_cases ht : (g.trigger port pin).asksFor level = true
  · simp only [ht, if_true, true_and, List.mem_map, List.mem_filter,
      Prod.mk.injEq]
    constructor
    · rintro ⟨o, ⟨hmem, hmask⟩, hh, rfl⟩
      exact ⟨hmem, hmask, hh⟩
    · rintro ⟨hmem, hmask, hh⟩
      exact ⟨obj, ⟨hmem, hmask⟩, hh, rfl⟩
  · simp [ht]

/-- A mask of one pin has that pin and no other. -/
@[simp] theorem bit_getLsbD (pin k : Fin 32) :
    (bit pin).getLsbD k = decide (pin = k) := by
  rw [bit, BitVec.getLsbD_twoPow, decide_eq_true pin.isLt, Bool.true_and]
  exact decide_eq_decide.mpr Fin.ext_iff.symm

/-! ## One callback object for a list of pins -/

section Register

variable [DecidableEq Port] [DecidableEq Obj] {obj : Obj} {handler : Handler}

/-- The object initialised for, and added to, one pin after another. -/
def registerAll (obj : Obj) (handler : Handler) (pins : List (Port × Fin 32))
    (g : State Port Obj Handler) : State Port Obj Handler :=
  pins.foldl (fun g p =>
    gpioAddCallback p.1 obj (gpioInitCallback obj handler (bit p.2) g)) g

@[simp] theorem registerAll_cons (p : Port × Fin 32)
    (ps : List (Port × Fin 32)) (g : State Port Obj Handler) :
    registerAll obj handler (p :: ps) g
      = registerAll obj handler ps (gpioAddCallback p.1 obj
          (gpioInitCallback obj handler (bit p.2) g)) := rfl

/-- Registering arms nothing. -/
@[simp] theorem registerAll_trigger (ps : List (Port × Fin 32))
    (g : State Port Obj Handler) :
    (registerAll obj handler ps g).trigger = g.trigger := by
  induction ps generalizing g with
  | nil => rfl
  | cons p ps ih =>
      rw [registerAll_cons, ih]
      rfl

/-- **THE OBJECT IS ON EVERY PORT** it was added to. -/
theorem mem_registerAll_linked {ps : List (Port × Fin 32)}
    {g : State Port Obj Handler} {port : Port} :
    obj ∈ (registerAll obj handler ps g).linked port
      ↔ obj ∈ g.linked port ∨ ∃ p ∈ ps, p.1 = port := by
  induction ps generalizing g with
  | nil => simp [registerAll]
  | cons p ps ih =>
      have hadd : obj ∈ (gpioAddCallback p.1 obj (gpioInitCallback obj handler
          (bit p.2) g)).linked port ↔ p.1 = port ∨ obj ∈ g.linked port := by
        show obj ∈ Function.update g.linked p.1 _ port ↔ _
        by_cases hp : p.1 = port
        · subst hp
          simp
        · rw [Function.update_of_ne (Ne.symm hp)]
          exact (or_iff_right hp).symm
      rw [registerAll_cons, ih, hadd, List.exists_mem_cons_iff]
      exact or_assoc.trans or_left_comm

/-- **THE LAST PIN WINS**: the mask is that of the pin the object was
    initialised for last. -/
theorem registerAll_callback (ps : List (Port × Fin 32)) (p : Port × Fin 32)
    (g : State Port Obj Handler) :
    (registerAll obj handler (ps ++ [p]) g).callbacks obj
      = ⟨handler, bit p.2⟩ := by
  rw [registerAll, List.foldl_append]
  show Function.update _ obj _ obj = _
  exact Function.update_self ..

end Register

section Configure

variable [DecidableEq Port] {trigger : Trigger}

/-- The interrupts of a list of pins configured alike. -/
def configureAll (trigger : Trigger) (pins : List (Port × Fin 32))
    (g : State Port Obj Handler) : State Port Obj Handler :=
  pins.foldl (fun g p => gpioPinInterruptConfigure p.1 p.2 trigger g) g

@[simp] theorem configureAll_cons (p : Port × Fin 32)
    (ps : List (Port × Fin 32)) (g : State Port Obj Handler) :
    configureAll trigger (p :: ps) g
      = configureAll trigger ps
          (gpioPinInterruptConfigure p.1 p.2 trigger g) := rfl

/-- Configuring interrupts moves no callback. -/
theorem configureAll_callbacks (ps : List (Port × Fin 32))
    (g : State Port Obj Handler) :
    (configureAll trigger ps g).callbacks = g.callbacks
      ∧ (configureAll trigger ps g).linked = g.linked := by
  induction ps generalizing g with
  | nil => exact ⟨rfl, rfl⟩
  | cons p ps ih =>
      rw [configureAll_cons]
      exact ih _

theorem configureAll_eq (ps : List (Port × Fin 32))
    (g : State Port Obj Handler) :
    configureAll trigger ps g
      = { g with trigger := (configureAll trigger ps g).trigger } := by
  obtain ⟨hcallbacks, hlinked⟩ : (configureAll trigger ps g).callbacks = _ ∧ _ :=
    configureAll_callbacks ps g
  rw [← hcallbacks, ← hlinked]

/-- What is armed depends on what was armed before, not on the callbacks. -/
theorem configureAll_congr (ps : List (Port × Fin 32))
    {g g' : State Port Obj Handler} (h : g.trigger = g'.trigger) :
    (configureAll trigger ps g).trigger
      = (configureAll trigger ps g').trigger := by
  induction ps generalizing g g' with
  | nil => exact h
  | cons p ps ih =>
      rw [configureAll_cons, configureAll_cons]
      refine ih ?_
      show (fun _ _ => ite _ _ _) = fun _ _ => ite _ _ _
      rw [h]

/-- The other pins keep their trigger. -/
theorem configureAll_of_not_mem {ps : List (Port × Fin 32)}
    {g : State Port Obj Handler} {port : Port} {pin : Fin 32}
    (h : (port, pin) ∉ ps) :
    (configureAll trigger ps g).trigger port pin = g.trigger port pin := by
  induction ps generalizing g with
  | nil => rfl
  | cons p ps ih =>
      obtain ⟨hhead, htail⟩ := not_or.mp (mt List.mem_cons.mpr h)
      rw [configureAll_cons, ih htail]
      show (if port = p.1 ∧ pin = p.2 then trigger else g.trigger port pin) = _
      exact if_neg fun hp => hhead (Prod.ext hp.1 hp.2)

/-- Every pin of the list is configured. -/
theorem configureAll_of_mem {ps : List (Port × Fin 32)}
    {g : State Port Obj Handler} {port : Port} {pin : Fin 32}
    (h : (port, pin) ∈ ps) :
    (configureAll trigger ps g).trigger port pin = trigger := by
  induction ps generalizing g with
  | nil => exact nomatch h
  | cons p ps ih =>
      rw [configureAll_cons]
      by_cases hmem : (port, pin) ∈ ps
      · exact ih hmem
      · rw [configureAll_of_not_mem hmem]
        -- not among the later pins, so it is the one configured here
        obtain rfl : (port, pin) = p :=
          (List.mem_cons.mp h).resolve_right hmem
        exact if_pos ⟨rfl, rfl⟩

end Configure

/-- **WHAT ONE OBJECT HEARS** that was registered for the pins up to `last`: the
    edges asked for, on every port of the pins, of the pin number of `last`. -/
theorem mem_edge_registered [DecidableEq Port] [DecidableEq Obj] {obj : Obj}
    {handler : Handler} {g : State Port Obj Handler}
    (hfree : ∀ port, obj ∉ g.linked port) {trigger : Trigger}
    {armed pins ps : List (Port × Fin 32)} {last : Port × Fin 32}
    (hlast : pins = ps ++ [last]) {port : Port} {pin : Fin 32} {level : Bool} :
    (handler, obj) ∈ edge (configureAll trigger armed
        (registerAll obj handler pins g)) port pin level
      ↔ ((configureAll trigger armed g).trigger port pin).asksFor level = true
        ∧ (∃ p ∈ pins, p.1 = port) ∧ last.2 = pin := by
  obtain ⟨hcallbacks, hlinked⟩ : (configureAll trigger armed (registerAll obj
      handler pins g)).callbacks = _ ∧ _ := configureAll_callbacks armed _
  have hcallback : (registerAll obj handler pins g).callbacks obj
      = ⟨handler, bit last.2⟩ := by
    rw [hlast]
    exact registerAll_callback ps last g
  have htrigger : (configureAll trigger armed (registerAll obj handler pins
      g)).trigger = (configureAll trigger armed g).trigger :=
    configureAll_congr armed (registerAll_trigger pins g)
  rw [mem_edge, htrigger, hcallbacks, hlinked, mem_registerAll_linked, hcallback,
    bit_getLsbD]
  simp only [hfree port, false_or, decide_eq_true_eq, and_true]

section RegisterEach

variable [DecidableEq Port] [DecidableEq Obj]

/-- An object of its own for a pin. -/
structure Registration (Port Obj Handler : Type) where
  obj : Obj
  handler : Handler
  port : Port
  pin : Fin 32

/-- It is initialised, and added to the port of the pin. -/
def Registration.apply (r : Registration Port Obj Handler)
    (g : State Port Obj Handler) : State Port Obj Handler :=
  gpioAddCallback r.port r.obj (gpioInitCallback r.obj r.handler (bit r.pin) g)

/-- One registration after another. -/
def registerEach (rs : List (Registration Port Obj Handler))
    (g : State Port Obj Handler) : State Port Obj Handler :=
  rs.foldl (fun g r => r.apply g) g

theorem registerEach_append (rs qs : List (Registration Port Obj Handler))
    (g : State Port Obj Handler) :
    registerEach (rs ++ qs) g = registerEach qs (registerEach rs g) :=
  List.foldl_append

/-- Those that are for a pin. -/
def registeredAt (rs : List (Registration Port Obj Handler)) (port : Port)
    (pin : Fin 32) : List (Registration Port Obj Handler) :=
  rs.filter fun r => decide (r.port = port ∧ r.pin = pin)

/-- The triggers are not touched. -/
theorem registerEach_trigger (rs : List (Registration Port Obj Handler))
    (g : State Port Obj Handler) (t : Port → Fin 32 → Trigger) :
    registerEach rs { g with trigger := t }
      = { registerEach rs g with trigger := t } := by
  induction rs generalizing g with
  | nil => rfl
  | cons r rs ih => exact ih (r.apply g)

/-- A new object is heard first on its pin, and the others as before. -/
theorem edge_apply {r : Registration Port Obj Handler}
    {g : State Port Obj Handler} (hnew : ∀ port, r.obj ∉ g.linked port)
    (port : Port) (pin : Fin 32) (level : Bool) :
    edge (r.apply g) port pin level
      = (if (g.trigger port pin).asksFor level = true ∧ r.port = port
            ∧ r.pin = pin then [(r.handler, r.obj)] else [])
        ++ edge g port pin level := by
  have hcallback : (r.apply g).callbacks r.obj = ⟨r.handler, bit r.pin⟩ :=
    Function.update_self ..
  have hothers : ∀ obj ∈ g.linked port,
      (r.apply g).callbacks obj = g.callbacks obj := by
    intro obj hobj
    have hne : obj ≠ r.obj := by
      rintro rfl
      exact hnew port hobj
    exact Function.update_of_ne hne ..
  -- what is linked already runs as it did
  have hold : ((g.linked port).filter fun obj =>
        ((r.apply g).callbacks obj).pinMask.getLsbD pin).map
          (fun obj => (((r.apply g).callbacks obj).handler, obj))
      = ((g.linked port).filter fun obj =>
        (g.callbacks obj).pinMask.getLsbD pin).map
          (fun obj => ((g.callbacks obj).handler, obj)) := by
    rw [List.filter_congr fun obj hobj => by rw [hothers obj hobj]]
    refine List.map_congr_left fun obj hobj => ?_
    rw [hothers obj (List.mem_of_mem_filter hobj)]
  rw [edge, edge]
  show (if (g.trigger port pin).asksFor level = true then _ else []) = _
  by_cases ht : (g.trigger port pin).asksFor level = true
  · rw [if_pos ht, if_pos ht]
    by_cases hport : r.port = port
    · subst hport
      have hlinked : (r.apply g).linked r.port = r.obj :: g.linked r.port := by
        show Function.update g.linked r.port
          (r.obj :: (g.linked r.port).erase r.obj) r.port = _
        rw [Function.update_self, List.erase_of_not_mem (hnew r.port)]
      rw [hlinked, List.filter_cons, hcallback, bit_getLsbD]
      by_cases hpin : r.pin = pin
      · rw [if_pos (decide_eq_true hpin), if_pos ⟨ht, rfl, hpin⟩, List.map_cons,
          hold, hcallback]
        rfl
      · rw [if_neg (by simpa using hpin), if_neg fun h => hpin h.2.2, hold]
        rfl
    · have hlinked : (r.apply g).linked port = g.linked port :=
        Function.update_of_ne (Ne.symm hport) ..
      rw [hlinked, hold, if_neg fun h => hport h.2.1]
      rfl
  · rw [if_neg ht, if_neg ht, if_neg fun h => ht h.1]
    rfl

/-- **EACH OBJECT IS HEARD ON ITS PIN**, the last registered first, beside what
    was heard before. -/
theorem edge_registerEach {rs : List (Registration Port Obj Handler)}
    {g : State Port Obj Handler} (hdistinct : (rs.map (·.obj)).Nodup)
    (hnew : ∀ r ∈ rs, ∀ port, r.obj ∉ g.linked port) (port : Port)
    (pin : Fin 32) (level : Bool) :
    edge (registerEach rs g) port pin level
      = (if (g.trigger port pin).asksFor level = true then
          (registeredAt rs port pin).reverse.map fun r => (r.handler, r.obj)
        else [])
        ++ edge g port pin level := by
  induction rs generalizing g with
  | nil => simp [registerEach, registeredAt]
  | cons r rs ih =>
      obtain ⟨hne, hdistinct⟩ := List.nodup_cons.mp hdistinct
      have hnew' : ∀ q ∈ rs, ∀ p, q.obj ∉ (r.apply g).linked p := by
        intro q hq p hmem
        have hqr : q.obj ≠ r.obj := fun h =>
          hne (List.mem_map.mpr ⟨q, hq, h⟩)
        have hold := hnew q (List.mem_cons_of_mem r hq) p
        by_cases hp : p = r.port
        · subst hp
          have hlinked : q.obj ∈ r.obj :: (g.linked r.port).erase r.obj := by
            have h : q.obj ∈ Function.update g.linked r.port _ r.port := hmem
            rwa [Function.update_self] at h
          exact hold (List.mem_of_mem_erase
            ((List.mem_cons.mp hlinked).resolve_left hqr))
        · have h : q.obj ∈ Function.update g.linked r.port _ p := hmem
          rw [Function.update_of_ne hp] at h
          exact hold h
      have hfirst := hnew r List.mem_cons_self
      show edge (registerEach rs (r.apply g)) port pin level = _
      rw [ih hdistinct hnew', edge_apply hfirst]
      show (if (g.trigger port pin).asksFor level = true then _ else []) ++ _ = _
      rw [registeredAt, registeredAt, List.filter_cons]
      by_cases ht : (g.trigger port pin).asksFor level = true
      · rw [if_pos ht, if_pos ht]
        by_cases hat : r.port = port ∧ r.pin = pin
        · rw [if_pos ⟨ht, hat⟩, if_pos (decide_eq_true hat), List.reverse_cons,
            List.map_append, List.append_assoc]
          rfl
        · rw [if_neg fun h => hat h.2, if_neg (by simpa using hat)]
          rfl
      · rw [if_neg ht, if_neg ht, if_neg fun h => ht h.1]
        rfl

end RegisterEach

end Gpio
