/-! # The FLRP calls of the LoRaWAN sample

    `flrp_api.c` turns what the shell and the downlinks ask for into calls of the
    FLRP engine.  The engine is not part of the repository: each of its calls may
    fail, and then leaves it as it was, so a command comes with the results of
    the calls it makes.  Of the engine the model keeps what a successful call
    gives it.

    `flrp_api_init` reports success only if each of its calls succeeded, and
    `flrp_api_set_burst_target_per` stops the listening on its way; the lemmas
    say what both leave. -/

namespace FlrpApi

/-- `SMTC_FLRP_EUI_LENGTH` bytes. -/
abbrev Eui : Type := Fin 8 → BitVec 8

/-- `FLRP_API_MENU_KEY_BYTE_SIZE` bytes. -/
abbrev Key : Type := Fin 16 → BitVec 8

inductive FreqPlan where
  | freq865MHz
  | freq2GHz4
  deriving DecidableEq, Repr

/-- `smtc_flrp_api_config_t`. -/
structure Config where
  devEui : Eui
  cryptoEnabled : Bool
  freqPlan : FreqPlan
  crystalError : Nat

/-- What the engine was given and does.  `lastInit` is what `flrp_api_init`
    returned last. -/
structure Engine where
  config : Option Config
  listening : Bool
  acceptedKey : Option Key
  burstTargetPer : Option (BitVec 8)
  lastInit : Option Bool

/-- Whether the calls of a command succeed.  What a successful `smtc_flrp_init`
    makes of the periodic listening is `listensAfterInit`. -/
structure Calls where
  init : Bool
  listensAfterInit : Bool
  setKey : Bool
  start : Bool
  prepare : Bool
  stop : Bool
  setRadioConfig : Bool
  initiate : Bool

/-! ## The engine -/

section Engine

variable (c : Calls)

def smtcFlrpInit (config : Config) (e : Engine) : Engine :=
  if c.init then
    { e with config := some config, listening := c.listensAfterInit }
  else e

def smtcFlrpCryptoSetKey (key : Key) (e : Engine) : Engine :=
  if c.setKey then { e with acceptedKey := some key } else e

def smtcFlrpStartPeriodicListening (e : Engine) : Engine :=
  if c.start then { e with listening := true } else e

def smtcFlrpStopPeriodicListening (e : Engine) : Engine :=
  if c.stop then { e with listening := false } else e

def smtcFlrpSetNewRadioConfig (burstTargetPer : BitVec 8) (e : Engine) : Engine :=
  if c.setRadioConfig then { e with burstTargetPer := some burstTargetPer } else e

/-! ## `flrp_api.c` -/

def flrpApiSetKey (key : Key) (e : Engine) : Bool × Engine :=
  (c.setKey, smtcFlrpCryptoSetKey c key e)

def flrpApiStartListening (e : Engine) : Bool × Engine :=
  (c.start, smtcFlrpStartPeriodicListening c e)

def flrpApiStopListening (e : Engine) : Bool × Engine :=
  (c.stop, smtcFlrpStopPeriodicListening c e)

/-- A transfer leaves the periodic listening as it is. -/
def flrpApiInitiateTx (_target : Eui) (e : Engine) : Bool × Engine := (c.initiate, e)

@[inherit_doc flrpApiInitiateTx]
def flrpApiInitiateRx (_target : Eui) (e : Engine) : Bool × Engine := (c.initiate, e)

def flrpApiInit (deviceEui : Eui) (key : Key)
    (cryptoEnabled isLowFrequency listening : Bool) (e : Engine) : Bool × Engine :=
  let config : Config :=
    { devEui := deviceEui
      cryptoEnabled
      freqPlan := if isLowFrequency then .freq865MHz else .freq2GHz4
      crystalError := 10 }
  let e := smtcFlrpInit c config e
  -- what smtc_flrp_crypto_init returns is not looked at
  let (ret, e) := flrpApiSetKey c key e
  let (returnCode, e) :=
    if listening then
      (c.init && c.start && c.prepare, smtcFlrpStartPeriodicListening c e)
    else (c.init, e)
  let ret := returnCode && ret
  (ret, { e with lastInit := some ret })

/-- The stop that comes first is not checked. -/
def flrpApiSetBurstTargetPer (burstTargetPer : BitVec 8) (restartListening : Bool)
    (e : Engine) : Bool × Engine :=
  let e := smtcFlrpStopPeriodicListening c e
  let e := smtcFlrpSetNewRadioConfig c burstTargetPer e
  if restartListening then
    (c.setRadioConfig && c.start, smtcFlrpStartPeriodicListening c e)
  else (c.setRadioConfig, e)

end Engine

/-! ## What the calls leave -/

section Specs

variable {c : Calls} {e : Engine}

/-- The key that the engine has after it was offered one. -/
@[simp] theorem smtcFlrpCryptoSetKey_acceptedKey (key : Key) :
    (smtcFlrpCryptoSetKey c key e).acceptedKey
      = if c.setKey then some key else e.acceptedKey := by
  rw [smtcFlrpCryptoSetKey]
  cases c.setKey <;> rfl

@[simp] theorem smtcFlrpCryptoSetKey_listening (key : Key) :
    (smtcFlrpCryptoSetKey c key e).listening = e.listening := by
  rw [smtcFlrpCryptoSetKey]
  cases c.setKey <;> rfl

@[simp] theorem smtcFlrpCryptoSetKey_lastInit (key : Key) :
    (smtcFlrpCryptoSetKey c key e).lastInit = e.lastInit := by
  rw [smtcFlrpCryptoSetKey]
  cases c.setKey <;> rfl

@[simp] theorem smtcFlrpInit_acceptedKey (config : Config) :
    (smtcFlrpInit c config e).acceptedKey = e.acceptedKey := by
  rw [smtcFlrpInit]
  cases c.init <;> rfl

@[simp] theorem smtcFlrpInit_listening (config : Config) :
    (smtcFlrpInit c config e).listening
      = if c.init then c.listensAfterInit else e.listening := by
  rw [smtcFlrpInit]
  cases c.init <;> rfl

@[simp] theorem smtcFlrpStartPeriodicListening_acceptedKey :
    (smtcFlrpStartPeriodicListening c e).acceptedKey = e.acceptedKey := by
  rw [smtcFlrpStartPeriodicListening]
  cases c.start <;> rfl

@[simp] theorem smtcFlrpStartPeriodicListening_lastInit :
    (smtcFlrpStartPeriodicListening c e).lastInit = e.lastInit := by
  rw [smtcFlrpStartPeriodicListening]
  cases c.start <;> rfl

@[simp] theorem smtcFlrpStartPeriodicListening_listening :
    (smtcFlrpStartPeriodicListening c e).listening = (c.start || e.listening) := by
  rw [smtcFlrpStartPeriodicListening]
  cases c.start <;> rfl

@[simp] theorem smtcFlrpStopPeriodicListening_acceptedKey :
    (smtcFlrpStopPeriodicListening c e).acceptedKey = e.acceptedKey := by
  rw [smtcFlrpStopPeriodicListening]
  cases c.stop <;> rfl

@[simp] theorem smtcFlrpStopPeriodicListening_lastInit :
    (smtcFlrpStopPeriodicListening c e).lastInit = e.lastInit := by
  rw [smtcFlrpStopPeriodicListening]
  cases c.stop <;> rfl

@[simp] theorem smtcFlrpStopPeriodicListening_listening :
    (smtcFlrpStopPeriodicListening c e).listening = (!c.stop && e.listening) := by
  rw [smtcFlrpStopPeriodicListening]
  cases c.stop <;> rfl

@[simp] theorem smtcFlrpSetNewRadioConfig_kept (per : BitVec 8) :
    (smtcFlrpSetNewRadioConfig c per e).acceptedKey = e.acceptedKey
      ∧ (smtcFlrpSetNewRadioConfig c per e).lastInit = e.lastInit
      ∧ (smtcFlrpSetNewRadioConfig c per e).listening = e.listening := by
  rw [smtcFlrpSetNewRadioConfig]
  cases c.setRadioConfig <;> exact ⟨rfl, rfl, rfl⟩

variable {deviceEui : Eui} {key : Key}
  {cryptoEnabled isLowFrequency listening : Bool}

/-- **SUCCESS OF `flrp_api_init`** is the success of each of its calls. -/
theorem flrpApiInit_ret :
    (flrpApiInit c deviceEui key cryptoEnabled isLowFrequency listening e).1 = true
      ↔ c.init = true ∧ c.setKey = true
        ∧ (listening = true → c.start = true ∧ c.prepare = true) := by
  cases listening with
  | true => simp [flrpApiInit, flrpApiSetKey, and_assoc, and_comm, and_left_comm]
  | false => simp [flrpApiInit, flrpApiSetKey]

/-- The key is taken or not, whatever becomes of the rest. -/
theorem flrpApiInit_acceptedKey :
    (flrpApiInit c deviceEui key cryptoEnabled isLowFrequency listening
        e).2.acceptedKey
      = if c.setKey then some key else e.acceptedKey := by
  cases listening <;> simp [flrpApiInit, flrpApiSetKey]

/-- After a success the engine listens if it was asked to, and otherwise as
    `smtc_flrp_init` left it. -/
theorem flrpApiInit_listening
    (h : (flrpApiInit c deviceEui key cryptoEnabled isLowFrequency listening
      e).1 = true) :
    (flrpApiInit c deviceEui key cryptoEnabled isLowFrequency listening
        e).2.listening
      = (listening || c.listensAfterInit) := by
  obtain ⟨hinit, -, hlistening⟩ := flrpApiInit_ret.mp h
  cases listening with
  | true => simp [flrpApiInit, flrpApiSetKey, (hlistening rfl).1]
  | false => simp [flrpApiInit, flrpApiSetKey, hinit]

/-- What a new burst target leaves of the listening. -/
theorem flrpApiSetBurstTargetPer_listening (per : BitVec 8) (restart : Bool) :
    (flrpApiSetBurstTargetPer c per restart e).2.listening
      = ((restart && c.start) || (!c.stop && e.listening)) := by
  cases restart <;> simp [flrpApiSetBurstTargetPer]

/-- It is no matter of the key or of the last initialisation. -/
theorem flrpApiSetBurstTargetPer_kept (per : BitVec 8) (restart : Bool) :
    (flrpApiSetBurstTargetPer c per restart e).2.acceptedKey = e.acceptedKey
      ∧ (flrpApiSetBurstTargetPer c per restart e).2.lastInit = e.lastInit := by
  cases restart <;> simp [flrpApiSetBurstTargetPer]

end Specs

end FlrpApi
