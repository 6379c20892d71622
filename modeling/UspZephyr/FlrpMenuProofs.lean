import UspZephyr.FlrpApiProofs
import UspZephyr.StepRunProofs
import Mathlib.Logic.Function.Basic
import Mathlib.Data.List.FinRange

/-! # The FLRP menu and the engine behind it

    The shell commands and the LoRaWAN downlinks of the FLRP sample keep their
    own copy of what they told the engine: whether it was initialised, whether
    it listens, and its key.  `Mirrors` says that the copy is right.

    Some commands write the copy before, or without, asking what came of the
    calls.  `Keeps` says for each command which results it can bear, and
    `mirrors_run_iff` that the copy is right throughout a run exactly when every
    command of the run bears the results it got. -/

namespace FlrpMenu

open FlrpApi StepRun

def EINVAL : Int := 22
def EFAULT : Int := 14

/-! ## Arguments -/

/-- The characters of a C string before the final NUL. -/
abbrev CString : Type := List Char

/-- `ULONG_MAX` of a 32-bit target. -/
def ULONG_MAX : Nat := 0xFFFFFFFF

def isspace (c : Char) : Bool :=
  c.toNat = 32 || (decide (9 ≤ c.toNat) && decide (c.toNat ≤ 13))

/-- The value of a digit or letter, and 36 for anything else. -/
def digitValue (c : Char) : Nat :=
  let n := c.toNat
  if 48 ≤ n ∧ n ≤ 57 then n - 48
  else if 65 ≤ n ∧ n ≤ 90 then n - 65 + 10
  else if 97 ≤ n ∧ n ≤ 122 then n - 97 + 10
  else 36

/-- The number that the digits at the front make, and the rest. -/
def digits (base acc : Nat) : CString → Nat × CString
  | [] => (acc, [])
  | c :: s =>
      if digitValue c < base then digits base (acc * base + digitValue c) s
      else (acc, c :: s)

/-- An optional sign. -/
def sign : CString → Bool × CString
  | '-' :: s => (true, s)
  | '+' :: s => (false, s)
  | s => (false, s)

/-- The base of the number, and the number without its prefix. -/
def radix (base : Nat) (s : CString) : Nat × CString :=
  match s with
  | '0' :: x :: d :: s' =>
      if (base = 0 ∨ base = 16) ∧ (x = 'x' ∨ x = 'X') ∧ digitValue d < 16 then
        (16, d :: s')
      else (if base = 0 then 8 else base, s)
  | '0' :: _ => (if base = 0 then 8 else base, s)
  | _ => (if base = 0 then 10 else base, s)

/-- `strtoul`: the value, and the string at `*endptr`. -/
def strtoul (base : Nat) (s : CString) : Nat × CString :=
  let (negative, body) := sign (s.dropWhile isspace)
  let (base, body) := radix base body
  let (value, rest) := digits base 0 body
  if rest.length = body.length then (0, s)
  else if ULONG_MAX < value then (ULONG_MAX, rest)
  else if negative then ((ULONG_MAX + 1 - value) % (ULONG_MAX + 1), rest)
  else (value, rest)

/-- The two characters that give the byte `i`. -/
def byteStr (hexString : CString) (i : Nat) : CString :=
  if hexString.length = 2 then hexString else (hexString.drop (2 * i)).take 2

/-- The loop over the array: a byte that is no number ends it. -/
def writeBytes {n : Nat} (hexString : CString) (array : Fin n → BitVec 8) :
    List (Fin n) → Bool × (Fin n → BitVec 8)
  | [] => (true, array)
  | i :: is =>
      let (byte, end_) := strtoul 16 (byteStr hexString i)
      if end_ ≠ [] then (false, array)
      else writeBytes hexString (Function.update array i (BitVec.ofNat 8 byte)) is

/-- `flrp_api_menu_get_array_from_hex_string`, with the array it leaves. -/
def getArrayFromHexString {n : Nat} (hexString : CString)
    (array : Fin n → BitVec 8) (acceptSingleByte : Bool) :
    Bool × (Fin n → BitVec 8) :=
  if hexString.length = n * 2 ∨ (acceptSingleByte = true ∧ hexString.length = 2) then
    writeBytes hexString array (List.finRange n)
  else (false, array)

/-! ## The menu -/

/-- The static variables of `flrp_api_menu.c`. -/
structure Menu where
  listening : Bool
  isDeviceEuiSet : Bool
  deviceEui : Eui
  targetDeviceEui : Eui
  key : Key
  cryptoEnabled : Bool
  isLowFrequency : Bool

structure State where
  menu : Menu
  engine : Engine

/-- After a reset. -/
def boot : State where
  menu :=
    { listening := false
      isDeviceEuiSet := false
      deviceEui := fun _ => 0
      targetDeviceEui := fun _ => 0
      key := fun _ => 0
      cryptoEnabled := true
      isLowFrequency := true }
  engine := ⟨none, false, none, none, none⟩

def defaultDeviceEui : Eui := fun i => if i = 7 then 1 else 0

section Menu

variable (c : Calls) (s : State)

/-- `flrp_api_menu_apply_startup_test_defaults`. -/
def applyStartupTestDefaults : State :=
  if s.menu.isDeviceEuiSet then s
  else
    let (ret, engine) := flrpApiInit c defaultDeviceEui s.menu.key false
      s.menu.isLowFrequency true s.engine
    { menu :=
        { s.menu with
          deviceEui := defaultDeviceEui
          targetDeviceEui := fun _ => 0
          cryptoEnabled := false
          listening := true
          isDeviceEuiSet := ret }
      engine }

/-- `flrp_api_menu_init`. -/
def menuInit (deviceEui : Eui) (key : Key)
    (cryptoEnabled isLowFrequency listening : Bool) : Bool × State :=
  let (ret, engine) := flrpApiInit c deviceEui key cryptoEnabled isLowFrequency
    listening s.engine
  (ret,
    { menu :=
        { listening
          isDeviceEuiSet := ret
          deviceEui
          targetDeviceEui := fun _ => 0
          key
          cryptoEnabled
          isLowFrequency }
      engine })

/-- `flrp_api_menu_initiate_transfer`. -/
def menuInitiateTransfer (transmit : Bool) (target : Eui) : Bool × State :=
  if s.menu.isDeviceEuiSet then
    let (ret, engine) :=
      if transmit then flrpApiInitiateTx c target s.engine
      else flrpApiInitiateRx c target s.engine
    (ret, { menu := { s.menu with targetDeviceEui := target }, engine })
  else (false, s)

/-- The flag after a start or a stop that was asked for. -/
def recordListening (listening : Bool) (call : Bool × Engine) : Bool × State :=
  (call.1,
    { menu := if call.1 then { s.menu with listening } else s.menu
      engine := call.2 })

/-- `flrp_api_menu_start_listening`. -/
def menuStartListening : Bool × State :=
  if s.menu.isDeviceEuiSet then
    recordListening s true (flrpApiStartListening c s.engine)
  else (false, s)

/-- `flrp_api_menu_stop_listening`. -/
def menuStopListening : Bool × State :=
  if s.menu.isDeviceEuiSet then
    recordListening s false (flrpApiStopListening c s.engine)
  else (false, s)

/-! ## Shell commands -/

/-- The result of `flrp_api_init` is not looked at. -/
def cmdSetDeviceEui (argv : List CString) : Int × State :=
  if s.menu.isDeviceEuiSet then (0, s)
  else
    match argv with
    | [_, device, target] =>
        let (ok, deviceEui) := getArrayFromHexString device s.menu.deviceEui true
        if ok = false then
          (-EINVAL, { s with menu := { s.menu with deviceEui := fun _ => 0 } })
        else
          let (ok, targetDeviceEui) :=
            getArrayFromHexString target s.menu.targetDeviceEui true
          if ok = false then
            (-EINVAL,
              { s with
                menu :=
                  { s.menu with
                    deviceEui := fun _ => 0
                    targetDeviceEui := fun _ => 0 } })
          else
            let (_, engine) := flrpApiInit c deviceEui s.menu.key
              s.menu.cryptoEnabled s.menu.isLowFrequency true s.engine
            (0,
              { menu :=
                  { s.menu with
                    deviceEui
                    targetDeviceEui
                    isDeviceEuiSet := true
                    listening := true }
                engine })
    | _ => (-EINVAL, s)

def cmdSetTargetDeviceEui (argv : List CString) : Int × State :=
  match argv with
  | [_, target] =>
      let (ok, targetDeviceEui) :=
        getArrayFromHexString target s.menu.targetDeviceEui true
      if ok = false then
        (-EINVAL, { s with menu := { s.menu with targetDeviceEui := fun _ => 0 } })
      else (0, { s with menu := { s.menu with targetDeviceEui } })
  | _ => (-EINVAL, s)

/-- `launch_tx` and `launch_rx`. -/
def cmdLaunch (initiate : Eui → Engine → Bool × Engine) (argv : List CString) :
    Int × State :=
  if argv.length ≠ 1 then (-EINVAL, s)
  else if s.menu.isDeviceEuiSet = false then (-EINVAL, s)
  else
    let (ok, engine) := initiate s.menu.targetDeviceEui s.engine
    (if ok then 0 else -EFAULT, { s with engine })

def cmdLaunchTx : List CString → Int × State := cmdLaunch s (flrpApiInitiateTx c)

def cmdLaunchRx : List CString → Int × State := cmdLaunch s (flrpApiInitiateRx c)

/-- The characters are written to the key of the menu as they are read. -/
def cmdSetKey (argv : List CString) : Int × State :=
  match argv with
  | [_, hexString] =>
      let (ok, key) := getArrayFromHexString hexString s.menu.key true
      let s := { s with menu := { s.menu with key } }
      if ok then
        let (ok, engine) := flrpApiSetKey c key s.engine
        (if ok then 0 else -EFAULT, { s with engine })
      else (-EINVAL, s)
  | _ => (-EINVAL, s)

/-- The target that the argument of `set_per` gives, if it is one. -/
def burstTargetPer (arg : CString) : Option (BitVec 8) :=
  let (value, end_) := strtoul 0 arg
  let per := BitVec.ofNat 8 value
  if end_ ≠ [] then none else if 100 < per then none else some per

def cmdSetPer (argv : List CString) : Int × State :=
  if s.menu.isDeviceEuiSet = false then (-EINVAL, s)
  else
    match argv with
    | [_, arg] =>
        match burstTargetPer arg with
        | none => (-EINVAL, s)
        | some per =>
            let (ok, engine) :=
              flrpApiSetBurstTargetPer c per s.menu.listening s.engine
            (if ok then 0 else -EFAULT, { s with engine })
    | _ => (-EINVAL, s)

/-- `set_crypto_enabled` and `set_low_frequency`. -/
def cmdSetFlag (set : Bool → Menu) (argv : List CString) : Int × State :=
  if s.menu.isDeviceEuiSet then (-EINVAL, s)
  else
    match argv with
    | [_, ['0']] => (0, { s with menu := set false })
    | [_, ['1']] => (0, { s with menu := set true })
    | _ => (-EINVAL, s)

def cmdSetCryptoEnabled : List CString → Int × State :=
  cmdSetFlag s fun cryptoEnabled => { s.menu with cryptoEnabled }

def cmdSetLowFrequency : List CString → Int × State :=
  cmdSetFlag s fun isLowFrequency => { s.menu with isLowFrequency }

/-- `start_listening` and `stop_listening`: unlike the downlinks they do not ask
    whether the engine was initialised. -/
def cmdListening (listening : Bool) (call : Engine → Bool × Engine)
    (argv : List CString) : Int × State :=
  if argv.length ≠ 1 then (-EINVAL, s)
  else
    let (ok, s) := recordListening s listening (call s.engine)
    (if ok then 0 else -EFAULT, s)

def cmdStartListening : List CString → Int × State :=
  cmdListening s true (flrpApiStartListening c)

def cmdStopListening : List CString → Int × State :=
  cmdListening s false (flrpApiStopListening c)

/-! ## Downlinks -/

/-- `flrp_remote_cmd_id_t`. -/
def FLRP_REMOTE_CMD_ID_RESET : BitVec 8 := 0x00
def FLRP_REMOTE_CMD_ID_INIT : BitVec 8 := 0x01
def FLRP_REMOTE_CMD_ID_INIT_TRANSFER : BitVec 8 := 0x02
def FLRP_REMOTE_CMD_ID_STOP_LISTENING : BitVec 8 := 0x03
def FLRP_REMOTE_CMD_ID_START_LISTENING : BitVec 8 := 0x04

/-- `sizeof( flrp_remote_init_cmd_t )`. -/
def INIT_CMD_SIZE : Nat := 26

/-- `sizeof( flrp_remote_transmit_cmd_t )`. -/
def TRANSMIT_CMD_SIZE : Nat := 10

/-- A byte of a structure that the payload is read as. -/
def byteAt (payload : List (BitVec 8)) (i : Nat) : BitVec 8 := payload.getD i 0

/-- The `listening` bit of the options of an init command. -/
def initListening (payload : List (BitVec 8)) : Bool :=
  (byteAt payload 25).getLsbD 2

/-- The key of an init command. -/
def initKey (payload : List (BitVec 8)) : Key := fun i => byteAt payload (9 + i)

/-- `flrp_remote_handle_downlink`. -/
def flrpRemoteHandleDownlink (payload : List (BitVec 8)) : State :=
  match payload with
  | [] => s
  | cmdId :: _ =>
      if cmdId = FLRP_REMOTE_CMD_ID_RESET then
        if payload.length = 1 then boot else s
      else if cmdId = FLRP_REMOTE_CMD_ID_START_LISTENING then
        if payload.length = 1 then (menuStartListening c s).2 else s
      else if cmdId = FLRP_REMOTE_CMD_ID_STOP_LISTENING then
        if payload.length = 1 then (menuStopListening c s).2 else s
      else if cmdId = FLRP_REMOTE_CMD_ID_INIT then
        if payload.length = INIT_CMD_SIZE then
          (menuInit c s (fun i => byteAt payload (1 + i)) (initKey payload)
            ((byteAt payload 25).getLsbD 0) ((byteAt payload 25).getLsbD 1)
            (initListening payload)).2
        else s
      else if cmdId = FLRP_REMOTE_CMD_ID_INIT_TRANSFER then
        if payload.length = TRANSMIT_CMD_SIZE then
          (menuInitiateTransfer c s ((byteAt payload 9).getLsbD 0)
            (fun i => byteAt payload (1 + i))).2
        else s
      else s

end Menu

/-! ## Runs -/

inductive Command where
  | deviceEui
  | targetDeviceEui
  | launchTx
  | launchRx
  | setKey
  | setPer
  | setCryptoEnabled
  | setLowFrequency
  | startListening
  | stopListening

/-- What the sample is asked to do, and the results of the calls it makes. -/
inductive Event where
  | startupDefaults (c : Calls)
  | shell (command : Command) (argv : List CString) (c : Calls)
  | downlink (payload : List (BitVec 8)) (c : Calls)

def runCommand (c : Calls) (s : State) : Command → List CString → Int × State
  | .deviceEui => cmdSetDeviceEui c s
  | .targetDeviceEui => cmdSetTargetDeviceEui s
  | .launchTx => cmdLaunchTx c s
  | .launchRx => cmdLaunchRx c s
  | .setKey => cmdSetKey c s
  | .setPer => cmdSetPer c s
  | .setCryptoEnabled => cmdSetCryptoEnabled s
  | .setLowFrequency => cmdSetLowFrequency s
  | .startListening => cmdStartListening c s
  | .stopListening => cmdStopListening c s

def handle (s : State) : Event → State
  | .startupDefaults c => applyStartupTestDefaults c s
  | .shell command argv c => (runCommand c s command argv).2
  | .downlink payload c => flrpRemoteHandleDownlink c s payload

def step (s : State) (e : Event) : Option State := some (handle s e)

/-- The key is the one the engine accepted last, if it accepted one. -/
def KnownKey (e : Engine) (key : Key) : Prop :=
  ∀ k, e.acceptedKey = some k → key = k

/-- The copy of the menu is right: it takes the engine for initialised only after
    an initialisation that succeeded, then knows whether the engine listens, and
    has the key that the engine accepted last. -/
structure Mirrors (s : State) : Prop where
  set : s.menu.isDeviceEuiSet = true → s.engine.lastInit = some true
  listening : s.menu.isDeviceEuiSet = true → s.menu.listening = s.engine.listening
  key : KnownKey s.engine s.menu.key

/-! ## What the commands can bear -/

/-- `flrp_api_menu_init`: a key that is refused was known, and an engine that was
    not asked to listen does not. -/
def InitKeeps (c : Calls) (s : State) (key : Key) (listening : Bool) : Prop :=
  (c.setKey = true ∨ KnownKey s.engine key)
    ∧ (c.init = true → c.setKey = true → listening = false →
        c.listensAfterInit = false)

/-- `device_eui`: every call of the initialisation succeeds. -/
def DeviceEuiKeeps (c : Calls) (s : State) : List CString → Prop
  | [_, device, target] =>
      s.menu.isDeviceEuiSet = false →
      (getArrayFromHexString device s.menu.deviceEui true).1 = true →
      (getArrayFromHexString target s.menu.targetDeviceEui true).1 = true →
      c.init = true ∧ c.setKey = true ∧ c.start = true ∧ c.prepare = true
  | _ => True

/-- `set_key`: the key is read to its end and accepted, or what was read of it
    makes a known key. -/
def SetKeyKeeps (c : Calls) (s : State) : List CString → Prop
  | [_, hexString] =>
      let (ok, key) := getArrayFromHexString hexString s.menu.key true
      (ok = true ∧ c.setKey = true) ∨ KnownKey s.engine key
  | _ => True

/-- `set_per`: where the engine listens it starts again, or was not stopped. -/
def SetPerKeeps (c : Calls) (s : State) : List CString → Prop
  | [_, arg] =>
      s.menu.isDeviceEuiSet = true → s.menu.listening = true →
      (burstTargetPer arg).isSome = true → c.start = true ∨ c.stop = false
  | _ => True

/-- The commands bear the results of their calls. -/
def Keeps (s : State) : Event → Prop
  | .shell .deviceEui argv c => DeviceEuiKeeps c s argv
  | .shell .setKey argv c => SetKeyKeeps c s argv
  | .shell .setPer argv c => SetPerKeeps c s argv
  | .downlink payload c =>
      payload.head? = some FLRP_REMOTE_CMD_ID_INIT →
      payload.length = INIT_CMD_SIZE →
      InitKeeps c s (initKey payload) (initListening payload)
  | _ => True

/-! ## What the commands leave -/

section Commands

variable {c : Calls} {s t : State}

/-- Only the flags, the key and the engine matter. -/
theorem Mirrors.congr (h : Mirrors s)
    (hset : t.menu.isDeviceEuiSet = s.menu.isDeviceEuiSet)
    (hlistening : t.menu.listening = s.menu.listening)
    (hkey : t.menu.key = s.menu.key) (hengine : t.engine = s.engine) :
    Mirrors t := by
  constructor
  · rw [hset, hengine]
    exact h.set
  · rw [hset, hlistening, hengine]
    exact h.listening
  · rw [hkey, hengine]
    exact h.key

/-- A key after the engine was offered it. -/
theorem knownKey_offer {e e' : Engine} {key : Key}
    (h : e'.acceptedKey = if c.setKey then some key else e.acceptedKey) :
    KnownKey e' key ↔ c.setKey = true ∨ KnownKey e key := by
  rw [KnownKey, h]
  cases hkey : c.setKey with
  | true =>
      constructor
      · intro _
        exact Or.inl rfl
      · intro _ k hk
        exact Option.some.inj hk
  | false => exact (or_iff_right Bool.false_ne_true).symm

theorem applyStartupTestDefaults_mirrors (h : Mirrors s) :
    Mirrors (applyStartupTestDefaults c s) := by
  rw [applyStartupTestDefaults]
  by_cases hset : s.menu.isDeviceEuiSet = true
  · rw [if_pos hset]
    exact h
  · rw [if_neg hset]
    constructor
    · intro hret
      exact congrArg some hret
    · intro hret
      have hret : (flrpApiInit c defaultDeviceEui s.menu.key false
        s.menu.isLowFrequency true s.engine).1 = true := hret
      exact (flrpApiInit_listening hret).symm
    · show KnownKey (flrpApiInit c defaultDeviceEui s.menu.key false
        s.menu.isLowFrequency true s.engine).2 s.menu.key
      exact (knownKey_offer flrpApiInit_acceptedKey).mpr (Or.inr h.key)

theorem menuInit_mirrors_iff {deviceEui : Eui} {key : Key}
    {cryptoEnabled isLowFrequency listening : Bool} :
    Mirrors (menuInit c s deviceEui key cryptoEnabled isLowFrequency listening).2
      ↔ InitKeeps c s key listening := by
  have hkey : KnownKey (menuInit c s deviceEui key cryptoEnabled isLowFrequency
      listening).2.engine key ↔ c.setKey = true ∨ KnownKey s.engine key :=
    knownKey_offer flrpApiInit_acceptedKey
  constructor
  · intro h
    refine ⟨hkey.mp h.key, ?_⟩
    rintro hinit hsetKey rfl
    have hret : (flrpApiInit c deviceEui key cryptoEnabled isLowFrequency false
        s.engine).1 = true := flrpApiInit_ret.mpr ⟨hinit, hsetKey, nofun⟩
    exact (flrpApiInit_listening hret).symm.trans (h.listening hret).symm
  · rintro ⟨hknown, hstopped⟩
    constructor
    · intro hret
      exact congrArg some hret
    · intro hret
      obtain ⟨hinit, hsetKey, -⟩ := flrpApiInit_ret.mp hret
      refine Eq.trans ?_ (flrpApiInit_listening hret).symm
      cases listening with
      | true => rfl
      | false => exact (hstopped hinit hsetKey rfl).symm
    · exact hkey.mpr hknown

/-- The flag is set whatever the initialisation returns. -/
theorem cmdSetDeviceEui_mirrors_iff (h : Mirrors s) (argv : List CString) :
    Mirrors (cmdSetDeviceEui c s argv).2 ↔ DeviceEuiKeeps c s argv := by
  match argv with
  | [] | [_] | [_, _] | _ :: _ :: _ :: _ :: _ =>
      dsimp only [cmdSetDeviceEui]
      refine iff_of_true ?_ trivial
      cases s.menu.isDeviceEuiSet <;> exact h
  | [_, device, target] =>
      dsimp only [cmdSetDeviceEui, DeviceEuiKeeps]
      by_cases hset : s.menu.isDeviceEuiSet = true
      · rw [if_pos hset]
        refine iff_of_true h ?_
        intro hunset
        exact nomatch hset.symm.trans hunset
      rw [if_neg hset]
      rcases getArrayFromHexString device s.menu.deviceEui true with
        ⟨_ | _, deviceEui⟩
      · exact iff_of_true (h.congr rfl rfl rfl rfl) (fun _ => nofun)
      rcases getArrayFromHexString target s.menu.targetDeviceEui true with
        ⟨_ | _, targetDeviceEui⟩
      · exact iff_of_true (h.congr rfl rfl rfl rfl) (fun _ _ => nofun)
      -- both arguments are read, and the engine is initialised
      have hret := @flrpApiInit_ret c s.engine deviceEui s.menu.key
        s.menu.cryptoEnabled s.menu.isLowFrequency true
      constructor
      · intro hmirrors _ _ _
        obtain ⟨hinit, hsetKey, hlistening⟩ :=
          hret.mp (Option.some.inj (hmirrors.set rfl))
        exact ⟨hinit, hsetKey, hlistening rfl⟩
      · intro hkeeps
        obtain ⟨hinit, hsetKey, hlistening⟩ :=
          hkeeps (Bool.eq_false_iff.mpr hset) rfl rfl
        have hret := hret.mpr ⟨hinit, hsetKey, fun _ => hlistening⟩
        have hkey : KnownKey (flrpApiInit c deviceEui s.menu.key
            s.menu.cryptoEnabled s.menu.isLowFrequency true s.engine).2 s.menu.key :=
          (knownKey_offer flrpApiInit_acceptedKey).mpr (Or.inl hsetKey)
        exact ⟨fun _ => congrArg some hret,
          fun _ => (flrpApiInit_listening hret).symm, hkey⟩

/-- What was read of the key is there even if the rest is refused. -/
theorem cmdSetKey_mirrors_iff (h : Mirrors s) (argv : List CString) :
    Mirrors (cmdSetKey c s argv).2 ↔ SetKeyKeeps c s argv := by
  match argv with
  | [] | [_] | _ :: _ :: _ :: _ => exact iff_of_true h trivial
  | [_, hexString] =>
      dsimp only [cmdSetKey, SetKeyKeeps]
      rcases getArrayFromHexString hexString s.menu.key true with ⟨_ | _, key⟩
      · -- only the key of the menu has changed
        rw [or_iff_right (fun hok => nomatch hok.1)]
        constructor
        · intro hmirrors
          exact hmirrors.key
        · intro hknown
          exact ⟨h.set, h.listening, hknown⟩
      · have hkey : KnownKey (smtcFlrpCryptoSetKey c key s.engine) key
            ↔ c.setKey = true ∨ KnownKey s.engine key :=
          knownKey_offer (smtcFlrpCryptoSetKey_acceptedKey key)
        rw [and_iff_right rfl, ← hkey]
        constructor
        · intro hmirrors
          exact hmirrors.key
        · intro hknown
          -- the flags and what they tell of are not touched
          refine ⟨?_, ?_, hknown⟩
          · intro hset
            exact (smtcFlrpCryptoSetKey_lastInit key).trans (h.set hset)
          · intro hset
            exact (h.listening hset).trans (smtcFlrpCryptoSetKey_listening key).symm

/-- The flag is kept whatever the restart returns. -/
theorem cmdSetPer_mirrors_iff (h : Mirrors s) (argv : List CString) :
    Mirrors (cmdSetPer c s argv).2 ↔ SetPerKeeps c s argv := by
  match argv with
  | [] | [_] | _ :: _ :: _ :: _ =>
      dsimp only [cmdSetPer]
      refine iff_of_true ?_ trivial
      cases s.menu.isDeviceEuiSet <;> exact h
  | [_, arg] =>
      dsimp only [cmdSetPer, SetPerKeeps]
      by_cases hunset : s.menu.isDeviceEuiSet = false
      · rw [if_pos hunset]
        refine iff_of_true h ?_
        intro hset
        exact nomatch hunset.symm.trans hset
      rw [if_neg hunset]
      have hset := Bool.eq_true_of_not_eq_false hunset
      rcases burstTargetPer arg with _ | per
      · exact iff_of_true h (fun _ _ => nofun)
      obtain ⟨hkey, hlast⟩ := @flrpApiSetBurstTargetPer_kept c s.engine per
        s.menu.listening
      have hlistening := @flrpApiSetBurstTargetPer_listening c s.engine per
        s.menu.listening
      rw [← h.listening hset] at hlistening
      constructor
      · intro hmirrors _ hmenu _
        have hstill := (hmirrors.listening hset).trans hlistening
        simpa [hmenu] using hstill
      · intro hkeeps
        refine ⟨fun _ => hlast.trans (h.set hset), ?_, ?_⟩
        · intro _
          refine Eq.trans ?_ hlistening.symm
          show s.menu.listening = _
          cases hmenu : s.menu.listening with
          | false => simp
          | true =>
              rcases hkeeps hset hmenu rfl with hstart | hstop
              · simp [hstart]
              · simp [hstop]
        · intro k hk
          exact h.key k (hkey.symm.trans hk)

theorem cmdSetTargetDeviceEui_mirrors (h : Mirrors s) (argv : List CString) :
    Mirrors (cmdSetTargetDeviceEui s argv).2 := by
  match argv with
  | [] | [_] | _ :: _ :: _ :: _ => exact h
  | [_, target] =>
      dsimp only [cmdSetTargetDeviceEui]
      rcases getArrayFromHexString target s.menu.targetDeviceEui true with
        ⟨_ | _, targetDeviceEui⟩
      · exact h.congr rfl rfl rfl rfl
      · exact h.congr rfl rfl rfl rfl

/-- A transfer has no part in it. -/
theorem cmdLaunch_mirrors {initiate : Eui → Engine → Bool × Engine}
    (hinitiate : ∀ target e, (initiate target e).2 = e) (h : Mirrors s)
    (argv : List CString) : Mirrors (cmdLaunch s initiate argv).2 := by
  rw [cmdLaunch]
  by_cases hargc : argv.length ≠ 1
  · rw [if_pos hargc]
    exact h
  rw [if_neg hargc]
  by_cases hset : s.menu.isDeviceEuiSet = false
  · rw [if_pos hset]
    exact h
  · rw [if_neg hset]
    exact h.congr rfl rfl rfl (hinitiate _ _)

theorem menuInitiateTransfer_mirrors (h : Mirrors s) (transmit : Bool)
    (target : Eui) : Mirrors (menuInitiateTransfer c s transmit target).2 := by
  rw [menuInitiateTransfer]
  by_cases hset : s.menu.isDeviceEuiSet = true
  · rw [if_pos hset]
    cases transmit <;> exact h.congr rfl rfl rfl rfl
  · rw [if_neg hset]
    exact h

/-- A setting that can be chosen before the initialisation only. -/
theorem cmdSetFlag_mirrors {set : Bool → Menu} (h : Mirrors s)
    (hset : ∀ b, Mirrors { s with menu := set b }) (argv : List CString) :
    Mirrors (cmdSetFlag s set argv).2 := by
  rw [cmdSetFlag.eq_def]
  by_cases hunset : s.menu.isDeviceEuiSet = true
  · rw [if_pos hunset]
    exact h
  · rw [if_neg hunset]
    split
    · exact hset false
    · exact hset true
    · exact h

/-- A flag that follows the engine. -/
theorem recordListening_mirrors (h : Mirrors s) (listening : Bool)
    (call : Bool × Engine) (hkey : call.2.acceptedKey = s.engine.acceptedKey)
    (hlast : call.2.lastInit = s.engine.lastInit)
    (hlistening : call.2.listening
      = if call.1 then listening else s.engine.listening) :
    Mirrors (recordListening s listening call).2 := by
  obtain ⟨ok, engine⟩ := call
  have hknown : KnownKey engine s.menu.key := by
    intro k hk
    exact h.key k (hkey.symm.trans hk)
  cases ok with
  | true => exact ⟨fun hset => hlast.trans (h.set hset), fun _ => hlistening.symm, hknown⟩
  | false =>
      exact ⟨fun hset => hlast.trans (h.set hset),
        fun hset => (h.listening hset).trans hlistening.symm, hknown⟩

theorem start_mirrors (h : Mirrors s) :
    Mirrors (recordListening s true (flrpApiStartListening c s.engine)).2 := by
  refine recordListening_mirrors h _ _ smtcFlrpStartPeriodicListening_acceptedKey
    smtcFlrpStartPeriodicListening_lastInit ?_
  refine smtcFlrpStartPeriodicListening_listening.trans ?_
  show _ = if c.start then true else s.engine.listening
  cases c.start <;> rfl

theorem stop_mirrors (h : Mirrors s) :
    Mirrors (recordListening s false (flrpApiStopListening c s.engine)).2 := by
  refine recordListening_mirrors h _ _ smtcFlrpStopPeriodicListening_acceptedKey
    smtcFlrpStopPeriodicListening_lastInit ?_
  refine smtcFlrpStopPeriodicListening_listening.trans ?_
  show _ = if c.stop then false else s.engine.listening
  cases c.stop <;> rfl

theorem cmdListening_mirrors {listening : Bool} {call : Engine → Bool × Engine}
    (h : Mirrors s)
    (hcall : Mirrors (recordListening s listening (call s.engine)).2)
    (argv : List CString) : Mirrors (cmdListening s listening call argv).2 := by
  rw [cmdListening]
  by_cases hargc : argv.length ≠ 1
  · rw [if_pos hargc]
    exact h
  · rw [if_neg hargc]
    exact hcall

/-- Nothing was done yet. -/
theorem boot_mirrors : Mirrors boot := ⟨nofun, nofun, nofun⟩

theorem mirrors_ite {p : Prop} [Decidable p] (hs : Mirrors s) (ht : Mirrors t) :
    Mirrors (if p then s else t) := by
  by_cases hp : p
  · rw [if_pos hp]
    exact hs
  · rw [if_neg hp]
    exact ht

/-- Of the downlinks only an init command can spoil the copy. -/
theorem flrpRemoteHandleDownlink_mirrors_iff (h : Mirrors s)
    (payload : List (BitVec 8)) :
    Mirrors (flrpRemoteHandleDownlink c s payload)
      ↔ Keeps s (.downlink payload c) := by
  cases payload with
  | nil => exact iff_of_true h nofun
  | cons cmdId rest =>
      dsimp only [flrpRemoteHandleDownlink]
      by_cases hcmd : cmdId = FLRP_REMOTE_CMD_ID_INIT
      · subst hcmd
        rw [if_neg (by decide), if_neg (by decide), if_neg (by decide), if_pos rfl]
        by_cases hlength : (FLRP_REMOTE_CMD_ID_INIT :: rest).length = INIT_CMD_SIZE
        · rw [if_pos hlength, menuInit_mirrors_iff]
          constructor
          · intro hkeeps _ _
            exact hkeeps
          · intro hkeeps
            exact hkeeps rfl hlength
        · rw [if_neg hlength]
          exact iff_of_true h (fun _ hlength' => absurd hlength' hlength)
      · have hstart : Mirrors (menuStartListening c s).2 := by
          rw [menuStartListening, apply_ite Prod.snd]
          exact mirrors_ite (start_mirrors h) h
        have hstop : Mirrors (menuStopListening c s).2 := by
          rw [menuStopListening, apply_ite Prod.snd]
          exact mirrors_ite (stop_mirrors h) h
        rw [if_neg hcmd]
        refine iff_of_true ?_
          (fun hhead => absurd (Option.some.inj hhead) hcmd)
        refine mirrors_ite (mirrors_ite boot_mirrors h) ?_
        refine mirrors_ite (mirrors_ite hstart h) ?_
        refine mirrors_ite (mirrors_ite hstop h) ?_
        exact mirrors_ite
          (mirrors_ite (menuInitiateTransfer_mirrors h _ _) h) h

/-- **WHAT ONE COMMAND LEAVES**: the copy stays right exactly when the command
    bears the results of its calls. -/
theorem handle_mirrors_iff (h : Mirrors s) (e : Event) :
    Mirrors (handle s e) ↔ Keeps s e := by
  cases e with
  | startupDefaults c => exact iff_of_true (applyStartupTestDefaults_mirrors h) trivial
  | downlink payload c => exact flrpRemoteHandleDownlink_mirrors_iff h payload
  | shell command argv c =>
      cases command with
      | deviceEui => exact cmdSetDeviceEui_mirrors_iff h argv
      | setKey => exact cmdSetKey_mirrors_iff h argv
      | setPer => exact cmdSetPer_mirrors_iff h argv
      | targetDeviceEui =>
          exact iff_of_true (cmdSetTargetDeviceEui_mirrors h argv) trivial
      | launchTx | launchRx =>
          exact iff_of_true (cmdLaunch_mirrors (fun _ _ => rfl) h argv) trivial
      | setCryptoEnabled | setLowFrequency =>
          refine iff_of_true (cmdSetFlag_mirrors h ?_ argv) trivial
          intro b
          exact h.congr rfl rfl rfl rfl
      | startListening =>
          exact iff_of_true (cmdListening_mirrors h (start_mirrors h) argv) trivial
      | stopListening =>
          exact iff_of_true (cmdListening_mirrors h (stop_mirrors h) argv) trivial

end Commands

/-! ## Whole runs -/

/-- **THE MENU MIRRORS THE ENGINE** in every state of a run exactly when every
    command of the run bears the results of its calls. -/
theorem mirrors_run_iff (es : List Event) :
    (∀ es₁ s, es₁ <+: es → run step boot es₁ = some s → Mirrors s)
      ↔ Meets step Keeps boot es := by
  obtain ⟨t, ht⟩ := run_total (fun s e => ⟨handle s e, rfl⟩) boot es
  refine invariant_iff_meets Mirrors ?_ boot_mirrors ht
  rintro s e t hs he
  cases he
  exact handle_mirrors_iff hs e

/-- Every call succeeds, and `smtc_flrp_init` ends the listening. -/
def allSucceed : Calls := ⟨true, false, true, true, true, true, true, true⟩

/-- `device_eui 11 22`. -/
def setDeviceEui (c : Calls) : Event :=
  .shell .deviceEui ["device_eui".toList, "11".toList, "22".toList] c

/-- A failed initialisation that counts as done, a listening that `set_per` ended,
    and a key that was refused. -/
theorem menu_mistaken :
    (∃ s, run step boot [setDeviceEui { allSucceed with init := false }] = some s
        ∧ s.menu.isDeviceEuiSet = true ∧ s.engine.lastInit = some false)
      ∧ (∃ s, run step boot [setDeviceEui allSucceed,
            .shell .setPer ["set_per".toList, "10".toList]
              { allSucceed with start := false }] = some s
        ∧ s.menu.isDeviceEuiSet = true ∧ s.menu.listening = true
        ∧ s.engine.listening = false)
      ∧ ∃ s, run step boot [setDeviceEui allSucceed,
            .shell .setKey ["set_key".toList, "22".toList]
              { allSucceed with setKey := false }] = some s
        ∧ s.engine.acceptedKey = some (fun _ => 0) ∧ s.menu.key 0 = 0x22 := by
  refine ⟨⟨_, rfl, ?_, ?_⟩, ⟨_, rfl, ?_, ?_, ?_⟩, ⟨_, rfl, ?_, ?_⟩⟩
  all_goals rfl

end FlrpMenu
