import DanalockBle.Control.Commands

/-!
# One attempt with a lazy key refresh

Every command of the control is an attempt on the current facade, after a refresh of an expired
key, with one more attempt after a token rejection (`run_eq`): the two runners of `control.py`
agree branch by branch. A property that sequencing and the handlers keep is proved of a coroutine
from the parts named here, so no proof about the commands goes through their branches again.
-/

namespace DanalockBle

open Coroutine Coroutine.Coro Py

namespace DanalockControl

/-- The command that runs a facade method. -/
def run (serial : Serial) : (m : Method) → Py m.Result
  | .lock => operate serial true
  | .unlock => operate serial false
  | .deviceInformation => deviceInformation serial
  | .settings => settings serial
  | .setAutoLock seconds => setAutoLock serial seconds
  | .setBrakeAndGoBack seconds => setBrakeAndGoBack serial seconds
  | .setEndToEnd mode => setEndToEnd serial mode
  | .setCalibrationPoint point => calibrate serial point

end DanalockControl

/-- A `CommandError` with the status `TOKEN_VALIDITY`. -/
def PyErr.isTokenRejection : PyErr → Bool
  | .commandError name _ => name == DanalockControl.tokenValidityStatus
  | _ => false

namespace DanalockControl

/-- How an attempt that failed ends: a device rejection by `rejected`, a transport failure as
its message. -/
def settle {α : Type} (rejected : String → Nat → Except PyErr α) : PyErr → Except PyErr α
  | .commandError name status => rejected name status
  | err => .error (if err.isTransport then transportError err else err)

/-- One attempt after a refresh of an expired key, and one more after a token rejection. -/
def withRetry {α : Type} (serial : Serial) (attempt : Py α)
    (rejected : String → Nat → Except PyErr α) : Py α := do
  refreshIfExpired serial
  tryExcept attempt fun err =>
    if err.isTokenRejection then do
      refreshAfterRejection serial
      tryExcept attempt fun retryErr => ofResult (settle rejected retryErr)
    else ofResult (settle rejected err)

/-- The phrase for what was rejected. -/
def action : Method → String
  | .lock => "lock command"
  | .unlock => "unlock command"
  | .deviceInformation => "device information request"
  | .settings => "settings read"
  | .setAutoLock _ => "auto lock setting change"
  | .setBrakeAndGoBack _ => "brake and go back setting change"
  | .setEndToEnd _ => "end-to-end mode change"
  | .setCalibrationPoint _ => "calibration point change"

/-- What a device rejection makes of a command: for lock and unlock, nothing to change is
success. -/
def rejected (m : Method) (name : String) (status : Nat) : Except PyErr m.Result :=
  match m with
  | .lock =>
    if name = nothingChangedStatus then .ok () else .error (commandError name status (action .lock))
  | .unlock =>
    if name = nothingChangedStatus then .ok ()
    else .error (commandError name status (action .unlock))
  | m => .error (commandError name status (action m))

/-- What the attempt makes of the end of its facade call: the device information read names a
malformed response. -/
def received (m : Method) (r : Except PyErr m.Result) : Except PyErr m.Result :=
  match m, r with
  | .deviceInformation, .error (.valueError text) => .error (malformedInformationError text)
  | _, r => r

/-- The body of an attempt. -/
def body (serial : Serial) : (m : Method) → Py m.Result
  | .deviceInformation => readInformation serial
  | m => callLock serial m

theorem operate_eq (serial : Serial) (locked : Bool) (r : String → Nat → Except PyErr Unit)
    (hr : ∀ name status, r name status =
      if name = nothingChangedStatus then .ok ()
      else .error (commandError name status s!"{commandName locked} command")) :
    operate serial locked = withRetry serial (attempt serial locked) r := by
  have hretry : operateRetryFailed locked = fun err => ofResult (settle r err) := by
    funext err
    cases err with
    | commandError name status =>
      simp only [operateRetryFailed, settle, hr]
      split <;> rfl
    | _ => rfl
  have hfirst : ∀ err : PyErr, (match err with
      | .commandError name status =>
        if name = nothingChangedStatus then return ()
        else if name ≠ tokenValidityStatus then
          raise (commandError name status s!"{commandName locked} command")
        else do
          refreshAfterRejection serial
          tryExcept (attempt serial locked) (operateRetryFailed locked)
      | err => if err.isTransport then raise (transportError err) else raise err : Py Unit) =
      if err.isTokenRejection then do
        refreshAfterRejection serial
        tryExcept (attempt serial locked) fun retryErr => ofResult (settle r retryErr)
      else ofResult (settle r err) := by
    intro err
    cases err with
    | commandError name status =>
      simp only [PyErr.isTokenRejection, hretry]
      by_cases ht : name = tokenValidityStatus
      · subst ht
        rfl
      · have hne : (name == tokenValidityStatus) = false := by simpa using ht
        simp only [ne_eq, ht, not_false_eq_true, if_true, hne, Bool.false_eq_true, if_false,
          settle, hr]
        split <;> rfl
    | _ => rfl
  unfold operate withRetry
  refine congrArg (refreshIfExpired serial >>= ·) (funext fun _ => ?_)
  exact congrArg (tryExcept (attempt serial locked)) (funext hfirst)

theorem runCommand_eq {α : Type} (serial : Serial) (action : String) (attempt : Py α) :
    runCommand serial action attempt =
      withRetry serial attempt fun name status => .error (commandError name status action) := by
  have hretry : runCommandRetryFailed action = fun err => ofResult (α := α)
      (settle (fun name status => .error (commandError name status action)) err) := by
    funext err
    cases err with
    | commandError name status => rfl
    | _ => simp only [runCommandRetryFailed, settle]; split <;> rfl
  unfold runCommand withRetry
  refine congrArg (refreshIfExpired serial >>= ·) (funext fun _ => ?_)
  refine congrArg (tryExcept attempt) (funext fun err => ?_)
  cases err with
  | commandError name status =>
    simp only [PyErr.isTokenRejection, hretry]
    by_cases ht : name = tokenValidityStatus
    · subst ht
      rfl
    · have hne : (name == tokenValidityStatus) = false := by simpa using ht
      simp only [ne_eq, ht, not_false_eq_true, if_true, hne, Bool.false_eq_true, if_false, settle]
      rfl
  | _ => rfl

/-- **Both runners are one attempt with a lazy key refresh.** -/
theorem run_eq (serial : Serial) (m : Method) :
    run serial m = withRetry serial (attemptCall serial (body serial m)) (rejected m) := by
  cases m with
  | lock => exact operate_eq serial true (rejected .lock) fun _ _ => rfl
  | unlock => exact operate_eq serial false (rejected .unlock) fun _ _ => rfl
  | _ => exact runCommand_eq serial _ _

end DanalockControl

/-- A key swap is a disconnect and a new facade. -/
theorem setKey_eq (s : Serial) (key : DeviceKey) : DanalockControl.setKey s key =
    (DanalockControl.disconnect s).bind fun _ => buildFacade s key.loginBlob := rfl

/-- What a settings read does once `control.settings()` has ended. -/
theorem readSettings_eq (serial : Serial) : DanalockSettingSelectEntity.readSettings serial =
    (DanalockControl.settings serial).andThen fun
      | .ok settings => Py.applySettings serial settings
      | .error err => if err.isException then .ret () else .raise err := by
  unfold DanalockSettingSelectEntity.readSettings
  simp only [bind_eq]
  induction DanalockControl.settings serial with
  | ret settings => rfl
  | raise err =>
    simp only [Coro.bind, tryExcept, andThen]
    split <;> rfl
  | op o k ih =>
    simp only [Coro.bind, tryExcept, andThen]
    exact congrArg (Coro.op o) (funext ih)

/-! ## What the coroutines are made of -/

section
variable {X : (α : Type) → Py α → Prop} (s : Serial)

theorem operate_of_parts (hrun : ∀ m, X _ (DanalockControl.run s m)) (locked : Bool) :
    X _ (DanalockControl.operate s locked) := by
  cases locked with
  | true => exact hrun .lock
  | false => exact hrun .unlock

theorem settingWrite_of_parts (hrun : ∀ m, X _ (DanalockControl.run s m)) (name : SettingName)
    (value : Int) : X _ (DanalockSettingSelectEntity.settingWrite s name value) := by
  cases name with
  | autoLock => exact hrun (.setAutoLock value)
  | brakeAndGoBack => exact hrun (.setBrakeAndGoBack value)
  | blockedToBlocked => exact hrun (.setEndToEnd value)

variable (hX : Compositional X)
include hX

theorem setKey_of_parts (hdisconnect : X _ (DanalockControl.disconnect s))
    (hbuild : ∀ token, X _ (buildFacade s token)) (key : DeviceKey) :
    X _ (DanalockControl.setKey s key) := by
  rw [setKey_eq]
  exact hX.bind hdisconnect fun _ => hbuild key.loginBlob

theorem refresh_of_parts (hacquire : X _ (acquireRefresh s)) (hget : ∀ force, X _ (getKey s force))
    (hstore : ∀ key, X _ (storeKey s key)) (hbound : X _ (boundControl s))
    (hset : ∀ key, X _ (DanalockControl.setKey s key)) (hnotify : X _ (notifyKey s))
    (hrelease : X _ (releaseRefresh s)) (force : Bool) :
    X _ (DanalockKeyManager.refresh s force) := by
  refine hX.bind hacquire fun _ => hX.tryFinally (hX.bind (hget force) fun key =>
    hX.bind (hstore key) fun _ => hX.bind hbound fun bound => ?_) hrelease
  have hlast : X _ (do notifyKey s; return key : Py DeviceKey) :=
    hX.bind hnotify fun _ => hX.ret key
  cases bound with
  | false => exact hlast
  | true => exact hX.bind (hset key) fun _ => hlast

section
variable (hrefresh : ∀ s force, X _ (DanalockKeyManager.refresh s force))
include hrefresh

theorem refreshEach_of_parts (hreauth : X _ startReauth) (serials : List Serial) :
    X _ (DanalockKeyManager.refreshEach serials) := by
  induction serials with
  | nil => exact hX.ret ()
  | cons s rest ih =>
    refine hX.bind (hX.tryExcept ?_ fun err => ?_) fun _ => ih
    · exact hX.bind (hrefresh s true) fun _ => hX.ret ()
    · split
      · exact hreauth
      · exact Compositional.ite (hX.ret ()) (hX.raise _)

theorem refreshIfExpired_of_parts (hkey : X _ (key s)) (hexpired : ∀ k, X _ (keyExpired k)) :
    X _ (DanalockControl.refreshIfExpired s) := by
  refine hX.bind hkey fun k => hX.bind (hexpired k) fun expired => Compositional.ite ?_ (hX.ret ())
  refine hX.tryExcept ?_ fun err => Compositional.ite (hX.ret ()) (hX.raise err)
  exact hX.bind (hrefresh s true) fun _ => hX.ret ()

theorem refreshAfterRejection_of_parts : X _ (DanalockControl.refreshAfterRejection s) :=
  hX.tryExcept (hX.bind (hrefresh s true) fun _ => hX.ret ()) fun _ =>
    Compositional.ite (hX.raise _) (hX.raise _)

end

theorem attemptCall_of_parts (hcall : ∀ m, X _ (DanalockControl.callLock s m))
    (hdisconnect : X _ (DanalockControl.disconnect s)) (m : Method) :
    X _ (DanalockControl.attemptCall s (DanalockControl.body s m)) := by
  refine hX.tryFinally ?_ hdisconnect
  cases m with
  | deviceInformation =>
    refine hX.tryExcept (hcall _) fun err => ?_
    cases err <;> exact hX.raise _
  | _ => exact hcall _

/-- A command is made of a pre-check, attempts, and a refresh between them. -/
theorem run_of_parts (hcheck : X _ (DanalockControl.refreshIfExpired s))
    (hattempt : ∀ m, X _ (DanalockControl.attemptCall s (DanalockControl.body s m)))
    (hrejected : X _ (DanalockControl.refreshAfterRejection s)) (m : Method) :
    X _ (DanalockControl.run s m) := by
  rw [DanalockControl.run_eq]
  refine hX.bind hcheck fun _ => hX.tryExcept (hattempt m) fun err =>
    Compositional.ite ?_ (hX.ofResult _)
  exact hX.bind hrejected fun _ => hX.tryExcept (hattempt m) fun err => hX.ofResult _

section
variable (hbound : X _ (boundControl s))

include hbound in
theorem lock_of_parts (locked : Bool) (hoperate : X _ (DanalockControl.operate s locked))
    (hprogress : ∀ b b', X _ (setInProgress s b b')) (hwrite : X _ (writeState s))
    (hpending : X _ (setPending s locked)) : X _ (DanalockLockEntity.operate s locked) := by
  refine hX.bind hbound fun bound => Compositional.ite (hX.raise _) ?_
  refine hX.bind (hprogress _ _) fun _ => hX.bind hwrite fun _ => hX.bind
    (hX.tryExcept hoperate fun err => Compositional.ite ?_ (hX.raise err)) fun _ => ?_
  · exact hX.bind (hprogress _ _) fun _ => hX.bind hwrite fun _ => hX.raise err
  · exact hX.bind (hprogress _ _) fun _ => hX.bind hpending fun _ => hwrite

include hbound in
/-- A selection writes a value and shows what the device made of it. -/
theorem selectOption_of_write (name : SettingName)
    (hwrite : ∀ value, X _ ((DanalockSettingSelectEntity.settingWrite s name value).bind
      fun settings => (applySettings s settings).bind fun _ => writeState s)) (option : String) :
    X _ (DanalockSettingSelectEntity.selectOption s name option) := by
  refine hX.bind hbound fun bound => Compositional.ite (hX.raise _) (hX.bind ?_ hwrite)
  unfold DanalockSettingSelectEntity.valueFor
  split
  · exact hX.ret _
  · exact hX.raise _

include hbound in
theorem press_of_parts (suffix : String) (point : Int)
    (hcalibrate : X _ (DanalockControl.calibrate s point)) :
    X _ (DanalockCalibrationButton.press s suffix point) :=
  hX.bind hbound fun _ => Compositional.ite (hX.raise _) hcalibrate

section
variable (hrun : ∀ m, X _ (DanalockControl.run s m))
include hrun

include hbound in
theorem selectOption_of_parts (happly : ∀ settings, X _ (applySettings s settings))
    (hwrite : X _ (writeState s)) (name : SettingName) (option : String) :
    X _ (DanalockSettingSelectEntity.selectOption s name option) :=
  selectOption_of_write s hX hbound name (fun value =>
    hX.bind (settingWrite_of_parts s hrun name value) fun settings =>
      hX.bind (happly settings) fun _ => hwrite) option

theorem readSettings_of_parts (happly : ∀ settings, X _ (applySettings s settings)) :
    X _ (DanalockSettingSelectEntity.readSettings s) := by
  refine hX.bind (hX.tryExcept (hX.bind (hrun .settings) fun settings => hX.ret _) fun err =>
    Compositional.ite (hX.ret _) (hX.raise err)) fun settings => ?_
  cases settings with
  | none => exact hX.ret ()
  | some settings => exact happly settings

end

end

end

/-! ## What the commands leave alone -/

/-- An operation of an entity, on itself or on the state object of its device. -/
def Op.isEntity : Op → Bool
  | .setInProgress _ _ _ | .writeState _ | .setPending _ _ | .applySettings _ _ => true
  | _ => false

/-- The coroutine performs no operation of an entity. -/
abbrev SparesEntities {α : Type} (c : Py α) : Prop := Only (fun o : Op => o.isEntity = false) c

/-- The operation writes the device's state object. -/
def Op.storesFor (serial : Serial) : Op → Bool
  | .setPending s _ => s == serial
  | .applySettings s _ => s == serial
  | _ => false

/-- The coroutine does not write the device's state object. -/
abbrev StoresNothing {α : Type} (serial : Serial) (c : Py α) : Prop :=
  Only (fun o : Op => o.storesFor serial = false) c

theorem Op.storesFor_spares {serial : Serial} {o : Op} (h : o.isEntity = false) :
    o.storesFor serial = false := by
  cases o with
  | setPending s locked => cases h
  | applySettings s settings => cases h
  | _ => rfl

theorem SparesEntities.storesNothing {serial : Serial} {α : Type} {c : Py α}
    (h : SparesEntities c) : StoresNothing serial c := Only.mono (fun _ => Op.storesFor_spares) h

section
variable (s : Serial)

theorem sparesEntities_compositional : Compositional fun _ c => SparesEntities c :=
  Only.compositional _

theorem disconnect_sparesEntities : SparesEntities (DanalockControl.disconnect s) :=
  ⟨rfl, fun _ => ⟨rfl, Only.ofResult⟩⟩

theorem setKey_sparesEntities (key : DeviceKey) : SparesEntities (DanalockControl.setKey s key) :=
  setKey_of_parts s sparesEntities_compositional (disconnect_sparesEntities s)
    (fun _ => ⟨rfl, fun _ => trivial⟩) key

theorem refresh_sparesEntities (force : Bool) :
    SparesEntities (DanalockKeyManager.refresh s force) :=
  refresh_of_parts s sparesEntities_compositional ⟨rfl, Only.ofResult⟩
    (fun _ => ⟨rfl, Only.ofResult⟩) (fun _ => ⟨rfl, fun _ => trivial⟩) ⟨rfl, fun _ => trivial⟩
    (setKey_sparesEntities s) ⟨rfl, fun _ => trivial⟩ ⟨rfl, fun _ => trivial⟩ force

theorem refreshEach_sparesEntities (serials : List Serial) :
    SparesEntities (DanalockKeyManager.refreshEach serials) :=
  refreshEach_of_parts sparesEntities_compositional refresh_sparesEntities
    ⟨rfl, fun _ => trivial⟩ serials

theorem refreshIfExpired_sparesEntities : SparesEntities (DanalockControl.refreshIfExpired s) :=
  refreshIfExpired_of_parts s sparesEntities_compositional refresh_sparesEntities
    ⟨rfl, fun _ => trivial⟩ fun _ => ⟨rfl, fun _ => trivial⟩

/-- No command of the control does an entity's work. -/
theorem run_sparesEntities (m : Method) : SparesEntities (DanalockControl.run s m) := by
  have hcall : ∀ m, SparesEntities (DanalockControl.callLock s m) := fun m =>
    ⟨rfl, fun _ => ⟨rfl, Only.ofResult⟩⟩
  have hX := sparesEntities_compositional
  refine run_of_parts s hX (refreshIfExpired_sparesEntities s) ?_ ?_ m
  · exact attemptCall_of_parts s hX hcall (disconnect_sparesEntities s)
  · exact refreshAfterRejection_of_parts s hX refresh_sparesEntities

theorem operate_sparesEntities (locked : Bool) :
    SparesEntities (DanalockControl.operate s locked) :=
  operate_of_parts (X := fun _ c => SparesEntities c) s (run_sparesEntities s) locked

end

end DanalockBle
