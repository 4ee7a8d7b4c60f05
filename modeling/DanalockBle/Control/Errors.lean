import DanalockBle.Basic

/-!
# Exceptions and their messages

The exceptions that reach the control (`text` is `str(err)`), the classes the handlers name, and
the mapping of a device rejection or a transport failure to a `LockControlError`. A constructor
stands for its class and those derived from it, as far as they have no constructor of their own.
-/

namespace DanalockBle

inductive PyErr where
  | commandError (name : String) (status : Nat)
  | timeoutError (text : String)
  | channelClosed (text : String)
  | bleakError (text : String)
  | tlsSessionError (text : String)
  | valueError (text : String)
  /-- with its subclasses: `RecursionError`, `NotImplementedError`, the `StreamError` of httpx -/
  | runtimeError (text : String)
  /-- a `DanalockCloudError` -/
  | authError (text : String)
  | cloudError (text : String)
  | httpError (text : String)
  | homeAssistantError (text : String)
  | serviceValidationError (text : String)
  | lockControlError (text : String)
  | lockAddressUnknownError (text : String)
  /-- a `BaseException` that is no `Exception` -/
  | cancelledError
  /-- an exception of none of these classes; `cls` is its own -/
  | other (cls text : String)
  deriving DecidableEq, Repr

namespace PyErr

/-- `except (TimeoutError, ChannelClosed, BleakError, TlsSessionError)`. -/
def isTransport : PyErr → Bool
  | timeoutError _ | channelClosed _ | bleakError _ | tlsSessionError _ => true
  | _ => false

/-- `except (DanalockCloudError, httpx.HTTPError)`. -/
def isCloud : PyErr → Bool
  | authError _ | cloudError _ | httpError _ => true
  | _ => false

def isLockControlError : PyErr → Bool
  | lockControlError _ | lockAddressUnknownError _ => true
  | _ => false

/-- `except RuntimeError`. -/
def isRuntimeError : PyErr → Bool
  | runtimeError _ => true
  | _ => false

/-- `except Exception`. -/
def isException : PyErr → Bool
  | cancelledError => false
  | _ => true

/-- `str(err)`; for a rejection the text is the library's own, and no message shows it. -/
def text : PyErr → String
  | commandError name _ => name
  | timeoutError t | channelClosed t | bleakError t | tlsSessionError t | valueError t => t
  | runtimeError t => t
  | authError t | cloudError t | httpError t | homeAssistantError t => t
  | serviceValidationError t | lockControlError t | lockAddressUnknownError t => t
  | cancelledError => ""
  | other _ t => t

end PyErr

namespace DanalockControl

def nothingChangedStatus : String := "NOTHING_CHANGED"

def tokenValidityStatus : String := "TOKEN_VALIDITY"

/-- `_STATUS_MESSAGES`. -/
def statusMessages : List (String × String) :=
  [("BUSY", "The lock is busy; try again shortly."),
    ("BLOCKED", "The lock is blocked (jammed)."),
    ("CRITICAL_BATTERY", "The lock battery is critically low."),
    ("BAD_STATE", "The lock is in a state that does not allow this command."),
    ("HARDWARE_FAILURE", "The lock reported a hardware failure."),
    ("TIMEOUT", "The lock did not respond in time."),
    ("NOT_LOGGED_IN", "The lock session is not logged in."),
    ("UNSUPPORTED_ARGUMENT", "The lock does not support this setting or value."),
    ("NOT_PERMITTED",
      "The lock rejected the change: the account does not have the permission to change this " ++
        "setting."),
    ("TOKEN_VALIDITY",
      "The lock rejected the login token even after a key refresh; check the cloud account and " ++
        "the device enrollment of the lock.")]

/-- The format `#04x`. -/
def hexStatus (status : Nat) : String :=
  let digits := Nat.toDigits 16 status
  "0x" ++ String.ofList (List.replicate (2 - digits.length) '0' ++ digits)

example : hexStatus 7 = "0x07" := by decide

/-- `_command_error`. -/
def commandError (name : String) (status : Nat) (action : String) : PyErr :=
  match statusMessages.lookup name with
  | some message => .lockControlError message
  | none => .lockControlError s!"The lock rejected the {action} (status {hexStatus status})."

/-- `_transport_error`. -/
def transportError (err : PyErr) : PyErr :=
  match err with
  | .tlsSessionError text =>
    .lockControlError s!"Failed to establish a secure session with the lock: {text}"
  | err => .lockControlError s!"Failed to reach the lock over Bluetooth: {err.text}"

theorem isLockControlError_commandError (name : String) (status : Nat) (action : String) :
    (commandError name status action).isLockControlError = true := by
  unfold commandError
  split <;> rfl

theorem isLockControlError_transportError (err : PyErr) :
    (transportError err).isLockControlError = true := by
  unfold transportError
  split <;> rfl

end DanalockControl

end DanalockBle
