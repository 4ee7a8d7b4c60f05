import DanalockBle.Lib.Runs
import DanalockBle.Broadcast.SettingCache
import DanalockBle.Control.Commands
import DanalockBle.Control.Script
import DanalockBle.Control.Retry
import DanalockBle.Control.Escape
import DanalockBle.Entry.System
import DanalockBle.Entry.Frame
import DanalockBle.Entry.FirstBroadcast
import DanalockBle.Entry.LockState
import DanalockBle.Entry.Session
import DanalockBle.Entry.KeyDrift
import DanalockBle.Firmware.Chain
import DanalockBle.KeyManager.Background
import DanalockBle.KeyManager.Schedule
import DanalockBle.Setup.PyFloat
import DanalockBle.Setup.Entry
import DanalockBle.Setup.Release
import DanalockBle.Setup.Tokens
import DanalockBle.Setup.Reload
import DanalockBle.Setup.Registry
import DanalockBle.Flow.Identity
import DanalockBle.Entry.Queues
import DanalockBle.Entry.SettingAnswers
import DanalockBle.Entry.SettingOrder
import DanalockBle.Select.SharedRead
import DanalockBle.KeyManager.Options
import DanalockBle.KeyManager.RefreshPass
import DanalockBle.Firmware.Action
import DanalockBle.Broadcast.Dispatch
import DanalockBle.Broadcast.AvailabilityLog
import DanalockBle.Firmware.Results
import DanalockBle.Firmware.Provenance
import DanalockBle.Firmware.ForcedCheck
import DanalockBle.Select.Shown
import DanalockBle.Entry.InProgress
import DanalockBle.Entry.Deadlock
import DanalockBle.Firmware.VersionOrder
import DanalockBle.Setup.StoredTokens
import DanalockBle.Entities.Shown
import DanalockBle.Entry.KeyFetches
import DanalockBle.Entry.SecondAttempt
import DanalockBle.Flow.Accounts
import DanalockBle.Setup.Platforms
import DanalockBle.Entities.KeySensor
import DanalockBle.Firmware.Restarts
