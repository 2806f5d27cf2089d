/-!
# ESP-IDF types

The error codes and reset reasons that the application code tests.
-/

namespace StripTuner

/-- The `esp_err_t` values that the code tells apart; `other` is any other error. -/
inductive EspErr where
  | ok
  | fail
  | invalidState
  | notFound
  | invalidCrc
  | nvsNotFound
  | nvsInvalidLength
  | otaValidateFailed
  | other (code : Nat)
deriving DecidableEq

/-- `esp_reset_reason_t`. -/
inductive ResetReason where
  | unknown
  | poweron
  | ext
  | sw
  | panic
  | intWdt
  | taskWdt
  | wdt
  | deepsleep
  | brownout
  | sdio
  | usb
  | jtag
  | efuse
  | pwrGlitch
  | cpuLockup
deriving DecidableEq

end StripTuner
