import StripTuner.CredentialStore.Credentials

/-!
# Scan entries

What a Wi-Fi scan reports about a network.
-/

namespace StripTuner.WifiManager

open CredentialStore

/-- `WIFI_SCAN_MAX_ENTRIES`. -/
abbrev wifiScanMaxEntries : Nat := 20

/-- `wifi_scan_entry_t`. -/
structure WifiScanEntry where
  ssid : Vector UInt8 (credentialSsidMax + 1)
  rssiDbm : Int8
  isOpen : Bool
  isUnsupported : Bool
deriving DecidableEq

end StripTuner.WifiManager
