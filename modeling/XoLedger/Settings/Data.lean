import XoLedger.Json.Decoder
import XoLedger.Settings.Basic

/-!
# Settings as structured data

How the choices are written in JSON and read back.
-/

namespace XoLedger.Settings

open Json

/-- The fields of the choices. None of them has a default here. -/
def shape : Shape Settings where
  name := "Config"
  fields := [
    .of "rest_api_url" .refused readText fun url s => { s with restApiUrl := url },
    .of "private_key" .refusedInList (readOption readText) fun key s => { s with privateKey := key },
    .of "batch_wait_secs" .refused (readUInt64 "u64") fun n s => { s with batchWaitSecs := n },
    .of "gateway_attempts" .refused (readUInt64 "usize") fun n s => { s with gatewayAttempts := n },
    .of "gateway_retry_interval_ms" .refused (readUInt64 "u64")
      fun n s => { s with gatewayRetryIntervalMs := n },
    .of "refresh_interval_secs" .refused (readUInt64 "u64")
      fun n s => { s with refreshIntervalSecs := n }]
  empty := {}

/-- The choices as a value. -/
def toValue (s : Settings) : Value :=
  .object [("rest_api_url", .text s.restApiUrl), ("private_key", .ofOption .text s.privateKey),
    ("batch_wait_secs", .nat s.batchWaitSecs.toNat),
    ("gateway_attempts", .nat s.gatewayAttempts.toNat),
    ("gateway_retry_interval_ms", .nat s.gatewayRetryIntervalMs.toNat),
    ("refresh_interval_secs", .nat s.refreshIntervalSecs.toNat)]

end XoLedger.Settings
