import XoLedger.Gateway.Rest
import XoLedger.Gateway.Retry
import XoLedger.Settings.EnvFile
import XoLedger.Text.Numeral

/-!
# Settings

What can be chosen about the program: where the gateway is, who plays, and how patient the program
is. The choices are read from the environment, and checked before they are used.
-/

namespace XoLedger

/-- The choices. -/
structure Settings where
  /-- Where the gateway is. -/
  restApiUrl : String := "http://localhost:8008"
  /-- The private key of the player, if there is one. -/
  privateKey : Option String := none
  /-- How long the gateway may take to say what has become of a batch, in seconds. -/
  batchWaitSecs : UInt64 := 5
  /-- How often a call may be made. -/
  gatewayAttempts : UInt64 := 1
  /-- The wait between two calls, in milliseconds. -/
  gatewayRetryIntervalMs : UInt64 := 1500
  /-- The time between two looks at the list of games, in seconds. -/
  refreshIntervalSecs : UInt64 := 5
deriving DecidableEq, Repr, Inhabited

namespace Settings

/-- The URL of the gateway without slashes at its end. -/
def baseUrl (s : Settings) : String :=
  RestApi.withoutSlashes s.restApiUrl

/-- How often calls are made, as chosen. -/
def retryPolicy (s : Settings) : RetryPolicy :=
  ⟨max s.gatewayAttempts.toNat 1, s.gatewayRetryIntervalMs.toNat⟩

/-! ### Reading -/

/-- The number in a variable, or the one to take without it. -/
def readNumber (env : Environment) (name : String) (default : UInt64) :
    Except Numeral.Error UInt64 :=
  match env.text? name with
  | none => .ok default
  | some s => Numeral.readUInt64 s

/-- A key in a variable. One that is blank is none. -/
def readKey (env : Environment) (name : String) : Option String :=
  ((env.text? name).map trim).filter (· ≠ "")

/-- The choices in an environment. -/
def ofEnvironment (env : Environment) : Except Numeral.Error Settings := do
  let usual : Settings := {}
  let batchWaitSecs ← readNumber env "XO_BATCH_WAIT_SECS" usual.batchWaitSecs
  let gatewayAttempts ← readNumber env "XO_GATEWAY_ATTEMPTS" usual.gatewayAttempts
  let gatewayRetryIntervalMs ←
    readNumber env "XO_GATEWAY_RETRY_INTERVAL_MS" usual.gatewayRetryIntervalMs
  let refreshIntervalSecs ← readNumber env "XO_REFRESH_INTERVAL_SECS" usual.refreshIntervalSecs
  return {
    restApiUrl := (env.text? "XO_REST_API_URL").getD usual.restApiUrl
    privateKey := readKey env "XO_PRIVATE_KEY"
    batchWaitSecs, gatewayAttempts, gatewayRetryIntervalMs, refreshIntervalSecs }

/-- The choices in an environment that a file may add to. -/
def load (env : Environment) (file : Option Bytes) : Except Numeral.Error Settings :=
  ofEnvironment (match file with
    | none => env
    | some b => EnvFile.load env b)

/-! ### Checking -/

/-- Why choices cannot be used. -/
inductive Error where
  /-- There is no URL. -/
  | emptyUrl
  /-- The URL is none. -/
  | badUrl (cause : Url.Error)
  /-- The scheme is another than those for the web. -/
  | badScheme (scheme : String)
  /-- No call may be made. -/
  | noAttempts
deriving DecidableEq, Repr

/-- The wording of such an error. -/
def Error.message : Error → String
  | emptyUrl => "XO_REST_API_URL is empty"
  | badUrl cause => cause.message
  | badScheme scheme => s!"XO_REST_API_URL has scheme {scheme} (expected http or https)"
  | noAttempts => "XO_GATEWAY_ATTEMPTS must be at least 1"

/-- What is noted about choices that can be used. -/
def remarks (s : Settings) : List Log.Line :=
  (if s.privateKey = none then
    [⟨.warn, "XO_PRIVATE_KEY not set; a throwaway key will be generated"⟩] else []) ++
  (if s.batchWaitSecs = 0 then
    [⟨.warn, "XO_BATCH_WAIT_SECS is 0; batch status will almost always be PENDING"⟩] else []) ++
  (if 1 < s.gatewayAttempts then
    [⟨.info, s!"Gateway retries enabled: up to {s.gatewayAttempts.toNat} attempts per call " ++
      s!"every {s.gatewayRetryIntervalMs.toNat}ms"⟩] else []) ++
  (if s.refreshIntervalSecs = 0 then
    [⟨.warn, "XO_REFRESH_INTERVAL_SECS is 0; background refresh will spin"⟩] else [])

/-- Checks the choices, and says what is to be noted about them. -/
def validate (s : Settings) : Except Error (List Log.Line) :=
  if trim s.restApiUrl = "" then .error .emptyUrl
  else
    match Url.parse s.restApiUrl with
    | .error cause => .error (.badUrl cause)
    | .ok url =>
      if !RestApi.hasWebScheme url then .error (.badScheme (String.ofList url.scheme))
      else if s.gatewayAttempts = 0 then .error .noAttempts
      else .ok s.remarks

end Settings

end XoLedger
