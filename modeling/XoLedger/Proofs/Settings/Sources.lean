import Mathlib.Algebra.Group.Nat.Defs
import XoLedger.Proofs.Outcome
import XoLedger.Proofs.Settings.EnvFile
import XoLedger.Proofs.Text.Numeral
import XoLedger.Settings.Basic

/-!
# Where settings come from

Six variables are read, each by its name. The text of a variable is the one in the environment or,
without one, the first that a file assigns to it before it stops making sense, and four of the texts
have to be numerals (`IsChosen`). So nothing that a file says about a variable that has a text
already makes any difference, and two files that assign the same to the others are as good as each
other (`load_of_environment_and_file`).
-/

namespace XoLedger.Settings

open EnvFile Numeral

/-! ### Variables -/

/-- The variables with numbers, each with the numeral that is read without it. -/
def numberVariables : List (String × String) :=
  [("XO_BATCH_WAIT_SECS", "5"), ("XO_GATEWAY_ATTEMPTS", "1"),
    ("XO_GATEWAY_RETRY_INTERVAL_MS", "1500"), ("XO_REFRESH_INTERVAL_SECS", "5")]

/-- The names of all variables. -/
def variableNames : List String :=
  "XO_REST_API_URL" :: "XO_PRIVATE_KEY" :: numberVariables.map Prod.fst

/-- What a file assigns, in order, before it stops making sense. -/
def assigned (env : Environment) : Option Bytes → List (String × String)
  | none => []
  | some file => assignments env [] (sensibleEntries file)

/-- The choices are those that the texts of the variables say, or the usual ones. -/
structure IsChosen (text : String → Option String) (s : Settings) : Prop where
  /-- The URL is the text as it is. -/
  restApiUrl : s.restApiUrl = (text "XO_REST_API_URL").getD "http://localhost:8008"
  /-- The key is the text without blanks at its ends, unless nothing is left. -/
  privateKey : s.privateKey = ((text "XO_PRIVATE_KEY").map trim).filter (· ≠ "")
  /-- The time to wait for is a number. -/
  batchWaitSecs : IsNumeral ((text "XO_BATCH_WAIT_SECS").getD "5") s.batchWaitSecs.toNat
  /-- So is the number of calls. -/
  gatewayAttempts : IsNumeral ((text "XO_GATEWAY_ATTEMPTS").getD "1") s.gatewayAttempts.toNat
  /-- So is the wait between them. -/
  gatewayRetryIntervalMs :
    IsNumeral ((text "XO_GATEWAY_RETRY_INTERVAL_MS").getD "1500") s.gatewayRetryIntervalMs.toNat
  /-- And so is the time between two looks at the list. -/
  refreshIntervalSecs :
    IsNumeral ((text "XO_REFRESH_INTERVAL_SECS").getD "5") s.refreshIntervalSecs.toNat

/-! ### Reading an environment -/

/-- A number is read from the text of a variable, or as it is from the usual numeral. -/
lemma readNumber_eq_ok_iff {env : Environment} {name usual : String} {default n : UInt64}
    (husual : readUInt64 usual = .ok default) :
    readNumber env name default = .ok n ↔ IsNumeral ((env.text? name).getD usual) n.toNat := by
  rw [← readUInt64_eq_ok_iff, readNumber]
  cases env.text? name with
  | none => rw [Option.getD_none, husual]
  | some s => rw [Option.getD_some]

/-- Settings are read exactly if they are the choices in the environment. -/
lemma ofEnvironment_eq_ok_iff {env : Environment} {s : Settings} :
    ofEnvironment env = .ok s ↔ s.IsChosen env.text? := by
  have hfive : readUInt64 "5" = .ok 5 := by decide +kernel
  have hone : readUInt64 "1" = .ok 1 := by decide +kernel
  have hinterval : readUInt64 "1500" = .ok 1500 := by decide +kernel
  unfold ofEnvironment
  simp only [Except.bind_eq_ok_iff]
  constructor
  · rintro ⟨wait, hwait, attempts, hattempts, interval, hinterval', refresh, hrefresh, heq⟩
    obtain rfl := Except.ok.inj heq
    exact ⟨rfl, rfl, (readNumber_eq_ok_iff hfive).mp hwait,
      (readNumber_eq_ok_iff hone).mp hattempts, (readNumber_eq_ok_iff hinterval).mp hinterval',
      (readNumber_eq_ok_iff hfive).mp hrefresh⟩
  · intro h
    refine ⟨_, (readNumber_eq_ok_iff hfive).mpr h.batchWaitSecs, _,
      (readNumber_eq_ok_iff hone).mpr h.gatewayAttempts, _,
      (readNumber_eq_ok_iff hinterval).mpr h.gatewayRetryIntervalMs, _,
      (readNumber_eq_ok_iff hfive).mpr h.refreshIntervalSecs, ?_⟩
    have hurl := h.restApiUrl
    have hkey := h.privateKey
    obtain ⟨url, key, wait, attempts, interval, refresh⟩ := s
    dsimp only at hurl hkey ⊢
    rw [hurl, hkey]
    rfl

/-- Only the texts of the six variables matter. -/
lemma ofEnvironment_congr {env env' : Environment}
    (h : ∀ name ∈ variableNames, env.text? name = env'.text? name) :
    ofEnvironment env = ofEnvironment env' := by
  have hall : env.text? "XO_REST_API_URL" = env'.text? "XO_REST_API_URL" ∧
      env.text? "XO_PRIVATE_KEY" = env'.text? "XO_PRIVATE_KEY" ∧
      env.text? "XO_BATCH_WAIT_SECS" = env'.text? "XO_BATCH_WAIT_SECS" ∧
      env.text? "XO_GATEWAY_ATTEMPTS" = env'.text? "XO_GATEWAY_ATTEMPTS" ∧
      env.text? "XO_GATEWAY_RETRY_INTERVAL_MS" = env'.text? "XO_GATEWAY_RETRY_INTERVAL_MS" ∧
      env.text? "XO_REFRESH_INTERVAL_SECS" = env'.text? "XO_REFRESH_INTERVAL_SECS" := by
    simpa [variableNames, numberVariables] using h
  obtain ⟨hurl, hkey, hwait, hattempts, hinterval, hrefresh⟩ := hall
  unfold ofEnvironment readNumber readKey
  rw [hurl, hkey, hwait, hattempts, hinterval, hrefresh]

/-! ### Reading a file with it -/

/-- The environment that settings are read from has the texts that are left after the file. -/
lemma exists_environment (env : Environment) (file : Option Bytes) :
    ∃ after : Environment, load env file = ofEnvironment after ∧
      after.text? = textOf env (assigned env file) := by
  cases file with
  | none => exact ⟨env, rfl, funext fun _ => Option.or_none.symm⟩
  | some file => exact ⟨EnvFile.load env file, rfl, funext (text?_load env file)⟩

/-- There are choices exactly if four texts are numerals of numbers of 64 bits. -/
lemma exists_isChosen_iff (text : String → Option String) :
    (∃ s : Settings, s.IsChosen text) ↔
      ∀ v ∈ numberVariables, ∃ n < 2 ^ 64, IsNumeral ((text v.1).getD v.2) n := by
  constructor
  · rintro ⟨s, h⟩
    simp only [numberVariables, List.forall_mem_cons]
    exact ⟨⟨_, s.batchWaitSecs.toNat_lt, h.batchWaitSecs⟩,
      ⟨_, s.gatewayAttempts.toNat_lt, h.gatewayAttempts⟩,
      ⟨_, s.gatewayRetryIntervalMs.toNat_lt, h.gatewayRetryIntervalMs⟩,
      ⟨_, s.refreshIntervalSecs.toNat_lt, h.refreshIntervalSecs⟩, List.forall_mem_nil _⟩
  · intro h
    have hnumber : ∀ v ∈ numberVariables,
        ∃ n : UInt64, IsNumeral ((text v.1).getD v.2) n.toNat := by
      intro v hv
      obtain ⟨n, hn, hnumeral⟩ := h v hv
      refine ⟨UInt64.ofNat n, ?_⟩
      rwa [UInt64.toNat_ofNat_of_lt' hn]
    simp only [numberVariables, List.forall_mem_cons] at hnumber
    obtain ⟨⟨wait, hwait⟩, ⟨attempts, hattempts⟩, ⟨interval, hinterval⟩, ⟨refresh, hrefresh⟩,
      -⟩ := hnumber
    exact ⟨⟨_, _, wait, attempts, interval, refresh⟩, rfl, rfl, hwait, hattempts, hinterval,
      hrefresh⟩

/-- **The environment comes first, then the file.** Settings are read from an environment and a
file, which may be missing, stop making sense or say whatever it likes. There are settings exactly
if each of the four texts that ought to be one is a numeral of a number below 2⁶⁴, and then all six
are as these texts say: each is the one in the environment or else the first that the file assigns.
Which variables it assigns is in the file alone. If two files assign the same first texts to the
variables that have none in the environment, the outcome is the same, be it settings or an error;
and with a text for each of them it is the same whatever the file. -/
theorem load_of_environment_and_file (env : Environment) (file : Option Bytes) :
    (∀ s : Settings, load env file = .ok s ↔ s.IsChosen (textOf env (assigned env file))) ∧
    ((∃ s : Settings, load env file = .ok s) ↔ ∀ v ∈ numberVariables,
      ∃ n < 2 ^ 64, IsNumeral ((textOf env (assigned env file) v.1).getD v.2) n) ∧
    (∀ env' : Environment,
      (assigned env file).map Prod.fst = (assigned env' file).map Prod.fst) ∧
    (∀ file' : Option Bytes, (∀ name ∈ variableNames, env.text? name = none →
        (assigned env file).lookup name = (assigned env file').lookup name) →
      load env file = load env file') ∧
    ((∀ name ∈ variableNames, (env.text? name).isSome = true) →
      ∀ file' : Option Bytes, load env file = load env file') := by
  have hread : ∀ s : Settings,
      load env file = .ok s ↔ s.IsChosen (textOf env (assigned env file)) := by
    intro s
    obtain ⟨after, hload, htext⟩ := exists_environment env file
    rw [hload, ofEnvironment_eq_ok_iff, htext]
  have hfiles : ∀ file' : Option Bytes, (∀ name ∈ variableNames, env.text? name = none →
      (assigned env file).lookup name = (assigned env file').lookup name) →
        load env file = load env file' := by
    intro file' hsame
    obtain ⟨after, hload, htext⟩ := exists_environment env file
    obtain ⟨after', hload', htext'⟩ := exists_environment env file'
    rw [hload, hload']
    refine ofEnvironment_congr fun name hname => ?_
    rw [htext, htext', textOf, textOf]
    cases hset : env.text? name with
    | some s => rfl
    | none => rw [hsame name hname hset]
  refine ⟨hread, ?_, fun env' => ?_, hfiles,
    fun hset file' => hfiles file' fun name hname hnone => ?_⟩
  · simp only [hread, exists_isChosen_iff]
  · cases file with
    | none => rfl
    | some file => rw [assigned, assigned, map_fst_assignments, map_fst_assignments]
  · have hsome := hset name hname
    rw [hnone] at hsome
    exact absurd hsome Bool.false_ne_true

-- The environment has a text for one variable only, and the file stops making sense in line four.
example :
    load [("XO_GATEWAY_ATTEMPTS", Utf8.encode "+2")]
      (some (Utf8.encode ("XO_GATEWAY_ATTEMPTS=3\nXO_BATCH_WAIT_SECS=007\n" ++
        "XO_BATCH_WAIT_SECS=8\n=\nXO_REFRESH_INTERVAL_SECS=9\n"))) =
      .ok { gatewayAttempts := 2, batchWaitSecs := 7 } := by decide +kernel

end XoLedger.Settings
