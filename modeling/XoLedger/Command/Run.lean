import XoLedger.Client
import XoLedger.Command.Arguments
import XoLedger.Text.Padding

/-!
# Running commands

What a command prints and how it ends. The settings are read and checked before anything is sent;
making a key needs none.
-/

namespace XoLedger.Command

/-! ### What is printed -/

/-- How a command ended. -/
structure Report where
  /-- The exit code: 0 for success, 1 for a failure, 2 for words that make no sense. -/
  code : Nat
  /-- What is printed. -/
  stdout : String
  /-- What is printed about failures, in lines. -/
  stderr : List String
deriving DecidableEq, Repr

/-- The end of a command that has printed lines. -/
def Report.success (lines : List String) : Report :=
  ⟨0, String.join (lines.map (· ++ "\n")), []⟩

/-- The end of a command that has failed with a message. -/
def Report.failure (message : String) : Report :=
  ⟨1, "", split '\n' s!"Error: {message}"⟩

/-- A game as a line of the list. -/
def gameLine (g : Game) : String :=
  Padding.left 24 g.name ++ " " ++ Padding.left 8 g.phase.wire ++ " " ++ g.board

/-- The character for a cell. -/
def cellChar (g : Game) (space : Nat) : Char :=
  ((g.mark? space).map Mark.toChar).getD '?'

/-- A row of the board. -/
def rowLine (g : Game) (row : Nat) : String :=
  String.ofList (' ' :: ' ' :: [1, 2, 3].map fun column => cellChar g (3 * row + column))

/-- A player, or that there is none. -/
def playerText (key : String) : String :=
  if key = "" then "(open)" else key

/-- A game with its board. -/
def boardLines (g : Game) : List String :=
  [s!"{g.name} ({g.phase.wire})", rowLine g 0, rowLine g 1, rowLine g 2,
    s!"player 1: {playerText g.player1}", s!"player 2: {playerText g.player2}"]

/-- The list of games as it is watched. -/
def watchLines (games : List Game) : List String :=
  s!"-- {games.length} games" :: games.map gameLine

/-- The lines of a pair of keys. -/
def keyLines (key : PrivateKey) : List String :=
  [s!"private key: {key.hex}", s!"public key:  {key.publicHex}"]

/-- The line that says which program this is. -/
def versionLine : String := "xo-client 0.1.0"

/-- The lines that say how the program is used. -/
def helpLines : List String :=
  ["Play xo games on a ledger REST API", "",
    "Usage: xo-client [--url <URL>] <COMMAND>", "",
    "Commands:",
    "  create <NAME>        Create a new game",
    "  take <NAME> <SPACE>  Take a space (1-9) in a game",
    "  list                 List all games",
    "  show <NAME>          Show one game's board",
    "  watch                Print the game list whenever a background refresh changes it",
    "  keygen               Generate a new signing key"]

/-! ### Setting up -/

/-- What a command is given from outside. -/
structure Context (σ : Type) where
  /-- The way to servers. -/
  carrier : Carrier σ
  /-- The variables. -/
  environment : Environment
  /-- The file with more of them. -/
  envFile : Option Bytes
  /-- A key that nobody else has. -/
  freshKey : PrivateKey
  /-- Sixteen random octets. -/
  random : Bytes
  /-- How many times the list is looked at before the watch ends. -/
  watchRounds : Nat

/-- Why a command cannot start. -/
inductive SetupError where
  /-- A variable is not a number. -/
  | unreadable (cause : Numeral.Error)
  /-- The settings make no sense. -/
  | unusable (cause : Settings.Error)
  /-- The key is not one. -/
  | badKey (cause : PrivateKey.Error)
  /-- There is no gateway at the URL. -/
  | noGateway (cause : RestApi.Error)

/-- The wording of such an error. One that has a cause shows it below. -/
def SetupError.message : SetupError → String
  | unreadable cause => cause.message
  | unusable cause => cause.message
  | badKey cause =>
    "XO_PRIVATE_KEY is not a valid key\n\nCaused by:\n    " ++
      (Fault.invalidKey cause.message).message
  | noGateway cause => cause.toFault.message

/-- The settings, with another URL if one is given, and what is to be noted about them. -/
def settings {σ : Type} (context : Context σ) (url : Option String) :
    Except SetupError (Settings × List Log.Line) := do
  let read ← (Settings.load context.environment context.envFile).mapError .unreadable
  let chosen := { read with restApiUrl := url.getD read.restApiUrl }
  let remarks ← chosen.validate.mapError .unusable
  return (chosen, remarks)

/-- The player: the one in the settings, or else a new one. -/
def signer {σ : Type} (context : Context σ) (settings : Settings) : Except SetupError Signer :=
  match settings.privateKey with
  | none => .ok (.ofKey context.freshKey)
  | some text =>
    match PrivateKey.parse text with
    | .ok key => .ok (.ofKey key)
    | .error cause => .error (.badKey cause)

/-- The client for a command, and what is to be noted about it. -/
def client {σ : Type} (context : Context σ) (url : Option String) :
    Except SetupError (Client σ × List Log.Line) := do
  let (chosen, remarks) ← settings context url
  let player ← signer context chosen
  let c ← (Client.connect context.carrier chosen player).mapError .noGateway
  return (c, remarks ++ [⟨.info, s!"Using {chosen.baseUrl} as {player.publicKey}"⟩])

/-! ### Watching -/

/-- A watch over the list of games. -/
structure Watch (σ : Type) where
  /-- Who reads the list. -/
  client : Client σ
  /-- The list that was shown last. -/
  shown : Option (List Game)

/-- The time between two looks at the list of games, in milliseconds. -/
def watchPeriod (s : Settings) : Nat :=
  max (1000 * s.refreshIntervalSecs.toNat) Polling.minPeriod

namespace Watch

variable {σ : Type}

/-- Takes notice of a list. It is to be shown unless it is the one that was shown last. -/
def see (w : Watch σ) (snapshot : Snapshot) : Option (List Game) × Watch σ :=
  if w.shown = some snapshot.games then (none, w)
  else (some snapshot.games, { w with shown := some snapshot.games })

/-- Looks at the list of games once. One that has been published meanwhile is taken notice of. -/
def look (w : Watch σ) : Act σ (Option (List Game) × Watch σ) := do
  let projector ← Polling.refresh w.client.projector
  let later := { w with client := { w.client with projector } }
  if projector.games.version = w.client.projector.games.version then return (none, later)
  else return later.see projector.games.value

/-- Looks at the list of games a number of times. Returns the lists that are to be shown. -/
def run (period : Nat) : (rounds : Nat) → Watch σ → Act σ (List (List Game))
  | 0, _ => return []
  | rounds + 1, w => do
    let (games?, w) ← w.look
    Act.pause period
    let later ← run period rounds w
    return games?.toList ++ later

end Watch

/-! ### Running -/

variable {σ : Type}

/-- The end of a command that was to give lines. -/
def Report.ofResult : Except Fault (List String) → Report
  | .ok lines => .success lines
  | .error fault => .failure fault.message

/-- What a submission prints: its batch and the status, unless it was refused. -/
def outcomeLines (outcome : SubmissionOutcome) : Except Fault (List String) :=
  outcome.ensureCommitted.map fun o => [s!"{o.batchId} {o.status.word}"]

/-- Does what a command says. -/
def perform (context : Context σ) (c : Client σ) : Task → Act σ Report
  | .create name => do
    let result ← (c.createGame context.random name).run
    return .ofResult (result.bind outcomeLines)
  | .take name space => do
    let result ← (c.takeSpace context.random name space).run
    return .ofResult (result.bind outcomeLines)
  | .list => do
    let (result, _) ← c.refreshAll
    return .ofResult (result.map fun snapshot => snapshot.games.map gameLine)
  | .board name => do
    let (result, _) ← c.refreshOne name
    return .ofResult (result.map boardLines)
  | .watch => do
    let lists ← Watch.run (watchPeriod c.settings) context.watchRounds ⟨c, none⟩
    return .success (lists.flatMap watchLines)
  | .keygen => return .success (keyLines context.freshKey)

/-- Notes lines. -/
def noteAll : List Log.Line → Act σ Unit
  | [] => return ()
  | line :: rest => do
    Act.note line.level line.message
    noteAll rest

/-- Runs a command. -/
def runTask (context : Context σ) (url : Option String) (task : Task) : Act σ Report :=
  if task = .keygen then return .success (keyLines context.freshKey)
  else
    match client context url with
    | .error e => return .failure e.message
    | .ok (c, remarks) => do
      noteAll remarks
      perform context c task

/-- Runs the program with the words after its name. -/
def run (context : Context σ) (words : List Bytes) : Act σ Report :=
  match parse? words with
  | none => return ⟨2, "", helpLines⟩
  | some .help => return .success helpLines
  | some .version => return .success [versionLine]
  | some (.run url task) => runTask context url task

end XoLedger.Command
