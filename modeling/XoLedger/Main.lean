import XoLedger.Command.Run

/-!
# The program

The outermost layer: it takes the words, the variables, the file of variables and random octets
from outside, hands them to the command, and prints what comes of it. It has no connection of its
own, so every request ends as it does on a machine without a network.
-/

namespace XoLedger.Program

/-! ### What comes from outside -/

/-- The variables that settings are read from. -/
def settingNames : List String :=
  ["XO_REST_API_URL", "XO_PRIVATE_KEY", "XO_BATCH_WAIT_SECS", "XO_GATEWAY_ATTEMPTS",
    "XO_GATEWAY_RETRY_INTERVAL_MS", "XO_REFRESH_INTERVAL_SECS"]

/-- The words of a file that may be names of variables. -/
def mentionedNames (file : Bytes) : List String :=
  split ' ' ((Utf8.decodeLossy file).map fun c => if isAlphanumeric c || c = '_' then c else ' ')

/-- The nearest file of variables, from the current directory upwards. -/
def findEnvFile : (levels : Nat) → (directory : String) → IO (Option Bytes)
  | 0, _ => return none
  | levels + 1, directory => do
    try
      let octets ← IO.FS.readBinFile (directory ++ ".env")
      return some octets.toList
    catch _ => findEnvFile levels ("../" ++ directory)

/-- The variables with given names. -/
def readEnvironment : List String → IO Environment
  | [] => return []
  | name :: names => do
    let rest ← readEnvironment names
    match ← IO.getEnv name with
    | some value => return (name, Utf8.encode value) :: rest
    | none => return rest

/-- Random octets. -/
def randomOctets (count : USize) : IO Bytes := do
  let octets ← IO.getRandomBytes count
  return octets.toList

/-- A new key. Draws that are out of range are thrown away. -/
def randomKey : (tries : Nat) → IO PrivateKey
  | 0 => throw (IO.userError "no key could be drawn")
  | tries + 1 => do
    match PrivateKey.ofBytes? (← randomOctets 32) with
    | some key => return key
    | none => randomKey tries

/-! ### What is printed -/

/-- Plays events: notes are printed, if they are wanted, and waits take their time. -/
def play (wanted : Bool) : List (Event Network) → IO Unit
  | [] => return ()
  | .line line :: rest => do
    if wanted then IO.println line.text
    play wanted rest
  | .pause ms _ :: rest => do
    IO.sleep (UInt32.ofNat ms)
    play wanted rest

/-- Prints a report. -/
def print (report : Command.Report) : IO Unit := do
  IO.print report.stdout
  for line in report.stderr do
    IO.eprintln line

/-- Looks at the list of games until the program is stopped, and prints it when it has changed. -/
partial def watch (wanted : Bool) (period : Nat) (w : Command.Watch Network) (net : Network) :
    IO Unit := do
  let t := w.look net
  play wanted t.events
  for line in t.value.1.toList.flatMap Command.watchLines do
    IO.println line
  IO.sleep (UInt32.ofNat period)
  watch wanted period t.value.2 t.world

/-- Runs a command that ends by itself, or watches until the program is stopped. -/
def run (wanted : Bool) (context : Command.Context Network) (words : List Bytes) : IO UInt32 := do
  match Command.parse? words with
  | some (.run url .watch) =>
    match Command.client context url with
    | .error e =>
      print (.failure e.message)
      return 1
    | .ok (c, remarks) =>
      play wanted (remarks.map .line)
      watch wanted (Command.watchPeriod c.settings) ⟨c, none⟩ .down
      return 0
  | _ =>
    let t := Command.run context words .down
    play wanted t.events
    print t.value
    return UInt32.ofNat t.value.code

end XoLedger.Program

open XoLedger in
/-- Runs the program with the words after its name. -/
def main (words : List String) : IO UInt32 := do
  let envFile ← Program.findEnvFile 64 ""
  let names := Program.settingNames ++ Program.mentionedNames (envFile.getD [])
  let context : Command.Context Network := {
    carrier := Network.carrier
    environment := ← Program.readEnvironment names
    envFile
    freshKey := ← Program.randomKey 64
    random := ← Program.randomOctets 16
    watchRounds := 0 }
  let wanted := (← IO.getEnv "RUST_LOG") ≠ some "off"
  Program.run wanted context (words.map Utf8.encode)
