import XoLedger.Text.Split

/-!
# IPv4 addresses

An address is written as up to four numbers with points between them, each in decimal, octal or
hexadecimal; the last number fills all the octets that the others leave. A host whose last part
looks like a number is an address or an error, never a name.
-/

namespace XoLedger.Url.Ipv4

/-- The value of a digit to any base up to sixteen. -/
def digitValue (c : Char) : Nat :=
  if '0' ≤ c ∧ c ≤ '9' then c.toNat - 48
  else if 'a' ≤ c ∧ c ≤ 'f' then c.toNat - 87
  else if 'A' ≤ c ∧ c ≤ 'F' then c.toNat - 55
  else 16

/-- The number that digits stand for, if all of them are digits to the base. -/
def number? (base : Nat) (cs : List Char) : Option Nat :=
  if cs.all fun c => digitValue c < base then
    some (cs.foldl (fun n c => base * n + digitValue c) 0)
  else none

/-- The number of one part of an address. -/
def part? : List Char → Option Nat
  | [] => none
  | '0' :: 'x' :: rest => number? 16 rest
  | '0' :: 'X' :: rest => number? 16 rest
  | ['0'] => some 0
  | '0' :: rest => number? 8 rest
  | cs => number? 10 cs

/-- The parts of a host, an empty one at the end left out. -/
def parts (host : List Char) : List (List Char) :=
  let all := splitChars '.' host
  if 2 ≤ all.length ∧ all.getLast? = some [] then all.dropLast else all

/-- Whether the last part of a host is a number or made of digits. -/
def endsInNumber (host : List Char) : Bool :=
  match (parts host).getLast? with
  | none => false
  | some [] => false
  | some last => last.all (fun c => '0' ≤ c && c ≤ '9') || (part? last).isSome

/-- The address that numbers stand for: all but the last are octets, and the last is the rest. -/
def ofNumbers? (numbers : List Nat) : Option Nat :=
  match numbers.getLast? with
  | none => none
  | some last =>
    let first := numbers.dropLast
    if 3 < first.length ∨ first.any (255 < ·) ∨ Nat.pow 256 (4 - first.length) ≤ last then none
    else
      let high := first.foldl (fun n x => 256 * n + x) 0
      some (high * Nat.pow 256 (4 - first.length) + last)

/-- The address that a host stands for. -/
def parse? (host : List Char) : Option Nat := do
  let numbers ← (parts host).mapM part?
  ofNumbers? numbers

/-- The four octets of an address in decimal. -/
def text (address : Nat) : String :=
  s!"{address / 16777216 % 256}.{address / 65536 % 256}.{address / 256 % 256}.{address % 256}"

end XoLedger.Url.Ipv4
