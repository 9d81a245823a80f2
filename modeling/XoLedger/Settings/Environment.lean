import XoLedger.Text.Utf8

/-!
# Environments

The variables that a program is started with. Values are octets; one that is not UTF-8 cannot be
read and counts as missing.
-/

namespace XoLedger

/-- Variables and their values. Of several with one name the first counts. -/
abbrev Environment : Type := List (String × Bytes)

namespace Environment

/-- The text of a variable, if it has one. -/
def text? (env : Environment) (name : String) : Option String :=
  match env.find? (·.1 = name) with
  | none => none
  | some (_, octets) =>
    match Utf8.decode octets with
    | .ok s => some s
    | .error _ => none

/-- Gives a variable a value, unless it has a text already. -/
def setIfUnread (env : Environment) (name value : String) : Environment :=
  match env.text? name with
  | some _ => env
  | none => (name, Utf8.encode value) :: env

end Environment

end XoLedger
