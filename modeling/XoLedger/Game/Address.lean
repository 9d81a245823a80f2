import XoLedger.Digest.Sha512

/-!
# Addresses

A game's place on the ledger is computed from its name alone: six digits that all games share, by
which they can be asked for at once, and 64 digits of the name's digest.
-/

namespace XoLedger.Address

/-- The name of the family of rules. -/
def familyName : String := "xo"

/-- The version of the rules. -/
def familyVersion : String := "1.0"

/-- The digits that the addresses of all games start with. -/
def gamePrefix : String :=
  String.ofList ((Sha512.hex (Utf8.encode familyName)).toList.take 6)

/-- The address of the game with a given name. -/
def ofName (name : String) : String :=
  gamePrefix ++ String.ofList ((Sha512.hex (Utf8.encode name)).toList.take 64)

end XoLedger.Address
