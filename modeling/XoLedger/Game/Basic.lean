/-!
# Games

A game as the ledger tells it: a name, nine cells in a row, whose turn it is or who has won, and
the keys of the two players. Nothing here is checked against the rules of the game; the ledger is
the referee, and a board may hold any text.
-/

namespace XoLedger

/-! ### Phases -/

/-- Where a game stands. -/
inductive Phase where
  /-- Nothing is said. -/
  | unset
  /-- The first player moves. -/
  | firstToMove
  /-- The second player moves. -/
  | secondToMove
  /-- The first player has won. -/
  | firstWon
  /-- The second player has won. -/
  | secondWon
  /-- Nobody has won. -/
  | tie
deriving DecidableEq, Repr

namespace Phase

instance : Inhabited Phase := ⟨unset⟩

/-- Every phase, in order. -/
def all : List Phase :=
  [unset, firstToMove, secondToMove, firstWon, secondWon, tie]

/-- The word for a phase in a record on the ledger. -/
def wire : Phase → String
  | unset => ""
  | firstToMove => "P1-NEXT"
  | secondToMove => "P2-NEXT"
  | firstWon => "P1-WIN"
  | secondWon => "P2-WIN"
  | tie => "TIE"

/-- The name of a phase in structured data. -/
def name : Phase → String
  | unset => "Unset"
  | firstToMove => "P1Next"
  | secondToMove => "P2Next"
  | firstWon => "P1Win"
  | secondWon => "P2Win"
  | tie => "Tie"

/-- The phase with a given word. -/
def ofWire? (s : String) : Option Phase :=
  all.find? fun phase => phase.wire = s

/-- Whether no more moves follow. -/
def isFinished : Phase → Bool
  | firstWon | secondWon | tie => true
  | unset | firstToMove | secondToMove => false

end Phase

/-! ### Marks -/

/-- What a cell holds. -/
inductive Mark where
  /-- Nothing. -/
  | empty
  /-- A cross. -/
  | x
  /-- A nought. -/
  | o
deriving DecidableEq, Repr

namespace Mark

/-- Every mark, in order. -/
def all : List Mark :=
  [empty, x, o]

/-- The mark that a character on a board stands for; letters count in either case. -/
def ofChar? (c : Char) : Option Mark :=
  if c = '-' then some empty
  else if c = 'X' ∨ c = 'x' then some x
  else if c = 'O' ∨ c = 'o' then some o
  else none

/-- The character that shows a mark. -/
def toChar : Mark → Char
  | empty => '-'
  | x => 'X'
  | o => 'O'

/-- The name of a mark in structured data. -/
def name : Mark → String
  | empty => "Empty"
  | x => "X"
  | o => "O"

end Mark

/-! ### Games -/

/-- One game. -/
structure Game where
  /-- The name, by which it is found. -/
  name : String
  /-- The cells, row by row. -/
  board : String
  /-- Where it stands. -/
  phase : Phase
  /-- The key of the first player, or nothing. -/
  player1 : String
  /-- The key of the second player, or nothing. -/
  player2 : String
deriving DecidableEq, Repr, Inhabited

namespace Game

/-- The number of cells. -/
def cells : Nat := 9

/-- The mark in a cell, counted from one; `none` where there is no cell or its character stands
for no mark. -/
def mark? (g : Game) (space : Nat) : Option Mark :=
  if 1 ≤ space ∧ space ≤ cells then g.board.toList[space - 1]?.bind Mark.ofChar? else none

/-- Whether no more moves follow. -/
def isFinished (g : Game) : Bool :=
  g.phase.isFinished

/-- Whether a key plays in the game. No key at all plays nowhere. -/
def hasPlayer (g : Game) (key : String) : Bool :=
  decide (key ≠ "") && (decide (g.player1 = key) || decide (g.player2 = key))

end Game

end XoLedger
