import XoLedger.Game.Data
import XoLedger.Proofs.Json.Record

/-!
# Games as structured data, written and read

Phases go by names that differ from each other, so each is read back from its name, and with it a
game from its five fields.
-/

namespace XoLedger

open Json

/-- What goes by a name of its own is read back from it. -/
lemma isReadBack_named {α : Type} {all : List α} {name : α → String}
    (hnames : (all.map name).Nodup) {a : α} (h : a ∈ all) (room : Nat) :
    IsReadBack (readNamed all name room) (fun a => .text (name a)) a := by
  refine isReadBack_word _ name ?_ room
  rw [find?_of_nodup hnames h]

lemma Phase.mem_all (phase : Phase) : phase ∈ all := by
  cases phase <;> decide

lemma Phase.isReadBack (room : Nat) (phase : Phase) : IsReadBack (read room) toValue phase :=
  isReadBack_named (by simp [all, name]) phase.mem_all room

namespace Game

lemma isReadBack (room : Nat) (g : Game) : IsReadBack (shape.read (room + 1)) toValue g :=
  shape.isReadBack (by simp [shape, Field.of])
    (.cons (Field.takes_of (isReadBack_text _ _)) <|
      .cons (Field.takes_of (isReadBack_text _ _)) <|
      .cons (Field.takes_of (Phase.isReadBack _ _)) <|
      .cons (Field.takes_of (isReadBack_text _ _)) <|
      .cons (Field.takes_of (isReadBack_text _ _)) .nil)
    rfl rfl

lemma isExact_toValue (g : Game) : g.toValue.IsExact :=
  .object (List.forall_iff_forall_mem.mp ⟨.text _, .text _, .text _, .text _, .text _⟩)

end Game

end XoLedger
