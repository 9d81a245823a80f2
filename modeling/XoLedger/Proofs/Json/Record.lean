import XoLedger.Proofs.Json.Reader

/-!
# Records

A record is written as an object of its fields in their order. Each field is found by its name, so
the object is read back if each field gets its part back (`Shape.isReadBack`), and where fields are
missing that may be left out, they have their defaults (`Shape.read_members`). The other way round,
what every field keeps holds of all records that can be read, whether they were written as objects
or as lists (`Shape.invariant_of_read`).
-/

namespace XoLedger.Json

variable {α β : Type}

/-! ### Fields -/

/-- That a field takes a value, whatever comes after it, and that the record changes by `change`. -/
def Field.Takes (room : Nat) (field : Field α) (value : Value) (change : α → α) : Prop :=
  ∀ rest, field.read room (value.tokens ++ rest) = .ok (change, rest)

lemma Field.takes_of {name : String} {absence : Absence} {read : Decoder β} {put : β → α → α}
    {room : Nat} {f : β → Value} {b : β} (h : IsReadBack (read room) f b) :
    (Field.of name absence read put).Takes room (f b) (put b) := by
  intro rest
  rw [Field.of]
  dsimp only
  rw [h rest]
  rfl

/-- That whatever is read for a field keeps a property of the record. -/
def Field.Keeps (room : Nat) (P : α → Prop) (field : Field α) : Prop :=
  ∀ tokens change rest, field.read room tokens = .ok (change, rest) → ∀ a, P a → P (change a)

lemma Field.keeps_of {name : String} {absence : Absence} {read : Decoder β} {put : β → α → α}
    {room : Nat} {P : α → Prop}
    (h : ∀ tokens b rest, read room tokens = .ok (b, rest) → ∀ a, P a → P (put b a)) :
    (Field.of name absence read put).Keeps room P := by
  intro tokens change rest hread
  obtain ⟨⟨b, rest'⟩, hb, heq⟩ := Except.bind_eq_ok_iff.mp hread
  cases heq
  exact h tokens b _ hb

namespace Shape

variable {shape : Shape α} {room : Nat}

/-! ### What is read back -/

/-- Fields with the values they are written with, as members. -/
def writtenMembers (fields : List (Field α)) (columns : List (Value × (α → α))) :
    List (String × Value) :=
  List.zipWith (fun field column => (field.name, column.1)) fields columns

/-- A record after each of its fields has changed it. -/
def changed (columns : List (Value × (α → α))) (a : α) : α :=
  columns.foldl (fun a column => column.2 a) a

/-- That fields take values, each its own. -/
inductive AllTake (room : Nat) : List (Field α) → List (Value × (α → α)) → Prop where
  /-- There are no fields. -/
  | nil : AllTake room [] []
  /-- The first field takes the first value, and the others the others. -/
  | cons {field : Field α} {value : Value} {change : α → α} {fields : List (Field α)}
      {columns : List (Value × (α → α))} (head : field.Takes room value change)
      (tail : AllTake room fields columns) :
      AllTake room (field :: fields) ((value, change) :: columns)

/-- A field that has not been read yet takes its value. -/
lemma member_tokens (hnames : (shape.fields.map Field.name).Nodup) {field : Field α}
    (hmem : field ∈ shape.fields) {value : Value} {change : α → α}
    (h : field.Takes room value change) {seen : List String} (hnew : field.name ∉ seen) (a : α)
    (rest : List Token) :
    shape.member room (seen, a) field.name (.colon :: (value.tokens ++ rest)) =
      .ok ((field.name :: seen, change a), rest) := by
  have hseen : seen.contains field.name = false := by
    rw [Bool.eq_false_iff, ne_eq, List.contains_iff_mem]
    exact hnew
  rw [member, find?_of_nodup hnames hmem]
  simp only [hseen, Bool.false_eq_true, if_false, drop, if_true, Except.ok_bind, h rest]
  rfl

/-- Written fields are taken one after the other. -/
lemma stepsThrough_member (hnames : (shape.fields.map Field.name).Nodup) {fields : List (Field α)}
    (hmem : ∀ field ∈ fields, field ∈ shape.fields) (hdistinct : (fields.map Field.name).Nodup)
    {columns : List (Value × (α → α))} (h : AllTake room fields columns) {seen : List String}
    (hnew : ∀ field ∈ fields, field.name ∉ seen) (a : α) :
    StepsThrough (shape.member room) (seen, a) (writtenMembers fields columns)
      ((fields.map Field.name).reverse ++ seen, changed columns a) := by
  induction h generalizing seen a with
  | nil => exact .nil _
  | @cons field value change fields columns hfield _ ih =>
    rw [List.map_cons, List.nodup_cons] at hdistinct
    -- a name that was read is not among those that are still to come
    have hnext : ∀ other ∈ fields, other.name ∉ field.name :: seen := by
      intro other hother hmem
      rcases List.mem_cons.mp hmem with heq | hmem
      · exact hdistinct.1 (heq ▸ List.mem_map_of_mem hother)
      · exact hnew other (List.mem_cons_of_mem _ hother) hmem
    have htail := ih (fun other hother => hmem other (List.mem_cons_of_mem _ hother)) hdistinct.2
      hnext (change a)
    rw [List.map_cons, List.reverse_cons, List.append_assoc, List.singleton_append]
    exact .cons (member_tokens hnames (hmem field List.mem_cons_self) hfield
      (hnew field List.mem_cons_self) a) htail

/-- **A written object is read** if it has the required fields, the others keeping their defaults
where they are missing. -/
theorem read_members (hnames : (shape.fields.map Field.name).Nodup) {fields : List (Field α)}
    (hsublist : fields.Sublist shape.fields)
    (hrequired : ∀ field ∈ shape.fields, field.absence = .refused → field ∈ fields)
    {columns : List (Value × (α → α))} (h : AllTake room fields columns) (rest : List Token) :
    shape.read (room + 1) ((Value.object (writtenMembers fields columns)).tokens ++ rest) =
      .ok (changed columns shape.empty, rest) := by
  have hdistinct : (fields.map Field.name).Nodup := hnames.sublist (hsublist.map _)
  have hsteps := stepsThrough_member hnames (fun _ hfield => hsublist.subset hfield) hdistinct h
    (fun _ _ => List.not_mem_nil) shape.empty
  rw [List.append_nil] at hsteps
  have hnone : (shape.fields.find? fun field => field.absence = .refused ∧
      !(fields.map Field.name).reverse.contains field.name) = none := by
    rw [List.find?_eq_none]
    intro field hfield
    simp only [decide_eq_true_eq, Bool.not_eq_true', not_and, Bool.not_eq_false,
      List.contains_iff_mem, List.mem_reverse]
    exact fun habsence => List.mem_map_of_mem (hrequired field hfield habsence)
  rw [Value.tokens, List.append_assoc, List.cons_append, List.singleton_append, read, enter,
    Except.ok_bind, readObject_tokens hsteps, Except.ok_bind]
  dsimp only
  rw [hnone]
  rfl

/-- **A written record is read back** if each of its fields takes its part. -/
theorem isReadBack (shape : Shape α) (hnames : (shape.fields.map Field.name).Nodup)
    {columns : List (Value × (α → α))} (h : AllTake room shape.fields columns)
    {toValue : α → Value} {a : α}
    (hvalue : toValue a = .object (writtenMembers shape.fields columns))
    (ha : changed columns shape.empty = a) : IsReadBack (shape.read (room + 1)) toValue a := by
  intro rest
  rw [hvalue, read_members hnames (List.Sublist.refl _) (fun _ hfield _ => hfield) h, ha]

/-! ### What can be read -/

section Invariant

variable {P : α → Prop}

/-- What the fields from a place on keep holds of a record read from the items of a list. -/
lemma invariant_of_items {index : Nat} {fields : List (Field α)}
    (hfields : ∀ field ∈ fields, field.Keeps room P)
    {a a' : α} {tokens rest : List Token}
    (h : shape.items room index fields a tokens = .ok (a', rest)) (ha : P a) : P a' := by
  induction fields generalizing index a tokens with
  | nil =>
    cases h
    exact ha
  | cons field fields ih =>
    have hrest : ∀ other ∈ fields, other.Keeps room P :=
      fun other hother => hfields other (List.mem_cons_of_mem _ hother)
    rw [items] at h
    obtain ⟨next, -, h⟩ := Except.bind_eq_ok_iff.mp h
    cases next with
    | none =>
      dsimp only at h
      split_ifs at h
      exact ih hrest h ha
    | some tokens =>
      obtain ⟨⟨change, rest'⟩, hchange, h⟩ := Except.bind_eq_ok_iff.mp h
      exact ih hrest h (hfields field List.mem_cons_self _ _ _ hchange a ha)

/-- What every field keeps is kept by the members of an object, those without a field included. -/
lemma invariant_of_member
    (hfields : ∀ field ∈ shape.fields, field.Keeps room P)
    {state state' : List String × α} {key : String} {tokens rest : List Token}
    (h : shape.member room state key tokens = .ok (state', rest)) (ha : P state.2) :
    P state'.2 := by
  rw [member] at h
  split at h
  · obtain ⟨_, -, h⟩ := Except.bind_eq_ok_iff.mp h
    obtain ⟨_, -, heq⟩ := Except.bind_eq_ok_iff.mp h
    cases heq
    exact ha
  · rename_i field hfind
    split_ifs at h
    obtain ⟨_, -, h⟩ := Except.bind_eq_ok_iff.mp h
    obtain ⟨⟨change, rest'⟩, hchange, heq⟩ := Except.bind_eq_ok_iff.mp h
    cases heq
    exact hfields field (List.mem_of_find?_eq_some hfind) _ _ _ hchange _ ha

/-- **What every field keeps** holds of each record that can be read. -/
theorem invariant_of_read (shape : Shape α) (hempty : P shape.empty)
    (hfields : ∀ field ∈ shape.fields, field.Keeps room P)
    {a : α} {tokens rest : List Token} (h : shape.read (room + 1) tokens = .ok (a, rest)) :
    P a := by
  unfold read at h
  split at h
  · obtain ⟨_, heq, h⟩ := Except.bind_eq_ok_iff.mp h
    cases heq
    obtain ⟨⟨⟨seen, a'⟩, rest'⟩, hread, h⟩ := Except.bind_eq_ok_iff.mp h
    have ha : P a' := invariant_of_readObject (P := fun state => P state.2)
      (fun hmember hP => invariant_of_member hfields hmember hP) hread hempty
    dsimp only at h
    split at h
    · cases h
    · cases h
      exact ha
  · obtain ⟨_, heq, h⟩ := Except.bind_eq_ok_iff.mp h
    cases heq
    obtain ⟨⟨a', rest'⟩, hread, h⟩ := Except.bind_eq_ok_iff.mp h
    obtain ⟨_, -, heq⟩ := Except.bind_eq_ok_iff.mp h
    cases heq
    exact invariant_of_items hfields hread hempty
  · exact absurd h (refuse_ne_ok _ _ _)

end Invariant

end Shape

end XoLedger.Json
