import XoLedger.Gateway.Answer
import XoLedger.Proofs.Game.Data
import XoLedger.Proofs.Json.Value

/-!
# Answers that are written again

Whatever an answer of the gateway was read from, writing it and reading that gives the same answer
(`answers_read_back`); the same goes for games. Most types read back every value there is. Not so
the values inside a paging part, which are of any shape: it takes numbers in range and members in
order, which is how they come out of a document, and no fraction among them. A value that is nothing
would not be read back as one that is there, but a document never has it there either.
-/

namespace XoLedger

open Json

/-! ### Submissions -/

namespace Acknowledgement

lemma isReadBack (room : Nat) (a : Acknowledgement) :
    IsReadBack (shape.read (room + 1)) toValue a :=
  shape.isReadBack (by simp [shape, Field.of]) (.cons (Field.takes_of (isReadBack_text _ _)) .nil)
    rfl rfl

lemma isExact_toValue (a : Acknowledgement) : a.toValue.IsExact :=
  .object (List.forall_mem_singleton.mpr (.text _))

end Acknowledgement

/-! ### Batches -/

namespace BatchStatus

/-- The words for the four statuses are different. -/
lemma ofWord_word (status : BatchStatus) : ofWord status.word = status := by
  cases status with
  | committed => rw [ofWord, if_pos rfl]
  | invalid => rw [ofWord, if_neg (by simp [word]), if_pos rfl]
  | pending => rw [ofWord, if_neg (by simp [word]), if_neg (by simp [word]), if_pos rfl]
  | unknown =>
    rw [ofWord, if_neg (by simp [word]), if_neg (by simp [word]), if_neg (by simp [word])]

/-- Words without a meaning stand for the last status. -/
lemma ofWord_of_notMem {w : String} (h : w ∉ ["COMMITTED", "INVALID", "PENDING"]) :
    ofWord w = unknown := by
  simp only [List.mem_cons, List.not_mem_nil, or_false, not_or] at h
  obtain ⟨hcommitted, hinvalid, hpending⟩ := h
  exact (if_neg hcommitted).trans ((if_neg hinvalid).trans (if_neg hpending))

/-- Any word is read as the status that it stands for. -/
lemma isReadBack_text (room : Nat) (word : String) :
    IsReadBack (read room) (fun _ => .text word) (ofWord word) :=
  isReadBack_word (fun word => .ok (ofWord word)) (fun _ => word) rfl room

lemma isReadBack (room : Nat) (status : BatchStatus) : IsReadBack (read room) toValue status := by
  have hread := isReadBack_text room status.word
  rwa [ofWord_word] at hread

end BatchStatus

/-- A text that may be absent is read back. -/
lemma Json.isReadBack_optionText (room : Nat) (s : Option String) :
    IsReadBack (readOption readText room) (.ofOption .text) s :=
  isReadBack_option fun s _ => ⟨isReadBack_text room s, nofun⟩

lemma Json.Value.isExact_ofOption {α : Type} {f : α → Value} {a : Option α}
    (h : ∀ b ∈ a, (f b).IsExact) : (Value.ofOption f a).IsExact := by
  cases a with
  | none => exact .null
  | some b => exact h b rfl

lemma Json.Value.isExact_map {α : Type} {f : α → Value} {as : List α}
    (h : ∀ a, (f a).IsExact) : (Value.array (as.map f)).IsExact :=
  .array (List.forall_mem_map.mpr fun a _ => h a)

namespace InvalidTransaction

lemma isReadBack (room : Nat) (t : InvalidTransaction) :
    IsReadBack (shape.read (room + 1)) toValue t :=
  shape.isReadBack (by simp [shape, Field.of])
    (.cons (Field.takes_of (isReadBack_text _ _)) <|
      .cons (Field.takes_of (isReadBack_text _ _)) <|
      .cons (Field.takes_of (isReadBack_optionText _ _)) .nil)
    rfl rfl

lemma isExact_toValue (t : InvalidTransaction) : t.toValue.IsExact :=
  .object (List.forall_iff_forall_mem.mp
    ⟨.text _, .text _, Value.isExact_ofOption fun s _ => .text s⟩)

end InvalidTransaction

namespace BatchReport

lemma isReadBack (room : Nat) (r : BatchReport) :
    IsReadBack (shape.read (room + 3)) toValue r :=
  shape.isReadBack (by simp [shape, Field.of])
    (.cons (Field.takes_of (isReadBack_text _ _)) <|
      .cons (Field.takes_of (BatchStatus.isReadBack _ _)) <|
      .cons (Field.takes_of (isReadBack_list fun t _ => t.isReadBack room)) .nil)
    rfl rfl

lemma isExact_toValue (r : BatchReport) : r.toValue.IsExact :=
  .object (List.forall_iff_forall_mem.mp
    ⟨.text _, .text _, Value.isExact_map InvalidTransaction.isExact_toValue⟩)

/-- A report of which only the required fields are written is read with any word for its status. -/
lemma decode_required (id word : String) :
    decode shape.read
        (Utf8.encode (Value.object [("id", .text id), ("status", .text word)]).render) =
      .ok ⟨id, BatchStatus.ofWord word, []⟩ := by
  have htake : Shape.AllTake 126 (shape.fields.take 2) _ :=
    .cons (Field.takes_of (isReadBack_text _ id)) <|
      .cons (Field.takes_of (BatchStatus.isReadBack_text _ word)) .nil
  have hrequired : ∀ field ∈ shape.fields, field.absence = .refused → field ∈ shape.fields.take 2 :=
    List.forall_iff_forall_mem.mp
      ⟨fun _ => List.mem_cons_self, fun _ => List.mem_cons_of_mem _ List.mem_cons_self, nofun⟩
  have hmembers := Shape.read_members (by simp [shape, Field.of]) (List.take_sublist 2 _) hrequired
    htake
  have hread : IsReadBack (shape.read maxDepth)
      (fun _ => .object [("id", .text id), ("status", .text word)])
      ⟨id, BatchStatus.ofWord word, []⟩ := hmembers
  have hexact : (Value.object [("id", .text id), ("status", .text word)]).IsExact :=
    .object (List.forall_iff_forall_mem.mp ⟨.text _, .text _⟩)
  have hdecode := decode_of_isReadBack hread hexact
  exact hdecode

end BatchReport

namespace StatusAnswer

lemma isReadBack (room : Nat) (a : StatusAnswer) :
    IsReadBack (shape.read (room + 5)) toValue a :=
  shape.isReadBack (by simp [shape, Field.of])
    (.cons (Field.takes_of (isReadBack_list fun r _ => r.isReadBack room)) <|
      .cons (Field.takes_of (isReadBack_optionText _ _)) .nil)
    rfl rfl

lemma isExact_toValue (a : StatusAnswer) : a.toValue.IsExact :=
  .object (List.forall_iff_forall_mem.mp
    ⟨Value.isExact_map BatchReport.isExact_toValue, Value.isExact_ofOption fun s _ => .text s⟩)

end StatusAnswer

/-! ### State -/

namespace StateEntry

lemma isReadBack (room : Nat) (e : StateEntry) : IsReadBack (shape.read (room + 1)) toValue e :=
  shape.isReadBack (by simp [shape, Field.of])
    (.cons (Field.takes_of (isReadBack_text _ _)) <|
      .cons (Field.takes_of (isReadBack_text _ _)) .nil)
    rfl rfl

lemma isExact_toValue (e : StateEntry) : e.toValue.IsExact :=
  .object (List.forall_iff_forall_mem.mp ⟨.text _, .text _⟩)

end StateEntry

namespace Paging

/-- That the values of a paging part can have been read there. -/
structure IsProper (room : Nat) (p : Paging) : Prop where
  /-- Where this part starts. -/
  start : ∀ v ∈ p.start, v.IsProper room ∧ v ≠ .null
  /-- The number of entries in a part. -/
  limit : ∀ v ∈ p.limit, v.IsProper room ∧ v ≠ .null
  /-- Where the next part starts. -/
  nextPosition : ∀ v ∈ p.nextPosition, v.IsProper room ∧ v ≠ .null
  /-- The address to ask for the next part. -/
  next : ∀ v ∈ p.next, v.IsProper room ∧ v ≠ .null

/-- A value of any shape that is there is proper, and not nothing. -/
lemma isProper_of_readOption {room : Nat} {tokens rest : List Token} {o : Option Value}
    (h : readOption readValue room tokens = .ok (o, rest)) :
    ∀ v ∈ o, v.IsProper room ∧ v ≠ .null := by
  intro v hv
  obtain ⟨hread, hhead⟩ := of_readOption h v hv
  refine ⟨isProper_of_readValue hread, ?_⟩
  rintro rfl
  exact hhead (head?_of_readValue_null hread)

/-- A paging part that was read is proper. -/
lemma isProper_of_read {room : Nat} {tokens rest : List Token} {p : Paging}
    (h : shape.read (room + 1) tokens = .ok (p, rest)) : p.IsProper room := by
  refine shape.invariant_of_read ⟨nofun, nofun, nofun, nofun⟩
    (List.forall_iff_forall_mem.mp ⟨?_, ?_, ?_, ?_⟩) h
  · exact Field.keeps_of fun _ _ _ hv p hp => { hp with start := isProper_of_readOption hv }
  · exact Field.keeps_of fun _ _ _ hv p hp => { hp with limit := isProper_of_readOption hv }
  · exact Field.keeps_of fun _ _ _ hv p hp => { hp with nextPosition := isProper_of_readOption hv }
  · exact Field.keeps_of fun _ _ _ hv p hp => { hp with next := isProper_of_readOption hv }

/-- A proper value without fractions is read back where it may be absent. -/
lemma isReadBack_value {room : Nat} {o : Option Value}
    (h : ∀ v ∈ o, v.IsProper room ∧ v ≠ .null) (hexact : (Value.ofOption id o).IsExact) :
    IsReadBack (readOption readValue room) (.ofOption id) o := by
  refine isReadBack_option fun v hv => ?_
  obtain ⟨hproper, hnull⟩ := h v hv
  rw [Option.mem_def.mp hv] at hexact
  exact ⟨Json.isReadBack_value hproper hexact, hnull⟩

lemma isReadBack {room : Nat} {p : Paging} (h : p.IsProper room) (hexact : p.toValue.IsExact) :
    IsReadBack (shape.read (room + 1)) toValue p := by
  cases hexact with
  | object hmembers =>
    obtain ⟨hstart, hlimit, hposition, hnext⟩ := List.forall_iff_forall_mem.mpr hmembers
    exact shape.isReadBack (by simp [shape, Field.of])
      (.cons (Field.takes_of (isReadBack_value h.start hstart)) <|
        .cons (Field.takes_of (isReadBack_value h.limit hlimit)) <|
        .cons (Field.takes_of (isReadBack_value h.nextPosition hposition)) <|
        .cons (Field.takes_of (isReadBack_value h.next hnext)) .nil)
      rfl rfl

end Paging

namespace StateAnswer

/-- The paging part of an answer that was read is proper. -/
lemma isProper_of_read {room : Nat} {tokens rest : List Token} {a : StateAnswer}
    (h : shape.read (room + 3) tokens = .ok (a, rest)) :
    ∀ p ∈ a.paging, p.IsProper (room + 1) := by
  refine shape.invariant_of_read (P := fun a => ∀ p ∈ a.paging, p.IsProper (room + 1)) nofun
    (List.forall_iff_forall_mem.mp ⟨?_, ?_, ?_, ?_⟩) h
  · exact Field.keeps_of fun _ _ _ _ _ ha => ha
  · exact Field.keeps_of fun _ _ _ _ _ ha => ha
  · exact Field.keeps_of fun _ _ _ _ _ ha => ha
  · exact Field.keeps_of fun _ _ _ hpaging _ _ p hp =>
      Paging.isProper_of_read (of_readOption hpaging p hp).1

lemma isReadBack {room : Nat} {a : StateAnswer} (h : ∀ p ∈ a.paging, p.IsProper (room + 1))
    (hexact : ∀ p ∈ a.paging, p.toValue.IsExact) :
    IsReadBack (shape.read (room + 3)) toValue a :=
  shape.isReadBack (by simp [shape, Field.of])
    (.cons (Field.takes_of (isReadBack_list fun e _ => e.isReadBack _)) <|
      .cons (Field.takes_of (isReadBack_optionText _ _)) <|
      .cons (Field.takes_of (isReadBack_optionText _ _)) <|
      .cons (Field.takes_of (isReadBack_option fun p hp =>
        ⟨Paging.isReadBack (h p hp) (hexact p hp), nofun⟩)) .nil)
    rfl rfl

lemma isExact_toValue {a : StateAnswer} (h : ∀ p ∈ a.paging, p.toValue.IsExact) :
    a.toValue.IsExact :=
  .object (List.forall_iff_forall_mem.mp
    ⟨Value.isExact_map StateEntry.isExact_toValue, Value.isExact_ofOption fun s _ => .text s,
      Value.isExact_ofOption fun s _ => .text s, Value.isExact_ofOption h⟩)

end StateAnswer

/-! ### Reading, writing and reading again -/

/-- **Answers are read back.** What any of the types is read as from a document, it is read as again
from what is then written, if no fraction stands in a paging part. A status with any other word than
the three that mean something is read as unknown, and a report without a list as one with none. -/
theorem answers_read_back (b : Bytes) :
    (∀ a, decode Acknowledgement.shape.read b = .ok a →
      decode Acknowledgement.shape.read (Utf8.encode a.toValue.render) = .ok a) ∧
    (∀ t, decode InvalidTransaction.shape.read b = .ok t →
      decode InvalidTransaction.shape.read (Utf8.encode t.toValue.render) = .ok t) ∧
    (∀ r, decode BatchReport.shape.read b = .ok r →
      decode BatchReport.shape.read (Utf8.encode r.toValue.render) = .ok r) ∧
    (∀ a, decode StatusAnswer.shape.read b = .ok a →
      decode StatusAnswer.shape.read (Utf8.encode a.toValue.render) = .ok a) ∧
    (∀ e, decode StateEntry.shape.read b = .ok e →
      decode StateEntry.shape.read (Utf8.encode e.toValue.render) = .ok e) ∧
    (∀ p, decode Paging.shape.read b = .ok p → p.toValue.IsExact →
      decode Paging.shape.read (Utf8.encode p.toValue.render) = .ok p) ∧
    (∀ a, decode StateAnswer.shape.read b = .ok a → (∀ p ∈ a.paging, p.toValue.IsExact) →
      decode StateAnswer.shape.read (Utf8.encode a.toValue.render) = .ok a) ∧
    (∀ g, decode Game.shape.read b = .ok g →
      decode Game.shape.read (Utf8.encode g.toValue.render) = .ok g) ∧
    ∀ id word, word ∉ ["COMMITTED", "INVALID", "PENDING"] →
      decode BatchReport.shape.read
          (Utf8.encode (Value.object [("id", .text id), ("status", .text word)]).render) =
        .ok ⟨id, .unknown, []⟩ := by
  refine ⟨fun a _ => ?_, fun t _ => ?_, fun r _ => ?_, fun a _ => ?_, fun e _ => ?_,
    fun p h hexact => ?_, fun a h hexact => ?_, fun g _ => ?_, fun id word hword => ?_⟩
  · exact decode_of_isReadBack (a.isReadBack 126) a.isExact_toValue
  · exact decode_of_isReadBack (t.isReadBack 126) t.isExact_toValue
  · exact decode_of_isReadBack (r.isReadBack 124) r.isExact_toValue
  · exact decode_of_isReadBack (a.isReadBack 122) a.isExact_toValue
  · exact decode_of_isReadBack (e.isReadBack 126) e.isExact_toValue
  · obtain ⟨rest, hread⟩ := exists_of_decode h
    have hproper : p.IsProper 126 := Paging.isProper_of_read hread
    exact decode_of_isReadBack (Paging.isReadBack hproper hexact) hexact
  · obtain ⟨rest, hread⟩ := exists_of_decode h
    have hproper : ∀ p ∈ a.paging, p.IsProper 125 := StateAnswer.isProper_of_read hread
    exact decode_of_isReadBack (StateAnswer.isReadBack hproper hexact)
      (StateAnswer.isExact_toValue hexact)
  · exact decode_of_isReadBack (g.isReadBack 126) g.isExact_toValue
  · rw [BatchReport.decode_required, BatchStatus.ofWord_of_notMem hword]

/-- An answer written as a list. Its paging part says of one field that it is nothing, leaves out
two and has a member that nobody asked for. -/
theorem answers_read_back_list :
    let b := Utf8.encode "[[],null,\"h\",\x7b\"next\":[true,-7],\"limit\":null,\"more\":1\x7d]"
    let a : StateAnswer :=
      ⟨[], none, some "h", some ⟨none, none, none,
        some (.array [.bool true, .number (.negative 7)])⟩⟩
    decode StateAnswer.shape.read b = .ok a ∧
      decode StateAnswer.shape.read (Utf8.encode a.toValue.render) = .ok a := by
  intro b a
  have hread : decode StateAnswer.shape.read b = .ok a := rfl
  have hexact : ∀ p ∈ a.paging, p.toValue.IsExact := by
    rintro p ⟨⟩
    exact .object (List.forall_iff_forall_mem.mp ⟨.null, .null, .null,
      .array (List.forall_iff_forall_mem.mp ⟨.bool true, .negative 7⟩)⟩)
  obtain ⟨-, -, -, -, -, -, hstates, -⟩ := answers_read_back b
  exact ⟨hread, hstates a hread hexact⟩

end XoLedger
