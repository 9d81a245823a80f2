import Mathlib.Data.String.Basic
import XoLedger.Proofs.Json.Reader

/-!
# Values of any shape

A value that was read has numbers in range and the members of its objects in the order of their
names, each name once (`isProper_of_readValue`). Such a value is read back from its tokens where
there is room for it (`isReadBack_value`): its members come in order, so each of them is put after
those before it.
-/

namespace XoLedger.Json

namespace Value

/-! ### Members in order -/

/-- Whether members are in the order of their names, each name once. -/
def AreOrdered (members : List (String × Value)) : Prop :=
  members.Pairwise fun member member' => member.1 < member'.1

variable {key : String} {value : Value} {members : List (String × Value)}

lemma mem_insertMember {member : String × Value} (h : member ∈ insertMember key value members) :
    member = (key, value) ∨ member ∈ members := by
  induction members with
  | nil => exact .inl (List.mem_singleton.mp h)
  | cons head members ih =>
    rw [insertMember] at h
    split_ifs at h with heq hlt
    · exact (List.mem_cons.mp h).imp_right (List.mem_cons_of_mem _)
    · exact List.mem_cons.mp h
    · rcases List.mem_cons.mp h with rfl | h
      · exact .inr List.mem_cons_self
      · exact (ih h).imp_right (List.mem_cons_of_mem _)

/-- A member is put into its place. -/
lemma areOrdered_insertMember (h : AreOrdered members) :
    AreOrdered (insertMember key value members) := by
  induction members with
  | nil => exact List.pairwise_singleton _ _
  | cons head members ih =>
    obtain ⟨hhead, htail⟩ := List.pairwise_cons.mp h
    rw [insertMember]
    split_ifs with heq hlt
    · exact List.pairwise_cons.mpr ⟨fun member hmember => heq ▸ hhead member hmember, htail⟩
    · refine List.pairwise_cons.mpr ⟨fun member hmember => ?_, h⟩
      rcases List.mem_cons.mp hmember with rfl | hmember
      · exact hlt
      · exact hlt.trans (hhead member hmember)
    · refine List.pairwise_cons.mpr ⟨fun member hmember => ?_, ih htail⟩
      rcases mem_insertMember hmember with rfl | hmember
      · exact lt_of_le_of_ne (not_lt.mp hlt) (Ne.symm heq)
      · exact hhead member hmember

/-- A member whose name comes after all others is put at the end. -/
lemma insertMember_of_forall_lt (h : ∀ member ∈ members, member.1 < key) :
    insertMember key value members = members ++ [(key, value)] := by
  induction members with
  | nil => rfl
  | cons head members ih =>
    have hhead := h head List.mem_cons_self
    rw [insertMember, if_neg (ne_of_gt hhead), if_neg (lt_asymm hhead),
      ih fun member hmember => h member (List.mem_cons_of_mem _ hmember), List.cons_append]

/-! ### What can be read -/

/-- That a value can have been read where `room` lists and objects may be entered. -/
inductive IsProper : (room : Nat) → Value → Prop where
  /-- Nothing. -/
  | null (room : Nat) : IsProper room .null
  /-- A truth value. -/
  | bool (room : Nat) (b : Bool) : IsProper room (.bool b)
  /-- A number in range. -/
  | number {room : Nat} {n : Number} (h : n.IsInRange) : IsProper room (.number n)
  /-- A text. -/
  | text (room : Nat) (s : String) : IsProper room (.text s)
  /-- A list of such values. -/
  | array {room : Nat} {items : List Value} (h : ∀ item ∈ items, IsProper room item) :
    IsProper (room + 1) (.array items)
  /-- An object of such values, its members in order. -/
  | object {room : Nat} {members : List (String × Value)} (ordered : AreOrdered members)
    (h : ∀ member ∈ members, IsProper room member.2) : IsProper (room + 1) (.object members)

end Value

/-- How a value of any shape takes one more member. -/
def takeMember (room : Nat) (members : List (String × Value)) (key : String)
    (tokens : List Token) : Except Error (List (String × Value) × List Token) := do
  let tokens ← drop .colon tokens
  let (value, tokens) ← readValue room tokens
  return (Value.insertMember key value members, tokens)

lemma readValue_openArray (room : Nat) (rest : List Token) :
    readValue (room + 1) (.openArray :: rest) = do
      let (items, rest) ← readItems (readValue room) (rest.length + 1) true rest
      return (.array items, rest) := by
  rw [readValue]

lemma readValue_openObject (room : Nat) (rest : List Token) :
    readValue (room + 1) (.openObject :: rest) = do
      let (members, rest) ← readObject (takeMember room) [] rest
      return (.object members, rest) := by
  rw [readValue]
  rfl

/-- A member that is taken is put into its place. -/
lemma of_takeMember {room : Nat} {members members' : List (String × Value)} {key : String}
    {tokens rest : List Token} (h : takeMember room members key tokens = .ok (members', rest)) :
    ∃ value tokens', readValue room tokens' = .ok (value, rest) ∧
      members' = Value.insertMember key value members := by
  obtain ⟨tokens', -, h⟩ := Except.bind_eq_ok_iff.mp h
  obtain ⟨⟨value, rest'⟩, hvalue, heq⟩ := Except.bind_eq_ok_iff.mp h
  cases heq
  exact ⟨value, tokens', hvalue, rfl⟩

/-- **What is read is proper.** -/
theorem isProper_of_readValue {room : Nat} {tokens rest : List Token} {v : Value}
    (h : readValue room tokens = .ok (v, rest)) : v.IsProper room := by
  induction room using Nat.strongRecOn generalizing tokens rest v with
  | ind room ih =>
    unfold readValue at h
    split at h
    · cases h
      exact .null room
    · cases h
      exact .bool room _
    · obtain ⟨n, hn, heq⟩ := Except.bind_eq_ok_iff.mp h
      cases heq
      exact .number (isInRange_of_numberOf hn)
    · obtain ⟨s, -, heq⟩ := Except.bind_eq_ok_iff.mp h
      cases heq
      exact .text room s
    · obtain ⟨⟨items, rest'⟩, hitems, heq⟩ := Except.bind_eq_ok_iff.mp h
      cases heq
      exact .array (forall_of_readItems (ih _ (Nat.lt_succ_self _)) hitems)
    · rename_i room _
      obtain ⟨⟨members, rest'⟩, hmembers, heq⟩ := Except.bind_eq_ok_iff.mp h
      cases heq
      change readObject (takeMember room) [] _ = _ at hmembers
      -- the invariant of the members read so far: they are in order, and their values are proper
      have hkeep : ∀ {members : List (String × Value)} {key tokens members' rest},
          takeMember room members key tokens = .ok (members', rest) →
          (Value.AreOrdered members ∧ ∀ member ∈ members, member.2.IsProper room) →
          Value.AreOrdered members' ∧ ∀ member ∈ members', member.2.IsProper room := by
        rintro members key tokens members' rest htake ⟨hordered, hproper⟩
        obtain ⟨value, tokens', hvalue, rfl⟩ := of_takeMember htake
        refine ⟨Value.areOrdered_insertMember hordered, fun member hmember => ?_⟩
        rcases Value.mem_insertMember hmember with rfl | hmember
        · exact ih room (Nat.lt_succ_self _) hvalue
        · exact hproper member hmember
      obtain ⟨hordered, hproper⟩ :=
        invariant_of_readObject hkeep hmembers ⟨.nil, List.forall_mem_nil _⟩
      exact .object hordered hproper
    · cases h

/-- Nothing is read where it stands, and nowhere else. -/
lemma head?_of_readValue_null {room : Nat} {tokens rest : List Token}
    (h : readValue room tokens = .ok (.null, rest)) : tokens.head? = some .null := by
  unfold readValue at h
  split at h
  · rfl
  · cases h
  · obtain ⟨n, -, heq⟩ := Except.bind_eq_ok_iff.mp h
    cases heq
  · obtain ⟨s, -, heq⟩ := Except.bind_eq_ok_iff.mp h
    cases heq
  · obtain ⟨items, -, heq⟩ := Except.bind_eq_ok_iff.mp h
    cases heq
  · obtain ⟨members, -, heq⟩ := Except.bind_eq_ok_iff.mp h
    cases heq
  · cases h

/-! ### What is read back -/

/-- A member whose name comes after those before it is put at the end. -/
lemma takeMember_tokens {room : Nat} {key : String} {value : Value}
    {members : List (String × Value)} (hvalue : IsReadBack (readValue room) id value)
    (hkey : ∀ member ∈ members, member.1 < key) (rest : List Token) :
    takeMember room members key (.colon :: (value.tokens ++ rest)) =
      .ok (members ++ [(key, value)], rest) := by
  have hread : readValue room (value.tokens ++ rest) = .ok (value, rest) := hvalue rest
  rw [takeMember, drop, if_pos rfl, Except.ok_bind, hread, Except.ok_bind]
  simp only [Value.insertMember_of_forall_lt hkey]
  rfl

/-- Members in order are taken one after the other. -/
lemma stepsThrough_takeMember {room : Nat} {before members : List (String × Value)}
    (hordered : Value.AreOrdered (before ++ members))
    (h : ∀ member ∈ members, IsReadBack (readValue room) id member.2) :
    StepsThrough (takeMember room) before members (before ++ members) := by
  induction members generalizing before with
  | nil =>
    rw [List.append_nil]
    exact .nil before
  | cons member members ih =>
    have hkey : ∀ other ∈ before, other.1 < member.1 := fun other hother =>
      (List.pairwise_append.mp hordered).2.2 other hother member List.mem_cons_self
    have hassoc : before ++ member :: members = before ++ [member] ++ members := by
      rw [List.append_assoc, List.singleton_append]
    rw [hassoc] at hordered ⊢
    exact .cons (takeMember_tokens (h member List.mem_cons_self) hkey)
      (ih hordered fun member hmember => h member (List.mem_cons_of_mem _ hmember))

/-- **A proper value without fractions is read back.** -/
theorem isReadBack_value {room : Nat} {v : Value} (h : v.IsProper room) (hexact : v.IsExact) :
    IsReadBack (readValue room) id v := by
  induction h with
  | null room =>
    intro rest
    unfold readValue
    rfl
  | bool room b =>
    intro rest
    unfold readValue
    rfl
  | number hrange =>
    intro rest
    cases hexact with
    | natural n =>
      rw [id, Value.tokens, Number.token, List.singleton_append, readValue, numberOf,
        Numeral.value?_natural hrange]
      rfl
    | negative n =>
      rw [id, Value.tokens, Number.token, List.singleton_append, readValue, numberOf,
        Numeral.value?_negative hrange.1 hrange.2]
      rfl
  | text room s =>
    intro rest
    rw [id, Value.tokens, List.singleton_append, readValue, textOfRaw_written]
    rfl
  | @array room items _ ih =>
    intro rest
    cases hexact with
    | array hitems =>
      have hread := readItems_list (fun item hitem => ih item hitem (hitems item hitem)) rest
      rw [List.map_id] at hread
      rw [id, Value.tokens, List.append_assoc, List.cons_append, List.singleton_append,
        readValue_openArray, hread]
      rfl
  | @object room members ordered _ ih =>
    intro rest
    cases hexact with
    | object hmembers =>
      have hsteps : StepsThrough (takeMember room) [] members members :=
        stepsThrough_takeMember ordered
          fun member hmember => ih member hmember (hmembers member hmember)
      rw [id, Value.tokens, List.append_assoc, List.cons_append, List.singleton_append,
        readValue_openObject, readObject_tokens hsteps]
      rfl

end XoLedger.Json
