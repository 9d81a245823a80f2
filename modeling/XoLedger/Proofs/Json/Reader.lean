import XoLedger.Proofs.Json.Token
import XoLedger.Proofs.Outcome

/-!
# Readers of texts, lists and objects

What a reader gets back from the tokens of a written value, whatever comes after them
(`IsReadBack`). For a list it is enough that each item is read back, and for an object that each
member is taken in turn (`StepsThrough`). The other way round, what holds of every item that can be
read holds of the items of a list, and what every member keeps holds of an object.
-/

namespace XoLedger.Json

variable {α β : Type}

/-- That `read` gets `a` back from the tokens of `f a`, whatever comes after them. -/
def IsReadBack (read : List Token → Except Error (α × List Token)) (f : α → Value) (a : α) :
    Prop :=
  ∀ rest, read ((f a).tokens ++ rest) = .ok (a, rest)

/-- What is read back from tokens is read back from the document. -/
theorem decode_of_isReadBack {read : Decoder α} {f : α → Value} {a : α}
    (h : IsReadBack (read maxDepth) f a) (hexact : (f a).IsExact) :
    decode read (Utf8.encode (f a).render) = .ok a := by
  have hread := h []
  rw [List.append_nil] at hread
  rw [decode, Value.lex_render hexact, hread]
  rfl

lemma exists_of_decode {read : Decoder α} {b : Bytes} {a : α} (h : decode read b = .ok a) :
    ∃ rest, read maxDepth (lex b) = .ok (a, rest) := by
  obtain ⟨⟨a', rest⟩, hread, h⟩ := Except.bind_eq_ok_iff.mp h
  dsimp only at h
  split_ifs at h
  cases h
  exact ⟨rest, hread⟩

/-- The first token of a value does not close a list, and it tells whether the value is nothing. -/
lemma Value.exists_tokens (v : Value) :
    ∃ token rest, v.tokens = token :: rest ∧ token ≠ .closeArray ∧ (token = .null → v = .null) := by
  cases v with
  | null => exact ⟨.null, [], by rw [tokens], by simp, fun _ => rfl⟩
  | bool b => exact ⟨.bool b, [], by rw [tokens], by simp, by simp⟩
  | number n =>
    refine ⟨n.token, [], by rw [tokens], ?_, ?_⟩
    · cases n <;> simp [Number.token]
    · cases n <;> simp [Number.token]
  | text s => exact ⟨.text (written s), [], by rw [tokens], by simp, by simp⟩
  | array items => exact ⟨.openArray, _, by rw [tokens, List.cons_append], by simp, by simp⟩
  | object members => exact ⟨.openObject, _, by rw [tokens, List.cons_append], by simp, by simp⟩

/-- A refusal is never a value. -/
lemma refuse_ne_ok (expected : String) (tokens : List Token) (a : α) :
    refuse expected tokens ≠ .ok a := by
  intro h
  unfold refuse at h
  split at h
  · cases h
  · cases h
  · obtain ⟨_, -, h⟩ := Except.bind_eq_ok_iff.mp h
    cases h
  · obtain ⟨_, -, h⟩ := Except.bind_eq_ok_iff.mp h
    cases h
  · cases h
  · cases h
  · cases h

/-! ### Single values -/

lemma isReadBack_text (room : Nat) (s : String) : IsReadBack (readText room) .text s := by
  intro rest
  rw [Value.tokens, List.singleton_append, readText, textOfRaw_written]
  rfl

/-- What goes by a name of its own is found by that name. -/
lemma find?_of_nodup {all : List α} {name : α → String} (hnames : (all.map name).Nodup) {a : α}
    (h : a ∈ all) : all.find? (fun other => name other = name a) = some a := by
  obtain ⟨before, after, hall⟩ := List.append_of_mem h
  rw [hall, List.map_append, List.map_cons, List.nodup_append] at hnames
  rw [hall, List.find?_eq_some_iff_append]
  refine ⟨decide_eq_true rfl, before, after, rfl, fun other hother => ?_⟩
  have hne : name other ≠ name a := hnames.2.2 _ (List.mem_map_of_mem hother) _ List.mem_cons_self
  rw [decide_eq_false hne]
  rfl

lemma isReadBack_word (ofWord : String → Except Error α) (word : α → String) {a : α}
    (h : ofWord (word a) = .ok a) (room : Nat) :
    IsReadBack (readWord ofWord room) (fun a => .text (word a)) a := by
  intro rest
  rw [Value.tokens, List.singleton_append, readWord, textOfRaw_written, Except.ok_bind, h]
  rfl

/-- A value that may be absent is read back if it is not written as nothing. -/
lemma isReadBack_option {read : Decoder α} {room : Nat} {f : α → Value} {a : Option α}
    (h : ∀ b ∈ a, IsReadBack (read room) f b ∧ f b ≠ .null) :
    IsReadBack (readOption read room) (.ofOption f) a := by
  intro rest
  cases a with
  | none => rfl
  | some b =>
    obtain ⟨hread, hnull⟩ := h b rfl
    have hread := hread rest
    obtain ⟨token, tokens, htokens, -, htoken⟩ := (f b).exists_tokens
    rw [htokens, List.cons_append] at hread
    rw [Value.ofOption, htokens, List.cons_append, readOption.eq_2, hread]
    · rfl
    · rintro _ heq
      exact hnull (htoken (List.cons.inj heq).1)

/-- What is read of a value that may be absent is what its reader reads, and not nothing. -/
lemma of_readOption {read : Decoder α} {room : Nat} {tokens rest : List Token} {a : Option α}
    (h : readOption read room tokens = .ok (a, rest)) :
    ∀ b ∈ a, read room tokens = .ok (b, rest) ∧ tokens.head? ≠ some .null := by
  unfold readOption at h
  split at h
  · cases h
    exact fun b hb => absurd hb (by simp)
  · rename_i hnull
    obtain ⟨⟨b, rest'⟩, hread, heq⟩ := Except.bind_eq_ok_iff.mp h
    cases heq
    rintro _ ⟨⟩
    refine ⟨hread, fun hhead => ?_⟩
    obtain ⟨rest, rfl⟩ := List.head?_eq_some_iff.mp hhead
    exact hnull rest rfl

/-! ### Lists -/

/-- The next item starts at its first token, behind the comma. -/
lemma nextItem_tokens (first : Bool) (v : Value) (rest : List Token) :
    nextItem first ((if first then [] else [.comma]) ++ (v.tokens ++ rest)) =
      .ok (some (v.tokens ++ rest)) := by
  obtain ⟨token, tokens, htokens, htoken, -⟩ := v.exists_tokens
  rw [htokens]
  cases first with
  | true => simp [nextItem]
  | false => simp [nextItem, htoken]

lemma readItems_tokens {read : List Token → Except Error (α × List Token)} {f : α → Value}
    {as : List α} (h : ∀ a ∈ as, IsReadBack read f a) {budget : Nat} {first : Bool}
    (hbudget : (Value.itemsTokens first (as.map f)).length < budget) (rest : List Token) :
    readItems read budget first (Value.itemsTokens first (as.map f) ++ .closeArray :: rest) =
      .ok (as, rest) := by
  induction as generalizing budget first with
  | nil =>
    obtain ⟨budget, rfl⟩ := Nat.exists_eq_add_of_le' hbudget
    rfl
  | cons a as ih =>
    obtain ⟨budget, rfl⟩ := Nat.exists_eq_add_of_le' (Nat.succ_le_of_lt (Nat.zero_lt_of_lt hbudget))
    have htail : (Value.itemsTokens false (as.map f)).length < budget := by
      obtain ⟨token, tokens, htokens, -⟩ := (f a).exists_tokens
      simp only [List.map_cons, Value.itemsTokens, htokens, List.length_append, List.length_cons]
        at hbudget
      omega
    rw [List.map_cons, Value.itemsTokens, List.append_assoc, List.append_assoc, readItems,
      nextItem_tokens, Except.ok_bind]
    simp only [h a List.mem_cons_self _, Except.ok_bind,
      ih (fun a ha => h a (List.mem_cons_of_mem _ ha)) htail]
    rfl

/-- There are enough rounds for all items up to the end of a list. -/
lemma readItems_list {read : List Token → Except Error (α × List Token)} {f : α → Value}
    {as : List α} (h : ∀ a ∈ as, IsReadBack read f a) (rest : List Token) :
    readItems read ((Value.itemsTokens true (as.map f) ++ .closeArray :: rest).length + 1) true
      (Value.itemsTokens true (as.map f) ++ .closeArray :: rest) = .ok (as, rest) := by
  refine readItems_tokens h ?_ rest
  rw [List.length_append]
  omega

/-- A list is read back if each of its items is. -/
lemma isReadBack_list {read : Decoder α} {room : Nat} {f : α → Value} {as : List α}
    (h : ∀ a ∈ as, IsReadBack (read room) f a) :
    IsReadBack (readList read (room + 1)) (fun as => .array (as.map f)) as := by
  intro rest
  rw [Value.tokens, List.append_assoc, List.cons_append, List.singleton_append, readList, enter,
    Except.ok_bind]
  exact readItems_list h rest

/-- What holds of all that an item can be read as holds of the items that were read. -/
lemma forall_of_readItems {P : α → Prop} {read : List Token → Except Error (α × List Token)}
    (hread : ∀ {tokens a rest}, read tokens = .ok (a, rest) → P a) {budget : Nat} {first : Bool}
    {tokens rest : List Token} {as : List α}
    (h : readItems read budget first tokens = .ok (as, rest)) : ∀ a ∈ as, P a := by
  induction budget generalizing first tokens as with
  | zero => cases h
  | succ budget ih =>
    rw [readItems] at h
    obtain ⟨next, -, h⟩ := Except.bind_eq_ok_iff.mp h
    cases next with
    | none =>
      obtain ⟨_, -, heq⟩ := Except.bind_eq_ok_iff.mp h
      cases heq
      exact List.forall_mem_nil _
    | some tokens =>
      obtain ⟨⟨a, rest₁⟩, ha, h⟩ := Except.bind_eq_ok_iff.mp h
      obtain ⟨⟨as', rest₂⟩, has, heq⟩ := Except.bind_eq_ok_iff.mp h
      cases heq
      exact List.forall_mem_cons.mpr ⟨hread ha, ih has⟩

/-! ### Objects -/

/-- That `step` takes members one after the other and so gets from one state to another. -/
inductive StepsThrough (step : α → String → List Token → Except Error (α × List Token)) :
    α → List (String × Value) → α → Prop where
  /-- No members are left. -/
  | nil (a : α) : StepsThrough step a [] a
  /-- A member is taken, whatever comes after it. -/
  | cons {a a' a'' : α} {key : String} {value : Value} {members : List (String × Value)}
    (head : ∀ rest, step a key (.colon :: (value.tokens ++ rest)) = .ok (a', rest))
    (tail : StepsThrough step a' members a'') : StepsThrough step a ((key, value) :: members) a''

variable {step : α → String → List Token → Except Error (α × List Token)}

/-- A member takes a token at least. -/
lemma length_le_membersTokens (first : Bool) (members : List (String × Value)) :
    members.length ≤ (Value.membersTokens first members).length := by
  induction members generalizing first with
  | nil => exact Nat.le_refl _
  | cons member members ih =>
    have htail := ih false
    simp only [Value.membersTokens, List.length_append, List.length_cons]
    omega

lemma readMembers_tokens {a a' : α} {member : String × Value} {members : List (String × Value)}
    (h : StepsThrough step a (member :: members) a') {budget : Nat}
    (hbudget : members.length < budget) (rest : List Token) :
    readMembers step budget a
      (Value.membersTokens true (member :: members) ++ .closeObject :: rest) = .ok (a', rest) := by
  induction members generalizing member a budget with
  | nil =>
    obtain ⟨budget, rfl⟩ := Nat.exists_eq_add_of_le' hbudget
    cases h with
    | cons head tail =>
      cases tail
      simp [Value.membersTokens, readMembers, textOfRaw_written, head]
      rfl
  | cons next members ih =>
    obtain ⟨budget, rfl⟩ := Nat.exists_eq_add_of_le' (Nat.succ_le_of_lt (Nat.zero_lt_of_lt hbudget))
    cases h with
    | cons head tail =>
      have htail := ih tail (Nat.lt_of_succ_lt_succ hbudget)
      simpa [Value.membersTokens, readMembers, textOfRaw_written, head] using htail

/-- An object is read if its members are taken in turn. -/
lemma readObject_tokens {a a' : α} {members : List (String × Value)}
    (h : StepsThrough step a members a') (rest : List Token) :
    readObject step a (Value.membersTokens true members ++ .closeObject :: rest) =
      .ok (a', rest) := by
  cases members with
  | nil =>
    cases h
    rfl
  | cons member members =>
    have hlength : members.length <
        (Value.membersTokens true (member :: members) ++ .closeObject :: rest).length := by
      have hall := length_le_membersTokens true (member :: members)
      rw [List.length_cons] at hall
      rw [List.length_append]
      omega
    rw [readObject.eq_2]
    · exact readMembers_tokens h hlength rest
    · simp [Value.membersTokens]

/-- What every member keeps holds in the end. -/
lemma invariant_of_readMembers {P : α → Prop}
    (hstep : ∀ {a key tokens a' rest}, step a key tokens = .ok (a', rest) → P a → P a')
    {budget : Nat} {a a' : α} {tokens rest : List Token}
    (h : readMembers step budget a tokens = .ok (a', rest)) (ha : P a) : P a' := by
  induction budget generalizing a tokens with
  | zero => cases h
  | succ budget ih =>
    unfold readMembers at h
    split at h
    · obtain ⟨key, -, h⟩ := Except.bind_eq_ok_iff.mp h
      obtain ⟨⟨a₁, rest₁⟩, ha₁, h⟩ := Except.bind_eq_ok_iff.mp h
      have hP := hstep ha₁ ha
      dsimp only at h
      split at h
      · cases h
        exact hP
      · exact ih h hP
      · cases h
    · cases h

lemma invariant_of_readObject {P : α → Prop}
    (hstep : ∀ {a key tokens a' rest}, step a key tokens = .ok (a', rest) → P a → P a')
    {a a' : α} {tokens rest : List Token}
    (h : readObject step a tokens = .ok (a', rest)) (ha : P a) : P a' := by
  unfold readObject at h
  split at h
  · cases h
    exact ha
  · exact invariant_of_readMembers hstep h ha

end XoLedger.Json
