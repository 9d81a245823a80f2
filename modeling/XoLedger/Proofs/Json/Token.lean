import XoLedger.Proofs.Json.Number

/-!
# Tokens of written values

Every token takes an octet at least, so the budget of `lex` is never used up and the tokens of a
document are the first token and those of the rest (`lex_cons`). From that the tokens of a written
value follow by induction on the value: they are those of its parts, whatever comes after it
(`lex_render`).
-/

namespace XoLedger.Json

/-! ### The budget -/

/-- What is passed over is a text and its closing quote. -/
lemma eq_of_scanText {state : TextState} {b raw rest : Bytes}
    (h : scanText state b = some (raw, rest)) : b = raw ++ 34 :: rest := by
  induction b generalizing state raw with
  | nil => cases state <;> cases h
  | cons x b ih =>
    have hpass : ∀ state', (scanText state' b).map (fun found => (x :: found.1, found.2)) =
        some (raw, rest) → x :: b = raw ++ 34 :: rest := by
      intro state' hscan
      obtain ⟨⟨raw', rest'⟩, hfound, heq⟩ := Option.map_eq_some_iff.mp hscan
      cases heq
      rw [ih hfound, List.cons_append]
    cases state with
    | plain =>
      rw [scanText] at h
      split_ifs at h with hquote
      · cases h
        rw [hquote, List.nil_append]
      · exact hpass _ h
      · exact hpass _ h
    | escape =>
      rw [scanText] at h
      split_ifs at h
      · exact hpass _ h
      · exact hpass _ h
    | digits left =>
      rw [scanText] at h
      split_ifs at h
      · exact hpass _ h
      · exact hpass _ h

lemma length_takeDigits (b : Bytes) :
    b.length = (takeDigits b).1.length + (takeDigits b).2.length := by
  induction b with
  | nil => rfl
  | cons x b ih =>
    rw [takeDigits]
    cases decimalDigit? x with
    | none => simp
    | some d =>
      simp only [List.length_cons]
      omega

lemma length_of_takeOctet {octets : List UInt8} {b rest : Bytes}
    (h : takeOctet octets b = some rest) : b.length = rest.length + 1 := by
  cases b with
  | nil => cases h
  | cons x b =>
    rw [takeOctet] at h
    split_ifs at h
    cases h
    rfl

lemma length_getD_takeOctet (octets : List UInt8) (b : Bytes) :
    ((takeOctet octets b).getD b).length ≤ b.length := by
  cases h : takeOctet octets b with
  | none => exact Nat.le_refl _
  | some rest =>
    have := length_of_takeOctet h
    rw [Option.getD_some]
    omega

lemma length_of_scanExponent {b rest : Bytes} {e : Bool × List Nat}
    (h : scanExponent b = some (e, rest)) : rest.length ≤ b.length := by
  have hsign := length_getD_takeOctet [43, 45] b
  have hdigits := length_takeDigits ((takeOctet [43, 45] b).getD b)
  rw [scanExponent] at h
  dsimp only at h
  split_ifs at h
  cases h
  omega

lemma length_of_scanNumber {b rest : Bytes} {numeral : Numeral}
    (h : scanNumber b = some (numeral, rest)) : rest.length < b.length := by
  have hsign := length_getD_takeOctet [45] b
  have hdigits := length_takeDigits ((takeOctet [45] b).getD b)
  rw [scanNumber] at h
  dsimp only at h
  generalize takeDigits ((takeOctet [45] b).getD b) = taken at h hdigits
  obtain ⟨whole, rest₁⟩ := taken
  dsimp only at hdigits
  by_cases hlead : whole = [] ∨ whole.head? = some 0 ∧ whole.length ≠ 1
  · rw [if_pos hlead] at h
    cases h
  rw [if_neg hlead] at h
  have hwhole : whole.length ≠ 0 := fun hnil => hlead (.inl (List.length_eq_zero_iff.mp hnil))
  suffices rest.length ≤ rest₁.length by omega
  have hexponent : ∀ {r r' : Bytes} {e : Bool × List Nat}, takeOctet [69, 101] r = some r' →
      scanExponent r' = some (e, rest) → rest.length ≤ r.length := by
    intro r r' e hletter hscan
    have hletter := length_of_takeOctet hletter
    have hscan := length_of_scanExponent hscan
    omega
  cases hpoint : takeOctet [46] rest₁ with
  | none =>
    cases hletter : takeOctet [69, 101] rest₁ with
    | none =>
      simp only [hpoint, Option.bind_eq_bind, Option.bind_some, hletter] at h
      cases h
      exact Nat.le_refl _
    | some rest₂ =>
      simp only [hpoint, Option.bind_eq_bind, Option.bind_some, hletter, Option.bind_eq_some_iff,
        Option.map_eq_some_iff] at h
      obtain ⟨_, ⟨⟨e, rest'⟩, hscan, rfl⟩, heq⟩ := h
      cases heq
      exact hexponent hletter hscan
  | some rest₂ =>
    have hpoint' := length_of_takeOctet hpoint
    have hfraction := length_takeDigits rest₂
    by_cases hnone : (takeDigits rest₂).1 = []
    · simp only [hpoint, if_pos hnone] at h
      cases h
    cases hletter : takeOctet [69, 101] (takeDigits rest₂).2 with
    | none =>
      simp only [hpoint, if_neg hnone, Option.bind_eq_bind, Option.bind_some, hletter] at h
      cases h
      omega
    | some rest₃ =>
      simp only [hpoint, if_neg hnone, Option.bind_eq_bind, Option.bind_some, hletter,
        Option.bind_eq_some_iff, Option.map_eq_some_iff] at h
      obtain ⟨_, ⟨⟨e, rest'⟩, hscan, rfl⟩, heq⟩ := h
      cases heq
      have hleft := hexponent hletter hscan
      omega

/-- A token takes an octet at least. -/
lemma length_of_scan {x : UInt8} {b rest : Bytes} {token : Token}
    (h : scan x b = some (token, rest)) : rest.length ≤ b.length := by
  have hword : ∀ {word : String} (t : Token),
      (dropWord word b).map (fun rest => (t, rest)) = some (token, rest) →
      rest.length ≤ b.length := by
    intro word t hword
    obtain ⟨rest', hdrop, heq⟩ := Option.map_eq_some_iff.mp hword
    cases heq
    rw [dropWord] at hdrop
    split_ifs at hdrop
    cases hdrop
    rw [List.length_drop]
    exact Nat.sub_le _ _
  rw [scan] at h
  split at h
  · cases h
    exact Nat.le_refl _
  · split_ifs at h
    · obtain ⟨⟨raw, rest'⟩, hscan, heq⟩ := Option.map_eq_some_iff.mp h
      cases heq
      rw [eq_of_scanText hscan, List.length_append, List.length_cons]
      omega
    · exact hword _ h
    · exact hword _ h
    · exact hword _ h
    · obtain ⟨⟨numeral, rest'⟩, hscan, heq⟩ := Option.map_eq_some_iff.mp h
      cases heq
      exact Nat.le_of_lt_succ (length_of_scanNumber hscan)

/-- A larger budget than the octets ask for changes nothing. -/
lemma lexFrom_eq_lex {budget : Nat} {b : Bytes} (h : b.length ≤ budget) :
    lexFrom budget b = lex b := by
  induction budget using Nat.strongRecOn generalizing b with
  | ind budget ih =>
    cases b with
    | nil => cases budget <;> rfl
    | cons x b =>
      obtain ⟨budget, rfl⟩ := Nat.exists_eq_add_of_le' (Nat.le_trans (Nat.succ_pos _) h)
      have hlen : b.length ≤ budget := Nat.le_of_succ_le_succ h
      -- what is left after a token fits into either budget, so they come to the same
      have hsame : ∀ {rest : Bytes}, rest.length ≤ b.length →
          lexFrom budget rest = lexFrom b.length rest := by
        intro rest hrest
        rw [ih budget (Nat.lt_succ_self _) (Nat.le_trans hrest hlen),
          ih b.length (Nat.lt_succ_of_le hlen) hrest]
      rw [lexFrom, lex, List.length_cons, lexFrom, hsame (Nat.le_refl _)]
      split
      · rfl
      · split
        · rename_i hscan
          rw [hsame (length_of_scan hscan)]
        · rfl

/-- The tokens of a document are the first of them and those of the rest. -/
theorem lex_cons (x : UInt8) (b : Bytes) :
    lex (x :: b) =
      if isSpace x then lex b
      else
        match scan x b with
        | some (token, rest) => token :: lex rest
        | none => [.broken] := by
  rw [lex, List.length_cons, lexFrom, lexFrom_eq_lex (Nat.le_refl _)]
  split
  · rfl
  · cases hscan : scan x b with
    | none => rfl
    | some found =>
      dsimp only
      rw [lexFrom_eq_lex (length_of_scan hscan)]

/-! ### Single tokens -/

lemma lex_of_scan {x : UInt8} {b rest : Bytes} {token : Token} (hspace : isSpace x = false)
    (h : scan x b = some (token, rest)) : lex (x :: b) = token :: lex rest := by
  rw [lex_cons, hspace, h]
  rfl

lemma lex_single {x : UInt8} {token : Token} (h : single? x = some token) (rest : Bytes) :
    lex (x :: rest) = token :: lex rest := by
  have hspace : ∀ y, single? y = none → x ≠ y := by
    rintro y hy rfl
    rw [hy] at h
    cases h
  refine lex_of_scan ?_ ?_
  · simp [isSpace, hspace 32 (by decide), hspace 9 (by decide), hspace 10 (by decide),
      hspace 13 (by decide)]
  · rw [scan, h]

lemma dropWord_append (word : String) (rest : Bytes) :
    dropWord word (Utf8.encode word ++ rest) = some rest := by
  rw [dropWord, if_pos (List.isPrefixOf_iff_prefix.mpr (List.prefix_append _ _)), List.drop_left]

/-- A word is cut off as a whole, once its first letter says which one to expect. -/
lemma lex_word {word tail : String} {x : UInt8} {token : Token}
    (hword : Utf8.encodeChars word.toList = x :: Utf8.encode tail) (hspace : isSpace x = false)
    (hscan : ∀ rest, scan x rest = (dropWord tail rest).map fun rest => (token, rest))
    (rest : Bytes) : lex (Utf8.encodeChars word.toList ++ rest) = token :: lex rest := by
  rw [hword, List.cons_append]
  refine lex_of_scan hspace ?_
  rw [hscan, dropWord_append]
  rfl

lemma lex_null (rest : Bytes) :
    lex (Utf8.encodeChars "null".toList ++ rest) = .null :: lex rest :=
  lex_word (show Utf8.encodeChars "null".toList = 110 :: Utf8.encode "ull" by decide) (by decide)
    (fun _ => rfl) rest

lemma lex_bool (b : Bool) (rest : Bytes) :
    lex (Utf8.encodeChars (toString b).toList ++ rest) = .bool b :: lex rest := by
  cases b with
  | true =>
    exact lex_word
      (show Utf8.encodeChars (toString true).toList = 116 :: Utf8.encode "rue" by decide)
      (by decide) (fun _ => rfl) rest
  | false =>
    exact lex_word
      (show Utf8.encodeChars (toString false).toList = 102 :: Utf8.encode "alse" by decide)
      (by decide) (fun _ => rfl) rest

lemma lex_quote (s : String) (rest : Bytes) :
    lex (Utf8.encodeChars (Value.quote s) ++ rest) = .text (written s) :: lex rest := by
  have hquote : Utf8.encodeChars (Value.quote s) = 34 :: (written s ++ [34]) := by
    rw [Value.quote, List.cons_append, Utf8.encodeChars_cons, Utf8.encodeChars_append, written]
    rfl
  rw [hquote, List.cons_append, List.append_assoc]
  refine lex_of_scan (by decide) ?_
  rw [scan, show single? 34 = none by decide, List.singleton_append, scanText_written]
  rfl

lemma lex_of_scanNumber {x : UInt8} {b rest : Bytes} {numeral : Numeral}
    (hx : x = 45 ∨ 48 ≤ x ∧ x ≤ 57) (h : scanNumber (x :: b) = some (numeral, rest)) :
    lex (x :: b) = .number numeral :: lex rest := by
  have hne : ∀ y : UInt8, ¬(y = 45 ∨ 48 ≤ y ∧ y ≤ 57) → x ≠ y := by
    rintro y hy rfl
    exact hy hx
  refine lex_of_scan ?_ ?_
  · simp [isSpace, hne 32 (by decide), hne 9 (by decide), hne 10 (by decide), hne 13 (by decide)]
  · have hsingle : single? x = none := by
      simp [single?, hne 123 (by decide), hne 125 (by decide), hne 91 (by decide),
        hne 93 (by decide), hne 44 (by decide), hne 58 (by decide)]
    rw [scan, hsingle]
    simp [hne 34 (by decide), hne 110 (by decide), hne 116 (by decide), hne 102 (by decide), h]

/-! ### Written values -/

/-- The token of a number. Fractions have none here, since how they are written is a matter of
rounding. -/
def Number.token : Number → Token
  | natural n => .number ⟨false, digits n, none, none⟩
  | negative n => .number ⟨true, digits n, none, none⟩
  | fraction _ => .broken

lemma lex_natural (n : Nat) {rest : Bytes} (hrest : IsEdge rest) :
    lex (Utf8.encodeChars (Number.natural n).text.toList ++ rest) =
      (Number.natural n).token :: lex rest := by
  have htext : Utf8.encodeChars (Number.natural n).text.toList = writtenNat n := by
    rw [Number.text, Nat.toString_eq_ofList_toDigits, String.toList_ofList, writtenNat]
  have hscan := scanNumber_natural n hrest
  obtain ⟨x, tail, hwritten, hx⟩ := exists_writtenNat n
  rw [htext, hwritten, List.cons_append]
  rw [hwritten, List.cons_append] at hscan
  exact lex_of_scanNumber (.inr hx) hscan

lemma lex_negative (n : Nat) {rest : Bytes} (hrest : IsEdge rest) :
    lex (Utf8.encodeChars (Number.negative n).text.toList ++ rest) =
      (Number.negative n).token :: lex rest := by
  have htext : Utf8.encodeChars (Number.negative n).text.toList = 45 :: writtenNat n := by
    have hsign : (Number.negative n).text.toList = '-' :: Nat.toDigits 10 n := by
      simp only [Number.text, String.toList_append, Nat.toString_eq_ofList_toDigits,
        String.toList_ofList]
      rfl
    rw [hsign, Utf8.encodeChars_cons]
    rfl
  rw [htext, List.cons_append]
  exact lex_of_scanNumber (.inl rfl) (scanNumber_negative n hrest)

namespace Value

mutual

/-- The tokens of a written value. -/
def tokens : Value → List Token
  | null => [.null]
  | bool b => [.bool b]
  | number n => [n.token]
  | text s => [.text (written s)]
  | array items => .openArray :: itemsTokens true items ++ [.closeArray]
  | object members => .openObject :: membersTokens true members ++ [.closeObject]

/-- The tokens of items. All but the first stand behind a comma. -/
def itemsTokens : (first : Bool) → List Value → List Token
  | _, [] => []
  | first, item :: items =>
    (if first then [] else [.comma]) ++ item.tokens ++ itemsTokens false items

/-- The tokens of members. All but the first stand behind a comma. -/
def membersTokens : (first : Bool) → List (String × Value) → List Token
  | _, [] => []
  | first, (key, value) :: members =>
    (if first then [] else [.comma]) ++ .text (written key) :: .colon :: value.tokens ++
      membersTokens false members

end

/-- That there is no fraction in a value. -/
inductive IsExact : Value → Prop where
  /-- Nothing. -/
  | null : IsExact .null
  /-- A truth value. -/
  | bool (b : Bool) : IsExact (.bool b)
  /-- A whole number. -/
  | natural (n : Nat) : IsExact (.number (.natural n))
  /-- A whole number below zero. -/
  | negative (n : Nat) : IsExact (.number (.negative n))
  /-- A text. -/
  | text (s : String) : IsExact (.text s)
  /-- A list of such values. -/
  | array {items : List Value} (h : ∀ item ∈ items, IsExact item) : IsExact (.array items)
  /-- An object of such values. -/
  | object {members : List (String × Value)} (h : ∀ member ∈ members, IsExact member.2) :
    IsExact (.object members)

/-- That a written value is cut into its tokens wherever it stands. -/
def IsCut (v : Value) : Prop :=
  ∀ rest, IsEdge rest → lex (Utf8.encodeChars v.chars ++ rest) = v.tokens ++ lex rest

lemma lex_itemsChars {items : List Value} (h : ∀ item ∈ items, item.IsCut) {rest : Bytes}
    (hrest : IsEdge rest) : IsEdge (Utf8.encodeChars (itemsChars items) ++ rest) ∧
      lex (Utf8.encodeChars (itemsChars items) ++ rest) = itemsTokens false items ++ lex rest := by
  induction items with
  | nil => exact ⟨hrest, rfl⟩
  | cons item items ih =>
    obtain ⟨hedge, htail⟩ := ih fun item hitem => h item (List.mem_cons_of_mem _ hitem)
    have hoctets : Utf8.encodeChars (itemsChars (item :: items)) ++ rest =
        44 :: (Utf8.encodeChars item.chars ++ (Utf8.encodeChars (itemsChars items) ++ rest)) := by
      simp only [itemsChars, Utf8.encodeChars_cons, Utf8.encodeChars_append, List.append_assoc]
      rfl
    rw [hoctets]
    refine ⟨.cons (by decide) _, ?_⟩
    rw [lex_single (show single? 44 = some .comma by decide), h item List.mem_cons_self _ hedge,
      htail]
    simp [itemsTokens]

lemma lex_membersChars {members : List (String × Value)} (h : ∀ member ∈ members, member.2.IsCut)
    {rest : Bytes} (hrest : IsEdge rest) :
    IsEdge (Utf8.encodeChars (membersChars members) ++ rest) ∧
      lex (Utf8.encodeChars (membersChars members) ++ rest) =
        membersTokens false members ++ lex rest := by
  induction members with
  | nil => exact ⟨hrest, rfl⟩
  | cons member members ih =>
    obtain ⟨key, value⟩ := member
    obtain ⟨hedge, htail⟩ := ih fun member hmember => h member (List.mem_cons_of_mem _ hmember)
    have hoctets : Utf8.encodeChars (membersChars ((key, value) :: members)) ++ rest =
        44 :: (Utf8.encodeChars (quote key) ++ (58 :: (Utf8.encodeChars value.chars ++
          (Utf8.encodeChars (membersChars members) ++ rest)))) := by
      simp only [membersChars, Utf8.encodeChars_cons, Utf8.encodeChars_append, List.append_assoc,
        List.cons_append]
      rfl
    rw [hoctets]
    refine ⟨.cons (by decide) _, ?_⟩
    rw [lex_single (show single? 44 = some .comma by decide), lex_quote,
      lex_single (show single? 58 = some .colon by decide), h _ List.mem_cons_self _ hedge, htail]
    simp [membersTokens]

lemma isCut_number {n : Number} (h : ∀ rest, IsEdge rest →
    lex (Utf8.encodeChars n.text.toList ++ rest) = n.token :: lex rest) : (number n).IsCut := by
  intro rest hrest
  rw [chars, tokens, h rest hrest, List.singleton_append]

lemma isCut_array {items : List Value} (h : ∀ item ∈ items, item.IsCut) : (array items).IsCut := by
  intro rest hrest
  have hopen := lex_single (show single? 91 = some .openArray by decide)
  have hclose := lex_single (show single? 93 = some .closeArray by decide) rest
  have hend : IsEdge (93 :: rest) := .cons (by decide) rest
  cases items with
  | nil =>
    have hoctets : Utf8.encodeChars (array []).chars ++ rest = 91 :: 93 :: rest := rfl
    rw [hoctets, hopen, hclose]
    rfl
  | cons item items =>
    obtain ⟨hedge, htail⟩ := lex_itemsChars
      (fun item hitem => h item (List.mem_cons_of_mem _ hitem)) hend
    have hoctets : Utf8.encodeChars (array (item :: items)).chars ++ rest =
        91 :: (Utf8.encodeChars item.chars ++
          (Utf8.encodeChars (itemsChars items) ++ 93 :: rest)) := by
      simp only [chars, Utf8.encodeChars_cons, Utf8.encodeChars_append, List.append_assoc,
        List.cons_append]
      rfl
    rw [hoctets, hopen, h item List.mem_cons_self _ hedge, htail, hclose]
    simp [tokens, itemsTokens]

lemma isCut_object {members : List (String × Value)} (h : ∀ member ∈ members, member.2.IsCut) :
    (object members).IsCut := by
  intro rest hrest
  have hopen := lex_single (show single? 123 = some .openObject by decide)
  have hcolon := lex_single (show single? 58 = some .colon by decide)
  have hclose := lex_single (show single? 125 = some .closeObject by decide) rest
  have hend : IsEdge (125 :: rest) := .cons (by decide) rest
  cases members with
  | nil =>
    have hoctets : Utf8.encodeChars (object []).chars ++ rest = 123 :: 125 :: rest := rfl
    rw [hoctets, hopen, hclose]
    rfl
  | cons member members =>
    obtain ⟨key, value⟩ := member
    obtain ⟨hedge, htail⟩ := lex_membersChars
      (fun member hmember => h member (List.mem_cons_of_mem _ hmember)) hend
    have hoctets : Utf8.encodeChars (object ((key, value) :: members)).chars ++ rest =
        123 :: (Utf8.encodeChars (quote key) ++ (58 :: (Utf8.encodeChars value.chars ++
          (Utf8.encodeChars (membersChars members) ++ 125 :: rest)))) := by
      simp only [chars, Utf8.encodeChars_cons, Utf8.encodeChars_append, List.append_assoc,
        List.cons_append]
      rfl
    rw [hoctets, hopen, lex_quote, hcolon, h _ List.mem_cons_self _ hedge, htail, hclose]
    simp [tokens, membersTokens]

/-- **A written value is cut into its tokens** if there is no fraction in it. -/
theorem IsExact.isCut {v : Value} (h : v.IsExact) : v.IsCut := by
  induction h with
  | null => exact fun rest _ => lex_null rest
  | bool b => exact fun rest _ => lex_bool b rest
  | natural n => exact isCut_number fun rest hrest => lex_natural n hrest
  | negative n => exact isCut_number fun rest hrest => lex_negative n hrest
  | text s => exact fun rest _ => lex_quote s rest
  | array _ ih => exact isCut_array ih
  | object _ ih => exact isCut_object ih

theorem lex_render {v : Value} (h : v.IsExact) : lex (Utf8.encode v.render) = v.tokens := by
  have hcut := h.isCut [] .nil
  rw [List.append_nil, show lex [] = [] from rfl, List.append_nil] at hcut
  rw [Utf8.encode, render, String.toList_ofList, hcut]

end Value

end XoLedger.Json
