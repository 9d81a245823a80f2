import Mathlib.Algebra.Ring.Nat
import Mathlib.Data.List.Induction
import Mathlib.Data.List.TakeWhile
import Mathlib.Data.Nat.Init
import Mathlib.Tactic.Lemma
import XoLedger.Proofs.Outcome
import XoLedger.Proofs.Text.Split
import XoLedger.Url.Ipv6

/-!
# Written addresses are read as themselves

An address is eight pieces of 16 bits. Every piece is written with one to four digits, so reading
takes the digits of one piece together and finds its value. Where a run of zeros is left out, the
reader fills in as many zeros as are missing, and those are the ones of the run.
-/

namespace XoLedger.Url.Ipv6

/-- Eight pieces of 16 bits. -/
structure IsAddress (pieces : List Nat) : Prop where
  /-- There are eight. -/
  length : pieces.length = 8
  /-- Each has 16 bits. -/
  piece : ∀ piece ∈ pieces, piece < 65536

/-! ### Pieces -/

/-- A piece as it is written. -/
def group (piece : Nat) : List Char := Nat.toDigits 16 piece

/-- The number that hexadecimal digits stand for. -/
def valueOf (digits : List Char) : Nat :=
  digits.foldl (fun n c => 16 * n + Ipv4.digitValue c) 0

lemma digitValue_digitChar : ∀ n < 16, Ipv4.digitValue (Nat.digitChar n) = n := by
  decide

lemma valueOf_concat (digits : List Char) (c : Char) :
    valueOf (digits ++ [c]) = 16 * valueOf digits + Ipv4.digitValue c := by
  rw [valueOf, List.foldl_append]
  rfl

/-- A piece is written in hexadecimal digits, and they stand for it. -/
lemma group_digits (piece : Nat) :
    (∀ c ∈ group piece, isHexDigit c = true) ∧ valueOf (group piece) = piece := by
  have hdigit : ∀ n < 16, isHexDigit (Nat.digitChar n) = true := by decide
  induction piece using Nat.strong_induction_on with
  | _ piece ih =>
    rw [group, Nat.toDigits_eq_if (by decide)]
    split
    · rename_i hlt
      refine ⟨List.forall_mem_singleton.mpr (hdigit piece hlt), ?_⟩
      have := digitValue_digitChar piece hlt
      simp [valueOf, this]
    · rename_i hge
      obtain ⟨hall, hvalue⟩ := ih (piece / 16) (by omega)
      have hlt : piece % 16 < 16 := Nat.mod_lt _ (by decide)
      refine ⟨List.forall_mem_append.mpr ⟨hall, List.forall_mem_singleton.mpr (hdigit _ hlt)⟩, ?_⟩
      rw [valueOf_concat, ← group, hvalue, digitValue_digitChar _ hlt, Nat.div_add_mod]

lemma ne_colon_of_mem_group {piece : Nat} {c : Char} (h : c ∈ group piece) : c ≠ ':' := by
  rintro rfl
  exact absurd ((group_digits piece).1 _ h) (by decide)

lemma group_ne_nil (piece : Nat) : group piece ≠ [] := Nat.toDigits_ne_nil

/-- A piece of 16 bits has four digits at most. -/
lemma length_group_le {piece : Nat} (h : piece < 65536) : (group piece).length ≤ 4 :=
  (Nat.length_toDigits_le_iff (by decide) (by decide)).mpr h

/-- Four digits at most are a piece of 16 bits. -/
lemma valueOf_lt {digits : List Char} (hall : ∀ c ∈ digits, isHexDigit c = true)
    (hlength : digits.length ≤ 4) : valueOf digits < 65536 := by
  have hpow : valueOf digits < 16 ^ digits.length := by
    clear hlength
    induction digits using List.reverseRecOn with
    | nil => decide
    | append_singleton digits c ih =>
      obtain ⟨hdigits, hc⟩ := List.forall_mem_append.mp hall
      have hlt : Ipv4.digitValue c < 16 := of_decide_eq_true (hc c (List.mem_singleton_self c))
      have := ih hdigits
      rw [valueOf_concat, List.length_append, List.length_singleton, Nat.pow_succ]
      omega
  exact Nat.lt_of_lt_of_le hpow (Nat.pow_le_pow_right (by decide) hlength)

/-! ### Reading groups -/

/-- A state with further pieces. -/
def State.append (s : State) (pieces : List Nat) : State :=
  { s with pieces := s.pieces ++ pieces }

lemma State.append_append (s : State) (pieces pieces' : List Nat) :
    (s.append pieces).append pieces' = s.append (pieces ++ pieces') := by
  rw [append, append, append, List.append_assoc]

/-- The digits of a group are taken together, if no digit follows. -/
lemma takeWhile_group {piece : Nat} (h : piece < 65536) {rest : List Char}
    (hrest : ∀ c ∈ rest.head?, isHexDigit c = false) :
    ((group piece ++ rest).take 4).takeWhile isHexDigit = group piece := by
  have hend : (rest.take (4 - (group piece).length)).takeWhile isHexDigit = [] := by
    cases rest with
    | nil => simp
    | cons c rest =>
      cases 4 - (group piece).length with
      | zero => rfl
      | succ n =>
        rw [List.take_succ_cons, List.takeWhile_cons_of_neg]
        rw [hrest c rfl]
        decide
  rw [List.take_append, List.take_of_length_le (length_group_le h),
    List.takeWhile_append_of_pos (group_digits piece).1, hend, List.append_nil]

/-- One step of the reader on a group: the piece is added. -/
lemma readPieces_group {piece : Nat} (h : piece < 65536) {s : State} (hs : s.pieces.length < 8)
    (budget : Nat) :
    readPieces (budget + 1) s (group piece) = some (s.append [piece]) ∧
      ∀ rest, rest ≠ [] → readPieces (budget + 1) s (group piece ++ ':' :: rest) =
        readPieces budget (s.append [piece]) rest := by
  obtain ⟨c, cs, hgroup⟩ := List.exists_cons_of_ne_nil (group_ne_nil piece)
  have hc : c ≠ ':' := ne_colon_of_mem_group (by rw [hgroup]; exact .head _)
  have hfull : s.pieces.length ≠ 8 := Nat.ne_of_lt hs
  have hvalue := (group_digits piece).2
  rw [valueOf] at hvalue
  constructor
  · have hnone : ∀ c ∈ ([] : List Char).head?, isHexDigit c = false := by simp
    have htake := takeWhile_group h hnone
    rw [List.append_nil] at htake
    rw [hgroup] at htake hvalue ⊢
    rw [readPieces, if_neg hfull, if_neg hc]
    simp only [htake, List.drop_length, hvalue]
    rfl
  · intro rest hrest
    have hcolon : ∀ d ∈ (':' :: rest).head?, isHexDigit d = false := by
      intro d hd
      cases hd
      rfl
    have htake := takeWhile_group h hcolon
    rw [hgroup] at htake hvalue ⊢
    rw [List.cons_append] at htake ⊢
    rw [readPieces, if_neg hfull, if_neg hc]
    simp only [htake, hvalue]
    rw [← List.cons_append, List.drop_left]
    obtain ⟨d, ds, rfl⟩ := List.exists_cons_of_ne_nil hrest
    simp [State.append]

/-- Pieces as they are written, with colons between them. -/
def groups (pieces : List Nat) : List Char :=
  joinChars ':' (pieces.map group)

lemma toList_piecesText (pieces : List Nat) : (piecesText pieces).toList = groups pieces := by
  rw [piecesText, String.toList_intercalate, List.map_map, groups]
  have hgroup : (String.toList ∘ fun piece => String.ofList (Nat.toDigits 16 piece)) = group :=
    funext fun piece => String.toList_ofList
  rw [hgroup]
  exact intercalate_eq_joinChars ':' _

lemma groups_cons_cons (piece piece' : Nat) (pieces : List Nat) :
    groups (piece :: piece' :: pieces) = group piece ++ ':' :: groups (piece' :: pieces) := rfl

lemma groups_ne_nil {pieces : List Nat} (h : pieces ≠ []) : groups pieces ≠ [] := by
  obtain ⟨piece, rest, rfl⟩ := List.exists_cons_of_ne_nil h
  cases rest with
  | nil => exact group_ne_nil piece
  | cons piece' rest =>
    rw [groups_cons_cons]
    exact List.append_ne_nil_of_left_ne_nil (group_ne_nil piece) _

/-- The reader adds the pieces of all groups, and goes on behind them. -/
lemma readPieces_groups {pieces : List Nat} (hpieces : ∀ piece ∈ pieces, piece < 65536) {s : State}
    (hs : s.pieces.length + pieces.length ≤ 8) {budget : Nat} (hbudget : pieces.length ≤ budget) :
    readPieces budget s (groups pieces) = some (s.append pieces) ∧
      ∀ rest, rest ≠ [] → pieces ≠ [] → readPieces budget s (groups pieces ++ ':' :: rest) =
        readPieces (budget - pieces.length) (s.append pieces) rest := by
  induction pieces generalizing s budget with
  | nil =>
    refine ⟨?_, fun _ _ hne => absurd rfl hne⟩
    have hself : s.append [] = s := by rw [State.append, List.append_nil]
    rw [hself]
    cases budget <;> rfl
  | cons piece rest ih =>
    obtain ⟨hpiece, hrest⟩ := List.forall_mem_cons.mp hpieces
    rw [List.length_cons] at hs hbudget
    obtain ⟨budget, rfl⟩ : ∃ n, budget = n + 1 := ⟨budget - 1, by omega⟩
    obtain ⟨hlast, hnext⟩ := readPieces_group hpiece (s := s) (by omega) budget
    cases rest with
    | nil =>
      refine ⟨hlast, fun rest hne _ => ?_⟩
      rw [List.length_singleton, Nat.add_sub_cancel]
      exact hnext rest hne
    | cons piece' rest =>
      have hlength : (s.append [piece]).pieces.length = s.pieces.length + 1 := List.length_append
      have hfits : (piece' :: rest).length ≤ budget := by omega
      obtain ⟨hall, hbehind⟩ := ih hrest (s := s.append [piece]) (by omega) hfits
      rw [State.append_append, List.singleton_append] at hall hbehind
      refine ⟨?_, fun after hne _ => ?_⟩
      · rw [groups_cons_cons, hnext _ (groups_ne_nil (List.cons_ne_nil _ _)), hall]
      · have hne' : groups (piece' :: rest) ++ ':' :: after ≠ [] := by simp
        rw [groups_cons_cons, List.append_assoc, List.cons_append, hnext _ hne',
          hbehind after hne (List.cons_ne_nil _ _), List.length_cons (a := piece)]
        congr 1
        omega

/-! ### The run that is left out -/

/-- A place and a length at which there are zeros. -/
def IsZeros (pieces : List Nat) (run : Nat × Nat) : Prop :=
  pieces = pieces.take run.1 ++ List.replicate run.2 0 ++ pieces.drop (run.1 + run.2)

/-- The longest run is one of zeros. -/
lemma isZeros_longestRun (pieces : List Nat) : IsZeros pieces (longestRun pieces) := by
  rw [longestRun]
  refine List.foldlRecOn (motive := IsZeros pieces) _ _ ?_ ?_
  · simp [IsZeros]
  · intro best hbest i _
    dsimp only
    split
    · have hzeros : (pieces.drop i).takeWhile (· = 0) =
          List.replicate (zeroRun (pieces.drop i)) 0 := by
        rw [List.eq_replicate_iff]
        refine ⟨rfl, fun piece hpiece => ?_⟩
        simpa using List.mem_takeWhile_imp hpiece
      have hsplit := List.takeWhile_append_dropWhile (p := (· = 0)) (l := pieces.drop i)
      have hrest : pieces.drop (i + zeroRun (pieces.drop i)) =
          (pieces.drop i).dropWhile (· = 0) := by
        have hdrop : ((pieces.drop i).takeWhile (· = 0) ++ (pieces.drop i).dropWhile (· = 0)).drop
            (zeroRun (pieces.drop i)) = (pieces.drop i).dropWhile (· = 0) := List.drop_left
        rwa [hsplit, List.drop_drop] at hdrop
      rw [IsZeros, hrest, ← hzeros, List.append_assoc, hsplit, List.take_append_drop]
    · exact hbest

/-- Zeros that are left out after some pieces are filled in. -/
lemma finish?_of_gap (first : List Nat) {rest : List Nat} {n : Nat} (hn : 0 < n)
    (h : first.length + n + rest.length = 8) :
    State.finish? ⟨first ++ [0] ++ rest, some (first.length + 1)⟩ =
      some (first ++ List.replicate n 0 ++ rest) := by
  have hlength : (first ++ [0]).length = first.length + 1 := List.length_append
  have hmissing : 8 - (first ++ [0] ++ rest).length = n - 1 := by
    rw [List.length_append, hlength]
    omega
  have hzeros : List.replicate n 0 = 0 :: List.replicate (n - 1) 0 := by
    rw [← List.replicate_succ, Nat.sub_add_cancel hn]
  dsimp only [State.finish?]
  rw [hmissing, hzeros, ← hlength, List.take_left, List.drop_left]
  simp

/-! ### Addresses -/

/-- Whether a text begins with a digit and goes on. -/
def StartsGroup (cs : List Char) : Prop :=
  ∃ c d tail, cs = c :: d :: tail ∧ c ≠ ':'

/-- A text that does not begin with a colon is read from its start. -/
lemma parse?_of_startsGroup {cs : List Char} (h : StartsGroup cs) :
    parse? cs = (readPieces cs.length ⟨[], none⟩ cs).bind State.finish? := by
  obtain ⟨c, d, tail, rfl, hc⟩ := h
  unfold parse?
  split
  · rename_i heq
    cases heq
  · rename_i heq
    cases heq
  · rename_i heq
    cases heq
    exact absurd rfl hc
  · rename_i heq
    cases heq
    exact absurd rfl hc
  · rfl

lemma startsGroup_append (piece : Nat) {rest : List Char} (hrest : rest ≠ []) :
    StartsGroup (group piece ++ rest) := by
  obtain ⟨c, cs, hgroup⟩ := List.exists_cons_of_ne_nil (group_ne_nil piece)
  obtain ⟨d, ds, hd⟩ := List.exists_cons_of_ne_nil (List.append_ne_nil_of_right_ne_nil cs hrest)
  have hc : c ≠ ':' := ne_colon_of_mem_group (by rw [hgroup]; exact .head _)
  exact ⟨c, d, ds, by rw [hgroup, List.cons_append, hd], hc⟩

lemma length_le_groups (pieces : List Nat) : pieces.length ≤ (groups pieces).length := by
  induction pieces with
  | nil => exact Nat.le_refl _
  | cons piece rest ih =>
    have hpiece : 0 < (group piece).length := List.length_pos_iff.mpr (group_ne_nil piece)
    cases rest with
    | nil => exact hpiece
    | cons piece' rest =>
      rw [groups_cons_cons, List.length_append, List.length_cons (a := ':'), List.length_cons]
      omega

/-- Eight groups are read. -/
lemma parse?_groups {pieces : List Nat} (h : IsAddress pieces) :
    parse? (groups pieces) = some pieces := by
  have hread := (readPieces_groups h.piece (s := ⟨[], none⟩) (Nat.le_of_eq (by simp [h.length]))
    (length_le_groups pieces)).1
  have hstart : StartsGroup (groups pieces) := by
    match pieces, h.length with
    | piece :: piece' :: rest, _ =>
      rw [groups_cons_cons]
      exact startsGroup_append piece (List.cons_ne_nil _ _)
  rw [parse?_of_startsGroup hstart, hread]
  simp [State.finish?, State.append, h.length]

/-- Groups with zeros left out among them are read. -/
lemma parse?_of_gap {first rest : List Nat} {n : Nat} (hn : 0 < n)
    (h : IsAddress (first ++ List.replicate n 0 ++ rest)) :
    parse? (groups first ++ ':' :: ':' :: groups rest) =
      some (first ++ List.replicate n 0 ++ rest) := by
  have hlength := h.length
  simp only [List.length_append, List.length_replicate] at hlength
  have hfirst : ∀ piece ∈ first, piece < 65536 := fun piece hmem => h.piece piece (by simp [hmem])
  have hrest : ∀ piece ∈ rest, piece < 65536 := fun piece hmem => h.piece piece (by simp [hmem])
  have hopened : (first ++ [0]).length = first.length + 1 := List.length_append
  have hread : ∀ budget, rest.length ≤ budget →
      readPieces budget ⟨first ++ [0], some (first.length + 1)⟩ (groups rest) =
        some ⟨first ++ [0] ++ rest, some (first.length + 1)⟩ := fun budget hbudget =>
    (readPieces_groups hrest (s := ⟨first ++ [0], some (first.length + 1)⟩)
      (by dsimp only; omega) hbudget).1
  cases first with
  | nil =>
    have hparse : parse? (':' :: ':' :: groups rest) =
        (readPieces (groups rest).length ⟨[0], some 1⟩ (groups rest)).bind State.finish? := rfl
    exact hparse.trans ((congrArg (Option.bind · State.finish?)
      (hread _ (length_le_groups rest))).trans (finish?_of_gap [] hn hlength))
  | cons piece tail =>
    have hbudget : (piece :: tail).length + 1 + rest.length ≤
        (groups (piece :: tail) ++ ':' :: ':' :: groups rest).length := by
      have hfront := length_le_groups (piece :: tail)
      have hback := length_le_groups rest
      rw [List.length_append, List.length_cons (a := ':'), List.length_cons (a := ':')]
      omega
    have hstart : StartsGroup (groups (piece :: tail) ++ ':' :: ':' :: groups rest) := by
      cases tail with
      | nil => exact startsGroup_append piece (List.cons_ne_nil _ _)
      | cons piece' tail =>
        rw [groups_cons_cons, List.append_assoc]
        exact startsGroup_append piece (List.cons_ne_nil _ _)
    have hfits : ([] : List Nat).length + (piece :: tail).length ≤ 8 := by
      rw [List.length_nil]
      omega
    rw [parse?_of_startsGroup hstart]
    generalize (groups (piece :: tail) ++ ':' :: ':' :: groups rest).length = budget at hbudget ⊢
    rw [(readPieces_groups hfirst (s := ⟨[], none⟩) hfits (by omega)).2 _
      (List.cons_ne_nil _ _) (List.cons_ne_nil _ _)]
    obtain ⟨budget', hbudget'⟩ : ∃ n, budget - (piece :: tail).length = n + 1 :=
      ⟨budget - (piece :: tail).length - 1, by omega⟩
    have hfull : (piece :: tail).length ≠ 8 := by omega
    rw [hbudget', State.append, List.nil_append, readPieces, if_neg hfull, if_pos rfl]
    exact (congrArg (Option.bind · State.finish?) (hread budget' (by omega))).trans
      (finish?_of_gap _ hn hlength)

/-- A written address holds digits and colons. -/
lemma mem_text {pieces : List Nat} {c : Char} (h : c ∈ (text pieces).toList) :
    c = ':' ∨ isHexDigit c = true := by
  have hgroups : ∀ {pieces : List Nat}, c ∈ groups pieces → c = ':' ∨ isHexDigit c = true := by
    intro pieces h
    refine or_iff_not_imp_left.mpr fun hne => ?_
    obtain ⟨_, hpart, hc⟩ := (mem_joinChars_iff hne).mp h
    obtain ⟨piece, -, rfl⟩ := List.mem_map.mp hpart
    exact (group_digits piece).1 c hc
  rw [text] at h
  dsimp only at h
  split at h
  · rw [toList_piecesText] at h
    exact hgroups h
  · rw [String.toList_append, String.toList_append, toList_piecesText, toList_piecesText,
      List.mem_append, List.mem_append] at h
    rcases h with (h | h) | h
    · exact hgroups h
    · exact .inl (by simpa using h)
    · exact hgroups h

/-- **A written address** is read as itself. -/
theorem parse?_text {pieces : List Nat} (h : IsAddress pieces) :
    parse? (text pieces).toList = some pieces := by
  have hzeros := isZeros_longestRun pieces
  rw [text]
  generalize longestRun pieces = best at hzeros ⊢
  obtain ⟨start, run⟩ := best
  dsimp only [IsZeros] at hzeros ⊢
  split
  · rw [toList_piecesText]
    exact parse?_groups h
  · rename_i hrun
    rw [hzeros] at h
    have hgap := parse?_of_gap (by omega) h
    rw [← hzeros] at hgap
    rw [String.toList_append, String.toList_append, toList_piecesText, toList_piecesText,
      List.append_assoc]
    exact hgap

/-! ### What is read -/

/-- What holds of the pieces that have been read. -/
structure State.IsProper (s : State) : Prop where
  /-- There are no more than eight. -/
  length : s.pieces.length ≤ 8
  /-- Each has 16 bits. -/
  piece : ∀ piece ∈ s.pieces, piece < 65536
  /-- The run stands among them. -/
  gap : ∀ gap ∈ s.gap, gap ≤ s.pieces.length

lemma State.IsProper.append {s : State} (h : s.IsProper) {pieces : List Nat}
    (hlength : s.pieces.length + pieces.length ≤ 8) (hpieces : ∀ piece ∈ pieces, piece < 65536) :
    (s.append pieces).IsProper where
  length := by rwa [State.append, List.length_append]
  piece := List.forall_mem_append.mpr ⟨h.piece, hpieces⟩
  gap gap hgap := by
    rw [State.append, List.length_append]
    exact Nat.le_add_right_of_le (h.gap gap hgap)

lemma State.IsProper.openGap? {s s' : State} (h : s.IsProper) (hfull : s.pieces.length ≠ 8)
    (hs : s.openGap? = some s') : s'.IsProper := by
  have hlength := h.length
  unfold State.openGap? at hs
  split at hs
  · cases hs
  · cases hs
    have hroom : s.pieces.length + [0].length ≤ 8 := by
      rw [List.length_singleton]
      omega
    have happend := h.append hroom (by decide)
    exact ⟨happend.length, happend.piece, by simp⟩

/-- An embedded address is two pieces. -/
lemma embedded?_eq_some {cs : List Char} {two : List Nat} (h : embedded? cs = some two) :
    two.length = 2 ∧ ∀ piece ∈ two, piece < 65536 := by
  have hoctet : ∀ part n, octet? part = some n → n ≤ 255 := by
    intro part n hn
    unfold octet? at hn
    split at hn
    · cases hn
    · split_ifs at hn with hbad
      cases hn
      omega
  unfold embedded? at h
  split at h
  · rename_i a b c d hparts
    cases h
    have hall : ∀ n ∈ [a, b, c, d], n ≤ 255 := by
      intro n hn
      obtain ⟨part, -, hpart⟩ := Option.exists_of_mem_mapM hparts hn
      exact hoctet part n hpart
    simp only [List.forall_mem_cons] at hall ⊢
    refine ⟨rfl, by omega, by omega, by simp⟩
  · cases h

/-- The reader adds pieces of 16 bits, up to eight. -/
lemma State.IsProper.readPieces {budget : Nat} {s s' : State} {cs : List Char} (h : s.IsProper)
    (hs : readPieces budget s cs = some s') : s'.IsProper := by
  have hread : ∀ ds : List Char, valueOf ((ds.take 4).takeWhile isHexDigit) < 65536 := fun ds =>
    valueOf_lt (fun c hc => List.mem_takeWhile_imp hc)
      ((List.takeWhile_prefix _).length_le.trans (List.length_take_le _ _))
  have hone : ∀ (s : State) (ds : List Char), s.IsProper → s.pieces.length ≠ 8 →
      (s.append [valueOf ((ds.take 4).takeWhile isHexDigit)]).IsProper := fun s ds hs hfull =>
    hs.append (Nat.lt_of_le_of_ne hs.length hfull) (List.forall_mem_singleton.mpr (hread ds))
  induction budget generalizing s cs with
  | zero =>
    cases cs with
    | nil =>
      cases hs
      exact h
    | cons c cs => cases hs
  | succ budget ih =>
    cases cs with
    | nil =>
      cases hs
      exact h
    | cons c cs =>
      rw [Ipv6.readPieces] at hs
      split_ifs at hs with hfull hcolon
      · obtain ⟨opened, hopened, hs⟩ := Option.bind_eq_some_iff.mp hs
        exact ih (h.openGap? hfull hopened) hs
      · dsimp only at hs
        split at hs
        · cases hs
          exact hone s (c :: cs) h hfull
        · split_ifs at hs with hroom
          obtain ⟨two, htwo, rfl⟩ := Option.map_eq_some_iff.mp hs
          obtain ⟨hlength, hpieces⟩ := embedded?_eq_some htwo
          exact h.append (by omega) hpieces
        · cases hs
        · split_ifs at hs
          exact ih (hone s (c :: cs) h hfull) hs
        · cases hs

/-- What is read comes from the reader. -/
lemma exists_of_parse? {cs : List Char} {pieces : List Nat} (h : parse? cs = some pieces) :
    ∃ s : State, s.IsProper ∧ s.finish? = some pieces := by
  unfold parse? at h
  dsimp only at h
  split at h
  · cases h
  · cases h
  · obtain ⟨s, hs, hfinish⟩ := Option.bind_eq_some_iff.mp h
    exact ⟨s, State.IsProper.readPieces ⟨by decide, by decide, by simp⟩ hs, hfinish⟩
  · cases h
  · obtain ⟨s, hs, hfinish⟩ := Option.bind_eq_some_iff.mp h
    exact ⟨s, State.IsProper.readPieces ⟨by decide, by decide, by simp⟩ hs, hfinish⟩

/-- What is read is an address: eight pieces of 16 bits. -/
theorem isAddress_of_parse? {cs : List Char} {pieces : List Nat} (h : parse? cs = some pieces) :
    IsAddress pieces := by
  obtain ⟨s, hproper, hfinish⟩ := exists_of_parse? h
  unfold State.finish? at hfinish
  split at hfinish
  · split_ifs at hfinish with hlength
    cases hfinish
    exact ⟨hlength, hproper.piece⟩
  · rename_i gap hgap
    cases hfinish
    have hle := hproper.gap gap hgap
    have hlength := hproper.length
    refine ⟨?_, ?_⟩
    · simp only [List.length_append, List.length_take, List.length_replicate, List.length_drop]
      omega
    · intro piece hpiece
      simp only [List.mem_append, List.mem_replicate] at hpiece
      rcases hpiece with (hpiece | ⟨-, rfl⟩) | hpiece
      · exact hproper.piece piece (List.mem_of_mem_take hpiece)
      · decide
      · exact hproper.piece piece (List.mem_of_mem_drop hpiece)

end XoLedger.Url.Ipv6
