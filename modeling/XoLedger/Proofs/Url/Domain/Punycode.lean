import Mathlib.Data.List.TakeWhile
import Mathlib.Tactic.Lemma
import Mathlib.Tactic.Tauto
import XoLedger.Proofs.Text.Utf8
import XoLedger.Url.Domain.Punycode

/-!
# Reading a label undoes writing it

The writer passes the label once for every code point, in ascending order, and counts the states
that a reader passes in the meantime. So the writer and a reader of what it has written can be run
side by side: what the reader has put into place are the characters that the writer has passed, and
the count is the way that the reader has still to go (`IsFollowed`). Every step of the writer keeps
that up, and at the end the reader holds the whole label.
-/

namespace XoLedger.Url.Domain.Punycode

/-! ### Counts -/

lemma threshold_pos (bias position : Nat) : 1 ≤ threshold bias position := by
  unfold threshold
  omega

lemma threshold_le (bias position : Nat) : threshold bias position ≤ 26 := by
  unfold threshold
  omega

lemma value?_digit : ∀ n < 36, value? (digit n) = some n := by
  decide

/-- Reading a count undoes writing it, at any weight, and reading goes on behind it. -/
lemma readCount?_writeCount (bias position count weight before : Nat) (rest : List Char) :
    readCount? bias position weight before (writeCount bias position count ++ rest) =
      some (before + count * weight, rest) := by
  fun_induction writeCount bias position count generalizing weight before with
  | case1 position count t hlt =>
    have hcount : count < 36 := by
      have := threshold_le bias position
      omega
    rw [List.singleton_append, readCount?, value?_digit count hcount]
    exact if_pos hlt
  | case2 position count t hle ih =>
    have hpos := threshold_pos bias position
    have hbound := threshold_le bias position
    have hrest := Nat.mod_lt (count - t) (y := 36 - t) (by omega)
    rw [List.cons_append, readCount?, value?_digit _ (by omega)]
    refine (if_neg (by omega)).trans ?_
    rw [ih, Option.some.injEq, Prod.mk.injEq, Nat.add_assoc, Nat.add_left_cancel_iff]
    refine ⟨?_, rfl⟩
    -- the digits of the count, with their weights
    have hsum : t + (count - t) % (36 - t) + (count - t) / (36 - t) * (36 - t) = count := by
      have := Nat.mod_add_div' (count - t) (36 - t)
      omega
    calc (t + (count - t) % (36 - t)) * weight + (count - t) / (36 - t) * (weight * (36 - t))
        = (t + (count - t) % (36 - t) + (count - t) / (36 - t) * (36 - t)) * weight := by
          rw [Nat.mul_comm weight, ← Nat.mul_assoc, ← Nat.add_mul]
      _ = count * weight := by rw [hsum]

/-- A count is written in digits. -/
lemma exists_value?_of_mem_writeCount {bias position count : Nat} {c : Char}
    (h : c ∈ writeCount bias position count) : ∃ n, value? c = some n := by
  fun_induction writeCount bias position count with
  | case1 position count t hlt =>
    have := threshold_le bias position
    rw [List.mem_singleton.mp h]
    exact ⟨count, value?_digit count (by omega)⟩
  | case2 position count t hle ih =>
    have hbound := threshold_le bias position
    have hrest := Nat.mod_lt (count - t) (y := 36 - t) (by omega)
    rcases List.mem_cons.mp h with rfl | h
    · exact ⟨_, value?_digit _ (by omega)⟩
    · exact ih h

lemma writeCount_ne_nil (bias position count : Nat) : writeCount bias position count ≠ [] := by
  rw [writeCount]
  split <;> simp

/-! ### The points of a label -/

lemma mem_insert {m n : Nat} {ns : List Nat} : m ∈ insert n ns ↔ m = n ∨ m ∈ ns := by
  fun_induction insert n ns with
  | case1 => simp
  | case2 => simp
  | case3 => simp
  | case4 k rest hlt hne ih =>
    rw [List.mem_cons, ih, List.mem_cons]
    tauto

lemma pairwise_insert {n : Nat} {ns : List Nat} (h : ns.Pairwise (· < ·)) :
    (insert n ns).Pairwise (· < ·) := by
  fun_induction insert n ns with
  | case1 => simp
  | case2 k rest hlt =>
    refine List.pairwise_cons.mpr ⟨fun m hm => ?_, h⟩
    rcases List.mem_cons.mp hm with rfl | hm
    · exact hlt
    · exact hlt.trans (List.rel_of_pairwise_cons h hm)
  | case3 => exact h
  | case4 k rest hlt hne ih =>
    obtain ⟨hk, hrest⟩ := List.pairwise_cons.mp h
    refine List.pairwise_cons.mpr ⟨fun m hm => ?_, ih hrest⟩
    rcases mem_insert.mp hm with rfl | hm
    · omega
    · exact hk m hm

lemma mem_foldr_insert {m : Nat} {ns : List Nat} : m ∈ ns.foldr insert [] ↔ m ∈ ns := by
  induction ns with
  | nil => rfl
  | cons n ns ih => rw [List.foldr_cons, mem_insert, ih, List.mem_cons]

lemma pairwise_foldr_insert (ns : List Nat) : (ns.foldr insert []).Pairwise (· < ·) := by
  induction ns with
  | nil => exact .nil
  | cons n ns ih => exact pairwise_insert ih

lemma insertIdx_length_append (before rest : List Nat) (n : Nat) :
    (before ++ rest).insertIdx before.length n = before ++ n :: rest := by
  induction before with
  | nil => rfl
  | cons m before ih => exact congrArg (m :: ·) ih

/-! ### A writer and a reader side by side -/

/-- Where a reader stands: its bias, its code point and place, and what is in place. -/
structure Reader where
  /-- The bias of the next count. -/
  bias : Nat
  /-- The code point that is looked for. -/
  point : Nat
  /-- The place behind the last character. -/
  place : Nat
  /-- The characters in place. -/
  label : List Nat

/-- What a reader reads from where it stands. -/
def Reader.read? (r : Reader) (cs : List Char) : Option (List Nat) :=
  readPoints? r.bias r.point r.place r.label cs

/-- A count leads a reader to a place and a code point. -/
lemma Reader.read?_writeCount {r : Reader} {point spot count : Nat} (hpoint : isPoint point = true)
    (hle : r.point ≤ point) (hspot : spot ≤ r.label.length)
    (hcount : count + r.place = (point - r.point) * (r.label.length + 1) + spot)
    (rest : List Char) :
    r.read? (writeCount r.bias 36 count ++ rest) =
      Reader.read? ⟨adapt count (r.label.length + 1) (r.place = 0), point, spot + 1,
        r.label.insertIdx spot point⟩ rest := by
  obtain ⟨c, cs, hcons⟩ :=
    List.exists_cons_of_ne_nil (List.append_ne_nil_of_left_ne_nil
      (writeCount_ne_nil r.bias 36 count) rest)
  have hread := readCount?_writeCount r.bias 36 count 1 0 rest
  rw [Nat.zero_add, Nat.mul_one, hcons] at hread
  have hway : r.place + count = spot + (r.label.length + 1) * (point - r.point) := by
    rw [Nat.add_comm, hcount, Nat.mul_comm, Nat.add_comm]
  have hfound : r.point + (r.place + count) / (r.label.length + 1) = point := by
    rw [hway, Nat.add_mul_div_left _ _ (Nat.succ_pos _), Nat.div_eq_of_lt (by omega)]
    omega
  have hplace : (r.place + count) % (r.label.length + 1) = spot := by
    rw [hway, Nat.add_mul_mod_self_left, Nat.mod_eq_of_lt (by omega)]
  rw [Reader.read?, hcons, readPoints?]
  split
  · rename_i hnone
    rw [hread] at hnone
    cases hnone
  · rename_i count' left hsome
    rw [hread, Option.some.injEq, Prod.mk.injEq] at hsome
    obtain ⟨rfl, rfl⟩ := hsome
    simp only [hfound, hplace, hpoint, if_true]
    rfl

/-- A reader has read what a writer has written, and the count of the writer is the way from where
the reader stands to `point` and `spot`. The first characters are there from the beginning. -/
structure IsFollowed (first : List Nat) (w : Writer) (r : Reader) (point spot : Nat) : Prop where
  /-- What is written leads the reader to where it stands. -/
  read : ∀ rest, readPoints? firstBias firstPoint 0 first (w.text ++ rest) = r.read? rest
  /-- It is written in digits. -/
  digits : ∀ c ∈ w.text, ∃ n, value? c = some n
  /-- Both have the same bias. -/
  bias_eq : r.bias = w.bias
  /-- Both have put as many characters into place. -/
  placed_eq : r.label.length = w.placed
  /-- The reader has moved exactly if a character was written. -/
  place_iff : r.place = 0 ↔ w.placed = first.length
  /-- The first characters stay in place. -/
  first_le : first.length ≤ w.placed
  /-- The reader is not past the code point. -/
  point_le : r.point ≤ point
  /-- The count is the way to go. -/
  count_eq : w.count + r.place = (point - r.point) * (w.placed + 1) + spot

variable {first label : List Nat} {w : Writer} {r : Reader} {point : Nat}

/-- A character is written, and the reader puts it into place. -/
lemma IsFollowed.put (hpoint : isPoint point = true) {spot : Nat}
    (h : IsFollowed first w r point spot) (hspot : spot ≤ r.label.length) :
    IsFollowed first
      { text := w.text ++ writeCount w.bias 36 w.count, count := 0,
        bias := adapt w.count (w.placed + 1) (w.placed = first.length), placed := w.placed + 1 }
      ⟨adapt w.count (w.placed + 1) (w.placed = first.length), point, spot + 1,
        r.label.insertIdx spot point⟩ point (spot + 1) where
  read := by
    intro rest
    have hcount := h.count_eq
    rw [← h.placed_eq] at hcount
    rw [List.append_assoc, h.read, ← h.bias_eq,
      Reader.read?_writeCount hpoint h.point_le hspot hcount, h.placed_eq]
    congr 3
    exact decide_eq_decide.mpr h.place_iff
  digits := by
    intro c hc
    rcases List.mem_append.mp hc with hc | hc
    · exact h.digits c hc
    · exact exists_value?_of_mem_writeCount hc
  bias_eq := rfl
  placed_eq := by rw [List.length_insertIdx_of_le_length hspot, h.placed_eq]
  place_iff := by
    have := h.first_le
    dsimp only
    omega
  first_le := Nat.le_succ_of_le h.first_le
  point_le := Nat.le_refl point
  count_eq := by
    dsimp only
    rw [Nat.sub_self, Nat.zero_mul]

/-- While a label is passed for a code point, the characters up to that code point are in place
before the writer, and those below it behind. -/
lemma IsFollowed.foldl_pass (hpoint : isPoint point = true) {before rest : List Nat}
    (h : IsFollowed first w r point (before.filter (· ≤ point)).length)
    (hlabel : r.label = before.filter (· ≤ point) ++ rest.filter (· < point)) :
    ∃ r', IsFollowed first (rest.foldl (Writer.pass first.length point) w) r' point
        ((before ++ rest).filter (· ≤ point)).length ∧
      r'.label = (before ++ rest).filter (· ≤ point) := by
  induction rest generalizing before w r with
  | nil =>
    rw [List.append_nil]
    exact ⟨r, h, by rw [hlabel, List.filter_nil, List.append_nil]⟩
  | cons n rest ih =>
    have happend : before ++ n :: rest = (before ++ [n]) ++ rest := by simp
    rw [List.foldl_cons, happend]
    rcases Nat.lt_trichotomy n point with hlt | rfl | hgt
    · -- one more place is passed
      have hpass : w.pass first.length point n = { w with count := w.count + 1 } := if_pos hlt
      have hfilter : (before ++ [n]).filter (· ≤ point) = before.filter (· ≤ point) ++ [n] := by
        simp [List.filter_append, hlt.le]
      rw [hpass]
      refine ih { h with count_eq := ?_ } ?_
      · have := h.count_eq
        rw [hfilter, List.length_append, List.length_singleton]
        dsimp only
        omega
      · rw [hlabel, hfilter, List.append_assoc]
        simp [hlt]
    · -- the character is written
      have hpass : w.pass first.length n n =
          { text := w.text ++ writeCount w.bias 36 w.count, count := 0,
            bias := adapt w.count (w.placed + 1) (w.placed = first.length),
            placed := w.placed + 1 } := by
        rw [Writer.pass, if_neg (Nat.lt_irrefl n), if_pos rfl]
      have hfilter : (before ++ [n]).filter (· ≤ n) = before.filter (· ≤ n) ++ [n] := by
        simp [List.filter_append]
      have hnext : ((before ++ [n]).filter (· ≤ n)).length =
          (before.filter (· ≤ n)).length + 1 := by
        rw [hfilter, List.length_append, List.length_singleton]
      have hrest : (n :: rest).filter (· < n) = rest.filter (· < n) := by simp
      rw [hrest] at hlabel
      have hspot : (before.filter (· ≤ n)).length ≤ r.label.length := by
        rw [hlabel, List.length_append]
        omega
      rw [hpass]
      refine ih (hnext ▸ h.put hpoint hspot) ?_
      rw [hlabel, insertIdx_length_append, hfilter, List.append_assoc]
      rfl
    · -- the character is left for later
      have hpass : w.pass first.length point n = w := by
        rw [Writer.pass, if_neg (by omega), if_neg (by omega)]
      have hfilter : (before ++ [n]).filter (· ≤ point) = before.filter (· ≤ point) := by
        simp [List.filter_append, hgt]
      rw [hpass]
      refine ih (r := r) ?_ ?_
      · rw [hfilter]
        exact h
      · rw [hlabel, hfilter]
        simp [hgt.le]

/-- A writer counts on to the next code point. -/
lemma IsFollowed.advance {next spot : Nat} (h : IsFollowed first w r next spot)
    (hle : next ≤ point) :
    IsFollowed first { w with count := w.count + (point - next) * (w.placed + 1) } r point spot := by
  refine { h with point_le := h.point_le.trans hle, count_eq := ?_ }
  have hway : point - r.point = (next - r.point) + (point - next) := by
    have := h.point_le
    omega
  have := h.count_eq
  rw [hway, Nat.add_mul]
  dsimp only
  omega

/-- Behind the whole label, a writer is one step before the start of it, for the code point that
comes next. -/
lemma IsFollowed.turn (h : IsFollowed first w r point w.placed) :
    IsFollowed first { w with count := w.count + 1 } r (point + 1) 0 := by
  refine { h with point_le := Nat.le_succ_of_le h.point_le, count_eq := ?_ }
  have hway : point + 1 - r.point = point - r.point + 1 := by
    have := h.point_le
    omega
  have := h.count_eq
  dsimp only
  rw [hway, Nat.succ_mul]
  omega

/-- When all code points of a label are written, the reader holds the label. -/
lemma IsFollowed.writePoints {points : List Nat} {next : Nat}
    (hsorted : points.Pairwise (· < ·)) (hnext : ∀ p ∈ points, next ≤ p)
    (hmem : ∀ n ∈ label, next ≤ n → n ∈ points) (hpoints : ∀ p ∈ points, isPoint p = true)
    (h : IsFollowed first w r next 0) (hlabel : r.label = label.filter (· < next)) :
    ∃ r' point spot, IsFollowed first (writePoints label first.length points next w) r' point spot ∧
      r'.label = label := by
  induction points generalizing next w r with
  | nil =>
    refine ⟨r, next, 0, h, ?_⟩
    rw [hlabel, List.filter_eq_self]
    intro n hn
    rw [decide_eq_true_eq]
    by_contra hle
    exact absurd (hmem n hn (Nat.le_of_not_lt hle)) List.not_mem_nil
  | cons point rest ih =>
    obtain ⟨hpoint, hrest⟩ := List.pairwise_cons.mp hsorted
    have hle : next ≤ point := hnext point List.mem_cons_self
    -- no character of the label lies between the last code point and this one
    have hbelow : label.filter (· < next) = label.filter (· < point) := by
      refine List.filter_congr fun n hn => ?_
      rw [decide_eq_decide]
      refine ⟨fun hlt => Nat.lt_of_lt_of_le hlt hle, fun hlt => ?_⟩
      by_contra hge
      rcases List.mem_cons.mp (hmem n hn (Nat.le_of_not_lt hge)) with rfl | hn
      · exact Nat.lt_irrefl _ hlt
      · exact Nat.lt_asymm hlt (hpoint n hn)
    have hsplit : r.label = ([] : List Nat).filter (· ≤ point) ++ label.filter (· < point) := by
      rw [hlabel, hbelow]
      rfl
    obtain ⟨r', hpassed, hlabel'⟩ :=
      (h.advance hle).foldl_pass (hpoints point List.mem_cons_self) hsplit
    rw [List.nil_append] at hpassed hlabel'
    rw [← hlabel', hpassed.placed_eq] at hpassed
    rw [Punycode.writePoints]
    refine ih hrest (fun p hp => hpoint p hp) ?_
      (fun p hp => hpoints p (List.mem_cons_of_mem _ hp)) hpassed.turn ?_
    · intro n hn hlt
      rcases List.mem_cons.mp (hmem n hn (by omega)) with rfl | hn
      · exact absurd hlt (Nat.lt_irrefl _)
      · exact hn
    · rw [hlabel']
      exact List.filter_congr fun n _ => by rw [decide_eq_decide]; omega

/-! ### Labels -/

/-- The characters of a label beyond ASCII, as they are written. -/
def written (label : List Nat) : List Char :=
  (writePoints label (label.filter (· < firstPoint)).length
    ((label.filter (firstPoint ≤ ·)).foldr insert []) firstPoint
    ⟨[], 0, firstBias, (label.filter (· < firstPoint)).length⟩).text

/-- They are read back after the ASCII characters, and are written in digits. -/
lemma readPoints?_written (h : ∀ n ∈ label, isPoint n = true) :
    readPoints? firstBias firstPoint 0 (label.filter (· < firstPoint)) (written label) =
        some label ∧
      ∀ c ∈ written label, ∃ n, value? c = some n := by
  have hstart : IsFollowed (label.filter (· < firstPoint))
      ⟨[], 0, firstBias, (label.filter (· < firstPoint)).length⟩
      ⟨firstBias, firstPoint, 0, label.filter (· < firstPoint)⟩ firstPoint 0 := by
    refine ⟨fun _ => rfl, by simp, rfl, rfl, by simp, Nat.le_refl _, Nat.le_refl _, by simp⟩
  have hmem : ∀ p, p ∈ (label.filter (firstPoint ≤ ·)).foldr insert [] ↔
      p ∈ label ∧ firstPoint ≤ p := by
    intro p
    rw [mem_foldr_insert, List.mem_filter, decide_eq_true_eq]
  obtain ⟨r, point, spot, hend, hlabel⟩ := hstart.writePoints
    (pairwise_foldr_insert _) (fun p hp => ((hmem p).mp hp).2)
    (fun n hn hle => (hmem n).mpr ⟨hn, hle⟩) (fun p hp => h p ((hmem p).mp hp).1) rfl
  refine ⟨?_, hend.digits⟩
  have hread := hend.read []
  rw [List.append_nil] at hread
  rw [written, hread, Reader.read?, readPoints?, hlabel]

lemma hyphen_notMem_of_digits {cs : List Char} (h : ∀ c ∈ cs, ∃ n, value? c = some n) :
    '-' ∉ cs := by
  intro hmem
  obtain ⟨n, hn⟩ := h _ hmem
  cases hn

/-- A hyphen is the mark between the two parts of a text if none comes after it. -/
lemma decode?_append {basic text : List Char} (htext : '-' ∉ text) :
    decode? (basic ++ (if basic = [] then [] else ['-']) ++ text) =
      readPoints? firstBias firstPoint 0 (basic.map (·.toNat)) text := by
  have hall : ∀ c ∈ text.reverse, decide (c ≠ '-') = true := by
    intro c hc
    rw [decide_eq_true_eq]
    rintro rfl
    exact htext (List.mem_reverse.mp hc)
  by_cases hbasic : basic = []
  · subst hbasic
    rw [if_pos rfl, List.nil_append, List.nil_append, decode?, List.takeWhile_eq_self_iff.mpr hall]
    simp
  · have htail : (basic ++ ['-'] ++ text).reverse.takeWhile (· ≠ '-') = text.reverse := by
      rw [List.reverse_append, List.takeWhile_append_of_pos hall]
      simp
    have hlength : (basic ++ ['-'] ++ text).length - text.length = (basic ++ ['-']).length := by
      rw [List.length_append, Nat.add_sub_cancel]
    rw [if_neg hbasic, decode?, htail, List.reverse_reverse, hlength, List.take_left,
      List.dropLast_concat, if_neg hbasic]

/-- A written label is its ASCII characters, a mark behind them if there are any, and the rest. -/
lemma encode_eq (label : List Nat) :
    encode label = (label.filter (· < firstPoint)).map Char.ofNat ++
      (if (label.filter (· < firstPoint)).map Char.ofNat = [] then [] else ['-']) ++
        written label := by
  have hempty : (label.filter (· < firstPoint) = []) =
      ((label.filter (· < firstPoint)).map Char.ofNat = []) := by simp
  rw [encode]
  simp only [hempty]
  rfl

/-- **Reading a label undoes writing it**, whatever characters it holds. -/
theorem decode?_encode (h : ∀ n ∈ label, isPoint n = true) :
    decode? (encode label) = some label := by
  obtain ⟨hread, hdigits⟩ := readPoints?_written h
  have hbasic : ((label.filter (· < firstPoint)).map Char.ofNat).map (·.toNat) =
      label.filter (· < firstPoint) := by
    rw [List.map_map]
    refine (List.map_congr_left fun n hn => ?_).trans (List.map_id _)
    have hlt : n < 128 := of_decide_eq_true (List.mem_filter.mp hn).2
    exact Utf8.toNat_ofNat_scalar (.inl (by omega))
  rw [encode_eq, decode?_append (hyphen_notMem_of_digits hdigits), hbasic, hread]

/-- A label with a character beyond ASCII ends in a digit when it is written. -/
lemma exists_getLast?_encode (h : ∀ n ∈ label, isPoint n = true) {n : Nat} (hn : n ∈ label)
    (hwide : firstPoint ≤ n) : ∃ c m, (encode label).getLast? = some c ∧ value? c = some m := by
  obtain ⟨hread, hdigits⟩ := readPoints?_written h
  have hne : written label ≠ [] := by
    intro hempty
    -- the ASCII characters alone are not the whole label
    rw [hempty, readPoints?, Option.some.injEq] at hread
    rw [← hread, List.mem_filter, decide_eq_true_eq] at hn
    omega
  obtain ⟨m, hm⟩ := hdigits _ (List.getLast_mem hne)
  refine ⟨_, m, ?_, hm⟩
  rw [encode_eq, List.getLast?_append_of_ne_nil _ hne, List.getLast?_eq_some_getLast hne]

/-- What a written label consists of. -/
lemma mem_encode (h : ∀ n ∈ label, isPoint n = true) {c : Char} (hc : c ∈ encode label) :
    (∃ n ∈ label, n < firstPoint ∧ c = Char.ofNat n) ∨ c = '-' ∨ ∃ n, value? c = some n := by
  rw [encode_eq, List.mem_append, List.mem_append] at hc
  rcases hc with (hc | hc) | hc
  · obtain ⟨n, hn, rfl⟩ := List.mem_map.mp hc
    obtain ⟨hn, hlt⟩ := List.mem_filter.mp hn
    exact .inl ⟨n, hn, of_decide_eq_true hlt, rfl⟩
  · split at hc
    · exact absurd hc List.not_mem_nil
    · exact .inr (.inl (List.mem_singleton.mp hc))
  · exact .inr (.inr ((readPoints?_written h).2 c hc))

end XoLedger.Url.Domain.Punycode
