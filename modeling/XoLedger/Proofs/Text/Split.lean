import Mathlib.Tactic.Lemma
import XoLedger.Text.Split

/-!
# Cutting and joining are inverse to each other

Joining what a text was cut into gives the text back, always. The other way round it depends on the
parts: those that hold no separator are found again, and the parts of a cut never hold one. So the
texts of a fixed number of fields are exactly the joins of that many fields without a separator.
-/

namespace XoLedger

variable {sep : Char}

/-! ### Lists of characters -/

/-- There is always a first part. -/
lemma splitChars_ne_nil (sep : Char) (cs : List Char) : splitChars sep cs ≠ [] := by
  cases cs with
  | nil => simp [splitChars]
  | cons c rest =>
    rw [splitChars]
    split
    · simp
    · split <;> simp

/-- A character that is no separator goes to the front of the first part. -/
lemma splitChars_cons_of_ne {c : Char} (hc : c ≠ sep) (rest : List Char) :
    ∃ part parts, splitChars sep rest = part :: parts ∧
      splitChars sep (c :: rest) = (c :: part) :: parts := by
  obtain ⟨part, parts, h⟩ := List.exists_cons_of_ne_nil (splitChars_ne_nil sep rest)
  refine ⟨part, parts, h, ?_⟩
  rw [splitChars, if_neg hc, h]

/-- A character goes to the front of the first part in joining, too. -/
lemma joinChars_cons_cons (c : Char) (part : List Char) (parts : List (List Char)) :
    joinChars sep ((c :: part) :: parts) = c :: joinChars sep (part :: parts) := by
  cases parts with
  | nil => rfl
  | cons p ps => rfl

/-- Joining undoes cutting. -/
lemma joinChars_splitChars (sep : Char) (cs : List Char) :
    joinChars sep (splitChars sep cs) = cs := by
  induction cs with
  | nil => rfl
  | cons c rest ih =>
    by_cases hc : c = sep
    · obtain ⟨part, parts, h⟩ := List.exists_cons_of_ne_nil (splitChars_ne_nil sep rest)
      rw [splitChars, if_pos hc, h, joinChars, ← h, ih, hc, List.nil_append]
      simp
    · obtain ⟨part, parts, h, hcons⟩ := splitChars_cons_of_ne hc rest
      rw [hcons, joinChars_cons_cons, ← h, ih]

/-- The parts of a cut hold no separator. -/
lemma sep_notMem_of_mem_splitChars {cs part : List Char} (h : part ∈ splitChars sep cs) :
    sep ∉ part := by
  induction cs generalizing part with
  | nil =>
    rw [splitChars, List.mem_singleton] at h
    rw [h]
    exact List.not_mem_nil
  | cons c rest ih =>
    by_cases hc : c = sep
    · rw [splitChars, if_pos hc, List.mem_cons] at h
      rcases h with rfl | h
      · exact List.not_mem_nil
      · exact ih h
    · obtain ⟨first, parts, hrest, hcons⟩ := splitChars_cons_of_ne hc rest
      rw [hcons, List.mem_cons] at h
      rcases h with rfl | h
      · have hfirst : sep ∉ first := ih (by rw [hrest]; exact List.mem_cons_self)
        intro hmem
        rcases List.mem_cons.mp hmem with heq | hmem
        · exact hc heq.symm
        · exact hfirst hmem
      · exact ih (by rw [hrest]; exact List.mem_cons_of_mem _ h)

/-- A text without a separator is one part. -/
lemma splitChars_of_sep_notMem {cs : List Char} (h : sep ∉ cs) : splitChars sep cs = [cs] := by
  induction cs with
  | nil => rfl
  | cons c rest ih =>
    rw [List.mem_cons, not_or] at h
    rw [splitChars, if_neg (Ne.symm h.1), ih h.2]

/-- What stands on both sides of a separator is cut by itself. -/
lemma splitChars_append_sep (before rest : List Char) :
    splitChars sep (before ++ sep :: rest) = splitChars sep before ++ splitChars sep rest := by
  induction before with
  | nil =>
    change splitChars sep (sep :: rest) = [] :: splitChars sep rest
    rw [splitChars, if_pos rfl]
  | cons c before ih =>
    by_cases hc : c = sep
    · rw [List.cons_append, splitChars, splitChars, if_pos hc, if_pos hc, ih, List.cons_append]
    · obtain ⟨part, parts, hbefore, hcons⟩ := splitChars_cons_of_ne hc before
      rw [hbefore] at ih
      rw [hcons, List.cons_append, splitChars, if_neg hc, ih]
      rfl

/-- What holds no separator goes to the end of the last part. -/
lemma splitChars_append_of_notMem {rest : List Char} (h : sep ∉ rest) (cs : List Char) :
    ∃ parts last, splitChars sep cs = parts ++ [last] ∧
      splitChars sep (cs ++ rest) = parts ++ [last ++ rest] := by
  induction cs with
  | nil => exact ⟨[], [], rfl, splitChars_of_sep_notMem h⟩
  | cons c cs ih =>
    obtain ⟨parts, last, hcs, happend⟩ := ih
    by_cases hc : c = sep
    · refine ⟨[] :: parts, last, ?_, ?_⟩
      · rw [splitChars, if_pos hc, hcs, List.cons_append]
      · rw [List.cons_append, splitChars, if_pos hc, happend, List.cons_append]
    · cases parts with
      | nil =>
        refine ⟨[], c :: last, ?_, ?_⟩
        · rw [splitChars, if_neg hc, hcs]
          rfl
        · rw [List.cons_append, splitChars, if_neg hc, happend]
          rfl
      | cons part parts =>
        refine ⟨(c :: part) :: parts, last, ?_, ?_⟩
        · rw [splitChars, if_neg hc, hcs]
          rfl
        · rw [List.cons_append, splitChars, if_neg hc, happend]
          rfl

/-- Cutting finds joined parts again, if they hold no separator. -/
lemma splitChars_joinChars {parts : List (List Char)} (hne : parts ≠ [])
    (h : ∀ part ∈ parts, sep ∉ part) : splitChars sep (joinChars sep parts) = parts := by
  induction parts with
  | nil => exact absurd rfl hne
  | cons part parts ih =>
    have hpart : sep ∉ part := h part List.mem_cons_self
    cases parts with
    | nil => rw [joinChars, splitChars_of_sep_notMem hpart]
    | cons p ps =>
      rw [joinChars, splitChars_append_sep, splitChars_of_sep_notMem hpart,
        ih (List.cons_ne_nil p ps) fun q hq => h q (List.mem_cons_of_mem part hq)]
      · rfl
      · simp

/-- Joining is the library's way of putting a separator between lists. -/
lemma intercalate_eq_joinChars (sep : Char) (parts : List (List Char)) :
    [sep].intercalate parts = joinChars sep parts := by
  induction parts with
  | nil => rfl
  | cons part parts ih =>
    cases parts with
    | nil => rw [List.intercalate_singleton, joinChars]
    | cons p ps =>
      rw [List.intercalate_cons_cons, ih, List.append_assoc]
      rfl

/-- A character that is no separator stands in a join when it stands in one of the parts. -/
lemma mem_joinChars_iff {c : Char} (hne : c ≠ sep) {parts : List (List Char)} :
    c ∈ joinChars sep parts ↔ ∃ part ∈ parts, c ∈ part := by
  induction parts with
  | nil => simp [joinChars]
  | cons part parts ih =>
    cases parts with
    | nil => simp [joinChars]
    | cons p ps =>
      rw [joinChars, List.mem_append, List.mem_cons, ih]
      · simp [hne]
      · simp

/-- What stands in a part of a cut stands in what was cut. -/
lemma mem_of_mem_splitChars {cs part : List Char} {c : Char} (h : part ∈ splitChars sep cs)
    (hc : c ∈ part) : c ∈ cs := by
  have hne : c ≠ sep := ne_of_mem_of_not_mem hc (sep_notMem_of_mem_splitChars h)
  rw [← joinChars_splitChars sep cs, mem_joinChars_iff hne]
  exact ⟨part, h, hc⟩

/-! ### Texts -/

/-- Joining the parts of a text gives the text. -/
theorem join_split (sep : Char) (s : String) : join sep (split sep s) = s := by
  rw [join, split, List.map_map]
  have hid : String.toList ∘ String.ofList = (id : List Char → List Char) :=
    funext fun cs => String.toList_ofList
  rw [hid, List.map_id, joinChars_splitChars, String.ofList_toList]

/-- Cutting finds joined texts again, if they hold no separator. -/
theorem split_join {parts : List String} (hne : parts ≠ [])
    (h : ∀ part ∈ parts, sep ∉ part.toList) : split sep (join sep parts) = parts := by
  rw [split, join, String.toList_ofList, splitChars_joinChars, List.map_map]
  · have hid : String.ofList ∘ String.toList = (id : String → String) :=
      funext fun s => String.ofList_toList
    rw [hid, List.map_id]
  · simpa using hne
  · intro part hpart
    obtain ⟨s, hs, rfl⟩ := List.mem_map.mp hpart
    exact h s hs

/-- The parts of a text hold no separator. -/
theorem sep_notMem_of_mem_split {s part : String} (h : part ∈ split sep s) :
    sep ∉ part.toList := by
  rw [split] at h
  obtain ⟨cs, hcs, rfl⟩ := List.mem_map.mp h
  rw [String.toList_ofList]
  exact sep_notMem_of_mem_splitChars hcs

/-- A text is cut into given parts exactly when it is their join and none holds a separator. -/
theorem split_eq_iff {s : String} {parts : List String} (hne : parts ≠ []) :
    split sep s = parts ↔ s = join sep parts ∧ ∀ part ∈ parts, sep ∉ part.toList := by
  constructor
  · rintro rfl
    exact ⟨(join_split sep s).symm, fun part hpart => sep_notMem_of_mem_split hpart⟩
  · rintro ⟨rfl, h⟩
    exact split_join hne h

end XoLedger
