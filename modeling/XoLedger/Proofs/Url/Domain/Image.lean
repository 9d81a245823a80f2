import Mathlib.Tactic.Lemma
import XoLedger.Proofs.Outcome
import XoLedger.Proofs.Text.Composed
import XoLedger.Url.Domain.Image

/-!
# Images are images of themselves

What stands in a domain name for a text holds valid characters only, since the table of images has
no others and neither composing nor taking apart leads to others, and it is composed. So it is not
changed when it is put into that form again.
-/

namespace XoLedger.Url.Domain

/-! ### Valid characters -/

/-- Whether a domain name holds a character as it is. -/
def IsValid (n : Nat) : Prop := validRanges.contains n = true

lemma isAscending_validRanges : validRanges.IsAscending := by
  decide +kernel

lemma isValid_iff_testBit {n : Nat} : IsValid n ↔ validRanges.mask.testBit n = true :=
  Ranges.contains_iff_testBit isAscending_validRanges

/-- The characters of a range that lies in one of those in the table are valid. -/
lemma isValid_of_le (low high : Nat) {n : Nat}
    (h : (validRanges.any fun r => r.1 ≤ low && high ≤ r.2) = true) (hlow : low ≤ n)
    (hhigh : n ≤ high) : IsValid n := by
  obtain ⟨r, hr, hle⟩ := List.any_eq_true.mp h
  rw [Bool.and_eq_true, decide_eq_true_eq, decide_eq_true_eq] at hle
  exact (Ranges.contains_iff isAscending_validRanges).mpr
    ⟨r, hr, hle.1.trans hlow, hhigh.trans hle.2⟩

lemma forall_validRanges : ∀ r ∈ validRanges, r.2 < 0xD800 ∨ 0xDFFF < r.1 ∧ r.2 < 0x110000 := by
  decide +kernel

/-- Valid code points are code points of characters. -/
lemma IsValid.scalar {n : Nat} (h : IsValid n) : n < 0xD800 ∨ 0xDFFF < n ∧ n < 0x110000 := by
  obtain ⟨r, hr, hfirst, hlast⟩ := Ranges.exists_of_contains h
  have := forall_validRanges r hr
  omega

/-! ### Composites -/

/-- Whether a composite and its parts are valid. -/
def hasValidParts (c : Composite) : Bool :=
  [c.first, c.second, c.whole].all validRanges.mask.testBit

lemma exists_rows_hasValidParts :
    ∃ rows, compositionRows = rows.map String.ofList ∧
      (compositesIn rows).all hasValidParts = true := by
  unfold compositionRows
  dsimp only
  repeat refine exists_rows_cons ?_
  exact ⟨[], rfl, by decide +kernel⟩

lemma isValid_of_mem_composites {c : Composite} (h : c ∈ composites) :
    IsValid c.first ∧ IsValid c.second ∧ IsValid c.whole := by
  obtain ⟨rows, hrows, hall⟩ := exists_rows_hasValidParts
  rw [composites_eq hrows] at h
  have := List.all_eq_true.mp hall c h
  simpa [hasValidParts, isValid_iff_testBit] using this

/-- A character that has parts is valid, and so are these. -/
lemma isValid_of_parts? {a b n : Nat} (h : parts? n = some (a, b)) :
    IsValid a ∧ IsValid b ∧ IsValid n := by
  have hsyllables : ∀ m, isSyllable m = true → IsValid m := by
    intro m hm
    rw [isSyllable_iff] at hm
    exact isValid_of_le 0xAC00 0xD7A3 (by decide +kernel) hm.1 (by omega)
  rcases parts?_cases h with ⟨hn, hparts⟩ | hmem
  · obtain ⟨hlow, hhigh, hfirst⟩ := syllableParts_bounds hn
    rw [hparts] at hlow hhigh hfirst
    refine ⟨?_, ?_, hsyllables n hn⟩
    · rcases hfirst with ⟨hlow, hhigh⟩ | ⟨hsyllable, -⟩
      · exact isValid_of_le 0x1100 0x1112 (by decide +kernel) hlow
          (Nat.le_of_lt_succ hhigh)
      · exact hsyllables a hsyllable
    · exact isValid_of_le 0x1161 0x11C2 (by decide +kernel) hlow
        (Nat.le_of_lt_succ hhigh)
  · exact isValid_of_mem_composites hmem

/-- The composed form of valid characters is valid. -/
lemma isValid_of_mem_composed {ns : List Nat} (h : ∀ n ∈ ns, IsValid n) :
    ∀ n ∈ composed ns, IsValid n := by
  refine forall_mem_composed ?_ ?_ h
  · intro n a b hparts _
    exact ⟨(isValid_of_parts? hparts).1, (isValid_of_parts? hparts).2.1⟩
  · intro a b n hwhole _ _
    exact (isValid_of_parts? (parts?_of_whole? hwhole)).2.2

/-! ### Images -/

/-- The images in the rows of a table that are given by their characters. -/
def imagesIn (rows : List (List Char)) : List (Option (List Nat)) :=
  rows.flatMap fun row => ((splitChars ' ' row).drop 1).map readImage

/-- Whether an image, if there is one, consists of valid characters. -/
def isValidImage (image : Option (List Nat)) : Bool :=
  (image.getD []).all validRanges.mask.testBit

lemma exists_rows_isValidImage :
    ∃ rows, imageRows = rows.map String.ofList ∧ (imagesIn rows).all isValidImage = true := by
  unfold imageRows
  dsimp only
  repeat refine exists_rows_cons ?_
  exact ⟨[], rfl, by decide +kernel⟩

/-- The images of a row that is given by its characters. -/
lemma images_readImageRow (row : List Char) :
    (readImageRow (String.ofList row)).images = ((splitChars ' ' row).drop 1).map readImage := by
  rw [readImageRow, String.toList_ofList]
  cases splitChars ' ' row with
  | nil => rfl
  | cons first items => rfl

/-- The image of a character in the table is valid. -/
lemma isValid_of_imageTable {n m : Nat} {image : List Nat}
    (h : imageTable.findSome? (·.image? n) = some image) (hm : m ∈ image) : IsValid m := by
  obtain ⟨rows, hrows, hall⟩ := exists_rows_isValidImage
  obtain ⟨row, hrow, himage⟩ := List.exists_of_findSome?_eq_some h
  rw [imageTable, hrows, List.map_map, List.mem_map] at hrow
  obtain ⟨cs, hcs, rfl⟩ := hrow
  unfold ImageRow.image? at himage
  split at himage
  · have hmem : some image ∈ (readImageRow (String.ofList cs)).images :=
      List.mem_of_getElem? (Option.join_eq_some_iff.mp himage)
    rw [images_readImageRow] at hmem
    have hvalid := List.all_eq_true.mp hall _ (List.mem_flatMap.mpr ⟨cs, hcs, hmem⟩)
    exact isValid_iff_testBit.mpr (List.all_eq_true.mp hvalid m hm)
  · cases himage

/-- ASCII characters have no other images than themselves, once their letters are small. -/
lemma isValid_lowerAscii : ∀ n < 128, IsValid (lowerAscii (Char.ofNat n)).toNat := by
  have hbits : ∀ n < 128,
      validRanges.mask.testBit (lowerAscii (Char.ofNat n)).toNat = true := by
    decide +kernel
  exact fun n hn => isValid_iff_testBit.mpr (hbits n hn)

/-- The image of a character is valid. -/
lemma isValid_of_image? {n m : Nat} {image : List Nat} (h : image? n = some image)
    (hm : m ∈ image) : IsValid m := by
  unfold image? at h
  split_ifs at h with hascii hignored hvalid
  · obtain rfl := Option.some.inj h
    rw [List.mem_singleton.mp hm]
    exact isValid_lowerAscii n hascii
  · obtain rfl := Option.some.inj h
    exact absurd hm List.not_mem_nil
  · obtain rfl := Option.some.inj h
    rw [List.mem_singleton.mp hm]
    exact hvalid
  · exact isValid_of_imageTable h hm

/-- **The image of a text** holds valid characters only, and is composed. -/
theorem isValid_of_image {cs : List Char} {ns : List Nat} (h : image cs = some ns) :
    (∀ n ∈ ns, IsValid n) ∧ composed ns = ns := by
  rw [image, Option.map_eq_some_iff] at h
  obtain ⟨parts, hparts, rfl⟩ := h
  refine ⟨isValid_of_mem_composed fun n hn => ?_, composed_composed _⟩
  obtain ⟨part, hpart, hn⟩ := List.mem_flatten.mp hn
  obtain ⟨c, -, hc⟩ := Option.exists_of_mem_mapM hparts hpart
  exact isValid_of_image? hc hn

end XoLedger.Url.Domain
