import XoLedger.Proofs.Url.Parse
import XoLedger.Proofs.Url.Percent

/-!
# Where a path leads when it goes on

A path is followed segment by segment, so what its first segments lead to does not depend on what
comes after them, as long as something does. Only the last segment is special: dots at the end
leave a slash behind. Segments that are empty are entered like any other, which is why slashes can
pile up at a place where a path is continued.
-/

namespace XoLedger.Url

/-! ### Written paths -/

lemma Path.text_append (a b : List (List Char)) :
    (Path.segments (a ++ b)).text = (Path.segments a).text ++ (Path.segments b).text := by
  rw [text, List.flatMap_append]
  rfl

@[simp] lemma Path.text_singleton (segment : List Char) :
    (Path.segments [segment]).text = '/' :: segment := by
  rw [text, List.flatMap_singleton]

lemma Path.text_replicate (n : Nat) :
    (Path.segments (List.replicate n [])).text = List.replicate n '/' := by
  induction n with
  | zero => rfl
  | succ n ih => exact congrArg ('/' :: ·) ih

lemma Path.length_text_dropLast (path : List (List Char)) :
    (Path.segments path.dropLast).text.length ≤ (Path.segments path).text.length := by
  rcases List.eq_nil_or_concat path with rfl | ⟨init, last, rfl⟩
  · exact Nat.le_refl _
  · rw [List.concat_eq_append, List.dropLast_concat, text_append, List.length_append]
    exact Nat.le_add_right _ _

/-! ### Following segments -/

/-- Where a segment leads when another one follows. -/
def reach (path : List (List Char)) (segment : List Char) : List (List Char) :=
  let encoded := Percent.encode Percent.inPath segment
  match Step.of encoded with
  | .enter => path ++ [encoded]
  | .stay => path
  | .leave => path.dropLast

lemma follow_cons {rest : List (List Char)} (hne : rest ≠ []) (path : List (List Char))
    (segment : List Char) : follow path (segment :: rest) = follow (reach path segment) rest := by
  rw [follow, reach]
  cases Step.of (Percent.encode Percent.inPath segment) <;> simp [hne]

/-- What comes first is followed first. -/
lemma follow_append {rest : List (List Char)} (hne : rest ≠ []) (path segments : List (List Char)) :
    follow path (segments ++ rest) = follow (segments.foldl reach path) rest := by
  induction segments generalizing path with
  | nil => rfl
  | cons segment segments ih =>
    rw [List.cons_append, follow_cons (List.append_ne_nil_of_right_ne_nil _ hne), ih,
      List.foldl_cons]

/-- The last segment leads to where it would lead anyway, with a slash behind it if it is made of
dots. -/
lemma text_follow_singleton (path : List (List Char)) (segment : List Char) :
    ∃ n, (Path.segments (follow path [segment])).text =
      (Path.segments (reach path segment)).text ++ List.replicate n '/' := by
  rw [follow, reach]
  cases Step.of (Percent.encode Percent.inPath segment) with
  | enter => exact ⟨0, (List.append_nil _).symm⟩
  | stay => exact ⟨1, Path.text_append path [[]]⟩
  | leave => exact ⟨1, Path.text_append path.dropLast [[]]⟩

lemma length_text_follow_singleton (path : List (List Char)) (segment : List Char) :
    (Path.segments (follow path [segment])).text.length ≤
      (Path.segments path).text.length + 1 + (Percent.encode Percent.inPath segment).length := by
  have hdrop := Path.length_text_dropLast path
  rw [follow]
  cases Step.of (Percent.encode Percent.inPath segment) <;>
    simp only [follow, if_true, Path.text_append, Path.text_singleton, List.length_append,
      List.length_cons, List.length_nil] <;>
    omega

/-- Empty segments are entered. -/
lemma follow_replicate (n : Nat) (path : List (List Char)) :
    follow path (List.replicate n []) = path ++ List.replicate n [] := by
  induction n generalizing path with
  | zero => exact (List.append_nil path).symm
  | succ n ih =>
    have henter : Step.of (Percent.encode Percent.inPath []) = .enter := rfl
    rw [List.replicate_succ, follow, henter]
    exact (ih (path ++ [[]])).trans (List.append_assoc _ _ _)

/-! ### Continuing a path -/

/-- The segments of a path that is continued after a slash. -/
def leading : List Char → List (List Char)
  | [] => []
  | _ :: rest => splitSegments true rest

/-- Where a path leads that is continued after a slash. -/
def reached (cs : List Char) : List (List Char) :=
  (leading cs).foldl reach []

/-- Whether a character begins the query or the fragment. -/
def isMark (c : Char) : Bool :=
  c = '?' || c = '#'

/-- A text that is a segment by itself, and is entered as it is written. -/
structure IsName (cs : List Char) : Prop where
  /-- Nothing of it is dropped. -/
  edge : ∀ c ∈ cs, isEdge c = false
  /-- It does not reach into the query or the fragment. -/
  mark : ∀ c ∈ cs, isMark c = false
  /-- It is one segment. -/
  alone : splitSegments true cs = [cs]
  /-- Nothing in it has to be encoded. -/
  plain : Percent.encode Percent.inPath cs = cs
  /-- It is not made of dots. -/
  enters : Step.of cs = .enter

/-- Whether a text is a path or the end of one. -/
def StartsPath (cs : List Char) : Prop :=
  ∀ c ∈ cs.head?, isSlash true c = true

lemma splitSegments_append_slash (cs rest : List Char) :
    splitSegments true (cs ++ '/' :: rest) = splitSegments true cs ++ splitSegments true rest := by
  have hslash : (if isSlash true '/' = true then '/' else '/') = '/' := rfl
  rw [splitSegments, List.map_append, List.map_cons, hslash, splitChars_append_sep]
  rfl

/-- A path that is continued after a slash is followed to where it leads first. -/
lemma parsePath_append_slash {cs : List Char} (hcs : StartsPath cs) (rest : List Char) :
    parsePath true (cs ++ '/' :: rest) =
      .segments (follow (reached cs) (splitSegments true rest)) := by
  have hne : splitSegments true rest ≠ [] := splitChars_ne_nil _ _
  cases cs with
  | nil => rfl
  | cons c cs =>
    rw [List.cons_append, parsePath, if_pos (hcs c rfl), splitSegments_append_slash,
      follow_append hne]
    rfl

/-- A name is added to where a path leads. -/
lemma parsePath_append_name {cs name : List Char} (hcs : StartsPath cs) (hname : IsName name) :
    parsePath true (cs ++ '/' :: name) = .segments (reached cs ++ [name]) := by
  rw [parsePath_append_slash hcs, hname.alone, follow, hname.plain, hname.enters]
  rfl

lemma splitSegments_replicate (n : Nat) :
    splitSegments true (List.replicate n '/') = List.replicate (n + 1) [] := by
  induction n with
  | zero => rfl
  | succ n ih =>
    have h := splitSegments_append_slash [] (List.replicate n '/')
    rw [List.nil_append] at h
    rw [List.replicate_succ, h, ih]
    rfl

/-- A path that something ends leads to where it leads when it is continued, up to slashes. -/
lemma exists_text_parsePath {cs : List Char} (hcs : StartsPath cs) (n : Nat) :
    ∃ m, (parsePath true (cs ++ List.replicate n '/')).text =
      (Path.segments (reached cs)).text ++ List.replicate m '/' := by
  cases n with
  | succ n =>
    refine ⟨n + 1, ?_⟩
    rw [List.replicate_succ, parsePath_append_slash hcs, splitSegments_replicate, follow_replicate,
      Path.text_append, Path.text_replicate]
    rfl
  | zero =>
    rw [List.replicate_zero, List.append_nil]
    cases cs with
    | nil => exact ⟨1, rfl⟩
    | cons c cs =>
      obtain ⟨segments, last, hsegments⟩ :=
        (List.eq_nil_or_concat (splitSegments true cs)).resolve_left (splitChars_ne_nil _ _)
      rw [List.concat_eq_append] at hsegments
      rw [parsePath, if_pos (hcs c rfl), reached, leading, hsegments,
        follow_append (List.cons_ne_nil _ _), List.foldl_append]
      exact text_follow_singleton _ last

/-! ### Blanks in a path -/

/-- A percent sign stays where its digits do not stand for a dot. -/
lemma percent_mem_writtenDots {before rest : List Char} {high low : Char}
    (h : ¬ (high = '2' ∧ (low = 'e' ∨ low = 'E'))) :
    '%' ∈ writtenDots (before ++ '%' :: high :: low :: rest) := by
  generalize hcs : before ++ '%' :: high :: low :: rest = cs
  fun_induction writtenDots cs generalizing before with
  | case1 tail ih =>
    -- the sign lies behind the dot: neither of its digits is a percent sign
    rcases before with _ | ⟨x, _ | ⟨y, _ | ⟨z, before⟩⟩⟩ <;> simp at hcs
    · exact absurd ⟨hcs.1, .inl hcs.2.1⟩ h
    · exact List.mem_cons_of_mem _ (ih hcs.2.2.2)
  | case2 tail ih =>
    rcases before with _ | ⟨x, _ | ⟨y, _ | ⟨z, before⟩⟩⟩ <;> simp at hcs
    · exact absurd ⟨hcs.1, .inr hcs.2.1⟩ h
    · exact List.mem_cons_of_mem _ (ih hcs.2.2.2)
  | case3 c tail _ _ ih =>
    rcases before with _ | ⟨x, before⟩ <;> simp at hcs
    · rw [← hcs.1]
      exact List.mem_cons_self
    · exact List.mem_cons_of_mem _ (ih hcs.2)
  | case4 => simp at hcs

/-- A blank is encoded in a path, and not as a dot is. -/
lemma encodeChar_of_blank :
    ∀ n ≤ 32, Percent.encodeChar Percent.inPath (Char.ofNat n) =
        ['%', Percent.upperDigit (n / 16), Percent.upperDigit (n % 16)] ∧
      ¬ (Percent.upperDigit (n / 16) = '2' ∧
        (Percent.upperDigit (n % 16) = 'e' ∨ Percent.upperDigit (n % 16) = 'E')) := by
  decide +kernel

/-- A segment with a blank in it is no dots. -/
lemma reach_append_blanks {t : List Char} (hne : t ≠ []) (ht : ∀ c ∈ t, isEdge c = true)
    (path : List (List Char)) (segment : List Char) :
    reach path (segment ++ t) = path ++ [Percent.encode Percent.inPath (segment ++ t)] := by
  have henter : Step.of (Percent.encode Percent.inPath (segment ++ t)) = .enter := by
    obtain ⟨c, rest, rfl⟩ := List.exists_cons_of_ne_nil hne
    have hc : c.toNat ≤ 32 := of_decide_eq_true (ht c List.mem_cons_self)
    obtain ⟨hencoded, hdot⟩ := encodeChar_of_blank c.toNat hc
    rw [Char.ofNat_toNat] at hencoded
    have hmem : '%' ∈ writtenDots (Percent.encode Percent.inPath (segment ++ c :: rest)) := by
      rw [Percent.encode_append, Percent.encode, Percent.encode, List.flatMap_cons, hencoded]
      exact percent_mem_writtenDots hdot
    unfold Step.of
    split
    · rename_i hone
      rw [hone] at hmem
      exact absurd hmem (by decide)
    · rename_i htwo
      rw [htwo] at hmem
      exact absurd hmem (by decide)
    · rfl
  rw [reach, henter]

/-- What holds no slash goes to the end of the last segment. -/
lemma splitSegments_append {t : List Char} (ht : ∀ c ∈ t, isSlash true c = false) (cs : List Char) :
    ∃ segments last, splitSegments true cs = segments ++ [last] ∧
      splitSegments true (cs ++ t) = segments ++ [last ++ t] := by
  have hmap : (t.map fun c => if isSlash true c then '/' else c) = t := by
    conv_rhs => rw [← List.map_id t]
    refine List.map_congr_left fun c hc => ?_
    rw [ht c hc]
    rfl
  have hsep : '/' ∉ t := by
    intro hmem
    exact absurd (ht _ hmem) (by decide)
  rw [splitSegments, splitSegments, List.map_append, hmap]
  exact splitChars_append_of_notMem hsep _

/-- A path that goes on after a blank leads farther than the path itself. -/
lemma length_text_parsePath_lt {cs t : List Char} (hcs : StartsPath cs) (hne : cs ≠ [])
    (hne' : t ≠ []) (ht : ∀ c ∈ t, isEdge c = true) :
    (parsePath true cs).text.length < (Path.segments (reached (cs ++ t))).text.length := by
  obtain ⟨c, cs, rfl⟩ := List.exists_cons_of_ne_nil hne
  have hslash : ∀ c ∈ t, isSlash true c = false := by
    intro c hc
    have hends := endsAuthority_of_isEdge (ht c hc)
    rw [endsAuthority, Bool.or_eq_false_iff, Bool.or_eq_false_iff] at hends
    exact hends.1.1
  obtain ⟨segments, last, hsegments, happend⟩ := splitSegments_append hslash cs
  have hpath : parsePath true (c :: cs) =
      .segments (follow (segments.foldl reach []) [last]) := by
    rw [parsePath, if_pos (hcs c rfl), hsegments, follow_append (List.cons_ne_nil _ _)]
  have hreached : reached (c :: cs ++ t) =
      segments.foldl reach [] ++ [Percent.encode Percent.inPath (last ++ t)] := by
    rw [List.cons_append, reached, leading, happend, List.foldl_append]
    exact reach_append_blanks hne' ht _ last
  have hblanks : 0 < (Percent.encode Percent.inPath t).length := by
    obtain ⟨d, rest, rfl⟩ := List.exists_cons_of_ne_nil hne'
    have hd := (encodeChar_of_blank d.toNat (of_decide_eq_true (ht d List.mem_cons_self))).1
    rw [Char.ofNat_toNat] at hd
    rw [Percent.encode, List.flatMap_cons, hd]
    exact Nat.zero_lt_succ _
  have hlength := length_text_follow_singleton (segments.foldl reach []) last
  rw [hpath, hreached, Path.text_append, Path.text_singleton, Percent.encode_append,
    List.length_append, List.length_cons, List.length_append]
  omega

/-! ### The part of a text that is the path -/

lemma isMark_of_isEdge {c : Char} (h : isEdge c = true) : isMark c = false := by
  have hends := endsAuthority_of_isEdge h
  rw [endsAuthority, Bool.or_assoc, Bool.or_eq_false_iff] at hends
  exact hends.2

/-- The path of a URL is read up to the first question mark or number sign. -/
lemma path_complete (front : Front) (readPath : List Char → Path) (cs : List Char) :
    (front.complete readPath cs).path = readPath (cs.takeWhile fun c => !isMark c) := by
  have hcut : ∀ (mark : Char) (ds : List Char), (cutAt mark ds).1 = ds.takeWhile (· ≠ mark) := by
    intro mark ds
    rw [cutAt]
    split <;> rfl
  rw [Front.complete]
  dsimp only
  rw [hcut, hcut, List.takeWhile_takeWhile]
  congr 2
  funext c
  simp [isMark]

end XoLedger.Url
