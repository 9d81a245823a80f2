import Mathlib.Tactic.Lemma
import Mathlib.Tactic.SplitIfs
import XoLedger.Proofs.Text.Utf8
import XoLedger.Settings.EnvFile

/-!
# What a file of variables adds

Whether an entry makes sense, and which variable it assigns, is in the entry alone
(`name?_readEntry`). So a file is a list of entries up to the first that makes no sense, and what
they assign can be told in order (`assignments`). A value that refers to a variable has the text
that the variable has by then. Afterwards every variable has the text that it had before the file
was read or, if it had none, the first one that is assigned to it (`text?_load`): all that is
assigned later is lost.
-/

namespace XoLedger

namespace Environment

/-- The first of several variables with one name counts. -/
lemma text?_cons (env : Environment) (name value other : String) :
    Environment.text? ((name, Utf8.encode value) :: env) other =
      if other = name then some value else env.text? other := by
  rw [text?, text?, List.find?_cons]
  by_cases hsame : other = name
  · rw [if_pos hsame, decide_eq_true hsame.symm]
    simp only [Utf8.decode_encode]
  · rw [if_neg hsame, decide_eq_false (Ne.symm hsame)]

/-- A variable that has no text gets one, and no other variable changes. -/
lemma text?_setIfUnread (env : Environment) (name value other : String) :
    (env.setIfUnread name value).text? other =
      (env.text? other).or (if other = name then some value else none) := by
  rw [setIfUnread]
  by_cases hsame : other = name
  · subst hsame
    cases htext : env.text? other with
    | some s => exact htext
    | none => rw [text?_cons, if_pos rfl, if_pos rfl, Option.none_or]
  · rw [if_neg hsame, Option.or_none]
    cases env.text? name with
    | some s => rfl
    | none => rw [text?_cons, if_neg hsame]

end Environment

namespace EnvFile

/-! ### Entries -/

/-- The variable that an entry assigns, if it assigns one. -/
def Entry.name? : Entry → Option String
  | nothing => none
  | assignment name _ => some name

/-- Whether a value can be read does not depend on what variables it refers to. -/
lemma isSome_readValue (lookUp lookUp' : List Char → List Char) (state : ValueState)
    (cs : List Char) :
    (readValue lookUp state cs).isSome = (readValue lookUp' state cs).isSome := by
  induction cs generalizing state with
  | nil =>
    cases state with
    | text weak | escape weak => rfl
    | name weak read =>
      rw [readValue, readValue]
      split_ifs <;> rfl
    | strong | braced | past => rfl
  | cons c rest ih =>
    cases state with
    | text weak => rw [readValue, readValue, Option.isSome_map, Option.isSome_map, ih]
    | strong =>
      rw [readValue, readValue]
      split_ifs
      · exact ih _
      · rw [Option.isSome_map, Option.isSome_map, ih]
    | escape weak =>
      rw [readValue, readValue]
      cases unescape? c with
      | none => rfl
      | some out => rw [Option.isSome_map, Option.isSome_map, ih]
    | name weak read =>
      rw [readValue, readValue]
      split_ifs
      · exact ih _
      · exact ih _
      · rw [Option.isSome_map, Option.isSome_map, ih]
      · rw [Option.isSome_map, Option.isSome_map, ih]
    | braced weak read =>
      rw [readValue, readValue]
      split_ifs
      · rw [Option.isSome_map, Option.isSome_map, ih]
      · exact ih _
    | past =>
      rw [readValue, readValue]
      split_ifs
      · exact ih _
      · rfl
      · rfl

/-- Neither does whether an entry can be read, nor which variable it assigns. -/
lemma name?_readEntry (lookUp lookUp' : List Char → List Char) (cs : List Char) :
    (readEntry lookUp cs).map Entry.name? = (readEntry lookUp' cs).map Entry.name? := by
  rw [readEntry, readEntry]
  split_ifs with hblank
  · rfl
  cases takeTarget ((dropEndWhile isBlank cs).dropWhile isBlank) with
  | none => rfl
  | some target =>
    obtain ⟨name, rest⟩ := target
    dsimp only
    split_ifs with hcomment
    · rfl
    have hsame := isSome_readValue lookUp lookUp' (.text false) (rest.dropWhile isBlank)
    cases hvalue : readValue lookUp (.text false) (rest.dropWhile isBlank) with
    | none =>
      rw [hvalue, Option.isSome_none, eq_comm, Option.isSome_eq_false_iff,
        Option.isNone_iff_eq_none] at hsame
      rw [hsame]
    | some value =>
      rw [hvalue, Option.isSome_some, eq_comm, Option.isSome_iff_exists] at hsame
      obtain ⟨value', hvalue'⟩ := hsame
      rw [hvalue']
      rfl

/-- Whether an entry makes sense. -/
def makesSense (cs : List Char) : Bool :=
  (readEntry (fun _ => []) cs).isSome

/-- The variable that is assigned by an entry, if it assigns one. -/
def assignedName? (cs : List Char) : Option String :=
  ((readEntry (fun _ => []) cs).map Entry.name?).join

lemma makesSense_eq (lookUp : List Char → List Char) (cs : List Char) :
    makesSense cs = (readEntry lookUp cs).isSome := by
  rw [makesSense, ← Option.isSome_map, name?_readEntry _ lookUp, Option.isSome_map]

lemma assignedName?_eq (lookUp : List Char → List Char) (cs : List Char) :
    assignedName? cs = ((readEntry lookUp cs).map Entry.name?).join := by
  rw [assignedName?, name?_readEntry _ lookUp]

/-- The entries of a file before the first that makes no sense. -/
def sensibleEntries (file : Bytes) : List (List Char) :=
  (entries .bare [] (readableLines (rawLines (withoutMark file)))).takeWhile makesSense

/-! ### What they assign -/

/-- The text of a variable: the one in the environment or, without one, the first that was
assigned. -/
def textOf (env : Environment) (assigned : List (String × String)) (name : String) :
    Option String :=
  (env.text? name).or (assigned.lookup name)

/-- The characters in place of a variable. One without a text is left out. -/
def insert (env : Environment) (assigned : List (String × String)) (name : List Char) :
    List Char :=
  ((textOf env assigned (String.ofList name)).map String.toList).getD []

/-- What entries assign, in order, after what was assigned before. -/
def assignments (env : Environment) : (before : List (String × String)) → List (List Char) →
    List (String × String)
  | before, [] => before
  | before, entry :: rest =>
    match readEntry (insert env before) entry with
    | some (.assignment name value) => assignments env (before ++ [(name, value)]) rest
    | some .nothing | none => assignments env before rest

/-- Which variables are assigned does not depend on the environment. -/
lemma map_fst_assignments (env : Environment) (before : List (String × String))
    (rest : List (List Char)) :
    (assignments env before rest).map Prod.fst =
      before.map Prod.fst ++ rest.filterMap assignedName? := by
  induction rest generalizing before with
  | nil => rw [assignments, List.filterMap_nil, List.append_nil]
  | cons entry rest ih =>
    have hname := assignedName?_eq (insert env before) entry
    rw [assignments, List.filterMap_cons, hname]
    cases readEntry (insert env before) entry with
    | none => exact ih before
    | some said =>
      cases said with
      | nothing => exact ih before
      | assignment name value =>
        dsimp only [Option.map_some, Entry.name?, Option.join_some]
        rw [ih, List.map_append, List.append_assoc]
        rfl

/-! ### Reading -/

/-- What has been read, once some assignments were. -/
structure Progress.IsAfter (p : Progress) (env : Environment) (assigned : List (String × String)) :
    Prop where
  /-- Variables have the texts that they have by then. -/
  text? : ∀ name, p.env.text? name = textOf env assigned name
  /-- The assignments are remembered, the last first. -/
  values : p.values = assigned.reverse

namespace Progress.IsAfter

variable {p : Progress} {env : Environment} {assigned : List (String × String)}

/-- What has been assigned is in the environment by then, so it does not matter what is remembered
besides. -/
lemma lookUp (h : p.IsAfter env assigned) : p.lookUp = insert env assigned := by
  funext name
  rw [Progress.lookUp, insert, h.text?]
  cases htext : textOf env assigned (String.ofList name) with
  | some s => rfl
  | none =>
    have hnone : p.values.find? (·.1 = String.ofList name) = none := by
      rw [textOf, Option.or_eq_none_iff, List.lookup_eq_none_iff] at htext
      rw [h.values, List.find?_eq_none]
      intro pair hpair
      have hother := htext.2 pair (List.mem_reverse.mp hpair)
      rw [bne_iff_ne] at hother
      rw [decide_eq_true_eq]
      exact hother.symm
    dsimp only
    rw [hnone]
    rfl

lemma assign (h : p.IsAfter env assigned) (name value : String) :
    Progress.IsAfter ⟨p.env.setIfUnread name value, (name, value) :: p.values⟩ env
      (assigned ++ [(name, value)]) where
  text? other := by
    rw [Environment.text?_setIfUnread, h.text?, textOf, textOf, List.lookup_append, Option.or_assoc,
      List.lookup_cons, List.lookup_nil]
    by_cases hsame : other = name
    · rw [if_pos hsame, beq_iff_eq.mpr hsame]
    · rw [if_neg hsame, beq_eq_false_iff_ne.mpr hsame]
  values := by rw [h.values, List.reverse_append]; rfl

lemma readEntries (h : p.IsAfter env assigned) (rest : List (List Char)) :
    (readEntries p rest).IsAfter env (assignments env assigned (rest.takeWhile makesSense)) := by
  induction rest generalizing p assigned with
  | nil => exact h
  | cons entry rest ih =>
    have hsense := makesSense_eq (insert env assigned) entry
    rw [EnvFile.readEntries, h.lookUp, List.takeWhile_cons, hsense]
    cases hread : readEntry (insert env assigned) entry with
    | none => exact h
    | some said =>
      rw [Option.isSome_some, if_pos rfl, assignments, hread]
      cases said with
      | nothing => exact ih h
      | assignment name value => exact ih (h.assign name value)

end Progress.IsAfter

/-- **The first text counts.** After a file has been read, a variable has the text that it had
before or, if it had none, the first that is assigned to it before the file stops making sense. -/
theorem text?_load (env : Environment) (file : Bytes) (name : String) :
    (load env file).text? name = textOf env (assignments env [] (sensibleEntries file)) name := by
  have hstart : Progress.IsAfter ⟨env, []⟩ env [] := ⟨fun _ => Option.or_none.symm, rfl⟩
  exact (hstart.readEntries _).text? name

end EnvFile

end XoLedger
