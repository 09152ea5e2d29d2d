import Mathlib.Data.List.Basic
import Mathlib.Data.List.Infix

/-!
Text made of segments, each after a slash. Splitting undoes the joining as long
as no segment is empty or holds a slash, and the last place where a segment of a
given name is followed by another slash is found among the segments alone.
Segments may also be compared after a folding of letter case, of which only its
effect on ASCII is fixed here.
-/

namespace ClusterApiForSlinky.Segments

abbrev Segment := List Char

def joined (segments : List Segment) : List Char := segments.flatMap ('/' :: ·)

@[simp] theorem joined_nil : joined [] = [] := rfl

@[simp] theorem joined_cons (segment : Segment) (rest : List Segment) :
    joined (segment :: rest) = '/' :: (segment ++ joined rest) := rfl

theorem joined_append (first second : List Segment) :
    joined (first ++ second) = joined first ++ joined second :=
  List.flatMap_append

/-- The parts between slashes that are not empty. -/
def split (text : List Char) : List Segment := (text.splitOn '/').filter (· ≠ [])

theorem splitOn_segment (segment : Segment) (rest : List Segment)
    (plain : ∀ part ∈ segment :: rest, '/' ∉ part) :
    (segment ++ joined rest).splitOn '/' = segment :: rest := by
  induction rest generalizing segment with
  | nil =>
      rw [joined_nil, List.append_nil]
      exact List.splitOn_eq_singleton (plain segment List.mem_cons_self)
  | cons next others ih =>
      obtain ⟨first, later⟩ := List.forall_mem_cons.mp plain
      rw [joined_cons, List.splitOn_append_cons_self, List.splitOn_eq_singleton first, ih next later]
      rfl

theorem split_joined (segments : List Segment)
    (valid : ∀ part ∈ segments, part ≠ [] ∧ '/' ∉ part) : split (joined segments) = segments := by
  cases segments with
  | nil => rfl
  | cons segment rest =>
      have parts := splitOn_segment segment rest (fun part member => (valid part member).2)
      have whole := List.splitOn_append_cons_self (a := '/') [] (segment ++ joined rest)
      rw [List.nil_append] at whole
      rw [split, joined_cons, whole, parts, List.splitOn_nil]
      simp only [List.cons_append, List.nil_append, List.filter_cons, ne_eq, not_true_eq_false,
        decide_false, Bool.false_eq_true, ↓reduceIte]
      have kept : (segment :: rest).filter (· ≠ []) = segment :: rest := by
        rw [List.filter_eq_self]
        exact fun part member => decide_eq_true (valid part member).1
      rwa [List.filter_cons] at kept

theorem joined_length_le (first second : List Segment) (start : first <+: second) :
    (joined first).length ≤ (joined second).length := by
  obtain ⟨rest, rfl⟩ := start
  rw [joined_append, List.length_append]
  exact Nat.le_add_right _ _

/-- A shorter list of the same segments is a shorter text. -/
theorem joined_ne_of_length (segments : List Segment) (first second : Nat) (less : first < second)
    (within : second ≤ segments.length) :
    joined (segments.take first) ≠ joined (segments.take second) := by
  intro same
  have lengths := congrArg List.length same
  have longer : segments.take (first + 1) <+: segments.take second :=
    List.take_prefix_take_left less
  have bound := joined_length_le _ _ longer
  rw [List.take_add_one, List.getElem?_eq_getElem (by omega), joined_append, List.length_append] at bound
  simp only [Option.toList_some, joined_cons, joined_nil, List.length_cons] at bound
  omega

/-- What stands before the last occurrence of `sep`. -/
def beforeLast (sep : List Char) : List Char → Option (List Char)
  | [] => if sep = [] then some [] else none
  | char :: rest =>
      match beforeLast sep rest with
      | some before => some (char :: before)
      | none => if sep <+: char :: rest then some [] else none

/-- `text.rsplit(sep, 1)[0]` -/
def rsplitFirst (sep text : List Char) : List Char := (beforeLast sep text).getD text

/-- The segments before the last one that is `name` and has another after it. -/
def segmentsBefore (name : Segment) : List Segment → Option (List Segment)
  | [] => none
  | segment :: rest =>
      match segmentsBefore name rest with
      | some before => some (segment :: before)
      | none => if segment = name ∧ rest ≠ [] then some [] else none

theorem segmentsBefore_some (name : Segment) (segments before : List Segment)
    (found : segmentsBefore name segments = some before) :
    ∃ after, segments = before ++ name :: after := by
  induction segments generalizing before with
  | nil => cases found
  | cons segment rest ih =>
      rw [segmentsBefore] at found
      cases later : segmentsBefore name rest with
      | some inner =>
          rw [later] at found
          cases found
          obtain ⟨after, same⟩ := ih inner later
          exact ⟨after, congrArg (segment :: ·) same⟩
      | none =>
          rw [later] at found
          by_cases here : segment = name ∧ rest ≠ []
          · simp only [if_pos here] at found
            cases found
            exact ⟨rest, congrArg (· :: rest) here.1⟩
          · simp only [if_neg here] at found
            cases found

/-- A separator that begins with a slash does not occur inside a segment. -/
theorem beforeLast_segment (sep : List Char) (segment : Segment) (rest : List Char)
    (plain : '/' ∉ segment) :
    beforeLast ('/' :: sep) (segment ++ rest) =
      (beforeLast ('/' :: sep) rest).map (segment ++ ·) := by
  induction segment with
  | nil => simp
  | cons char others ih =>
      rw [List.mem_cons, not_or] at plain
      have elsewhere : ¬ '/' :: sep <+: char :: (others ++ rest) := by
        rw [List.cons_prefix_cons]
        exact fun begins => plain.1 begins.1
      rw [List.cons_append, beforeLast, ih plain.2]
      cases beforeLast ('/' :: sep) rest with
      | none => simp [elsewhere]
      | some before => rfl

theorem delimited_prefix_iff (name segment : Segment) (rest : List Segment)
    (named : '/' ∉ name) (plain : '/' ∉ segment) :
    '/' :: (name ++ ['/']) <+: '/' :: (segment ++ joined rest) ↔ segment = name ∧ rest ≠ [] := by
  rw [List.cons_prefix_cons, and_iff_right rfl]
  induction name generalizing segment with
  | nil =>
      cases segment with
      | nil => cases rest <;> simp
      | cons char others =>
          rw [List.mem_cons, not_or] at plain
          simp [plain.1]
  | cons first name ih =>
      rw [List.mem_cons, not_or] at named
      cases segment with
      | nil => cases rest <;> simp [Ne.symm named.1]
      | cons char others =>
          rw [List.mem_cons, not_or] at plain
          rw [List.cons_append, List.cons_append, List.cons_prefix_cons, ih others named.2 plain.2]
          simp [and_assoc, eq_comm]

theorem beforeLast_joined (name : Segment) (segments : List Segment) (named : '/' ∉ name)
    (plain : ∀ part ∈ segments, '/' ∉ part) :
    beforeLast ('/' :: (name ++ ['/'])) (joined segments) =
      (segmentsBefore name segments).map joined := by
  induction segments with
  | nil => simp [beforeLast, segmentsBefore]
  | cons segment rest ih =>
      obtain ⟨first, later⟩ := List.forall_mem_cons.mp plain
      rw [joined_cons, beforeLast, beforeLast_segment _ segment _ first, ih later, segmentsBefore]
      cases segmentsBefore name rest with
      | none => simp only [Option.map_none, delimited_prefix_iff name segment rest named first,
          apply_ite (Option.map joined), Option.map_some, joined_nil]
      | some before => rfl

def isAscii (text : List Char) : Bool := text.all (fun char => char.toNat < 128)

/-- A Unicode case folding, one character at a time, as far as ASCII is concerned. -/
structure CaseFolding where
  fold : Char → List Char
  ascii : ∀ char, char.toNat < 128 → fold char = [char.toLower]

namespace CaseFolding

/-- `str.casefold` -/
def casefold (folding : CaseFolding) (text : List Char) : List Char := text.flatMap folding.fold

def asciiOnly : CaseFolding := ⟨fun char => [char.toLower], fun _ _ => rfl⟩

theorem casefold_ascii (folding : CaseFolding) (text : List Char) (ascii : isAscii text = true) :
    folding.casefold text = text.map Char.toLower := by
  induction text with
  | nil => rfl
  | cons char rest ih =>
      rw [isAscii, List.all_cons, Bool.and_eq_true] at ascii
      rw [List.map_cons, ← ih ascii.2, casefold, List.flatMap_cons,
        folding.ascii char (of_decide_eq_true ascii.1)]
      rfl

theorem casefold_ascii_length (folding : CaseFolding) (text : List Char)
    (ascii : isAscii text = true) : (folding.casefold text).length = text.length := by
  rw [casefold_ascii folding text ascii, List.length_map]

end CaseFolding

/-- The same ASCII letters, each in either case. -/
def CaseVariant (word text : List Char) : Prop := text.map Char.toLower = word.map Char.toLower

instance (word text : List Char) : Decidable (CaseVariant word text) :=
  inferInstanceAs (Decidable (_ = _))

theorem toLower_ascii (char : Char) : char.toLower.toNat < 128 → char.toNat < 128 := by
  unfold Char.toLower
  split
  · next upper =>
      intro _
      have bound : char.val.toNat ≤ 90 := upper.2
      exact Nat.lt_of_le_of_lt bound (by decide)
  · exact id

theorem caseVariant_ascii (word text : List Char) (variant : CaseVariant word text)
    (ascii : isAscii (word.map Char.toLower) = true) : isAscii text = true := by
  rw [← variant] at ascii
  rw [isAscii, List.all_eq_true] at ascii ⊢
  intro char member
  have lowered := of_decide_eq_true (ascii _ (List.mem_map_of_mem member))
  exact decide_eq_true (toLower_ascii char lowered)

theorem caseVariant_length (word text : List Char) (variant : CaseVariant word text) :
    text.length = word.length := by
  simpa using congrArg List.length variant

/-- Folding does not tell the spellings of a word apart. -/
theorem casefold_variant (folding : CaseFolding) (word text : List Char)
    (variant : CaseVariant word text) (ascii : isAscii word = true)
    (lowered : isAscii (word.map Char.toLower) = true) :
    folding.casefold text = folding.casefold word := by
  rw [folding.casefold_ascii text (caseVariant_ascii word text variant lowered),
    folding.casefold_ascii word ascii, variant]

end ClusterApiForSlinky.Segments
