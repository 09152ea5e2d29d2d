import Mathlib.Data.List.Basic
import Mathlib.Data.List.Flatten

/-!
Texts cut into lines that keep their ends. Which characters end a line is a
parameter; a carriage return and the line feed behind it end one line together.
A finer notion of line cuts the lines of a coarser one further, and up to some
line both agree exactly when no line before it is cut.
-/

namespace ClusterApiForSlinky.LineBreaks

def lines (breaks : Char → Bool) : List Char → List (List Char)
  | [] => []
  | char :: rest =>
      if breaks char = true ∧ ¬ (char = '\r' ∧ rest.head? = some '\n') then
        [char] :: lines breaks rest
      else match lines breaks rest with
        | [] => [[char]]
        | first :: others => (char :: first) :: others

/-- A line without its end. -/
def stripEnd (breaks : Char → Bool) (line : List Char) : List Char :=
  line.takeWhile (fun char => !breaks char)

def splitLines (breaks : Char → Bool) (text : List Char) : List (List Char) :=
  (lines breaks text).map (stripEnd breaks)

/-- The characters at which `str.splitlines` ends a line. -/
def lineBreaks : List Char :=
  ['\n', '\r', '\x0b', '\x0c', '\x1c', '\x1d', '\x1e', '\u0085', '\u2028', '\u2029']

def isBreak (char : Char) : Bool := lineBreaks.contains char

variable (breaks : Char → Bool)

theorem flatten_lines (text : List Char) : (lines breaks text).flatten = text := by
  induction text with
  | nil => rfl
  | cons char rest ih =>
      rw [lines]
      split
      · rw [List.flatten_cons, ih]
        rfl
      · cases split_rest : lines breaks rest with
        | nil =>
            rw [split_rest] at ih
            rw [← ih]
            rfl
        | cons first others =>
            rw [split_rest] at ih
            rw [← ih]
            rfl

theorem lines_eq_nil (text : List Char) : lines breaks text = [] ↔ text = [] := by
  constructor
  · intro none
    have whole := flatten_lines breaks text
    rw [none] at whole
    exact whole.symm
  · rintro rfl
    rfl

theorem filled_of_mem_lines (text line : List Char) (member : line ∈ lines breaks text) :
    line ≠ [] := by
  induction text generalizing line with
  | nil => cases member
  | cons char rest ih =>
      rw [lines] at member
      split at member
      · rcases List.mem_cons.mp member with rfl | later
        · exact List.cons_ne_nil _ _
        · exact ih line later
      · cases split_rest : lines breaks rest with
        | nil =>
            rw [split_rest] at member
            rw [List.mem_singleton.mp member]
            exact List.cons_ne_nil _ _
        | cons first others =>
            rw [split_rest] at member ih
            rcases List.mem_cons.mp member with rfl | later
            · exact List.cons_ne_nil _ _
            · exact ih line (List.mem_cons_of_mem first later)

/-- A text whose last character ends a line that no other text continues. -/
def Closed (text next : List Char) : Prop :=
  ∃ before last, text = before ++ [last] ∧ breaks last = true ∧
    ¬ (last = '\r' ∧ next.head? = some '\n')

theorem Closed.cons {text next : List Char} (closed : Closed breaks text next) (char : Char) :
    Closed breaks (char :: text) next := by
  obtain ⟨before, last, rfl, ends, apart⟩ := closed
  exact ⟨char :: before, last, rfl, ends, apart⟩

theorem head_append (first second : List Char) (filled : first ≠ []) :
    (first ++ second).head? = first.head? := by
  cases first with
  | nil => exact absurd rfl filled
  | cons char rest => rfl

/-- Closed texts are cut apart. -/
theorem lines_append (text next : List Char) (closed : Closed breaks text next) :
    lines breaks (text ++ next) = lines breaks text ++ lines breaks next := by
  obtain ⟨before, last, rfl, ends, apart⟩ := closed
  induction before with
  | nil => simp [lines, ends, apart]
  | cons char rest ih =>
      have filled : rest ++ [last] ≠ [] := by simp
      have same := head_append (rest ++ [last]) next filled
      rw [List.cons_append, List.cons_append, lines, lines, same, ih]
      split
      · rfl
      · cases split_rest : lines breaks (rest ++ [last]) with
        | nil => exact absurd ((lines_eq_nil breaks _).mp split_rest) filled
        | cons first others => rfl

/-- A line up to its end is split off. -/
theorem splitLines_cons (line : List Char) (feed : Char) (rest : List Char)
    (plain : ∀ char ∈ line, breaks char = false) (ends : breaks feed = true)
    (single : feed ≠ '\r') :
    splitLines breaks (line ++ feed :: rest) = line :: splitLines breaks rest := by
  have closed : Closed breaks (line ++ [feed]) rest :=
    ⟨line, feed, rfl, ends, fun joined => single joined.1⟩
  have whole : ∀ text : List Char, (∀ char ∈ text, breaks char = false) →
      lines breaks (text ++ [feed]) = [text ++ [feed]] := by
    intro text quiet
    induction text with
    | nil => simp [lines, ends, single]
    | cons char others ih =>
        obtain ⟨here, later⟩ := List.forall_mem_cons.mp quiet
        rw [List.cons_append, lines, if_neg (by simp [here]), ih later]
  have stripped : stripEnd breaks (line ++ [feed]) = line := by
    rw [stripEnd, List.takeWhile_append_of_pos (fun char member => by simp [plain char member])]
    simp [ends]
  rw [splitLines, ← List.singleton_append, ← List.append_assoc,
    lines_append breaks _ rest closed, whole line plain, List.map_append, List.map_singleton,
    stripped]
  rfl

/-- The first line, and what is behind it. -/
theorem lines_cons (text line : List Char) (others : List (List Char))
    (cut : lines breaks text = line :: others) :
    lines breaks line = [line] ∧ lines breaks others.flatten = others ∧
      (others ≠ [] → Closed breaks line others.flatten) := by
  induction text generalizing line others with
  | nil => cases cut
  | cons char rest ih =>
      rw [lines] at cut
      split at cut
      · next ends =>
          cases cut
          rw [flatten_lines]
          refine ⟨by simp [lines], rfl, ?_⟩
          exact fun _ => ⟨[], char, rfl, ends.1, ends.2⟩
      · next continues =>
          cases split_rest : lines breaks rest with
          | nil =>
              rw [split_rest] at cut
              cases cut
              exact ⟨by simp [lines], rfl, fun filled => absurd rfl filled⟩
          | cons first later =>
              rw [split_rest] at cut
              cases cut
              obtain ⟨whole, behind, closed⟩ := ih first _ split_rest
              have filled := filled_of_mem_lines breaks rest first (split_rest ▸ List.mem_cons_self)
              refine ⟨?_, behind, fun more => (closed more).cons breaks char⟩
              have begins : first.head? = rest.head? := by
                have text := flatten_lines breaks rest
                rw [split_rest, List.flatten_cons] at text
                rw [← text, head_append first _ filled]
              rw [lines, begins, if_neg continues, whole]

/-- Some of the first lines are closed, and the others are lines by themselves. -/
theorem lines_parts (text : List Char) (first second : List (List Char))
    (cut : lines breaks text = first ++ second) :
    lines breaks second.flatten = second ∧ lines breaks first.flatten = first ∧
      (first ≠ [] → second ≠ [] → Closed breaks first.flatten second.flatten) := by
  induction first generalizing text with
  | nil =>
      have whole := flatten_lines breaks text
      rw [cut, List.nil_append] at whole
      rw [whole]
      exact ⟨cut, rfl, fun filled => absurd rfl filled⟩
  | cons line rest ih =>
      obtain ⟨alone, behind, closed⟩ := lines_cons breaks text line (rest ++ second) cut
      obtain ⟨secondLines, restLines, restClosed⟩ := ih (rest ++ second).flatten behind
      refine ⟨secondLines, ?_, ?_⟩
      · cases rest with
        | nil => simpa using alone
        | cons next others =>
            have ends := closed (List.cons_ne_nil _ _)
            have filled : (next :: others).flatten ≠ [] := by
              intro empty
              rw [empty] at restLines
              cases restLines
            rw [List.flatten_append] at ends
            obtain ⟨before, last, same, breaksLast, apart⟩ := ends
            rw [head_append _ _ filled] at apart
            rw [List.flatten_cons, lines_append breaks line _ ⟨before, last, same, breaksLast, apart⟩,
              alone, restLines]
            rfl
      · intro _ more
        cases rest with
        | nil => simpa using closed more
        | cons next others =>
            obtain ⟨before, last, same, ends, apart⟩ := restClosed (List.cons_ne_nil _ _) more
            refine ⟨line ++ before, last, ?_, ends, apart⟩
            rw [List.flatten_cons, same, List.append_assoc]

theorem lines_singleton (text line : List Char) (member : line ∈ lines breaks text) :
    lines breaks line = [line] := by
  obtain ⟨before, after, cut⟩ := List.append_of_mem member
  obtain ⟨behind, -, -⟩ := lines_parts breaks text before (line :: after) cut
  exact (lines_cons breaks _ line after behind).1

/-- Lines between which a closed text of other lines is put. -/
theorem lines_splice (text middle : List Char) (before after : List (List Char))
    (whole : List (List Char)) (cut : lines breaks text = before ++ whole ++ after)
    (replaced : whole ≠ []) (starts : middle.head? ≠ some '\n') (filled : middle ≠ [])
    (ends : ∀ next : List Char, Closed breaks middle next) :
    lines breaks (before.flatten ++ middle ++ after.flatten) =
      before ++ lines breaks middle ++ after := by
  rw [List.append_assoc] at cut
  obtain ⟨restLines, beforeLines, closed⟩ := lines_parts breaks text before (whole ++ after) cut
  obtain ⟨afterLines, -, -⟩ := lines_parts breaks _ whole after restLines
  have tail : lines breaks (middle ++ after.flatten) = lines breaks middle ++ after := by
    rw [lines_append breaks middle _ (ends _), afterLines]
  rw [List.append_assoc, List.append_assoc]
  cases before with
  | nil => exact tail
  | cons line others =>
      have more : whole ++ after ≠ [] := fun none => replaced (List.append_eq_nil_iff.mp none).1
      obtain ⟨start, last, same, breaksLast, -⟩ := closed (List.cons_ne_nil _ _) more
      have joined : Closed breaks (line :: others).flatten (middle ++ after.flatten) := by
        refine ⟨start, last, same, breaksLast, ?_⟩
        rw [head_append middle _ filled]
        exact fun both => starts both.2
      rw [lines_append breaks _ _ joined, beforeLines, tail]

/-- Only the characters of the text matter. -/
theorem lines_congr (other : Char → Bool) (text : List Char)
    (agree : ∀ char ∈ text, breaks char = other char) : lines breaks text = lines other text := by
  induction text with
  | nil => rfl
  | cons char rest ih =>
      obtain ⟨here, later⟩ := List.forall_mem_cons.mp agree
      rw [lines, lines, here, ih later]

/-! Two notions of line, of which one is finer. -/

section Finer
variable (coarse fine : Char → Bool) (finer : ∀ char, coarse char = true → fine char = true)

include finer in
theorem lines_flatMap (text : List Char) :
    lines fine text = (lines coarse text).flatMap (lines fine) := by
  induction text with
  | nil => rfl
  | cons char rest ih =>
      rw [lines, lines]
      by_cases ends : coarse char = true ∧ ¬ (char = '\r' ∧ rest.head? = some '\n')
      · rw [if_pos ends, if_pos ⟨finer char ends.1, ends.2⟩, List.flatMap_cons, ih]
        simp [lines]
      · rw [if_neg ends]
        cases split_rest : lines coarse rest with
        | nil =>
            obtain rfl := (lines_eq_nil coarse rest).mp split_rest
            simp [lines]
        | cons first others =>
            have filled := filled_of_mem_lines coarse rest first (split_rest ▸ List.mem_cons_self)
            have begins : first.head? = rest.head? := by
              have text := flatten_lines coarse rest
              rw [split_rest, List.flatten_cons] at text
              rw [← text, head_append first _ filled]
            rw [split_rest, List.flatMap_cons] at ih
            rw [ih]
            dsimp only
            rw [List.flatMap_cons, lines, begins]
            split
            · rfl
            · cases split_first : lines fine first with
              | nil => exact absurd ((lines_eq_nil fine first).mp split_first) filled
              | cons line more => rfl

/-- The finer notion leaves the lines whole. -/
def Whole (text : List (List Char)) : Prop := ∀ line ∈ text, lines fine line = [line]

theorem flatMap_of_whole (text : List (List Char)) (whole : Whole fine text) :
    text.flatMap (lines fine) = text := by
  induction text with
  | nil => rfl
  | cons line rest ih =>
      obtain ⟨here, later⟩ := List.forall_mem_cons.mp whole
      rw [List.flatMap_cons, here, ih later]
      rfl

theorem length_le_flatMap (text : List (List Char)) (filled : ∀ line ∈ text, line ≠ []) :
    text.length ≤ (text.flatMap (lines fine)).length := by
  induction text with
  | nil => exact Nat.le_refl _
  | cons line rest ih =>
      obtain ⟨here, later⟩ := List.forall_mem_cons.mp filled
      have some_line : 0 < (lines fine line).length :=
        List.length_pos_iff.mpr (fun none => here ((lines_eq_nil fine line).mp none))
      have others := ih later
      rw [List.flatMap_cons, List.length_append, List.length_cons]
      omega

theorem whole_of_length (text : List (List Char)) (filled : ∀ line ∈ text, line ≠ [])
    (short : (text.flatMap (lines fine)).length ≤ text.length) : Whole fine text := by
  induction text with
  | nil => exact nofun
  | cons line rest ih =>
      obtain ⟨here, later⟩ := List.forall_mem_cons.mp filled
      have some_line : 0 < (lines fine line).length :=
        List.length_pos_iff.mpr (fun none => here ((lines_eq_nil fine line).mp none))
      have others := length_le_flatMap fine rest later
      rw [List.flatMap_cons, List.length_append, List.length_cons] at short
      have single : (lines fine line).length = 1 := by omega
      have alone : lines fine line = [line] := by
        obtain ⟨only, same⟩ := List.length_eq_one_iff.mp single
        have text := flatten_lines fine line
        rw [same, List.flatten_cons, List.flatten_nil, List.append_nil] at text
        rw [same, text]
      exact List.forall_mem_cons.mpr ⟨alone, ih later (by omega)⟩

theorem flatten_flatMap (text : List (List Char)) :
    (text.flatMap (lines fine)).flatten = text.flatten := by
  induction text with
  | nil => rfl
  | cons line rest ih =>
      rw [List.flatMap_cons, List.flatten_append, flatten_lines, ih, List.flatten_cons]

include finer in
/-- Both notions leave the same text behind a number of lines exactly when the
finer one leaves these lines whole. -/
theorem flatten_drop_iff (text : List Char) (count : Nat)
    (bound : count ≤ (lines coarse text).length) :
    ((lines fine text).drop count).flatten = ((lines coarse text).drop count).flatten ↔
      Whole fine ((lines coarse text).take count) := by
  have cut : lines fine text = ((lines coarse text).take count).flatMap (lines fine) ++
      ((lines coarse text).drop count).flatMap (lines fine) := by
    rw [← List.flatMap_append, List.take_append_drop]
    exact lines_flatMap coarse fine finer text
  have filled : ∀ line ∈ (lines coarse text).take count, line ≠ [] := fun line member =>
    filled_of_mem_lines coarse text line (List.mem_of_mem_take member)
  have size : ((lines coarse text).take count).length = count := List.length_take_of_le bound
  have long := length_le_flatMap fine _ filled
  rw [size] at long
  rw [cut, List.drop_append_of_le_length long, List.flatten_append, flatten_flatMap]
  constructor
  · intro same
    have empty := List.append_cancel_right (same.trans (List.nil_append _).symm)
    apply whole_of_length fine _ filled
    rw [size, ← List.drop_eq_nil_iff]
    rw [List.eq_nil_iff_forall_not_mem]
    intro line member
    obtain ⟨coarseLine, -, inside⟩ := List.mem_flatMap.mp (List.mem_of_mem_drop member)
    exact filled_of_mem_lines fine coarseLine line inside
      (List.flatten_eq_nil_iff.mp empty line member)
  · intro whole
    have same := flatMap_of_whole fine _ whole
    rw [same, List.drop_eq_nil_of_le (Nat.le_of_eq size)]
    rfl

include finer in
/-- The same lines stand before such a place. -/
theorem take_of_whole (text : List Char) (count : Nat) (bound : count ≤ (lines coarse text).length)
    (whole : Whole fine ((lines coarse text).take count)) :
    (lines fine text).take count = (lines coarse text).take count := by
  have cut : lines fine text = (lines coarse text).take count ++
      ((lines coarse text).drop count).flatMap (lines fine) := by
    rw [lines_flatMap coarse fine finer text]
    conv_lhs => rw [← List.take_append_drop count (lines coarse text)]
    rw [List.flatMap_append, flatMap_of_whole fine _ whole]
  have size : ((lines coarse text).take count).length = count := List.length_take_of_le bound
  rw [cut, List.take_append_of_le_length (Nat.le_of_eq size.symm),
    List.take_of_length_le (Nat.le_of_eq size)]

end Finer

end ClusterApiForSlinky.LineBreaks
