import Mathlib.Data.List.Basic
import Mathlib.Data.List.DropRight
import Mathlib.Data.List.Infix
import Mathlib.Data.String.Basic

/-!
String operations as the character lists they act on. Prefix tests and
concatenation are compared through `String.toList`, which is injective.
-/

namespace ClusterApiForSlinky.Text

/-- A check of the listed characters; over all characters the same fact has no small proof. -/
theorem forall_of_all {holds : Char → Prop} [DecidablePred holds] {chars : List Char}
    (listed : chars.all (fun char => decide (holds char)) = true) :
    ∀ char ∈ chars, holds char := by
  intro char member
  exact of_decide_eq_true (List.all_eq_true.mp listed char member)

theorem isUpper_iff (char : Char) :
    char.isUpper = true ↔ 65 ≤ char.toNat ∧ char.toNat ≤ 90 := by
  have range : char.isUpper = decide (65 ≤ char.toNat ∧ char.toNat ≤ 90) := rfl
  rw [range, decide_eq_true_eq]

theorem isLower_iff (char : Char) :
    char.isLower = true ↔ 97 ≤ char.toNat ∧ char.toNat ≤ 122 := by
  have range : char.isLower = (decide (97 ≤ char.toNat) && decide (char.toNat ≤ 122)) := rfl
  rw [range, Bool.and_eq_true, decide_eq_true_eq, decide_eq_true_eq]

theorem isAlpha_iff (char : Char) :
    char.isAlpha = true ↔ char.isUpper = true ∨ char.isLower = true := by
  have either : char.isAlpha = (char.isUpper || char.isLower) := rfl
  rw [either, Bool.or_eq_true]

def startsWith (text start : String) : Bool :=
  start.toList.isPrefixOf text.toList

theorem startsWith_iff (text start : String) :
    startsWith text start = true ↔ start.toList <+: text.toList := by
  simp [startsWith]

@[simp] theorem startsWith_refl (text : String) : startsWith text text = true := by
  simp [startsWith]

@[simp] theorem startsWith_empty (text : String) : startsWith text "" = true := by
  simp [startsWith]

@[simp] theorem startsWith_append (start rest : String) :
    startsWith (start ++ rest) start = true := by
  simp [startsWith]

theorem startsWith_trans (text middle start : String) (first : startsWith text middle = true)
    (second : startsWith middle start = true) : startsWith text start = true := by
  rw [startsWith_iff] at first second ⊢
  exact second.trans first

/-- A Python string is truthy exactly when it is not empty. -/
def nonempty (text : Option String) : Option String :=
  text.filter (fun value => value ≠ "")

theorem nonempty_eq_some (text : Option String) (value : String) :
    nonempty text = some value ↔ text = some value ∧ value ≠ "" := by
  simp [nonempty, Option.filter_eq_some_iff]

def contains (text part : String) : Bool :=
  text.toList.tails.any (fun rest => part.toList.isPrefixOf rest)

/-- The characters `str.isspace` accepts. -/
def isSpace (char : Char) : Bool :=
  let code := char.toNat
  (9 ≤ code && code ≤ 13) || (28 ≤ code && code ≤ 32) || code == 0x85 || code == 0xa0 ||
  code == 0x1680 || (0x2000 ≤ code && code ≤ 0x200a) || code == 0x2028 || code == 0x2029 ||
  code == 0x202f || code == 0x205f || code == 0x3000

/-- `str.strip` over the characters `drop` accepts. -/
def stripChars (drop : Char → Bool) (chars : List Char) : List Char :=
  (chars.dropWhile drop).rdropWhile drop

theorem stripChars_start (drop : Char → Bool) (chars : List Char) (first : Char)
    (rest : List Char) (shape : stripChars drop chars = first :: rest) :
    drop first = false := by
  have start : first :: rest <+: chars.dropWhile drop := by
    rw [← shape]
    exact List.rdropWhile_prefix _ _
  obtain ⟨tail, whole⟩ := start
  have head := List.head?_dropWhile_not drop chars
  rw [← whole] at head
  exact head

theorem stripChars_within (drop : Char → Bool) (chars : List Char) :
    stripChars drop chars <:+: chars :=
  (List.rdropWhile_prefix _ _).isInfix.trans (List.dropWhile_suffix _).isInfix

theorem mem_dropWhile_of_kept (drop : Char → Bool) (chars : List Char) (char : Char)
    (member : char ∈ chars) (kept : drop char = false) : char ∈ chars.dropWhile drop := by
  induction chars with
  | nil => cases member
  | cons first rest ih =>
      cases dropped : drop first with
      | false => simpa [List.dropWhile_cons, dropped] using member
      | true =>
          rcases List.mem_cons.mp member with rfl | later
          · simp [kept] at dropped
          · simpa [List.dropWhile_cons, dropped] using ih later

theorem mem_stripChars_of_kept (drop : Char → Bool) (chars : List Char) (char : Char)
    (member : char ∈ chars) (kept : drop char = false) : char ∈ stripChars drop chars := by
  have inside := mem_dropWhile_of_kept drop chars char member kept
  have backwards := mem_dropWhile_of_kept drop (chars.dropWhile drop).reverse char
    (List.mem_reverse.mpr inside) kept
  exact List.mem_reverse.mpr backwards

def strip (text : String) : String := String.ofList (stripChars isSpace text.toList)

/-- Replaces from the left; `skip` characters of the last match are still to go. -/
def replaceChars (old new : List Char) : Nat → List Char → List Char
  | _, [] => []
  | skip + 1, _ :: rest => replaceChars old new skip rest
  | 0, char :: rest =>
      if old.isPrefixOf (char :: rest) then
        new ++ replaceChars old new (old.length - 1) rest
      else char :: replaceChars old new 0 rest

/-- `str.replace` for a nonempty `old`. -/
def replace (text old new : String) : String :=
  String.ofList (replaceChars old.toList new.toList 0 text.toList)

/-- `chars[:stop]`, where a negative stop counts from the end. -/
def sliceTo (chars : List Char) (stop : Int) : List Char :=
  if 0 ≤ stop then chars.take stop.toNat else chars.take (chars.length + stop).toNat

/-- Characters that would be stripped anyway do not matter to `rstrip`. -/
theorem rdropWhile_append_dropped (drop : Char → Bool) (chars tail : List Char)
    (dropped : ∀ char ∈ tail, drop char = true) :
    (chars ++ tail).rdropWhile drop = chars.rdropWhile drop := by
  unfold List.rdropWhile
  rw [List.reverse_append, List.dropWhile_append_of_pos]
  intro char member
  exact dropped char (List.mem_reverse.mp member)

/-- A shorter cut of a stripped cut is the shorter cut of the whole. -/
theorem rdropWhile_take_take (drop : Char → Bool) (chars : List Char) (shorter longer : Nat)
    (within : shorter ≤ longer) :
    (((chars.take longer).rdropWhile drop).take shorter).rdropWhile drop =
      (chars.take shorter).rdropWhile drop := by
  have parts : chars.take longer =
      (chars.take longer).rdropWhile drop ++ (chars.take longer).rtakeWhile drop :=
    List.rdropWhile_append_rtakeWhile.symm
  have cut : chars.take shorter = (chars.take longer).take shorter := by
    rw [List.take_take, Nat.min_eq_left within]
  rw [cut]
  conv_rhs => rw [parts, List.take_append]
  rw [rdropWhile_append_dropped]
  intro char member
  exact List.mem_rtakeWhile_imp (List.mem_of_mem_take member)

/-- `str.rpartition` with one character: the two sides of its last occurrence. -/
def rpartition (stop : Char) : List Char → Option (List Char × List Char)
  | [] => none
  | char :: rest =>
      match rpartition stop rest with
      | some sides => some (char :: sides.1, sides.2)
      | none => if char = stop then some ([], rest) else none

theorem rpartition_of_mem (stop : Char) (chars : List Char) (member : stop ∈ chars) :
    ∃ sides, rpartition stop chars = some sides := by
  induction chars with
  | nil => exact nomatch member
  | cons char rest ih =>
      unfold rpartition
      cases later : rpartition stop rest with
      | some sides => exact ⟨_, rfl⟩
      | none =>
          rcases List.mem_cons.mp member with same | here
          · exact ⟨([], rest), if_pos same.symm⟩
          · obtain ⟨sides, found⟩ := ih here
            exact nomatch later.symm.trans found

theorem rpartition_of_not_mem (stop : Char) (chars : List Char) (absent : stop ∉ chars) :
    rpartition stop chars = none := by
  induction chars with
  | nil => rfl
  | cons char rest ih =>
      rw [List.mem_cons, not_or] at absent
      simp only [rpartition, ih absent.2, if_neg (Ne.symm absent.1)]

/-- Text in front of the last occurrence belongs to the first side. -/
theorem rpartition_append (stop : Char) (start tail : List Char) (sides : List Char × List Char)
    (cut : rpartition stop tail = some sides) :
    rpartition stop (start ++ tail) = some (start ++ sides.1, sides.2) := by
  induction start with
  | nil => exact cut
  | cons char rest ih => simp only [List.cons_append, rpartition, ih]

theorem rpartition_eq_some_iff (stop : Char) (chars before after : List Char) :
    rpartition stop chars = some (before, after) ↔
      chars = before ++ stop :: after ∧ stop ∉ after := by
  constructor
  · intro cut
    induction chars generalizing before with
    | nil => cases cut
    | cons char rest ih =>
        unfold rpartition at cut
        cases later : rpartition stop rest with
        | some sides =>
            rw [later] at cut
            cases cut
            obtain ⟨same, absent⟩ := ih sides.1 later
            exact ⟨congrArg (char :: ·) same, absent⟩
        | none =>
            rw [later] at cut
            have absent : stop ∉ rest := by
              intro member
              obtain ⟨sides, found⟩ := rpartition_of_mem stop rest member
              cases later.symm.trans found
            by_cases here : char = stop
            · simp only [if_pos here] at cut
              cases cut
              exact ⟨congrArg (· :: after) here, absent⟩
            · simp only [if_neg here] at cut
              cases cut
  · rintro ⟨rfl, absent⟩
    have cut : rpartition stop (stop :: after) = some ([], after) := by
      simp [rpartition, rpartition_of_not_mem stop after absent]
    simpa using rpartition_append stop before _ _ cut

def truncate (text : String) (limit : Nat) : String := String.ofList (text.toList.take limit)

theorem dropWhile_of_kept (drop : Char → Bool) (chars : List Char)
    (kept : ∀ char ∈ chars, drop char = false) : chars.dropWhile drop = chars := by
  cases chars with
  | nil => rfl
  | cons first rest =>
      rw [List.dropWhile_cons_of_neg]
      simp [kept first List.mem_cons_self]

theorem stripChars_of_kept (drop : Char → Bool) (chars : List Char)
    (kept : ∀ char ∈ chars, drop char = false) : stripChars drop chars = chars := by
  have backwards : ∀ char ∈ chars.reverse, drop char = false :=
    fun char member => kept char (List.mem_reverse.mp member)
  rw [stripChars, dropWhile_of_kept drop chars kept, List.rdropWhile,
    dropWhile_of_kept drop chars.reverse backwards, List.reverse_reverse]

/-- Python's decimal digits, at least one of them. -/
def parseDigits (chars : List Char) : Option Nat :=
  if chars ≠ [] ∧ chars.all Char.isDigit then some (Nat.ofDigitChars 10 chars 0) else none

/-- `int(text)`, or `none` where it raises ValueError; digit groups are not read. -/
def parseInt (text : String) : Option Int :=
  match (strip text).toList with
  | '-' :: digits => (parseDigits digits).map Int.negOfNat
  | '+' :: digits => (parseDigits digits).map Int.ofNat
  | digits => (parseDigits digits).map Int.ofNat

theorem toList_decimal (value : Nat) : (toString value).toList = Nat.toDigits 10 value := by
  change (Nat.repr value).toList = _
  rw [Nat.repr, String.toList_ofList]

theorem digit_of_mem_decimal (value : Nat) (char : Char) (member : char ∈ (toString value).toList) :
    char.isDigit = true := by
  rw [toList_decimal] at member
  exact Nat.isDigit_of_mem_toDigits (by omega) (by omega) member

theorem digit_range (char : Char) (digit : char.isDigit = true) :
    48 ≤ char.toNat ∧ char.toNat ≤ 57 := by
  unfold Char.isDigit at digit
  simp only [Bool.and_eq_true, decide_eq_true_eq, ge_iff_le, UInt32.le_iff_toNat_le] at digit
  exact digit

theorem isSpace_of_digit (char : Char) (digit : char.isDigit = true) : isSpace char = false := by
  have range := digit_range char digit
  simp only [isSpace, Bool.or_eq_false_iff, Bool.and_eq_false_iff, decide_eq_false_iff_not,
    beq_eq_false_iff_ne]
  omega

theorem strip_decimal (value : Nat) : strip (toString value) = toString value := by
  unfold strip
  rw [stripChars_of_kept, String.ofList_toList]
  intro char member
  exact isSpace_of_digit char (digit_of_mem_decimal value char member)

theorem parseDigits_decimal (value : Nat) :
    parseDigits (toString value).toList = some value := by
  have some_digit : (toString value).toList ≠ [] := by
    rw [toList_decimal]
    exact Nat.toDigits_ne_nil
  have every : (toString value).toList.all Char.isDigit = true :=
    List.all_eq_true.mpr (digit_of_mem_decimal value)
  rw [parseDigits, if_pos ⟨some_digit, every⟩, toList_decimal, Nat.ofDigitChars_ten_toDigits]

/-- `int(str(value)) == value`. -/
theorem parseInt_decimal (value : Nat) : parseInt (toString value) = some (value : Int) := by
  have parsed := parseDigits_decimal value
  have digits := digit_of_mem_decimal value
  unfold parseInt
  rw [strip_decimal]
  generalize (toString value).toList = chars at parsed digits
  cases chars with
  | nil => simp [parseDigits] at parsed
  | cons first rest =>
      have range := digit_range first (digits first List.mem_cons_self)
      split
      case h_1 sign => cases sign; simp at range
      case h_2 sign => cases sign; simp at range
      case h_3 => simp [parsed]

/-! What replacing leaves in place. -/

section Replacing

variable (old new : List Char)

theorem replaceChars_skip (skip : Nat) (chars : List Char) :
    replaceChars old new skip chars = replaceChars old new 0 (chars.drop skip) := by
  induction chars generalizing skip with
  | nil => cases skip <;> rfl
  | cons char rest ih =>
      cases skip with
      | zero => rfl
      | succ skip => exact ih skip

theorem replaceChars_match (nonempty : old ≠ []) (rest : List Char) :
    replaceChars old new 0 (old ++ rest) = new ++ replaceChars old new 0 rest := by
  cases old with
  | nil => exact absurd rfl nonempty
  | cons first tail =>
      have here : (first :: tail).isPrefixOf (first :: (tail ++ rest)) = true :=
        List.isPrefixOf_iff_prefix.mpr (List.prefix_append (first :: tail) rest)
      rw [List.cons_append, replaceChars, if_pos here, replaceChars_skip]
      simp

theorem replaceChars_step (char : Char) (rest : List Char) (elsewhere : ¬ old <+: char :: rest) :
    replaceChars old new 0 (char :: rest) = char :: replaceChars old new 0 rest := by
  rw [replaceChars, if_neg (mt List.isPrefixOf_iff_prefix.mp elsewhere)]

/-- A text ends, starts with the old text, or starts with a character that is kept. -/
theorem replaceChars_cases {motive : List Char → Prop} (nonempty : old ≠ []) (nil : motive [])
    (hit : ∀ rest, motive rest → motive (old ++ rest))
    (step : ∀ char rest, ¬ old <+: char :: rest → motive rest → motive (char :: rest))
    (chars : List Char) : motive chars := by
  induction size : chars.length using Nat.strong_induction_on generalizing chars with
  | _ bound ih =>
      by_cases here : old <+: chars
      · obtain ⟨rest, rfl⟩ := here
        have positive := List.length_pos_iff.mpr nonempty
        rw [List.length_append] at size
        exact hit rest (ih rest.length (by omega) rest rfl)
      · cases chars with
        | nil => exact nil
        | cons char rest =>
            rw [List.length_cons] at size
            exact step char rest here (ih rest.length (by omega) rest rfl)

theorem prefix_of_boundary (char : Char) (outside : char ∉ old) (before after : List Char)
    (here : old <+: before ++ char :: after) : old <+: before := by
  rcases List.prefix_or_prefix_of_prefix here (List.prefix_append before (char :: after)) with
    inside | longer
  · exact inside
  · obtain ⟨tail, rfl⟩ := longer
    rw [List.prefix_append_right_inj] at here
    cases tail with
    | nil => simp
    | cons first tail =>
        obtain ⟨rfl, -⟩ := List.cons_prefix_cons.mp here
        exact absurd (List.mem_append_right before List.mem_cons_self) outside

/-- No match reaches across a character that the old text does not have. -/
theorem replaceChars_boundary (nonempty : old ≠ []) (char : Char) (outside : char ∉ old)
    (before after : List Char) :
    replaceChars old new 0 (before ++ char :: after) =
      replaceChars old new 0 before ++ char :: replaceChars old new 0 after := by
  induction before using replaceChars_cases old nonempty with
  | nil =>
      apply replaceChars_step
      intro here
      exact nonempty (List.prefix_nil.mp (prefix_of_boundary old char outside [] after here))
  | hit rest ih =>
      rw [List.append_assoc, replaceChars_match old new nonempty,
        replaceChars_match old new nonempty, ih, List.append_assoc]
  | step first rest elsewhere ih =>
      have later := mt (prefix_of_boundary old char outside (first :: rest) after) elsewhere
      rw [List.cons_append] at later ⊢
      rw [replaceChars_step old new first _ later, replaceChars_step old new first _ elsewhere, ih,
        List.cons_append]

theorem replaceChars_absent (chars : List Char) (absent : ¬ old <:+: chars) :
    replaceChars old new 0 chars = chars := by
  induction chars with
  | nil => rfl
  | cons char rest ih =>
      rw [List.infix_cons_iff, not_or] at absent
      rw [replaceChars_step old new char rest absent.1, ih absent.2]

/-- A character that the old text does not have is kept. -/
theorem mem_replaceChars (nonempty : old ≠ []) (char : Char) (outside : char ∉ old)
    (chars : List Char) (member : char ∈ chars) : char ∈ replaceChars old new 0 chars := by
  obtain ⟨before, after, rfl⟩ := List.append_of_mem member
  rw [replaceChars_boundary old new nonempty char outside]
  exact List.mem_append_right _ List.mem_cons_self

/-- Every match exchanges the lengths of the two texts. -/
theorem length_replaceChars (nonempty : old ≠ []) (chars : List Char) :
    ∃ hits, (replaceChars old new 0 chars).length + hits * old.length =
      chars.length + hits * new.length := by
  induction chars using replaceChars_cases old nonempty with
  | nil => exact ⟨0, by simp [replaceChars]⟩
  | hit rest ih =>
      obtain ⟨hits, level⟩ := ih
      refine ⟨hits + 1, ?_⟩
      rw [replaceChars_match old new nonempty, List.length_append, List.length_append,
        Nat.succ_mul, Nat.succ_mul]
      omega
  | step char rest elsewhere ih =>
      obtain ⟨hits, level⟩ := ih
      refine ⟨hits, ?_⟩
      rw [replaceChars_step old new char rest elsewhere, List.length_cons, List.length_cons]
      omega

/-- Only a text without the old one is left as it was. -/
theorem absent_of_replaceChars (nonempty : old ≠ []) (different : old ≠ new) (chars : List Char)
    (same : replaceChars old new 0 chars = chars) : ¬ old <:+: chars := by
  induction chars using replaceChars_cases old nonempty with
  | nil =>
      rw [List.infix_nil]
      exact nonempty
  | hit rest ih =>
      rw [replaceChars_match old new nonempty] at same
      have lengths := congrArg List.length same
      rw [List.length_append, List.length_append] at lengths
      -- The new text is as long as the old one, so it would be the old one.
      obtain ⟨hits, balance⟩ := length_replaceChars old new nonempty rest
      have scaled : (hits + 1) * new.length = (hits + 1) * old.length := by
        rw [Nat.succ_mul, Nat.succ_mul]
        omega
      have level := Nat.eq_of_mul_eq_mul_left (Nat.succ_pos hits) scaled
      exact absurd (List.append_inj_left same level).symm different
  | step char rest elsewhere ih =>
      rw [replaceChars_step old new char rest elsewhere] at same
      rw [List.infix_cons_iff, not_or]
      exact ⟨elsewhere, ih (List.cons_inj_right char |>.mp same)⟩

end Replacing

theorem contains_iff (text part : String) :
    contains text part = true ↔ part.toList <:+: text.toList := by
  simp only [contains, List.any_eq_true, List.mem_tails, List.isPrefixOf_iff_prefix,
    List.infix_iff_prefix_suffix]
  exact exists_congr (fun rest => And.comm)

theorem replace_absent (text old new : String) (absent : contains text old = false) :
    replace text old new = text := by
  have outside : ¬ old.toList <:+: text.toList := by rw [← contains_iff, absent]; simp
  rw [replace, replaceChars_absent _ _ _ outside, String.ofList_toList]

theorem replace_self (old new : String) (filled : old.toList ≠ []) : replace old old new = new := by
  have whole := replaceChars_match old.toList new.toList filled []
  rw [List.append_nil, replaceChars, List.append_nil] at whole
  rw [replace, whole, String.ofList_toList]

/-! Parts of a text that its separator cuts. -/

theorem takeWhile_until (stop : Char) (chars rest : List Char) (free : stop ∉ chars) :
    (chars ++ stop :: rest).takeWhile (· ≠ stop) = chars := by
  rw [List.takeWhile_append_of_pos, List.takeWhile_cons_of_neg, List.append_nil]
  · simp
  · intro char member
    exact decide_eq_true (fun same => free (same ▸ member))

theorem dropWhile_until (stop : Char) (chars rest : List Char) (free : stop ∉ chars) :
    (chars ++ stop :: rest).dropWhile (· ≠ stop) = stop :: rest := by
  rw [List.dropWhile_append_of_pos, List.dropWhile_cons_of_neg]
  · simp
  · intro char member
    exact decide_eq_true (fun same => free (same ▸ member))

theorem infix_boundary (part : List Char) (char : Char) (outside : char ∉ part)
    (before after : List Char) :
    part <:+: before ++ char :: after ↔ part <:+: before ∨ part <:+: after := by
  constructor
  · intro inside
    induction before with
    | nil =>
        rcases List.infix_cons_iff.mp inside with here | later
        · exact .inl (prefix_of_boundary part char outside [] after here).isInfix
        · exact .inr later
    | cons first rest ih =>
        rcases List.infix_cons_iff.mp inside with here | later
        · exact .inl (prefix_of_boundary part char outside (first :: rest) after here).isInfix
        · exact (ih later).imp_left (fun found => List.infix_cons_iff.mpr (.inr found))
  · rintro (here | there)
    · exact here.trans (List.prefix_append _ _).isInfix
    · exact there.trans ((List.suffix_cons _ _).trans (List.suffix_append _ _)).isInfix

theorem infix_intercalate (part : List Char) (char : Char) (outside : char ∉ part)
    (filled : part ≠ []) (lines : List (List Char)) :
    part <:+: [char].intercalate lines ↔ ∃ line ∈ lines, part <:+: line := by
  induction lines with
  | nil => simp [List.intercalate, filled]
  | cons line rest ih =>
      cases rest with
      | nil => simp [List.intercalate]
      | cons next others =>
          rw [List.intercalate_cons_cons, List.append_assoc, List.singleton_append,
            infix_boundary part char outside, ih]
          simp only [List.exists_mem_cons_iff]

/-! Hexadecimal digits, written in lower case and read in either. -/

def hexDigits : List Char := "0123456789abcdef".toList

def hexDigit (digit : Fin 16) : Char := hexDigits.getD digit '0'

def hexValue (char : Char) : Option (Fin 16) :=
  (hexDigits.idxOf? char.toLower).map (Fin.ofNat 16)

@[simp] theorem hexValue_hexDigit (digit : Fin 16) : hexValue (hexDigit digit) = some digit := by
  revert digit
  decide

@[simp] theorem hexValue_upper (digit : Fin 16) :
    hexValue (hexDigit digit).toUpper = some digit := by
  revert digit
  decide

theorem hexDigit_mem (digit : Fin 16) : hexDigit digit ∈ hexDigits := by
  revert digit
  decide

/-- The first of the two digits of a byte. -/
def highDigit (byte : Nat) : Fin 16 := Fin.ofNat 16 (byte / 16)

def lowDigit (byte : Nat) : Fin 16 := Fin.ofNat 16 byte

theorem digits_of_byte (byte : Nat) (small : byte < 256) :
    (highDigit byte).val * 16 + (lowDigit byte).val = byte := by
  have high : (highDigit byte).val = byte / 16 % 16 := rfl
  have low : (lowDigit byte).val = byte % 16 := rfl
  omega

end ClusterApiForSlinky.Text
