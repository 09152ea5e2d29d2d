import ClusterApiForSlinky.Text

/-!
JSON values with decidable equality, and UUIDs with the text they are written as.
-/

namespace ClusterApiForSlinky

/-- `real` is any number that is not an integer, by its literal. -/
inductive Json where
  | null
  | bool (value : Bool)
  | int (value : Int)
  | real (literal : String)
  | str (value : String)
  | list (items : List Json)
  | dict (entries : List (String × Json))

namespace Json

mutual

def decEq : (left right : Json) → Decidable (left = right)
  | .null, right => match right with
    | .null => isTrue rfl
    | .bool _ | .int _ | .real _ | .str _ | .list _ | .dict _ => isFalse nofun
  | .bool value, right => match right with
    | .bool other => decidable_of_iff (value = other) (by simp)
    | .null | .int _ | .real _ | .str _ | .list _ | .dict _ => isFalse nofun
  | .int value, right => match right with
    | .int other => decidable_of_iff (value = other) (by simp)
    | .null | .bool _ | .real _ | .str _ | .list _ | .dict _ => isFalse nofun
  | .real value, right => match right with
    | .real other => decidable_of_iff (value = other) (by simp)
    | .null | .bool _ | .int _ | .str _ | .list _ | .dict _ => isFalse nofun
  | .str value, right => match right with
    | .str other => decidable_of_iff (value = other) (by simp)
    | .null | .bool _ | .int _ | .real _ | .list _ | .dict _ => isFalse nofun
  | .list items, right => match right with
    | .list others =>
        have := decEqList items others
        decidable_of_iff (items = others) (by simp)
    | .null | .bool _ | .int _ | .real _ | .str _ | .dict _ => isFalse nofun
  | .dict entries, right => match right with
    | .dict others =>
        have := decEqEntries entries others
        decidable_of_iff (entries = others) (by simp)
    | .null | .bool _ | .int _ | .real _ | .str _ | .list _ => isFalse nofun

def decEqList : (left right : List Json) → Decidable (left = right)
  | [], [] => isTrue rfl
  | [], _ :: _ | _ :: _, [] => isFalse nofun
  | first :: rest, other :: others =>
      have := decEq first other
      have := decEqList rest others
      decidable_of_iff (first = other ∧ rest = others) (by simp)

def decEqEntries : (left right : List (String × Json)) → Decidable (left = right)
  | [], [] => isTrue rfl
  | [], _ :: _ | _ :: _, [] => isFalse nofun
  | (key, value) :: rest, (other, another) :: others =>
      have := decEq value another
      have := decEqEntries rest others
      decidable_of_iff (key = other ∧ value = another ∧ rest = others) (by simp [and_assoc])

end

instance : DecidableEq Json := decEq

end Json

structure UUID where
  digits : List (Fin 16)
  length : digits.length = 32
  deriving DecidableEq

namespace UUID
open Text (hexDigit hexValue hexDigit_mem)

def nil : UUID := ⟨List.replicate 32 ⟨0, Nat.succ_pos 15⟩, List.length_replicate⟩

/-- In groups of 8, 4, 4, 4 and 12. -/
def hyphenate (chars : List Char) : List Char :=
  chars.take 8 ++ '-' :: (chars.drop 8).take 4 ++ '-' :: (chars.drop 12).take 4 ++
    '-' :: (chars.drop 16).take 4 ++ '-' :: chars.drop 20

def textChars (uuid : UUID) : List Char := hyphenate (uuid.digits.map hexDigit)

def text (uuid : UUID) : String := String.ofList uuid.textChars

def ofHex (chars : List Char) : Option UUID :=
  match chars.mapM hexValue with
  | none => none
  | some digits => if length : digits.length = 32 then some ⟨digits, length⟩ else none

def parseHyphenated (chars : List Char) : Option UUID :=
  let digits := chars.filter (fun char => char ≠ '-')
  if hyphenate digits = chars then ofHex digits else none

/-- Thirty-two digits of either case without dashes, or grouped, in braces or as a URN. -/
def parse (text : String) : Option UUID :=
  let chars := text.toList
  if chars.length = 32 then ofHex chars
  else if chars.length = 36 then parseHyphenated chars
  else if chars.head? = some '\x7b' ∧ chars.getLast? = some '\x7d' then
    parseHyphenated chars.tail.dropLast
  else if "urn:uuid:".toList.isPrefixOf chars then parseHyphenated (chars.drop 9)
  else none

theorem mapM_hexValue (digits : List (Fin 16)) :
    (digits.map hexDigit).mapM hexValue = some digits := by
  induction digits with
  | nil => rfl
  | cons digit rest ih => simp [List.mapM_cons, ih]

theorem ofHex_hexDigit (uuid : UUID) : ofHex (uuid.digits.map hexDigit) = some uuid := by
  unfold ofHex
  rw [mapM_hexValue]
  simp [uuid.length]

theorem length_hyphenate (chars : List Char) (length : chars.length = 32) :
    (hyphenate chars).length = 36 := by
  simp [hyphenate, length]

theorem mem_hyphenate (chars : List Char) (char : Char) (member : char ∈ hyphenate chars) :
    char = '-' ∨ char ∈ chars := by
  simp only [hyphenate, List.mem_append, List.mem_cons] at member
  rcases member with (((early | dash | part) | dash | part) | dash | part) | dash | late
  · exact Or.inr (List.mem_of_mem_take early)
  · exact Or.inl dash
  · exact Or.inr (List.mem_of_mem_drop (List.mem_of_mem_take part))
  · exact Or.inl dash
  · exact Or.inr (List.mem_of_mem_drop (List.mem_of_mem_take part))
  · exact Or.inl dash
  · exact Or.inr (List.mem_of_mem_drop (List.mem_of_mem_take part))
  · exact Or.inl dash
  · exact Or.inr (List.mem_of_mem_drop late)

theorem take_drop_append (chars : List Char) (start length : Nat) :
    (chars.drop start).take length ++ chars.drop (start + length) = chars.drop start := by
  rw [← List.drop_drop, List.take_append_drop]

theorem filter_hyphenate (chars : List Char) (plain : '-' ∉ chars) :
    (hyphenate chars).filter (fun char => char ≠ '-') = chars := by
  have kept : ∀ piece ⊆ chars, piece.filter (fun char => char ≠ '-') = piece := by
    intro piece subset
    rw [List.filter_eq_self]
    intro char member
    exact decide_eq_true (fun dash => plain (dash ▸ subset member))
  have head := kept (chars.take 8) (List.take_subset 8 chars)
  have group : ∀ start, ((chars.drop start).take 4).filter (fun char => char ≠ '-') =
      (chars.drop start).take 4 := fun start =>
    kept _ (fun _ member => List.drop_subset start chars (List.take_subset 4 _ member))
  have tail := kept (chars.drop 20) (List.drop_subset 20 chars)
  have dash : ∀ rest : List Char, ('-' :: rest).filter (fun char => char ≠ '-') =
      rest.filter (fun char => char ≠ '-') := by simp
  calc (hyphenate chars).filter (fun char => char ≠ '-')
      = chars.take 8 ++ (chars.drop 8).take 4 ++ (chars.drop 12).take 4 ++
          (chars.drop 16).take 4 ++ chars.drop 20 := by
        simp only [hyphenate, List.filter_append, dash]
        rw [head, group 8, group 12, group 16, tail]
    _ = chars := by
        simp only [List.append_assoc]
        rw [take_drop_append chars 16 4, take_drop_append chars 12 4, take_drop_append chars 8 4,
          List.take_append_drop]

theorem parse_text (uuid : UUID) : parse uuid.text = some uuid := by
  have plain : '-' ∉ uuid.digits.map hexDigit := by
    intro member
    obtain ⟨digit, -, dash⟩ := List.mem_map.mp member
    have known := hexDigit_mem digit
    rw [dash] at known
    exact absurd known (by decide)
  have length : uuid.textChars.length = 36 :=
    length_hyphenate _ (by rw [List.length_map, uuid.length])
  simp only [parse, text, String.toList_ofList, length]
  rw [if_neg (by decide), if_pos trivial, parseHyphenated, textChars, filter_hyphenate _ plain,
    if_pos rfl, ofHex_hexDigit]

example : parse "urn:uuid:00000000-0000-0000-0000-000000000000" = some nil := by decide +kernel

example : parse "0000-00000000-0000-0000-000000000000" = none := by decide +kernel

end UUID
end ClusterApiForSlinky
