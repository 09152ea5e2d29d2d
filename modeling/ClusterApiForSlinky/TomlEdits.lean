import ClusterApiForSlinky.Toml

/-!
Replacing a word of a written TOML document by another text, as a stream editor does:
the word is replaced in the strings of the document, and nothing else changes.
-/

namespace ClusterApiForSlinky.Toml

def isWordChar (char : Char) : Bool := char.isUpper || char.isDigit || char == '_'

/-- An underscore, then capital letters, digits and underscores. -/
def Word (word : String) : Prop :=
  (∃ rest, word.toList = '_' :: rest) ∧ ∀ char ∈ word.toList, isWordChar char = true

def Plain (text : String) : Prop := ∀ char ∈ text.toList, isPlain char = true

section Substitution

variable (word new : String)

def Value.replace : Value → Value
  | .text value => .text (Text.replace value word new)
  | .texts values => .texts (values.map (fun value => Text.replace value word new))

def Entry.replace (entry : Entry) : Entry :=
  (Text.replace entry.1 word new, entry.2.replace word new)

def Table.replace (table : Table) : Table where
  path := table.path.map (fun key => Text.replace key word new)
  entries := table.entries.map (Entry.replace word new)

/-- The document with the word replaced in every key and every value. -/
def Document.replace (document : Document) : Document where
  entries := document.entries.map (Entry.replace word new)
  tables := document.tables.map (Table.replace word new)

def Document.keys (document : Document) : List String :=
  document.entries.map Prod.fst ++
    document.tables.flatMap (fun table => table.path ++ table.entries.map Prod.fst)

/-- Keys that are written without quotes do not have the word. -/
def Document.Quotes (document : Document) : Prop :=
  ∀ key ∈ document.keys, isBareKey key = true → ¬ word.toList <:+: key.toList

def Line.replace : Line → Line
  | .blank => .blank
  | .header path => .header (path.map (fun key => Text.replace key word new))
  | .entry key value => .entry (Text.replace key word new) (Text.replace value word new)
  | .empty key => .empty (Text.replace key word new)
  | .opening key => .opening (Text.replace key word new)
  | .item value => .item (Text.replace value word new)
  | .closing => .closing

def Line.keys : Line → List String
  | .header path => path
  | .entry key _ => [key]
  | .empty key => [key]
  | .opening key => [key]
  | _ => []

end Substitution

section Written

variable {word : String}

theorem Word.nonempty (named : Word word) : word.toList ≠ [] := by
  obtain ⟨⟨rest, shape⟩, -⟩ := named
  rw [shape]
  exact List.cons_ne_nil _ _

theorem Word.not_mem (named : Word word) (char : Char) (outside : isWordChar char = false) :
    char ∉ word.toList := by
  intro member
  simp [named.2 char member] at outside

theorem isPlain_of_wordChar (char : Char) (inside : isWordChar char = true) :
    isPlain char = true := by
  have upper : char.isUpper = decide (65 ≤ char.toNat ∧ char.toNat ≤ 90) := rfl
  simp only [isWordChar, upper, Bool.or_eq_true, decide_eq_true_eq, beq_iff_eq] at inside
  rcases inside with (capital | digit) | rfl
  · have quote : char ≠ '"' := by
      rintro rfl
      exact absurd capital (by decide)
    have backslash : char ≠ '\\' := by
      rintro rfl
      exact absurd capital (by decide)
    simp [isPlain, isControl, quote, backslash]
    omega
  · have range := Text.digit_range char digit
    have quote : char ≠ '"' := by
      rintro rfl
      exact absurd range (by decide)
    have backslash : char ≠ '\\' := by
      rintro rfl
      exact absurd range (by decide)
    simp [isPlain, isControl, quote, backslash]
    omega
  · decide

/-- Around a character that words do not have, each side is replaced on its own. -/
theorem Word.replace_between (named : Word word) (new : String) (char : Char)
    (outside : isWordChar char = false) (before after : List Char) :
    Text.replaceChars word.toList new.toList 0 (before ++ char :: after) =
      Text.replaceChars word.toList new.toList 0 before ++
        char :: Text.replaceChars word.toList new.toList 0 after :=
  Text.replaceChars_boundary _ _ named.nonempty char (named.not_mem char outside) before after

theorem Word.replace_cons (named : Word word) (new : String) (char : Char)
    (outside : isWordChar char = false) (rest : List Char) :
    Text.replaceChars word.toList new.toList 0 (char :: rest) =
      char :: Text.replaceChars word.toList new.toList 0 rest :=
  named.replace_between new char outside [] rest

/-- No match starts among characters other than the underscore. -/
theorem Word.replace_append (named : Word word) (new : String) (start rest : List Char)
    (free : '_' ∉ start) :
    Text.replaceChars word.toList new.toList 0 (start ++ rest) =
      start ++ Text.replaceChars word.toList new.toList 0 rest := by
  induction start with
  | nil => rfl
  | cons char start ih =>
      rw [List.mem_cons, not_or] at free
      obtain ⟨⟨tail, shape⟩, -⟩ := named
      rw [List.cons_append, Text.replaceChars_step, ih free.2, List.cons_append]
      rw [shape, List.cons_prefix_cons]
      exact fun here => free.1 here.1

/-- An escape sequence starts with a backslash, so a match in an escaped text is one
in the text. -/
theorem prefix_of_escape (rest chars : List Char) (within : ∀ char ∈ rest, isPlain char = true)
    (here : rest <+: escape chars) : rest <+: chars := by
  induction rest generalizing chars with
  | nil => exact List.nil_prefix
  | cons first rest ih =>
      cases chars with
      | nil => exact here
      | cons char chars =>
          obtain ⟨mine, later⟩ := List.forall_mem_cons.mp within
          rw [escape, List.flatMap_cons] at here
          rcases escapeChar_cases char with same | ⟨⟨tail, shape⟩, -⟩
          · rw [same, List.singleton_append, List.cons_prefix_cons] at here
            rw [List.cons_prefix_cons]
            exact ⟨here.1, ih chars later here.2⟩
          · rw [shape, List.cons_append, List.cons_prefix_cons] at here
            rw [here.1] at mine
            exact absurd mine (by decide)

theorem escape_plain (chars : List Char) (plain : ∀ char ∈ chars, isPlain char = true)
    (rest : List Char) : escape (chars ++ rest) = chars ++ escape rest := by
  induction chars with
  | nil => rfl
  | cons char chars ih =>
      obtain ⟨mine, later⟩ := List.forall_mem_cons.mp plain
      have rest := ih later
      unfold escape at rest ⊢
      rw [List.cons_append, List.flatMap_cons, escapeChar_plain char mine, rest,
        List.singleton_append, List.cons_append]

theorem Word.plain (named : Word word) : ∀ char ∈ word.toList, isPlain char = true :=
  fun char member => isPlain_of_wordChar char (named.2 char member)

/-- Replacing in an escaped text is replacing in the text. -/
theorem Word.replace_escape (named : Word word) (new : String) (plain : Plain new)
    (chars : List Char) :
    Text.replaceChars word.toList new.toList 0 (escape chars) =
      escape (Text.replaceChars word.toList new.toList 0 chars) := by
  induction chars using Text.replaceChars_cases word.toList named.nonempty with
  | nil => rfl
  | hit rest ih =>
      rw [escape_plain _ named.plain, Text.replaceChars_match _ _ named.nonempty, ih,
        Text.replaceChars_match _ _ named.nonempty, escape_plain _ plain]
  | step char rest elsewhere ih =>
      have unmatched : Text.replaceChars word.toList new.toList 0 (escapeChar char ++ escape rest) =
          escapeChar char ++ Text.replaceChars word.toList new.toList 0 (escape rest) := by
        rcases escapeChar_cases char with same | ⟨-, known⟩
        · rw [same]
          apply Text.replaceChars_step
          intro here
          apply elsewhere
          apply prefix_of_escape word.toList (char :: rest) named.plain
          rw [escape, List.flatMap_cons, same]
          exact here
        · apply named.replace_append
          intro member
          exact absurd (known '_' member) (by decide)
      rw [Text.replaceChars_step _ _ _ _ elsewhere]
      exact unmatched.trans (congrArg (escapeChar char ++ ·) ih)

theorem toList_replace (text new : String) :
    (Text.replace text word new).toList =
      Text.replaceChars word.toList new.toList 0 text.toList :=
  String.toList_ofList

theorem Word.replace_quoted (named : Word word) (new : String) (plain : Plain new)
    (text : String) :
    Text.replaceChars word.toList new.toList 0 (quoted text) =
      quoted (Text.replace text word new) := by
  rw [quoted, named.replace_cons new '"' (by decide), named.replace_between new '"' (by decide),
    named.replace_escape new plain, quoted, toList_replace]
  rfl

theorem isBare_of_wordChar (char : Char) (inside : isWordChar char = true) :
    isBare char = true := by
  have alphanum : char.isAlphanum = (char.isUpper || char.isLower || char.isDigit) := rfl
  simp only [isWordChar, Bool.or_eq_true, beq_iff_eq] at inside
  rcases inside with (upper | digit) | rfl
  · simp [isBare, alphanum, upper]
  · simp [isBare, alphanum, digit]
  · decide

/-- A key in quotes stays in quotes: the character that needs them is not replaced. -/
theorem Word.isBareKey_replace (named : Word word) (new : String) (key : String)
    (special : isBareKey key = false) : isBareKey (Text.replace key word new) = false := by
  rcases Bool.and_eq_false_iff.mp special with empty | unnamed
  · have same : key = "" := by simpa using empty
    rw [same]
    rfl
  · obtain ⟨char, member, outside⟩ := List.all_eq_false.mp unnamed
    have absent : char ∉ word.toList := by
      intro inside
      exact outside (isBare_of_wordChar char (named.2 char inside))
    have kept := Text.mem_replaceChars word.toList new.toList named.nonempty char absent _ member
    rw [isBareKey, Bool.and_eq_false_iff]
    right
    rw [toList_replace, List.all_eq_false]
    exact ⟨char, kept, outside⟩

theorem Word.replace_writeKey (named : Word word) (new : String) (plain : Plain new) (key : String)
    (free : isBareKey key = true → ¬ word.toList <:+: key.toList) :
    Text.replaceChars word.toList new.toList 0 (writeKey key) =
      writeKey (Text.replace key word new) := by
  unfold writeKey
  cases bare : isBareKey key with
  | true =>
      have kept := Text.replaceChars_absent word.toList new.toList key.toList (free bare)
      have same : Text.replace key word new = key := by
        rw [Text.replace, kept, String.ofList_toList]
      rw [same, bare, if_pos rfl, kept]
  | false =>
      rw [named.isBareKey_replace new key bare, if_neg Bool.false_ne_true,
        if_neg Bool.false_ne_true, named.replace_quoted new plain]

theorem Word.replace_writePath (named : Word word) (new : String) (plain : Plain new)
    (path : List String)
    (free : ∀ key ∈ path, isBareKey key = true → ¬ word.toList <:+: key.toList) :
    Text.replaceChars word.toList new.toList 0 (writePath path) =
      writePath (path.map (fun key => Text.replace key word new)) := by
  induction path using writePath.induct with
  | case1 => rfl
  | case2 key =>
      rw [writePath, named.replace_between new ']' (by decide),
        named.replace_writeKey new plain key (free key List.mem_cons_self)]
      rfl
  | case3 key rest many ih =>
      obtain ⟨mine, later⟩ := List.forall_mem_cons.mp free
      cases rest with
      | nil => exact absurd rfl many
      | cons second rest =>
          rw [writePath, named.replace_between new '.' (by decide),
            named.replace_writeKey new plain key mine, ih later]
          · rfl
          · exact many

theorem Line.replace_chars (named : Word word) (new : String) (plain : Plain new) (line : Line)
    (free : ∀ key ∈ line.keys, isBareKey key = true → ¬ word.toList <:+: key.toList) :
    Text.replaceChars word.toList new.toList 0 line.chars = (line.replace word new).chars := by
  have key (key : String) (rest : List Char)
      (only : isBareKey key = true → ¬ word.toList <:+: key.toList) :
      Text.replaceChars word.toList new.toList 0 (writeKey key ++ ' ' :: '=' :: ' ' :: rest) =
        writeKey (Text.replace key word new) ++
          ' ' :: '=' :: ' ' :: Text.replaceChars word.toList new.toList 0 rest := by
    rw [named.replace_between new ' ' (by decide), named.replace_cons new '=' (by decide),
      named.replace_cons new ' ' (by decide), named.replace_writeKey new plain key only]
  cases line with
  | blank => rfl
  | header path =>
      rw [Line.chars, named.replace_cons new '[' (by decide),
        named.replace_writePath new plain path free]
      rfl
  | entry name value =>
      rw [Line.chars, key name _ (free name List.mem_cons_self), named.replace_quoted new plain]
      rfl
  | empty name =>
      rw [Line.chars, key name _ (free name List.mem_cons_self),
        named.replace_cons new '[' (by decide), named.replace_cons new ']' (by decide)]
      rfl
  | opening name =>
      rw [Line.chars, key name _ (free name List.mem_cons_self),
        named.replace_cons new '[' (by decide)]
      rfl
  | item value =>
      have indent := named.replace_cons new ' ' (by decide)
      rw [Line.chars, indent, indent, indent, indent, named.replace_between new ',' (by decide),
        named.replace_quoted new plain]
      rfl
  | closing => exact named.replace_cons new ']' (by decide) []

theorem replace_joinLines (named : Word word) (new : String) (plain : Plain new) (lines : List Line)
    (free : ∀ line ∈ lines, ∀ key ∈ line.keys,
      isBareKey key = true → ¬ word.toList <:+: key.toList) :
    Text.replaceChars word.toList new.toList 0 (joinLines lines) =
      joinLines (lines.map (Line.replace word new)) := by
  induction lines with
  | nil => rfl
  | cons line rest ih =>
      obtain ⟨mine, later⟩ := List.forall_mem_cons.mp free
      have whole : joinLines (line :: rest) = line.chars ++ '\n' :: joinLines rest := by
        simp [joinLines]
      rw [whole, named.replace_between new '\n' (by decide),
        Line.replace_chars named new plain line mine, ih later]
      simp [joinLines]

theorem entryLines_replace (word new : String) (entry : Entry) :
    entryLines (entry.replace word new) = (entryLines entry).map (Line.replace word new) := by
  obtain ⟨key, value⟩ := entry
  cases value with
  | text value => rfl
  | texts values =>
      cases values with
      | nil => rfl
      | cons value values =>
          simp [entryLines, Entry.replace, Value.replace, Line.replace, Function.comp_def]

theorem entries_replace (word new : String) (entries : List Entry) :
    (entries.map (Entry.replace word new)).flatMap entryLines =
      (entries.flatMap entryLines).map (Line.replace word new) := by
  induction entries with
  | nil => rfl
  | cons entry rest ih =>
      rw [List.map_cons, List.flatMap_cons, List.flatMap_cons, List.map_append, ih,
        entryLines_replace]

theorem tableLines_replace (word new : String) (started : Bool) (tables : List Table) :
    tableLines started (tables.map (Table.replace word new)) =
      (tableLines started tables).map (Line.replace word new) := by
  induction tables generalizing started with
  | nil => rfl
  | cons table rest ih =>
      have lines : (table.replace word new).lines = table.lines.map (Line.replace word new) := by
        rw [Table.lines, Table.lines, Table.replace, entries_replace]
        rfl
      rw [List.map_cons, tableLines, tableLines, ih, lines, List.map_append, List.map_append]
      cases started <;> rfl

theorem lines_replace (word new : String) (document : Document) :
    (document.replace word new).lines = document.lines.map (Line.replace word new) := by
  rw [Document.lines, Document.lines, Document.replace, List.map_append, entries_replace,
    tableLines_replace]
  simp

theorem entryLines_keys (entry : Entry) :
    ∀ line ∈ entryLines entry, ∀ key ∈ line.keys, key = entry.1 := by
  obtain ⟨name, value⟩ := entry
  cases value with
  | text value => simp [entryLines, Line.keys]
  | texts values =>
      cases values with
      | nil => simp [entryLines, Line.keys]
      | cons value values =>
          intro line member key inside
          rw [entryLines, List.mem_cons, List.mem_append, List.mem_map,
            List.mem_singleton] at member
          rcases member with rfl | ⟨item, -, rfl⟩ | rfl
          · exact List.mem_singleton.mp inside
          · cases inside
          · cases inside

theorem entries_keys (entries : List Entry) (line : Line)
    (member : line ∈ entries.flatMap entryLines) :
    ∀ key ∈ line.keys, key ∈ entries.map Prod.fst := by
  intro key inside
  obtain ⟨entry, held, written⟩ := List.mem_flatMap.mp member
  rw [entryLines_keys entry line written key inside]
  exact List.mem_map_of_mem held

theorem tableLines_keys (started : Bool) (tables : List Table) (line : Line)
    (member : line ∈ tableLines started tables) :
    ∀ key ∈ line.keys,
      key ∈ tables.flatMap (fun table => table.path ++ table.entries.map Prod.fst) := by
  induction tables generalizing started with
  | nil => cases member
  | cons table rest ih =>
      intro key inside
      rw [List.flatMap_cons, List.mem_append, List.mem_append]
      rw [tableLines, List.mem_append, List.mem_append] at member
      rcases member with (separator | own) | later
      · cases started with
        | false => cases separator
        | true =>
            rw [if_pos rfl, List.mem_singleton] at separator
            rw [separator] at inside
            cases inside
      · rcases List.mem_cons.mp own with rfl | entry
        · exact .inl (.inl inside)
        · exact .inl (.inr (entries_keys table.entries line entry key inside))
      · exact .inr (ih true later key inside)

theorem lines_keys (document : Document) (line : Line) (member : line ∈ document.lines) :
    ∀ key ∈ line.keys, key ∈ document.keys := by
  intro key inside
  rw [Document.keys, List.mem_append]
  rcases List.mem_append.mp member with entry | table
  · exact .inl (entries_keys document.entries line entry key inside)
  · exact .inr (tableLines_keys _ document.tables line table key inside)

/-- Replacing a word in a written document writes the document with the word replaced. -/
theorem replace_dumps (document : Document) (word new : String) (named : Word word)
    (plain : Plain new) (quotes : document.Quotes word) :
    Text.replace (dumps document) word new = dumps (document.replace word new) := by
  have free : ∀ line ∈ document.lines, ∀ key ∈ line.keys,
      isBareKey key = true → ¬ word.toList <:+: key.toList := by
    intro line member key inside
    exact quotes key (lines_keys document line member key inside)
  rw [Text.replace, dumps, String.toList_ofList, replace_joinLines named new plain _ free, dumps,
    lines_replace]

end Written

/-! What other code relies on when it writes and reads documents. -/

/-- Documents are written as a list of entries and of tables and may be edited as text
before they are read. -/
structure Library where
  dumps : Document → String
  loads : String → Option Document
  /-- A document is read back, unless it defines something twice. -/
  reads : ∀ document, document.Named →
    loads (dumps document) = if document.Valid then some document else none
  /-- Strings are written with their plain characters as they are. -/
  substitutes : ∀ document word new, Word word → Plain new → document.Quotes word →
    Text.replace (dumps document) word new = dumps (document.replace word new)

/-- The layout of this module. -/
def layout : Library where
  dumps := dumps
  loads := loads
  reads := loads_dumps
  substitutes := replace_dumps

end ClusterApiForSlinky.Toml
