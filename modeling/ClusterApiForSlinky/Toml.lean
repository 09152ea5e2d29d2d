import ClusterApiForSlinky.LineBreaks
import ClusterApiForSlinky.Text

/-!
TOML documents whose values are texts and lists of texts: the layout a writer gives
them and a reader for that layout.
-/

namespace ClusterApiForSlinky.Toml
open LineBreaks (splitLines splitLines_cons)
open Text (hexDigit hexValue highDigit lowDigit hexValue_hexDigit digits_of_byte)

inductive Value where
  | text (value : String)
  | texts (values : List String)
  deriving DecidableEq

abbrev Entry := String × Value

structure Table where
  path : List String
  entries : List Entry
  deriving DecidableEq

/-- The entries before the first header, then the tables in the order of their headers. -/
structure Document where
  entries : List Entry
  tables : List Table
  deriving DecidableEq

namespace Document

def entryPaths (document : Document) : List (List String) :=
  document.entries.map (fun entry => [entry.1]) ++
    document.tables.flatMap (fun table => table.entries.map (fun entry => table.path ++ [entry.1]))

/-- Nothing is defined twice, and no value is opened as a table. -/
def Valid (document : Document) : Prop :=
  (document.entryPaths ++ document.tables.map Table.path).Nodup ∧
    ∀ path ∈ document.entryPaths, ∀ table ∈ document.tables, ¬ path <+: table.path

instance (document : Document) : Decidable document.Valid := by
  unfold Valid
  infer_instance

/-- Every table has a name. -/
def Named (document : Document) : Prop := ∀ table ∈ document.tables, table.path ≠ []

end Document

/-! Basic strings. -/

def isControl (char : Char) : Bool := (char.toNat < 32 && char ≠ '\t') || char.toNat == 127

/-- The escapes of one letter. -/
def compactEscapes : List (Char × Char) :=
  [('\x08', 'b'), ('\n', 'n'), ('\x0c', 'f'), ('\r', 'r'), ('"', '"'), ('\\', '\\')]

def escapeChar (char : Char) : List Char :=
  match compactEscapes.lookup char with
  | some letter => ['\\', letter]
  | none =>
      if isControl char then
        ['\\', 'u', '0', '0', hexDigit (highDigit char.toNat), hexDigit (lowDigit char.toNat)]
      else [char]

def isPlain (char : Char) : Bool := !isControl char && char ≠ '"' && char ≠ '\\'

def escape (chars : List Char) : List Char := chars.flatMap escapeChar

def quoted (text : String) : List Char := '"' :: (escape text.toList ++ ['"'])

inductive Escape where
  | outside
  | letter
  | code (digits : List (Fin 16))

/-- The character of four hexadecimal digits. -/
def codePoint (digits : List (Fin 16)) : Option Char :=
  let code := digits.foldl (fun value digit => 16 * value + digit.val) 0
  if code.isValidChar then some (Char.ofNat code) else none

/-- The text up to the closing quote, and what follows it. -/
def readText : Escape → List Char → Option (List Char × List Char)
  | _, [] => none
  | .outside, char :: rest =>
      if char = '"' then some ([], rest)
      else if char = '\\' then readText .letter rest
      else if isControl char then none
      else (readText .outside rest).map (fun read => (char :: read.1, read.2))
  | .letter, char :: rest =>
      if char = 'u' then readText (.code []) rest
      else (compactEscapes.find? (fun pair => pair.2 == char)).bind (fun pair =>
        (readText .outside rest).map (fun read => (pair.1 :: read.1, read.2)))
  | .code digits, char :: rest =>
      (hexValue char).bind (fun digit =>
        if digits.length = 3 then
          (codePoint (digits ++ [digit])).bind (fun decoded =>
            (readText .outside rest).map (fun read => (decoded :: read.1, read.2)))
        else readText (.code (digits ++ [digit])) rest)

/-! Keys and table headers. -/

def isBare (char : Char) : Bool := char.isAlphanum || char == '-' || char == '_'

def isBareKey (key : String) : Bool := key ≠ "" && key.toList.all isBare

def writeKey (key : String) : List Char := if isBareKey key then key.toList else quoted key

def readKey : List Char → Option (List Char × List Char)
  | [] => none
  | char :: rest =>
      if char = '"' then readText .outside rest
      else if isBare char then
        some (char :: rest.takeWhile isBare, rest.dropWhile isBare)
      else none

/-- The keys of a header, each followed by a dot or by the closing bracket. -/
def writePath : List String → List Char
  | [] => []
  | [key] => writeKey key ++ [']']
  | key :: rest => writeKey key ++ '.' :: writePath rest

/-- `fuel` bounds the number of keys. -/
def readPath : Nat → List Char → Option (List String)
  | 0, _ => none
  | fuel + 1, chars =>
      (readKey chars).bind (fun read =>
        match read.2 with
        | [] => none
        | stop :: rest =>
            if stop = '.' then (readPath fuel rest).map (String.ofList read.1 :: ·)
            else if stop = ']' ∧ rest = [] then some [String.ofList read.1]
            else none)

/-! Lines. -/

inductive Line where
  | blank
  | header (path : List String)
  | entry (key value : String)
  | empty (key : String)
  | opening (key : String)
  | item (value : String)
  | closing
  deriving DecidableEq

namespace Line

def chars : Line → List Char
  | .blank => []
  | .header path => '[' :: writePath path
  | .entry key value => writeKey key ++ ' ' :: '=' :: ' ' :: quoted value
  | .empty key => writeKey key ++ ' ' :: '=' :: ' ' :: ['[', ']']
  | .opening key => writeKey key ++ ' ' :: '=' :: ' ' :: ['[']
  | .item value => ' ' :: ' ' :: ' ' :: ' ' :: (quoted value ++ [','])
  | .closing => [']']

/-- The right side of an entry. -/
def readValue (key : String) : List Char → Option Line
  | [] => none
  | first :: rest =>
      if first = '"' then
        (readText .outside rest).bind (fun read =>
          if read.2 = [] then some (.entry key (String.ofList read.1)) else none)
      else if first = '[' then
        if rest = [] then some (.opening key)
        else if rest = [']'] then some (.empty key)
        else none
      else none

def readItem (chars : List Char) : Option Line :=
  if "    \"".toList.isPrefixOf chars then
    (readText .outside (chars.drop 5)).bind (fun read =>
      if read.2 = [','] then some (.item (String.ofList read.1)) else none)
  else none

def readEntry (chars : List Char) : Option Line :=
  (readKey chars).bind (fun read =>
    if " = ".toList.isPrefixOf read.2 then readValue (String.ofList read.1) (read.2.drop 3)
    else none)

def read : List Char → Option Line
  | [] => some .blank
  | first :: rest =>
      if first = '[' then (readPath rest.length rest).map .header
      else if first = ']' then if rest = [] then some .closing else none
      else if first = ' ' then readItem (first :: rest)
      else readEntry (first :: rest)

end Line

/-! Documents. -/

def entryLines : Entry → List Line
  | (key, .text value) => [.entry key value]
  | (key, .texts []) => [.empty key]
  | (key, .texts (value :: values)) =>
      .opening key :: ((value :: values).map .item ++ [.closing])

def Table.lines (table : Table) : List Line :=
  .header table.path :: table.entries.flatMap entryLines

/-- A blank line stands between two groups of entries. -/
def tableLines : Bool → List Table → List Line
  | _, [] => []
  | started, table :: rest =>
      (if started then [.blank] else []) ++ table.lines ++ tableLines true rest

def Document.lines (document : Document) : List Line :=
  document.entries.flatMap entryLines ++ tableLines (document.entries ≠ []) document.tables

def joinLines (lines : List Line) : List Char := lines.flatMap (fun line => line.chars ++ ['\n'])

def dumps (document : Document) : String := String.ofList (joinLines document.lines)

def isFeed (char : Char) : Bool := char == '\n'

/-- What the lines from some point on hold; `pending` are the items of a list that was
opened before that point. -/
structure Remainder where
  pending : Option (List String)
  entries : List Entry
  tables : List Table

def prepend (line : Line) (later : Remainder) : Option Remainder :=
  match line, later.pending with
  | .blank, none => some later
  | .header path, none => some ⟨none, [], ⟨path, later.entries⟩ :: later.tables⟩
  | .entry key value, none => some ⟨none, (key, .text value) :: later.entries, later.tables⟩
  | .empty key, none => some ⟨none, (key, .texts []) :: later.entries, later.tables⟩
  | .opening key, some values => some ⟨none, (key, .texts values) :: later.entries, later.tables⟩
  | .item value, some values => some ⟨some (value :: values), later.entries, later.tables⟩
  | .closing, none => some ⟨some [], later.entries, later.tables⟩
  | _, _ => none

def assemble (lines : List Line) : Option Remainder :=
  lines.foldr (fun line later => later.bind (prepend line)) (some ⟨none, [], []⟩)

def parse (text : String) : Option Document :=
  (((splitLines isFeed text.toList).mapM Line.read).bind assemble).bind (fun whole =>
    if whole.pending = none then some ⟨whole.entries, whole.tables⟩ else none)

/-- TOML refuses a name that is defined twice. -/
def loads (text : String) : Option Document := (parse text).filter (fun document => document.Valid)

/-! Reading back what was written. -/

theorem mem_compactEscapes (char letter : Char)
    (escaped : compactEscapes.lookup char = some letter) : (char, letter) ∈ compactEscapes := by
  obtain ⟨before, after, same, -⟩ := List.lookup_eq_some_iff.mp escaped
  rw [same]
  exact List.mem_append_right before List.mem_cons_self

theorem compactEscapes_find (char letter : Char)
    (escaped : compactEscapes.lookup char = some letter) :
    letter ≠ 'u' ∧
      ∃ other, compactEscapes.find? (fun pair => pair.2 == letter) = some (char, other) := by
  have listed := mem_compactEscapes char letter escaped
  have every : ∀ pair ∈ compactEscapes, pair.2 ≠ 'u' ∧
      compactEscapes.find? (fun other => other.2 == pair.2) = some (pair.1, pair.2) := by decide
  exact ⟨(every _ listed).1, letter, (every _ listed).2⟩

theorem codePoint_toNat (char : Char) (byte : char.toNat < 256) :
    codePoint [0, 0, highDigit char.toNat, lowDigit char.toNat] = some char := by
  have digits := digits_of_byte char.toNat byte
  have zero : (0 : Fin 16).val = 0 := rfl
  have value : [0, 0, highDigit char.toNat, lowDigit char.toNat].foldl
      (fun value digit => 16 * value + digit.val) 0 = char.toNat := by
    simp only [List.foldl_cons, List.foldl_nil, zero]
    omega
  have valid : char.toNat.isValidChar := char.valid
  rw [codePoint, value, if_pos valid, Char.ofNat_toNat]

theorem isControl_byte (char : Char) (control : isControl char = true) : char.toNat < 256 := by
  simp only [isControl, Bool.or_eq_true, Bool.and_eq_true, decide_eq_true_eq, beq_iff_eq] at control
  omega

theorem escapeChar_plain (char : Char) (plain : isPlain char = true) :
    escapeChar char = [char] := by
  simp only [isPlain, Bool.and_eq_true, Bool.not_eq_true', decide_eq_true_eq] at plain
  obtain ⟨⟨control, quote⟩, backslash⟩ := plain
  cases escaped : compactEscapes.lookup char with
  | none => simp only [escapeChar, escaped, control]; rfl
  | some letter =>
      have listed : ∀ pair ∈ compactEscapes,
          isControl pair.1 = true ∨ pair.1 = '"' ∨ pair.1 = '\\' := by decide
      rcases listed _ (mem_compactEscapes char letter escaped) with mine | mine | mine
      · simp [control] at mine
      · exact absurd mine quote
      · exact absurd mine backslash

theorem readText_backslash (rest : List Char) :
    readText .outside ('\\' :: rest) = readText .letter rest := rfl

theorem readText_letter (char letter : Char) (rest : List Char)
    (escaped : compactEscapes.lookup char = some letter) :
    readText .letter (letter :: rest) =
      (readText .outside rest).map (fun read => (char :: read.1, read.2)) := by
  obtain ⟨different, other, found⟩ := compactEscapes_find char letter escaped
  rw [readText, if_neg different, found, Option.bind_some]

theorem readText_code (char : Char) (rest : List Char) (byte : char.toNat < 256) :
    readText (.code []) ('0' :: '0' :: hexDigit (highDigit char.toNat) ::
        hexDigit (lowDigit char.toNat) :: rest) =
      (readText .outside rest).map (fun read => (char :: read.1, read.2)) := by
  have zero : hexValue '0' = some 0 := by decide
  simp only [readText, hexValue_hexDigit, zero, Option.bind_some, List.length_append,
    List.length_cons, List.length_nil]
  simp only [Nat.reduceAdd, List.nil_append, List.cons_append, codePoint_toNat char byte,
    Option.bind_some, if_true]
  rfl

theorem readText_escapeChar (char : Char) (rest : List Char) :
    readText .outside (escapeChar char ++ rest) =
      (readText .outside rest).map (fun read => (char :: read.1, read.2)) := by
  cases escaped : compactEscapes.lookup char with
  | some letter =>
      have written : escapeChar char = ['\\', letter] := by simp only [escapeChar, escaped]
      rw [written]
      exact (readText_backslash _).trans (readText_letter char letter rest escaped)
  | none =>
      by_cases control : isControl char = true
      · have written : escapeChar char =
            ['\\', 'u', '0', '0', hexDigit (highDigit char.toNat), hexDigit (lowDigit char.toNat)] := by
          simp only [escapeChar, escaped, if_pos control]
        rw [written]
        exact readText_code char rest (isControl_byte char control)
      · have quote : char ≠ '"' := by
          rintro rfl
          exact absurd escaped (by decide)
        have backslash : char ≠ '\\' := by
          rintro rfl
          exact absurd escaped (by decide)
        simp only [escapeChar, escaped, if_neg control, List.cons_append, List.nil_append, readText,
          if_neg quote, if_neg backslash]

theorem readText_escape (chars rest : List Char) :
    readText .outside (escape chars ++ '"' :: rest) = some (chars, rest) := by
  induction chars with
  | nil => rfl
  | cons char later ih =>
      rw [escape, List.flatMap_cons, List.append_assoc, readText_escapeChar]
      unfold escape at ih
      rw [ih, Option.map_some]

theorem bareKey_chars (key : String) (bare : isBareKey key = true) :
    ∃ first rest, key.toList = first :: rest ∧ first ≠ '"' ∧
      ∀ char ∈ first :: rest, isBare char = true := by
  obtain ⟨nonempty, named⟩ := Bool.and_eq_true_iff.mp bare
  cases shape : key.toList with
  | nil => exact absurd (String.toList_eq_nil_iff.mp shape) (of_decide_eq_true nonempty)
  | cons first rest =>
      rw [shape] at named
      have every := List.all_eq_true.mp named
      refine ⟨first, rest, rfl, ?_, every⟩
      rintro rfl
      exact absurd (every '"' List.mem_cons_self) (by decide)

theorem readKey_bare (first : Char) (rest : List Char) (quote : first ≠ '"')
    (named : ∀ char ∈ first :: rest, isBare char = true) (stop : Char)
    (outside : isBare stop = false) (tail : List Char) :
    readKey (first :: rest ++ stop :: tail) = some (first :: rest, stop :: tail) := by
  obtain ⟨start, later⟩ := List.forall_mem_cons.mp named
  have ended : ¬ isBare stop = true := by simp [outside]
  rw [List.cons_append, readKey, if_neg quote, if_pos start, List.takeWhile_append_of_pos later,
    List.takeWhile_cons_of_neg ended, List.dropWhile_append_of_pos later,
    List.dropWhile_cons_of_neg ended, List.append_nil]

theorem readKey_writeKey (key : String) (stop : Char) (outside : isBare stop = false)
    (rest : List Char) :
    readKey (writeKey key ++ stop :: rest) = some (key.toList, stop :: rest) := by
  unfold writeKey
  by_cases bare : isBareKey key = true
  · obtain ⟨first, later, shape, quote, named⟩ := bareKey_chars key bare
    rw [if_pos bare, shape]
    exact readKey_bare first later quote named stop outside rest
  · rw [if_neg bare, quoted, List.cons_append, List.append_assoc]
    exact readText_escape key.toList (stop :: rest)

/-- A written key starts with a quote or with a character of a bare key. -/
theorem writeKey_start (key : String) :
    ∃ first rest, writeKey key = first :: rest ∧ (first = '"' ∨ isBare first = true) := by
  unfold writeKey
  by_cases bare : isBareKey key = true
  · obtain ⟨first, later, shape, -, named⟩ := bareKey_chars key bare
    rw [if_pos bare, shape]
    exact ⟨first, later, rfl, .inr (named first List.mem_cons_self)⟩
  · rw [if_neg bare]
    exact ⟨'"', _, rfl, .inl rfl⟩

theorem length_le_writePath (path : List String) : path.length ≤ (writePath path).length := by
  induction path using writePath.induct with
  | case1 => exact Nat.le_refl 0
  | case2 key => simp [writePath]
  | case3 key rest many ih =>
      rw [writePath]
      · simp only [List.length_cons, List.length_append]
        omega
      · exact many

theorem readPath_writePath (path : List String) (named : path ≠ []) (fuel : Nat)
    (enough : path.length ≤ fuel) : readPath fuel (writePath path) = some path := by
  induction path using writePath.induct generalizing fuel with
  | case1 => exact absurd rfl named
  | case2 key =>
      obtain ⟨fuel, rfl⟩ := Nat.exists_eq_add_of_le' enough
      rw [writePath, List.length_singleton, readPath, readKey_writeKey key ']' (by decide),
        Option.bind_some]
      simp
  | case3 key rest many ih =>
      obtain ⟨fuel, rfl⟩ := Nat.exists_eq_add_of_le' enough
      rw [writePath, List.length_cons, ← Nat.add_assoc, readPath,
        readKey_writeKey key '.' (by decide), Option.bind_some]
      · simp only [if_true, ih many _ (Nat.le_add_left _ fuel), Option.map_some,
          String.ofList_toList]
      · exact many

theorem Line.readValue_quoted (key value : String) :
    Line.readValue key (quoted value) = some (.entry key value) := by
  rw [quoted, Line.readValue, if_pos rfl, readText_escape, Option.bind_some, if_pos rfl,
    String.ofList_toList]

/-- An entry line is read by its key, whatever stands on its right side. -/
theorem Line.read_entry (key : String) (value : List Char) :
    Line.read (writeKey key ++ ' ' :: '=' :: ' ' :: value) = Line.readValue key value := by
  obtain ⟨first, rest, shape, start⟩ := writeKey_start key
  have other : ∀ char, isBare char = false → char ≠ '"' → first ≠ char := by
    rintro char outside quote rfl
    rcases start with same | bare
    · exact quote same
    · simp [outside] at bare
  have whole : Line.read (writeKey key ++ ' ' :: '=' :: ' ' :: value) =
      Line.readEntry (writeKey key ++ ' ' :: '=' :: ' ' :: value) := by
    rw [shape, List.cons_append, Line.read, if_neg (other '[' (by decide) (by decide)),
      if_neg (other ']' (by decide) (by decide)), if_neg (other ' ' (by decide) (by decide))]
  rw [whole, Line.readEntry, readKey_writeKey key ' ' (by decide), Option.bind_some,
    String.ofList_toList]
  rfl

theorem Line.readItem_quoted (value : String) :
    Line.readItem (' ' :: ' ' :: ' ' :: ' ' :: (quoted value ++ [','])) = some (.item value) := by
  have indented : "    \"".toList.isPrefixOf
      (' ' :: ' ' :: ' ' :: ' ' :: (quoted value ++ [','])) = true := rfl
  have dropped : (' ' :: ' ' :: ' ' :: ' ' :: (quoted value ++ [','])).drop 5 =
      escape value.toList ++ ['"', ','] := by simp [quoted]
  rw [Line.readItem, if_pos indented, dropped, readText_escape, Option.bind_some, if_pos rfl,
    String.ofList_toList]

def Line.Named : Line → Prop
  | .header path => path ≠ []
  | _ => True

theorem Line.read_chars (line : Line) (named : line.Named) : Line.read line.chars = some line := by
  cases line with
  | blank => rfl
  | header path =>
      show (readPath (writePath path).length (writePath path)).map Line.header = _
      rw [readPath_writePath path named _ (length_le_writePath path), Option.map_some]
  | entry key value => exact (Line.read_entry key _).trans (Line.readValue_quoted key value)
  | empty key => exact Line.read_entry key ['[', ']']
  | opening key => exact Line.read_entry key ['[']
  | item value => exact Line.readItem_quoted value
  | closing => rfl

/-! No line break stands inside a line. -/

/-- The characters an escape sequence is made of. -/
def escapeAlphabet : List Char := "\\\"bnfru0123456789abcdef".toList

theorem escapeChar_cases (char : Char) :
    escapeChar char = [char] ∨
      (∃ rest, escapeChar char = '\\' :: rest) ∧
        ∀ other ∈ escapeChar char, other ∈ escapeAlphabet := by
  cases escaped : compactEscapes.lookup char with
  | some letter =>
      have every : ∀ pair ∈ compactEscapes, pair.2 ∈ escapeAlphabet := by decide
      have known := every _ (mem_compactEscapes char letter escaped)
      have backslash : '\\' ∈ escapeAlphabet := by decide
      simp only [escapeChar, escaped]
      refine .inr ⟨⟨[letter], rfl⟩, ?_⟩
      simp [known, backslash]
  | none =>
      by_cases control : isControl char = true
      · have every : ∀ digit, hexDigit digit ∈ escapeAlphabet := by decide
        have backslash : '\\' ∈ escapeAlphabet := by decide
        have code : 'u' ∈ escapeAlphabet := by decide
        have zero : '0' ∈ escapeAlphabet := by decide
        simp only [escapeChar, escaped, if_pos control]
        refine .inr ⟨⟨_, rfl⟩, ?_⟩
        simp only [List.forall_mem_cons]
        exact ⟨backslash, code, zero, zero, every _, every _, List.forall_mem_nil _⟩
      · simp only [escapeChar, escaped, if_neg control]
        exact .inl trivial

theorem escapeChar_inline (char : Char) : '\n' ∉ escapeChar char := by
  rcases escapeChar_cases char with same | ⟨-, known⟩
  · rw [same, List.mem_singleton]
    rintro rfl
    exact absurd same (by decide)
  · intro member
    exact absurd (known _ member) (by decide)

theorem escape_inline (chars : List Char) : '\n' ∉ escape chars := by
  intro member
  obtain ⟨char, -, inside⟩ := List.mem_flatMap.mp member
  exact escapeChar_inline char inside

theorem quoted_inline (text : String) : '\n' ∉ quoted text := by
  simp [quoted, escape_inline]

theorem writeKey_inline (key : String) : '\n' ∉ writeKey key := by
  unfold writeKey
  by_cases bare : isBareKey key = true
  · rw [if_pos bare]
    intro member
    exact absurd (List.all_eq_true.mp (Bool.and_eq_true_iff.mp bare).2 _ member) (by decide)
  · rw [if_neg bare]
    exact quoted_inline key

theorem writePath_inline (path : List String) : '\n' ∉ writePath path := by
  induction path using writePath.induct with
  | case1 => exact List.not_mem_nil
  | case2 key => simp [writePath, writeKey_inline]
  | case3 key rest many ih =>
      rw [writePath]
      · simp [writeKey_inline, ih]
      · exact many

theorem Line.inline (line : Line) : '\n' ∉ line.chars := by
  cases line <;> simp [Line.chars, writeKey_inline, writePath_inline, quoted_inline]

theorem splitLines_joinLines (written : List Line) :
    splitLines isFeed (joinLines written) = written.map Line.chars := by
  induction written with
  | nil => rfl
  | cons line rest ih =>
      have plain : ∀ char ∈ line.chars, isFeed char = false := by
        intro char member
        exact beq_false_of_ne (fun feed => line.inline (feed ▸ member))
      rw [joinLines, List.flatMap_cons, List.append_assoc, List.singleton_append,
        splitLines_cons isFeed line.chars '\n' _ plain rfl (by decide), List.map_cons, ← ih]
      rfl

theorem mapM_read (lines : List Line) (named : ∀ line ∈ lines, line.Named) :
    (lines.map Line.chars).mapM Line.read = some lines := by
  induction lines with
  | nil => rfl
  | cons line rest ih =>
      obtain ⟨mine, later⟩ := List.forall_mem_cons.mp named
      rw [List.map_cons, List.mapM_cons, Line.read_chars line mine, ih later]
      rfl

/-! Assembling a document. -/

theorem assemble_cons (line : Line) (rest : List Line) :
    assemble (line :: rest) = (assemble rest).bind (prepend line) := rfl

theorem assemble_items (values : List String) (rest : List Line) (later : Remainder)
    (read : assemble rest = some later) (settled : later.pending = none) :
    assemble (values.map .item ++ .closing :: rest) =
      some ⟨some values, later.entries, later.tables⟩ := by
  induction values with
  | nil => simp only [List.map_nil, List.nil_append, assemble_cons, read, Option.bind_some, prepend,
        settled]
  | cons value values ih =>
      rw [List.map_cons, List.cons_append, assemble_cons, ih]
      rfl

theorem assemble_entry (entry : Entry) (rest : List Line) (later : Remainder)
    (read : assemble rest = some later) (settled : later.pending = none) :
    assemble (entryLines entry ++ rest) =
      some ⟨none, entry :: later.entries, later.tables⟩ := by
  obtain ⟨key, value⟩ := entry
  cases value with
  | text value =>
      simp only [entryLines, List.singleton_append, assemble_cons, read, Option.bind_some, prepend,
        settled]
  | texts values =>
      cases values with
      | nil =>
          simp only [entryLines, List.singleton_append, assemble_cons, read, Option.bind_some,
            prepend, settled]
      | cons value values =>
          rw [entryLines, List.cons_append, List.append_assoc, List.singleton_append, assemble_cons,
            assemble_items _ rest later read settled]
          rfl

theorem assemble_entries (entries : List Entry) (rest : List Line) (later : Remainder)
    (read : assemble rest = some later) (settled : later.pending = none) :
    assemble (entries.flatMap entryLines ++ rest) =
      some ⟨none, entries ++ later.entries, later.tables⟩ := by
  induction entries with
  | nil =>
      obtain ⟨pending, held, tables⟩ := later
      cases settled
      exact read
  | cons entry entries ih =>
      rw [List.flatMap_cons, List.append_assoc, assemble_entry entry _ _ ih rfl]
      rfl

theorem assemble_tables (started : Bool) (tables : List Table) :
    assemble (tableLines started tables) = some ⟨none, [], tables⟩ := by
  induction tables generalizing started with
  | nil => rfl
  | cons table rest ih =>
      have named : assemble (table.lines ++ tableLines true rest) =
          some ⟨none, [], table :: rest⟩ := by
        rw [Table.lines, List.cons_append, assemble_cons, assemble_entries _ _ _ (ih true) rfl,
          List.append_nil]
        rfl
      cases started with
      | false => exact named
      | true =>
          rw [tableLines, if_pos rfl, List.append_assoc, List.singleton_append, assemble_cons,
            named]
          rfl

theorem assemble_lines (document : Document) :
    assemble document.lines = some ⟨none, document.entries, document.tables⟩ := by
  rw [Document.lines, assemble_entries _ _ _ (assemble_tables _ _) rfl, List.append_nil]

theorem entryLines_named (entry : Entry) : ∀ line ∈ entryLines entry, line.Named := by
  obtain ⟨key, value⟩ := entry
  cases value with
  | text value => exact List.forall_mem_singleton.mpr trivial
  | texts values =>
      cases values with
      | nil => exact List.forall_mem_singleton.mpr trivial
      | cons value values =>
          rw [entryLines, List.forall_mem_cons, List.forall_mem_append, List.forall_mem_map,
            List.forall_mem_singleton]
          exact ⟨trivial, fun _ _ => trivial, trivial⟩

theorem entries_named (entries : List Entry) :
    ∀ line ∈ entries.flatMap entryLines, line.Named := by
  intro line member
  obtain ⟨entry, -, inside⟩ := List.mem_flatMap.mp member
  exact entryLines_named entry line inside

theorem tableLines_named (started : Bool) (tables : List Table)
    (named : ∀ table ∈ tables, table.path ≠ []) :
    ∀ line ∈ tableLines started tables, line.Named := by
  induction tables generalizing started with
  | nil =>
      intro line member
      cases member
  | cons table rest ih =>
      obtain ⟨mine, later⟩ := List.forall_mem_cons.mp named
      rw [tableLines, List.forall_mem_append, List.forall_mem_append, Table.lines,
        List.forall_mem_cons]
      refine ⟨⟨?_, mine, entries_named table.entries⟩, ih true later⟩
      cases started with
      | false =>
          intro line member
          cases member
      | true => exact List.forall_mem_singleton.mpr trivial

theorem lines_named (document : Document) (named : document.Named) :
    ∀ line ∈ document.lines, line.Named := by
  rw [Document.lines, List.forall_mem_append]
  exact ⟨entries_named document.entries, tableLines_named _ document.tables named⟩

/-- A document is read back unless it defines something twice. -/
theorem loads_dumps (document : Document) (named : document.Named) :
    loads (dumps document) = if document.Valid then some document else none := by
  have parsed : parse (dumps document) = some document := by
    rw [parse, dumps, String.toList_ofList, splitLines_joinLines,
      mapM_read _ (lines_named document named), Option.bind_some, assemble_lines, Option.bind_some,
      if_pos rfl]
  rw [loads, parsed, Option.filter_some]
  simp

end ClusterApiForSlinky.Toml
