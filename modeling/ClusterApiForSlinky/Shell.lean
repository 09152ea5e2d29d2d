import ClusterApiForSlinky.Text

/-!
Simple commands of a POSIX shell: quoting, the words a command line is split into with
the variables it expands, and what `mkdir`, `printf`, `sed` and `systemctl` do. A line
outside this fragment has no meaning here.
-/

namespace ClusterApiForSlinky.Shell

/-! Quoting. -/

/-- The characters that stand for themselves in a word. -/
def isSafe (char : Char) : Bool := char.isAlphanum || "_@%+=:,./-".toList.contains char

def quoteChar (char : Char) : List Char := if char = '\'' then "'\"'\"'".toList else [char]

/-- `shlex.quote` -/
def quote (text : String) : String :=
  if text = "" then "''"
  else if text.toList.all isSafe then text
  else String.ofList ('\'' :: (text.toList.flatMap quoteChar ++ ['\'']))

/-! Words. -/

inductive Token where
  | word (text : String)
  | pipe
  | redirect
  deriving DecidableEq

abbrev Environment := String → Option String

/-- Where in a word a character stands; `name` holds the variable read so far. -/
inductive Mode where
  | between
  | bare
  | single
  | double
  | dollar
  | name (chars : List Char)

/-- `word` is the part of the current word that has been read. An unset variable is an
error, as under `set -u`. -/
def tokenize (env : Environment) : Mode → List Char → List Char → Option (List Token)
  | .between, _, [] => some []
  | .between, _, char :: rest =>
      if char = ' ' then tokenize env .between [] rest
      else if char = '|' then (tokenize env .between [] rest).map (.pipe :: ·)
      else if char = '>' then (tokenize env .between [] rest).map (.redirect :: ·)
      else if char = '\'' then tokenize env .single [] rest
      else if char = '"' then tokenize env .double [] rest
      else if isSafe char then tokenize env .bare [char] rest
      else none
  | .bare, word, [] => some [.word (String.ofList word)]
  | .bare, word, char :: rest =>
      if char = ' ' then
        (tokenize env .between [] rest).map (.word (String.ofList word) :: ·)
      else if char = '\'' then tokenize env .single word rest
      else if char = '"' then tokenize env .double word rest
      else if isSafe char then tokenize env .bare (word ++ [char]) rest
      else none
  | .single, word, char :: rest =>
      if char = '\'' then tokenize env .bare word rest
      else tokenize env .single (word ++ [char]) rest
  | .double, word, char :: rest =>
      if char = '"' then tokenize env .bare word rest
      else if char = '$' then tokenize env .dollar word rest
      else if char = '\\' || char.toNat == 96 then none
      else tokenize env .double (word ++ [char]) rest
  | .dollar, word, char :: rest =>
      if char = '{' then tokenize env (.name []) word rest else none
  | .name chars, word, char :: rest =>
      if char = '}' then
        (env (String.ofList chars)).bind (fun value =>
          tokenize env .double (word ++ value.toList) rest)
      else tokenize env (.name (chars ++ [char])) word rest
  | _, _, [] => none

section Words

variable (env : Environment)

attribute [local simp] tokenize

theorem isSafe_ne (char special : Char) (safe : isSafe char = true)
    (outside : isSafe special = false) : char ≠ special := by
  rintro rfl
  simp [safe] at outside

theorem tokenize_safe (chars word rest : List Char) (safe : ∀ char ∈ chars, isSafe char = true) :
    tokenize env .bare word (chars ++ rest) =
      tokenize env .bare (word ++ chars) rest := by
  induction chars generalizing word with
  | nil => rw [List.nil_append, List.append_nil]
  | cons char chars ih =>
      obtain ⟨mine, later⟩ := List.forall_mem_cons.mp safe
      have other := isSafe_ne char
      rw [List.cons_append, tokenize, if_neg (other ' ' mine (by decide)),
        if_neg (other '\'' mine (by decide)), if_neg (other '"' mine (by decide)), if_pos mine,
        ih (word ++ [char]) later, List.append_assoc, List.singleton_append]

theorem tokenize_single (chars word rest : List Char) :
    tokenize env .single word (chars.flatMap quoteChar ++ '\'' :: rest) =
      tokenize env .bare (word ++ chars) rest := by
  induction chars generalizing word with
  | nil => rw [List.flatMap_nil, List.nil_append, List.append_nil, tokenize, if_pos rfl]
  | cons char chars ih =>
      rw [List.flatMap_cons, List.append_assoc, quoteChar]
      by_cases mark : char = '\''
      · -- The quote is closed, written between double quotes, and opened again.
        subst mark
        have reopened : tokenize env .single word
            ("'\"'\"'".toList ++ (chars.flatMap quoteChar ++ '\'' :: rest)) =
              tokenize env .single (word ++ ['\''])
                (chars.flatMap quoteChar ++ '\'' :: rest) := rfl
        rw [if_pos rfl, reopened, ih, List.append_assoc, List.singleton_append]
      · rw [if_neg mark, List.singleton_append, tokenize, if_neg mark, ih, List.append_assoc,
          List.singleton_append]

/-- A quoted text is the start of a word that holds this text. -/
theorem tokenize_quote (text : String) (rest : List Char) :
    tokenize env .between [] ((quote text).toList ++ rest) =
      tokenize env .bare text.toList rest := by
  unfold quote
  by_cases empty : text = ""
  · subst empty
    rfl
  · rw [if_neg empty]
    by_cases safe : text.toList.all isSafe = true
    · rw [if_pos safe]
      have every := List.all_eq_true.mp safe
      cases shape : text.toList with
      | nil => exact absurd (String.toList_eq_nil_iff.mp shape) empty
      | cons first later =>
          rw [shape] at every
          obtain ⟨mine, others⟩ := List.forall_mem_cons.mp every
          have other := isSafe_ne first
          rw [List.cons_append, tokenize, if_neg (other ' ' mine (by decide)),
            if_neg (other '|' mine (by decide)), if_neg (other '>' mine (by decide)),
            if_neg (other '\'' mine (by decide)), if_neg (other '"' mine (by decide)),
            if_pos mine, tokenize_safe env later [first] rest others, List.singleton_append]
    · rw [if_neg safe, String.toList_ofList, List.cons_append, List.append_assoc,
        List.singleton_append]
      exact tokenize_single env text.toList [] rest

theorem tokenize_word (text : String) (rest : List Char) :
    tokenize env .between [] ((quote text).toList ++ ' ' :: rest) =
      (tokenize env .between [] rest).map (.word text :: ·) := by
  rw [tokenize_quote, tokenize, if_pos rfl, String.ofList_toList]

theorem tokenize_last (text : String) :
    tokenize env .between [] (quote text).toList = some [.word text] := by
  rw [← List.append_nil (quote text).toList, tokenize_quote, tokenize, String.ofList_toList]

/-- A quoted text behind the start of a word goes on with this word. -/
theorem tokenize_quote_behind (text : String) (word rest : List Char) :
    tokenize env .bare word ((quote text).toList ++ rest) =
      tokenize env .bare (word ++ text.toList) rest := by
  unfold quote
  by_cases empty : text = ""
  · subst empty
    simp
  · rw [if_neg empty]
    by_cases safe : text.toList.all isSafe = true
    · rw [if_pos safe, tokenize_safe env text.toList word rest (List.all_eq_true.mp safe)]
    · have opened : ∀ tail, tokenize env .bare word ('\'' :: tail) =
          tokenize env .single word tail := fun _ => rfl
      rw [if_neg safe, String.toList_ofList, List.cons_append, List.append_assoc,
        List.singleton_append, opened, tokenize_single]

/-- A piece of a command line that is the start of a word. -/
def Reads (piece word : String) : Prop :=
  ∀ rest, tokenize env .between [] (piece.toList ++ rest) = tokenize env .bare word.toList rest

theorem reads_quote (text : String) : Reads env (quote text) text :=
  fun rest => tokenize_quote env text rest

theorem reads_safe (text : String) (plain : quote text = text) : Reads env text text := by
  have same := reads_quote env text
  rwa [plain] at same

/-- `name=text` with a quoted text. -/
theorem reads_assigned (name text : String) (plain : quote name = name) :
    Reads env (name ++ quote text) (name ++ text) := by
  intro rest
  rw [String.toList_append, List.append_assoc, reads_safe env name plain, tokenize_quote_behind,
    String.toList_append]

theorem tokenize_intercalate (pieces words : List String)
    (reads : List.Forall₂ (Reads env) pieces words) :
    tokenize env .between [] (" ".intercalate pieces).toList = some (words.map Token.word) := by
  have blank : " ".toList = [' '] := rfl
  rw [String.toList_intercalate, blank]
  induction reads with
  | nil => rfl
  | @cons piece word pieces words read others ih =>
      cases others with
      | nil =>
          have last := read []
          rw [List.append_nil, tokenize, String.ofList_toList] at last
          simpa [List.intercalate] using last
      | @cons next other _ _ following later =>
          rw [List.map_cons, List.map_cons, List.intercalate_cons_cons, List.append_assoc, read,
            List.singleton_append, tokenize, if_pos rfl, ← List.map_cons, ih, String.ofList_toList]
          rfl

/-- The characters that stand for themselves between double quotes. -/
def isLiteral (char : Char) : Bool :=
  char ≠ '"' && char ≠ '$' && char ≠ '\\' && char.toNat != 96

theorem tokenize_literal (chars word rest : List Char)
    (literal : ∀ char ∈ chars, isLiteral char = true) :
    tokenize env .double word (chars ++ rest) =
      tokenize env .double (word ++ chars) rest := by
  induction chars generalizing word with
  | nil => rw [List.nil_append, List.append_nil]
  | cons char chars ih =>
      obtain ⟨mine, later⟩ := List.forall_mem_cons.mp literal
      simp only [isLiteral, Bool.and_eq_true, decide_eq_true_eq, bne_iff_ne] at mine
      obtain ⟨⟨⟨quote, dollar⟩, backslash⟩, backquote⟩ := mine
      have plain : ¬ (decide (char = '\\') || char.toNat == 96) = true := by
        simp [backslash, backquote]
      rw [List.cons_append, tokenize, if_neg quote, if_neg dollar, if_neg plain,
        ih (word ++ [char]) later, List.append_assoc, List.singleton_append]

theorem tokenize_name (chars held word rest : List Char) (plain : '}' ∉ chars) :
    tokenize env (.name held) word (chars ++ '}' :: rest) =
      (env (String.ofList (held ++ chars))).bind (fun value =>
        tokenize env .double (word ++ value.toList) rest) := by
  induction chars generalizing held with
  | nil => rw [List.nil_append, tokenize, if_pos rfl, List.append_nil]
  | cons char chars ih =>
      rw [List.mem_cons, not_or] at plain
      rw [List.cons_append, tokenize, if_neg (Ne.symm plain.1), ih (held ++ [char]) plain.2,
        List.append_assoc, List.singleton_append]

/-- A double-quoted word that expands one variable. -/
theorem tokenize_expansion (before name after rest : List Char)
    (start : ∀ char ∈ before, isLiteral char = true) (plain : '}' ∉ name)
    (finish : ∀ char ∈ after, isLiteral char = true) :
    tokenize env .between []
        ('"' :: (before ++ '$' :: '{' :: (name ++ '}' :: (after ++ '"' :: rest)))) =
      (env (String.ofList name)).bind (fun value =>
        tokenize env .bare (before ++ value.toList ++ after) rest) := by
  have opened : tokenize env .between []
      ('"' :: (before ++ '$' :: '{' :: (name ++ '}' :: (after ++ '"' :: rest)))) =
        tokenize env .double []
          (before ++ '$' :: '{' :: (name ++ '}' :: (after ++ '"' :: rest))) := rfl
  have named : ∀ tail, tokenize env .double before ('$' :: '{' :: tail) =
      tokenize env (.name []) before tail := fun _ => rfl
  rw [opened, tokenize_literal env before [] _ start, List.nil_append, named,
    tokenize_name env name [] before _ plain, List.nil_append]
  congr 1
  funext value
  rw [tokenize_literal env after _ _ finish, tokenize, if_pos rfl]

end Words

/-! Commands. -/

inductive Event where
  | made (directory : String)
  | wrote (file content : String)
  | restarted (unit : String)
  deriving DecidableEq

/-- What is written to a file, in order. -/
def writes (trace : List Event) (file : String) : List String :=
  trace.filterMap (fun event =>
    match event with
    | .wrote other content => if other = file then some content else none
    | _ => none)

/-- The variables that are set and what has been done so far, in order. -/
structure State where
  env : Environment
  trace : List Event

def State.record (state : State) (event : Event) : State :=
  { state with trace := state.trace ++ [event] }

/-- `sed "s|old|new|g"`, where both sides stand for themselves. -/
def substitution (script : String) : Option (String × String) :=
  match script.toList with
  | 's' :: '|' :: rest =>
      let old := rest.takeWhile (· ≠ '|')
      match rest.dropWhile (· ≠ '|') with
      | '|' :: tail =>
          let new := tail.takeWhile (· ≠ '|')
          if tail.dropWhile (· ≠ '|') = ['|', 'g'] ∧ old ≠ [] ∧
              old.all (fun char => char.isAlphanum || char == '_') ∧
              new.all (fun char => char ≠ '&' && char ≠ '\\' && char ≠ '\n') then
            some (String.ofList old, String.ofList new)
          else none
      | _ => none
  | _ => none

/-- The directory a file stands in. -/
def dirname (file : String) : Option String :=
  (Text.rpartition '/' file.toList).map (fun sides => String.ofList sides.1)

/-- A redirection needs the directory of its file. -/
def State.write (state : State) (file content : String) : Option State :=
  (dirname file).bind (fun directory =>
    if .made directory ∈ state.trace then some (state.record (.wrote file content)) else none)

def State.perform (state : State) : List Token → Option State
  | [.word "mkdir", .word "-p", .word directory] => some (state.record (.made directory))
  | [.word "printf", .word "%s", .word content, .redirect, .word file] =>
      state.write file content
  | [.word "printf", .word "%s", .word content, .pipe, .word "sed", .word script, .redirect,
      .word file] =>
      (substitution script).bind (fun sides =>
        state.write file (Text.replace content sides.1 sides.2))
  | [.word "systemctl", .word "restart", .word unit] => some (state.record (.restarted unit))
  | _ => none

def State.execute (state : State) (command : String) : Option State :=
  (tokenize state.env .between [] command.toList).bind state.perform

/-! What single commands do. -/

/-- A pattern of `sed` without special characters. -/
def Pattern (old : String) : Prop :=
  old ≠ "" ∧ ∀ char ∈ old.toList, (char.isAlphanum || char == '_') = true

/-- A replacement of `sed` without special characters. -/
def Replacement (new : String) : Prop :=
  '|' ∉ new.toList ∧ ∀ char ∈ new.toList, (char ≠ '&' && char ≠ '\\' && char ≠ '\n') = true

theorem substitution_literal (old new : String) (pattern : Pattern old)
    (replacement : Replacement new) :
    substitution (String.ofList ("s|".toList ++ old.toList ++ "|".toList ++ new.toList ++
      "|g".toList)) = some (old, new) := by
  obtain ⟨nonempty, named⟩ := pattern
  obtain ⟨whole, literal⟩ := replacement
  have free : '|' ∉ old.toList := by
    intro member
    exact absurd (named '|' member) (by decide)
  have shape : (String.ofList ("s|".toList ++ old.toList ++ "|".toList ++ new.toList ++
      "|g".toList)).toList = 's' :: '|' :: (old.toList ++ '|' :: (new.toList ++ ['|', 'g'])) := by
    simp
  have filled : old.toList ≠ [] := mt String.toList_eq_nil_iff.mp nonempty
  simp only [substitution, shape, Text.takeWhile_until '|' _ _ free,
    Text.dropWhile_until '|' _ _ free, Text.takeWhile_until '|' _ _ whole,
    Text.dropWhile_until '|' _ _ whole, String.ofList_toList]
  rw [if_pos ⟨trivial, filled, List.all_eq_true.mpr named, List.all_eq_true.mpr literal⟩]

theorem dirname_append (directory name : String) (flat : '/' ∉ name.toList) :
    dirname (directory ++ "/" ++ name) = some directory := by
  have cut : Text.rpartition '/' ('/' :: name.toList) = some ([], name.toList) := by
    simp only [Text.rpartition, Text.rpartition_of_not_mem '/' name.toList flat, if_pos]
  have shape : (directory ++ "/" ++ name).toList = directory.toList ++ '/' :: name.toList := by
    simp
  rw [dirname, shape, Text.rpartition_append '/' _ _ _ cut, Option.map_some, List.append_nil,
    String.ofList_toList]

section Commands

variable (state : State)

theorem execute_mkdir (directory : String) :
    state.execute ("mkdir -p " ++ quote directory) = some (state.record (.made directory)) := by
  have shape : ("mkdir -p " ++ quote directory).toList =
      (quote "mkdir").toList ++ ' ' :: ((quote "-p").toList ++ ' ' ::
        (quote directory).toList) := by
    rw [String.toList_append]
    rfl
  rw [State.execute, shape, tokenize_word, tokenize_word, tokenize_last]
  rfl

theorem execute_restart (unit : String) (safe : quote unit = unit) :
    state.execute ("systemctl restart " ++ unit) = some (state.record (.restarted unit)) := by
  have shape : ("systemctl restart " ++ unit).toList =
      (quote "systemctl").toList ++ ' ' :: ((quote "restart").toList ++ ' ' ::
        (quote unit).toList) := by
    rw [String.toList_append, safe]
    rfl
  rw [State.execute, shape, tokenize_word, tokenize_word, tokenize_last]
  rfl

theorem tokenize_redirect (file : String) :
    tokenize state.env .between [] ('>' :: ' ' :: (quote file).toList) =
      some [.redirect, .word file] := by
  have after : tokenize state.env .between [] ('>' :: ' ' :: (quote file).toList) =
      (tokenize state.env .between [] (quote file).toList).map (.redirect :: ·) := rfl
  rw [after, tokenize_last, Option.map_some]

theorem execute_printf (content file : String) :
    state.execute ("printf %s " ++ quote content ++ " > " ++ quote file) =
      state.write file content := by
  have shape : ("printf %s " ++ quote content ++ " > " ++ quote file).toList =
      (quote "printf").toList ++ ' ' :: ((quote "%s").toList ++ ' ' ::
        ((quote content).toList ++ ' ' :: '>' :: ' ' :: (quote file).toList)) := by
    rw [String.toList_append, String.toList_append, String.toList_append, List.append_assoc,
      List.append_assoc]
    rfl
  rw [State.execute, shape, tokenize_word, tokenize_word, tokenize_word, tokenize_redirect]
  rfl

theorem isLiteral_of_pattern (char : Char) (named : (char.isAlphanum || char == '_') = true) :
    isLiteral char = true := by
  have other : ∀ special : Char, (special.isAlphanum || special == '_') = false →
      char ≠ special := by
    rintro special outside rfl
    simp [named] at outside
  have backquote : char.toNat ≠ 96 := by
    intro code
    have same : char = Char.ofNat 96 := by rw [← code, Char.ofNat_toNat]
    exact other (Char.ofNat 96) (by decide) same
  have quote := other '"' (by decide)
  have dollar := other '$' (by decide)
  have backslash := other '\\' (by decide)
  simp [isLiteral, quote, dollar, backslash, backquote]

/-- A pipe through `sed` needs its variable, and writes the text with the pattern replaced. -/
theorem execute_sed (content old name file : String) (pattern : Pattern old)
    (plain : '}' ∉ name.toList) :
    state.execute ("printf %s " ++ quote content ++ " | sed \"s|" ++ old ++ "|$\x7b" ++ name ++
        "\x7d|g\" > " ++ quote file) =
      (state.env name).bind (fun new =>
        (substitution (String.ofList ("s|".toList ++ old.toList ++ "|".toList ++ new.toList ++
          "|g".toList))).bind (fun sides =>
            state.write file (Text.replace content sides.1 sides.2))) := by
  have shape : ("printf %s " ++ quote content ++ " | sed \"s|" ++ old ++ "|$\x7b" ++ name ++
      "\x7d|g\" > " ++ quote file).toList =
      (quote "printf").toList ++ ' ' :: ((quote "%s").toList ++ ' ' ::
        ((quote content).toList ++ ' ' :: '|' :: ' ' :: ((quote "sed").toList ++ ' ' ::
          '"' :: (("s|".toList ++ old.toList ++ "|".toList) ++ '$' :: '{' :: (name.toList ++ '}' ::
            ("|g".toList ++ '"' :: ' ' :: '>' :: ' ' :: (quote file).toList)))))) := by
    simp only [String.toList_append, List.append_assoc]
    rfl
  have piped : ∀ rest, tokenize state.env .between [] ('|' :: ' ' :: rest) =
      (tokenize state.env .between [] rest).map (.pipe :: ·) := fun _ => rfl
  have before : ∀ char ∈ "s|".toList ++ old.toList ++ "|".toList, isLiteral char = true := by
    intro char member
    simp only [List.mem_append] at member
    rcases member with (fixed | named) | fixed
    · exact List.all_eq_true.mp (show "s|".toList.all isLiteral = true by decide) char fixed
    · exact isLiteral_of_pattern char (pattern.2 char named)
    · exact List.all_eq_true.mp (show "|".toList.all isLiteral = true by decide) char fixed
  have after : ∀ char ∈ "|g".toList, isLiteral char = true :=
    List.all_eq_true.mp (show "|g".toList.all isLiteral = true by decide)
  rw [State.execute, shape, tokenize_word, tokenize_word, tokenize_word, piped, tokenize_word,
    tokenize_expansion state.env _ _ _ _ before plain after, String.ofList_toList]
  cases state.env name with
  | none => rfl
  | some new =>
      rw [Option.bind_some, Option.bind_some, tokenize, if_pos rfl, tokenize_redirect]
      rfl

end Commands

end ClusterApiForSlinky.Shell
