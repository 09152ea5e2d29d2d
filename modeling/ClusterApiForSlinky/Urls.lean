import ClusterApiForSlinky.Text

/-!
`urllib.parse.urlsplit` and the parts of its result, and what it makes of a URL
that was put together from an authority and a path.
-/

namespace ClusterApiForSlinky.Urls

/-- The ASCII characters other than letters; lower-casing keeps them. -/
def isMark (char : Char) : Bool := char.toNat < 128 && !char.isAlpha

/-- What `urlsplit` takes from elsewhere: `str.lower`, the characters whose NFKC
form holds one of `/?#@:`, and the check of an authority with brackets. -/
structure Tables where
  lower : List Char → List Char
  lower_marks : ∀ text, (lower text).filter isMark = text.filter isMark
  expands : Char → Bool
  bracketed : List Char → Bool

structure SplitResult where
  scheme : List Char
  netloc : List Char
  path : List Char
  query : List Char
  fragment : List Char
  deriving DecidableEq

def before (stop : Char) (chars : List Char) : List Char := chars.takeWhile (fun char => char ≠ stop)

def after (stop : Char) (chars : List Char) : List Char :=
  (chars.dropWhile (fun char => char ≠ stop)).tail

def isSchemeChar (char : Char) : Bool :=
  char.isAlphanum || char == '+' || char == '-' || char == '.'

/-- The lower-cased scheme and what is behind it. -/
def splitScheme (url : List Char) : List Char × List Char :=
  let head := before ':' url
  if ':' ∈ url ∧ head.head?.any Char.isAlpha = true ∧ head.all isSchemeChar = true then
    (head.map Char.toLower, after ':' url)
  else ([], url)

/-- A character at which an authority ends. -/
def endsNetloc (char : Char) : Bool := char == '/' || char == '?' || char == '#'

def splitNetloc : List Char → List Char × List Char
  | '/' :: '/' :: rest =>
      (rest.takeWhile (fun char => !endsNetloc char), rest.dropWhile (fun char => !endsNetloc char))
  | rest => ([], rest)

/-- The characters that are taken out of a URL before it is read. -/
def isRemoved (char : Char) : Bool := char == '\t' || char == '\r' || char == '\n'

namespace Tables
variable (tables : Tables)

def admits (netloc : List Char) : Bool :=
  (netloc.contains '[' == netloc.contains ']') &&
    (!netloc.contains '[' || tables.bracketed netloc) &&
    netloc.all (fun char => char.toNat < 128 || !tables.expands char)

/-- `none` is a ValueError. -/
def urlsplit (text : List Char) : Option SplitResult :=
  let url := (text.dropWhile (fun char => char ≤ ' ')).filter (fun char => !isRemoved char)
  let (scheme, rest) := splitScheme url
  let (netloc, tail) := splitNetloc rest
  if tables.admits netloc then
    some { scheme, netloc, path := before '?' (before '#' tail), query := after '?' (before '#' tail),
           fragment := after '#' tail }
  else none

/-- A host name is lower-cased up to its zone. -/
def lowerHost (name : List Char) : List Char :=
  tables.lower (before '%' name) ++ name.dropWhile (fun char => char ≠ '%')

end Tables

/-! The parts of an authority. -/

def userInfo (netloc : List Char) : Option (List Char) :=
  (Text.rpartition '@' netloc).map Prod.fst

def hostInfo (netloc : List Char) : List Char :=
  ((Text.rpartition '@' netloc).map Prod.snd).getD netloc

/-- The host name as it is written, and the text of the port. -/
def hostAndPort (info : List Char) : List Char × List Char :=
  if '[' ∈ info then (before ']' (after '[' info), after ':' (after ']' (after '[' info)))
  else (before ':' info, after ':' info)

namespace SplitResult

def username (parsed : SplitResult) : Option (List Char) :=
  (userInfo parsed.netloc).map (before ':')

def password (parsed : SplitResult) : Option (List Char) :=
  (userInfo parsed.netloc).bind (fun info => if ':' ∈ info then some (after ':' info) else none)

def hostname (tables : Tables) (parsed : SplitResult) : Option (List Char) :=
  let name := (hostAndPort (hostInfo parsed.netloc)).1
  if name = [] then none else some (tables.lowerHost name)

/-- The outer `none` is a ValueError. -/
def port (parsed : SplitResult) : Option (Option Nat) :=
  let text := (hostAndPort (hostInfo parsed.netloc)).2
  if text = [] then some none
  else match Text.parseDigits text with
    | some value => if value ≤ 65535 then some (some value) else none
    | none => none

end SplitResult

/-- Lower-casing moves the capital letters and nothing else. -/
theorem toLower_cases (char : Char) :
    char.toLower = char ∨ (isMark char = false ∧ isMark char.toLower = false) := by
  unfold Char.toLower
  split
  · next upper =>
      right
      have low : 65 ≤ char.val.toNat := upper.1
      have high : char.val.toNat ≤ 90 := upper.2
      have moved : (char.val + ('a'.val - 'A'.val)).toNat = char.val.toNat + 32 := by
        rw [UInt32.toNat_add]
        change (char.val.toNat + 32) % 4294967296 = _
        omega
      have letter : char.isAlpha = true :=
        (Text.isAlpha_iff char).mpr (.inl ((Text.isUpper_iff char).mpr ⟨low, high⟩))
      refine ⟨by rw [isMark, letter, Bool.not_true, Bool.and_false], ?_⟩
      rw [isMark, Bool.and_eq_false_iff]
      right
      rw [Bool.not_eq_false', Text.isAlpha_iff, Text.isLower_iff]
      right
      change 97 ≤ (char.val + ('a'.val - 'A'.val)).toNat ∧
        (char.val + ('a'.val - 'A'.val)).toNat ≤ 122
      omega
  · exact .inl rfl

theorem lowered_marks (text : List Char) :
    (text.map Char.toLower).filter isMark = text.filter isMark := by
  induction text with
  | nil => rfl
  | cons char rest ih =>
      rw [List.map_cons, List.filter_cons, List.filter_cons, ih]
      rcases toLower_cases char with same | ⟨letter, lowered⟩
      · rw [same]
      · rw [letter, lowered]
        rfl

/-! What `urlsplit` takes between brackets: an address that the module ipaddress
reads as one of version 6, or one of a later kind. -/

def isOctet (text : List Char) : Bool :=
  text.length ≤ 3 && (text = ['0'] || text.head? ≠ some '0') &&
    (Text.parseDigits text).any (fun value => value ≤ 255)

def isIPv4 (text : List Char) : Bool :=
  (text.splitOn '.').length = 4 && (text.splitOn '.').all isOctet

def isHextet (text : List Char) : Bool :=
  text ≠ [] && text.length ≤ 4 && text.all (fun char => (Text.hexValue char).isSome)

/-- What stands between the colons; a last part in the form of version 4 counts for two. -/
def hextets (text : List Char) : Option (List (List Char)) :=
  let parts := text.splitOn ':'
  let last := parts.getLastD []
  if parts.length < 3 then none
  else if '.' ∉ last then some parts
  else if isIPv4 last then some (parts.dropLast ++ [['0'], ['0']])
  else none

/-- One empty part inside stands for zeros; only next to it may the text begin
or end with a colon. -/
def isHextets (parts : List (List Char)) : Bool :=
  let inner := parts.tail.dropLast
  let side (part : List (List Char)) := if part = [[]] then [] else part
  match inner.count [] with
  | 0 => parts.length = 8 && parts.all isHextet
  | 1 =>
      let skip := inner.idxOf [] + 1
      let kept := side (parts.take skip) ++ side (parts.drop (skip + 1))
      parts.length ≤ 9 && kept.length ≤ 7 && kept.all isHextet
  | _ => false

def isIPv6 (text : List Char) : Bool :=
  let zone := after '%' text
  ('%' ∉ text || (zone ≠ [] && '%' ∉ zone)) && (hextets (before '%' text)).any isHextets

/-- `_check_bracketed_host` -/
def isBracketedHost : List Char → Bool
  | 'v' :: rest =>
      before '.' rest ≠ [] && (before '.' rest).all (fun char => (Text.hexValue char).isSome) &&
        after '.' rest ≠ []
  | text => isIPv6 text

example : [ "::1", "fe80::1%eth0", "::ffff:10.0.0.1", "v1.a" ].all
    (fun text => isBracketedHost text.toList) = true := by decide +kernel

example : [ "10.0.0.1", "1::2::3", ":1::", "registry", "v.a" ].any
    (fun text => isBracketedHost text.toList) = false := by decide +kernel

/-- The characters whose NFKC form holds one of `/?#@:`. -/
def expanding : List Char := "⁇⁈⁉℀℁℅℆⩴︓︖﹕﹖﹟﹫＃／：？＠".toList

/-- The tables, with lower-casing for ASCII text. -/
def asciiTables : Tables where
  lower text := text.map Char.toLower
  lower_marks := lowered_marks
  expands := expanding.contains
  bracketed netloc := isBracketedHost (before ']' (after '[' netloc))

/-! Pieces of a text. -/

theorem before_append (stop : Char) (first second : List Char) (absent : stop ∉ first) :
    before stop (first ++ stop :: second) = first := Text.takeWhile_until stop first second absent

theorem after_append (stop : Char) (first second : List Char) (absent : stop ∉ first) :
    after stop (first ++ stop :: second) = second := by
  rw [after, Text.dropWhile_until stop first second absent, List.tail_cons]

theorem before_absent (stop : Char) (chars : List Char) (absent : stop ∉ chars) :
    before stop chars = chars := by
  apply List.takeWhile_eq_self_iff.mpr
  intro char member
  exact decide_eq_true (fun same => absent (same ▸ member))

theorem after_absent (stop : Char) (chars : List Char) (absent : stop ∉ chars) :
    after stop chars = [] := by
  rw [after, List.dropWhile_eq_nil_iff.mpr, List.tail_nil]
  intro char member
  exact decide_eq_true (fun same => absent (same ▸ member))

theorem not_mem_before (stop : Char) (chars : List Char) : stop ∉ before stop chars := by
  intro member
  have kept := List.mem_takeWhile_imp member
  exact of_decide_eq_true kept rfl

theorem before_sublist (stop : Char) (chars : List Char) : (before stop chars).Sublist chars :=
  List.takeWhile_sublist _

theorem after_sublist (stop : Char) (chars : List Char) : (after stop chars).Sublist chars :=
  (List.tail_sublist _).trans (List.dropWhile_sublist _)

theorem count_after (stop : Char) (chars : List Char) (present : stop ∈ chars) :
    (after stop chars).count stop + 1 = chars.count stop := by
  induction chars with
  | nil => cases present
  | cons char rest ih =>
      by_cases here : char = stop
      · subst here
        simp [after]
      · have later := (List.mem_cons.mp present).resolve_left (Ne.symm here)
        have same : after stop (char :: rest) = after stop rest := by
          rw [after, List.dropWhile_cons_of_pos (by simpa using here), after]
        rw [same, ih later, List.count_cons_of_ne here]

theorem not_mem_hostInfo (netloc : List Char) : '@' ∉ hostInfo netloc := by
  rw [hostInfo]
  cases cut : Text.rpartition '@' netloc with
  | none =>
      intro member
      obtain ⟨sides, found⟩ := Text.rpartition_of_mem '@' netloc member
      cases cut.symm.trans found
  | some sides => exact ((Text.rpartition_eq_some_iff '@' netloc sides.1 sides.2).mp cut).2

theorem hostInfo_sublist (netloc : List Char) : (hostInfo netloc).Sublist netloc := by
  rw [hostInfo]
  cases cut : Text.rpartition '@' netloc with
  | none => exact List.Sublist.refl _
  | some sides =>
      have whole := ((Text.rpartition_eq_some_iff '@' netloc sides.1 sides.2).mp cut).1
      conv_rhs => rw [whole]
      exact (List.sublist_cons_self _ _).trans (List.sublist_append_right _ _)

theorem userInfo_subset (netloc info : List Char) (taken : userInfo netloc = some info) :
    info ⊆ netloc := by
  obtain ⟨sides, cut, rfl⟩ := Option.map_eq_some_iff.mp taken
  have whole := ((Text.rpartition_eq_some_iff '@' netloc sides.1 sides.2).mp cut).1
  intro char member
  rw [whole]
  exact List.mem_append_left _ member

theorem host_sublist (info : List Char) : (hostAndPort info).1.Sublist info := by
  rw [hostAndPort]
  split
  · exact (before_sublist _ _).trans (after_sublist _ _)
  · exact before_sublist _ _

theorem lowerHost_marks (tables : Tables) (name : List Char) :
    (tables.lowerHost name).filter isMark = name.filter isMark := by
  have parts : name = before '%' name ++ name.dropWhile (fun char => char ≠ '%') :=
    List.takeWhile_append_dropWhile.symm
  conv_rhs => rw [parts]
  rw [Tables.lowerHost, List.filter_append, List.filter_append, tables.lower_marks]

/-! What is known of every result. -/

theorem splitScheme_sublist (url : List Char) : (splitScheme url).2.Sublist url := by
  rw [splitScheme]
  split
  · exact after_sublist ':' url
  · exact List.Sublist.refl _

theorem splitNetloc_parts (rest : List Char) :
    (∀ char ∈ (splitNetloc rest).1, endsNetloc char = false) ∧
    (splitNetloc rest).2.Sublist rest ∧
    ((splitNetloc rest).1 ≠ [] → ∀ char ∈ (splitNetloc rest).2.head?, endsNetloc char = true) := by
  unfold splitNetloc
  split
  · next rest =>
      refine ⟨?_, ?_, ?_⟩
      · intro char member
        simpa using List.mem_takeWhile_imp member
      · exact (List.dropWhile_sublist _).trans
          ((List.sublist_cons_self _ _).trans (List.sublist_cons_self _ _))
      · intro _ char member
        have stopped := List.head?_dropWhile_not (fun char => !endsNetloc char) rest
        rw [Option.mem_def.mp member] at stopped
        simpa using stopped
  · exact ⟨nofun, List.Sublist.refl _, fun filled => absurd rfl filled⟩

/-- Without a colon there is no scheme. -/
theorem urlsplit_colonless (tables : Tables) (text : List Char) (parsed : SplitResult)
    (absent : ':' ∉ text) (read : tables.urlsplit text = some parsed) : parsed.scheme = [] := by
  have bare : ∀ url : List Char, url.Sublist text → splitScheme url = ([], url) := by
    intro url part
    exact if_neg (fun schemed => absent (part.subset schemed.1))
  unfold Tables.urlsplit at read
  dsimp only at read
  rw [bare _ (List.filter_sublist.trans (List.dropWhile_sublist _))] at read
  dsimp only at read
  split at read
  · cases read
    rfl
  · cases read

theorem urlsplit_parts (tables : Tables) (text : List Char) (parsed : SplitResult)
    (split_text : tables.urlsplit text = some parsed) :
    (∀ char ∈ parsed.netloc, endsNetloc char = false) ∧
    (∀ char ∈ parsed.path, char ≠ '?' ∧ char ≠ '#' ∧ isRemoved char = false) ∧
    (parsed.netloc ≠ [] → parsed.path ≠ [] → parsed.path.head? = some '/') := by
  rw [Tables.urlsplit] at split_text
  dsimp only at split_text
  split at split_text
  · cases split_text
    obtain ⟨ends, within, stops⟩ := splitNetloc_parts (splitScheme
      ((text.dropWhile (fun char => char ≤ ' ')).filter (fun char => !isRemoved char))).2
    refine ⟨ends, ?_, ?_⟩
    · intro char member
      have inside := (before_sublist '#' _).subset ((before_sublist '?' _).subset member)
      have kept := (splitScheme_sublist _).subset (within.subset inside)
      refine ⟨?_, ?_, by simpa using (List.mem_filter.mp kept).2⟩
      · rintro rfl
        exact not_mem_before '?' _ member
      · rintro rfl
        exact not_mem_before '#' _ ((before_sublist '?' _).subset member)
    · intro filled rooted
      dsimp only at filled rooted ⊢
      generalize (splitNetloc (splitScheme ((text.dropWhile (fun char => char ≤ ' ')).filter
        (fun char => !isRemoved char))).2).2 = tail at stops rooted
      have first := stops filled
      cases tail with
      | nil => exact absurd rfl rooted
      | cons char rest =>
          have ends_here := first char rfl
          simp only [endsNetloc, Bool.or_eq_true, beq_iff_eq] at ends_here
          rcases ends_here with (rfl | rfl) | rfl
          · rfl
          · exact absurd rfl rooted
          · exact absurd rfl rooted
  · cases split_text

theorem netloc_of_hostname (tables : Tables) (parsed : SplitResult) (name : List Char)
    (named : parsed.hostname tables = some name) : parsed.netloc ≠ [] := by
  intro empty
  rw [SplitResult.hostname, empty] at named
  cases named

/-! A URL put together from its parts. -/

/-- The characters that mean something to the reading of an authority. -/
def isSeparator (char : Char) : Bool :=
  endsNetloc char || isRemoved char || char == '@' || char == ':' || char == '[' || char == ']'

def authority (user : Option (List Char)) (host port : List Char) : List Char :=
  (user.map (fun name => name ++ ['@'])).getD [] ++ (host ++ ':' :: port)

def built (user : Option (List Char)) (host port path : List Char) : List Char :=
  "ssh://".toList ++ (authority user host port ++ path)

/-- The authority and what is behind it, of whatever is behind a scheme and the slashes. -/
theorem urlsplit_schemed (tables : Tables) (word rest : List Char)
    (letter : word.head?.any Char.isAlpha = true) (named : word.all isSchemeChar = true) :
    tables.urlsplit (word ++ "://".toList ++ rest) =
      let kept := rest.filter (fun char => !isRemoved char)
      let netloc := kept.takeWhile (fun char => !endsNetloc char)
      let tail := kept.dropWhile (fun char => !endsNetloc char)
      if tables.admits netloc then
        some { scheme := word.map Char.toLower, netloc, path := before '?' (before '#' tail),
               query := after '?' (before '#' tail), fragment := after '#' tail }
      else none := by
  -- No character of the scheme is a colon, stripped in front or taken out.
  have uncut : ':' ∉ word := fun member => absurd (List.all_eq_true.mp named ':' member) (by decide)
  have front : (word ++ "://".toList ++ rest).dropWhile (fun char => char ≤ ' ') =
      word ++ "://".toList ++ rest := by
    cases word with
    | nil => cases letter
    | cons first others =>
        rw [List.cons_append, List.cons_append, List.dropWhile_cons_of_neg]
        simp only [decide_eq_true_eq]
        intro blank
        have small : first.toNat ≤ 32 := blank
        have alpha : first.isAlpha = true := letter
        rw [Text.isAlpha_iff, Text.isUpper_iff, Text.isLower_iff] at alpha
        omega
  have clean : word.filter (fun char => !isRemoved char) = word := by
    rw [List.filter_eq_self]
    intro char member
    have scheme := List.all_eq_true.mp named char member
    simp only [isRemoved, Bool.not_eq_true', Bool.or_eq_false_iff, beq_eq_false_iff_ne]
    refine ⟨⟨?_, ?_⟩, ?_⟩
    all_goals
      rintro rfl
      exact absurd scheme (by decide)
  have start : (word ++ "://".toList ++ rest).filter (fun char => !isRemoved char) =
      word ++ ':' :: '/' :: '/' :: rest.filter (fun char => !isRemoved char) := by
    rw [List.filter_append, List.filter_append, clean, List.append_assoc]
    rfl
  have scheme : ∀ tail, splitScheme (word ++ ':' :: tail) = (word.map Char.toLower, tail) := by
    intro tail
    have present : ':' ∈ word ++ ':' :: tail := by simp
    rw [splitScheme, before_append ':' word tail uncut, after_append ':' word tail uncut,
      if_pos ⟨present, letter, named⟩]
  delta Tables.urlsplit
  simp only [front, start, scheme]
  rfl

theorem urlsplit_ssh (tables : Tables) (rest : List Char) :
    tables.urlsplit ("ssh://".toList ++ rest) =
      let kept := rest.filter (fun char => !isRemoved char)
      let netloc := kept.takeWhile (fun char => !endsNetloc char)
      let tail := kept.dropWhile (fun char => !endsNetloc char)
      if tables.admits netloc then
        some { scheme := "ssh".toList, netloc, path := before '?' (before '#' tail),
               query := after '?' (before '#' tail), fragment := after '#' tail }
      else none := urlsplit_schemed tables "ssh".toList rest (by decide) (by decide)

section Built
variable (tables : Tables) (user : Option (List Char)) (host port path : List Char)

/-- What is asked of the parts besides the host. -/
structure Quiet : Prop where
  user : ∀ name, user = some name → ∀ char ∈ name, isSeparator char = false ∧ char.toNat < 128
  port : ∀ char ∈ port, isSeparator char = false ∧ char.toNat < 128
  rooted : path.head? = some '/'
  path : ∀ char ∈ path, char ≠ '?' ∧ char ≠ '#' ∧ isRemoved char = false

variable {user host port path} (quiet : Quiet user port path)

include quiet

theorem mem_authority (char : Char) (member : char ∈ authority user host port) :
    char = '@' ∨ char = ':' ∨ (isSeparator char = false ∧ char.toNat < 128) ∨ char ∈ host := by
  rcases List.mem_append.mp member with front | rest
  · cases user with
    | none => cases front
    | some name =>
        rcases List.mem_append.mp front with inside | sign
        · exact .inr (.inr (.inl (quiet.user name rfl char inside)))
        · exact .inl (List.mem_singleton.mp sign)
  · rcases List.mem_append.mp rest with inside | behind
    · exact .inr (.inr (.inr inside))
    · rcases List.mem_cons.mp behind with colon | digit
      · exact .inr (.inl colon)
      · exact .inr (.inr (.inl (quiet.port char digit)))

theorem separator_of_mem (char : Char) (member : char ∈ authority user host port)
    (apart : char ∉ host) (separator : isSeparator char = true) : char = '@' ∨ char = ':' := by
  rcases mem_authority quiet char member with sign | colon | other | inside
  · exact .inl sign
  · exact .inr colon
  · rw [separator] at other
    cases other.1
  · exact absurd inside apart

/-- A host without an end of an authority leaves authority and path whole. -/
theorem urlsplit_built (ends : ∀ char ∈ host, endsNetloc char = false)
    (kept : ∀ char ∈ host, isRemoved char = false) :
    tables.urlsplit (built user host port path) =
      if tables.admits (authority user host port) then
        some { scheme := "ssh".toList, netloc := authority user host port, path,
               query := [], fragment := [] }
      else none := by
  have inside : ∀ char ∈ authority user host port,
      endsNetloc char = false ∧ isRemoved char = false := by
    intro char member
    rcases mem_authority quiet char member with rfl | rfl | ⟨plain, -⟩ | listed
    · decide
    · decide
    · simp only [isSeparator, Bool.or_eq_false_iff] at plain
      exact plain.1.1.1.1
    · exact ⟨ends char listed, kept char listed⟩
  have whole : (authority user host port ++ path).filter (fun char => !isRemoved char) =
      authority user host port ++ path := by
    apply List.filter_eq_self.mpr
    intro char member
    rcases List.mem_append.mp member with front | back
    · rw [(inside char front).2]
      rfl
    · rw [(quiet.path char back).2.2]
      rfl
  have stays : ∀ char ∈ authority user host port, (!endsNetloc char) = true := by
    intro char member
    rw [(inside char member).1]
    rfl
  have rooted := quiet.rooted
  have noHash : '#' ∉ path := fun member => (quiet.path _ member).2.1 rfl
  have noMark : '?' ∉ path := fun member => (quiet.path _ member).1 rfl
  cases path with
  | nil => cases rooted
  | cons slash rest =>
      cases rooted
      have netloc : (authority user host port ++ '/' :: rest).takeWhile
          (fun char => !endsNetloc char) = authority user host port := by
        rw [List.takeWhile_append_of_pos stays, List.takeWhile_cons_of_neg (by decide),
          List.append_nil]
      have tail : (authority user host port ++ '/' :: rest).dropWhile
          (fun char => !endsNetloc char) = '/' :: rest := by
        rw [List.dropWhile_append_of_pos stays, List.dropWhile_cons_of_neg (by decide)]
      have cut := urlsplit_ssh tables (authority user host port ++ '/' :: rest)
      rw [whole] at cut
      dsimp only at cut
      rw [netloc, tail] at cut
      rw [before_absent '#' _ noHash, before_absent '?' _ noMark, after_absent '#' _ noHash,
        after_absent '?' _ noMark] at cut
      exact cut

omit quiet in
theorem rpartition_authority (name : List Char) (absent : '@' ∉ host ++ ':' :: port) :
    Text.rpartition '@' (authority (some name) host port) = some (name, host ++ ':' :: port) := by
  apply (Text.rpartition_eq_some_iff '@' _ _ _).mpr
  refine ⟨?_, absent⟩
  simp [authority]

theorem userInfo_authority (noSign : '@' ∉ host) :
    userInfo (authority user host port) = user ∧
      hostInfo (authority user host port) = host ++ ':' :: port := by
  have absent : '@' ∉ host ++ ':' :: port := by
    intro member
    rcases List.mem_append.mp member with inside | behind
    · exact noSign inside
    · rcases List.mem_cons.mp behind with colon | digit
      · cases colon
      · exact absurd (quiet.port _ digit).1 (by decide)
  cases user with
  | none =>
      have whole : authority none host port = host ++ ':' :: port := rfl
      rw [userInfo, hostInfo, whole, Text.rpartition_of_not_mem '@' _ absent]
      exact ⟨rfl, rfl⟩
  | some name =>
      rw [userInfo, hostInfo, rpartition_authority name absent]
      exact ⟨rfl, rfl⟩

omit quiet in
/-- The host name that is read has no end of an authority, no removed character and no sign. -/
theorem clean_host (found : ∃ parsed, tables.urlsplit (built user host port path) = some parsed ∧
      (hostAndPort (hostInfo parsed.netloc)).1.filter isMark = host.filter isMark) :
    ∀ char ∈ host, endsNetloc char = false ∧ isRemoved char = false ∧ char ≠ '@' := by
  obtain ⟨parsed, split, marks⟩ := found
  delta built at split
  rw [urlsplit_ssh] at split
  dsimp only at split
  split at split
  · cases split
    intro char member
    by_contra special
    have mark : isMark char = true := by
      by_contra other
      apply special
      refine ⟨?_, ?_, ?_⟩
      · by_contra ends
        simp only [endsNetloc, Bool.not_eq_false, Bool.or_eq_true, beq_iff_eq] at ends
        rcases ends with (rfl | rfl) | rfl <;> exact other (by decide)
      · by_contra removed
        simp only [isRemoved, Bool.not_eq_false, Bool.or_eq_true, beq_iff_eq] at removed
        rcases removed with (rfl | rfl) | rfl <;> exact other (by decide)
      · rintro rfl
        exact other (by decide)
    have listed := List.mem_filter.mpr ⟨member, mark⟩
    rw [← marks] at listed
    have inside := (host_sublist _).subset (List.mem_of_mem_filter listed)
    have kept := (hostInfo_sublist _).subset inside
    apply special
    refine ⟨?_, ?_, ?_⟩
    · simpa using List.mem_takeWhile_imp kept
    · simpa using (List.mem_filter.mp ((List.takeWhile_sublist _).subset kept)).2
    · rintro rfl
      exact not_mem_hostInfo _ inside
  · cases split

/-- A host that is read again, up to the case of its letters, is one name. -/
theorem plain_host (found : ∃ parsed, tables.urlsplit (built user host port path) = some parsed ∧
      (hostAndPort (hostInfo parsed.netloc)).1.filter isMark = host.filter isMark) :
    ∀ char ∈ host, isSeparator char = false := by
  have clean := clean_host tables found
  obtain ⟨parsed, split, marks⟩ := found
  rw [urlsplit_built tables quiet (fun char member => (clean char member).1)
    (fun char member => (clean char member).2.1)] at split
  split at split
  · next admitted =>
      cases split
      dsimp only at marks
      rw [(userInfo_authority quiet (fun member => (clean _ member).2.2 rfl)).2] at marks
      have counts : ∀ stop, isMark stop = true →
          (hostAndPort (host ++ ':' :: port)).1.count stop = host.count stop := by
        intro stop mark
        rw [← List.count_filter mark, marks, List.count_filter mark]
      have noPort : ∀ stop, isSeparator stop = true → stop ∉ port := by
        intro stop separator member
        rw [(quiet.port stop member).1] at separator
        cases separator
      have noOpen : '[' ∉ host := by
        intro member
        have inside : '[' ∈ host ++ ':' :: port := List.mem_append_left _ member
        have whole := counts '[' (by decide)
        have behind := count_after '[' _ inside
        have shorter := (before_sublist ']' (after '[' (host ++ ':' :: port))).count_le '['
        rw [hostAndPort, if_pos inside] at whole
        dsimp only at whole
        rw [List.count_append, List.count_cons_of_ne (by decide),
          List.count_eq_zero.mpr (noPort '[' (by decide))] at behind
        omega
      have noOpenBehind : '[' ∉ host ++ ':' :: port := by
        intro member
        rcases List.mem_append.mp member with inside | behind
        · exact noOpen inside
        · rcases List.mem_cons.mp behind with colon | digit
          · cases colon
          · exact noPort '[' (by decide) digit
      have noClose : ']' ∉ host := by
        intro member
        have inside : ']' ∈ authority user host port := by
          exact List.mem_append_right _ (List.mem_append_left _ member)
        have outside : '[' ∉ authority user host port := by
          intro open_bracket
          rcases separator_of_mem quiet '[' open_bracket noOpen (by decide) with sign | colon
          · cases sign
          · cases colon
        have level := (Bool.and_eq_true_iff.mp (Bool.and_eq_true_iff.mp admitted).1).1
        rw [List.contains_iff_mem.mpr inside, beq_iff_eq] at level
        exact outside (List.contains_iff_mem.mp level)
      have noColon : ':' ∉ host := by
        have none : ':' ∉ (hostAndPort (host ++ ':' :: port)).1 := by
          rw [hostAndPort, if_neg noOpenBehind]
          exact not_mem_before ':' _
        have whole := counts ':' (by decide)
        rw [List.count_eq_zero.mpr none] at whole
        exact List.count_eq_zero.mp whole.symm
      intro char member
      obtain ⟨ends, removed, sign⟩ := clean char member
      have colon : char ≠ ':' := fun same => noColon (same ▸ member)
      have opens : char ≠ '[' := fun same => noOpen (same ▸ member)
      have closes : char ≠ ']' := fun same => noClose (same ▸ member)
      simp [isSeparator, ends, removed, sign, colon, opens, closes]
  · cases split

/-- A plain host is read as it was put in, where its characters are admitted. -/
theorem read_built (plain : ∀ char ∈ host, isSeparator char = false) :
    tables.urlsplit (built user host port path) =
      (if host.all (fun char => char.toNat < 128 || !tables.expands char) then
        some { scheme := "ssh".toList, netloc := authority user host port, path,
               query := [], fragment := [] }
      else none) ∧
    userInfo (authority user host port) = user ∧
    hostAndPort (hostInfo (authority user host port)) = (host, port) := by
  have apart : ∀ char, isSeparator char = true → char ∉ host := by
    intro char separator member
    rw [plain char member] at separator
    cases separator
  have ends : ∀ char ∈ host, endsNetloc char = false := by
    intro char member
    have other := plain char member
    simp only [isSeparator, Bool.or_eq_false_iff] at other
    exact other.1.1.1.1.1
  have kept : ∀ char ∈ host, isRemoved char = false := by
    intro char member
    have other := plain char member
    simp only [isSeparator, Bool.or_eq_false_iff] at other
    exact other.1.1.1.1.2
  have bracketless : ∀ stop, isSeparator stop = true → stop ≠ '@' → stop ≠ ':' →
      stop ∉ authority user host port := by
    intro stop separator sign colon member
    rcases separator_of_mem quiet stop member (apart stop separator) separator with here | there
    · exact sign here
    · exact colon there
  have noOpen := bracketless '[' (by decide) (by decide) (by decide)
  have noClose := bracketless ']' (by decide) (by decide) (by decide)
  obtain ⟨user_read, info⟩ := userInfo_authority quiet (apart '@' (by decide))
  have open_in_info : '[' ∉ host ++ ':' :: port :=
    fun member => noOpen (List.mem_append_right _ member)
  refine ⟨?_, user_read, ?_⟩
  · rw [urlsplit_built tables quiet ends kept]
    have admitted : tables.admits (authority user host port) =
        host.all (fun char => char.toNat < 128 || !tables.expands char) := by
      have opens : (authority user host port).contains '[' = false := by
        simpa using noOpen
      have closes : (authority user host port).contains ']' = false := by
        simpa using noClose
      rw [Tables.admits, opens, closes, Bool.eq_iff_iff]
      simp only [beq_self_eq_true, Bool.not_false, Bool.true_or, Bool.true_and, List.all_eq_true]
      constructor
      · intro every char member
        exact every char (List.mem_append_right _ (List.mem_append_left _ member))
      · intro every char member
        rcases mem_authority quiet char member with rfl | rfl | ⟨-, ascii⟩ | inside
        · rfl
        · rfl
        · rw [decide_eq_true ascii, Bool.true_or]
        · exact every char inside
    rw [admitted]
  · rw [info, hostAndPort, if_neg open_in_info, before_append ':' _ _ (apart ':' (by decide)),
      after_append ':' _ _ (apart ':' (by decide))]

end Built

end ClusterApiForSlinky.Urls
