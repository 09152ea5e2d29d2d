import ClusterApiForSlinky.SdkPatchOutput

/-!
A patch replaces the two definitions in place, puts the replacements in effect
and is done after one run, exactly when both notions of line agree up to the
second definition, nothing else binds the two names behind it, and the marker
stays among the first lines.
-/

namespace ClusterApiForSlinky.SdkPatch
open LineBreaks ModelCodec

/-- The last statement of a module that binds or deletes a name. -/
def inEffect (body : List Statement) (name : String) : Option Statement :=
  body.reverse.find? (fun statement => name ∈ statement.binds)

/-- A source at whose end a name is the function of this text. -/
def DefinedAs (astParse : List Char → Option (List Statement)) (source : List Char)
    (name : String) (text : List Char) : Prop :=
  ∃ body definition decorators signature last, astParse source = some body ∧
    inEffect body name = some (.functionDef definition decorators signature) ∧
    definition.name = name ∧ definition.endLineno = some last ∧
    (((lines isNewline source).take last).drop (definition.lineno - 1)).flatten = text

theorem isMarked_iff (source : List Char) : isMarked source = true ↔
    ∃ line ∈ (lines isBreak source).take 5, marker.toList <:+: stripEnd isBreak line := by
  rw [isMarked, Text.contains_iff, String.toList_ofList,
    Text.infix_intercalate _ _ (by decide) (by decide), splitLines, ← List.map_take]
  simp only [List.mem_map, exists_exists_and_eq_and]

theorem inEffect_eq (before after : List Statement) (statement : Statement) (name : String)
    (bound : name ∈ statement.binds) (free : ∀ other ∈ after, name ∉ other.binds) :
    inEffect (before ++ statement :: after) name = some statement := by
  have behind : after.reverse.find? (fun other => name ∈ other.binds) = none := by
    apply List.find?_eq_none.mpr
    intro other member
    simpa using free other (List.mem_reverse.mp member)
  rw [inEffect, List.reverse_append, List.reverse_cons, List.append_assoc, List.find?_append,
    behind, Option.none_or, List.singleton_append, List.find?_cons_of_pos (by simpa using bound)]

/-- A definition of the name that is in effect stands in front of nothing that
binds the name, when no later definition has the name. -/
theorem free_of_inEffect (before after : List Statement) (statement : Statement) (name : String)
    (definition : FunctionDef) (decorators signature : List String)
    (effect : inEffect (before ++ statement :: after) name =
      some (.functionDef definition decorators signature))
    (named : definition.name = name) (last : ∀ other ∈ definitions after, other.name ≠ name) :
    ∀ other ∈ after, name ∉ other.binds := by
  intro other member bound
  rw [inEffect, List.reverse_append, List.reverse_cons, List.append_assoc,
    List.find?_append] at effect
  cases found : after.reverse.find? (fun other => name ∈ other.binds) with
  | none =>
      have free := List.find?_eq_none.mp found other (List.mem_reverse.mpr member)
      exact free (decide_eq_true bound)
  | some binding =>
      rw [found] at effect
      cases effect
      have inside := List.mem_reverse.mp (List.mem_of_find?_eq_some found)
      exact last definition (List.mem_filterMap.mpr ⟨_, inside, rfl⟩) named

def replacementLength (target : Target) (function : String) : Nat :=
  match replacement target function with
  | .ok text => (lines isNewline text).length
  | .error _ => 0

namespace Site
variable {astParse : List Char → Option (List Statement)} {source : List Char}
  (site : Site astParse source)

/-- The lines outside of the definitions that are among the first five when the
definitions are as long as their replacements. -/
def leading (target : Target) : List (List Char) :=
  let first := (site.above isBreak).length + replacementLength target site.first.name
  let second := first + (site.between isBreak).length + replacementLength target site.second.name
  (site.above isBreak).take 5 ++ (site.between isBreak).take (5 - first) ++
    (site.below isBreak).take (5 - second)

/-- Only the two definitions change, and nothing is left to change. -/
structure PatchesExactly (target : Target) (output : List Char) : Prop where
  replaced : ∃ firstText secondText, replacement target site.first.name = .ok firstText ∧
    replacement target site.second.name = .ok secondText ∧
    output = site.rewritten isNewline firstText secondText
  inPlace : (site.above isBreak).flatten = (site.above isNewline).flatten ∧
    (site.between isBreak).flatten = (site.between isNewline).flatten ∧
    (site.below isBreak).flatten = (site.below isNewline).flatten
  inEffect : ∀ name ∈ functionNames, ∃ text, replacement target name = .ok text ∧
    DefinedAs astParse output name text
  again : patchSource astParse output target = .ok output

structure Patchable (target : Target) : Prop where
  whole : Whole isBreak ((lines isNewline source).take site.secondEnd)
  firstKept : ∀ statement ∈ site.middle ++ site.after, site.first.name ∉ statement.binds
  firstUndecorated : site.first.name ∉ site.secondDecorators
  secondKept : ∀ statement ∈ site.after, site.second.name ∉ statement.binds
  marked : ∃ line ∈ site.leading target, marker.toList <:+: stripEnd isBreak line

section Whole
variable (bounds : site.Bounds)
  (whole : Whole isBreak ((lines isNewline source).take site.secondEnd))

include bounds whole

theorem same_take : (lines isBreak source).take site.secondEnd =
    (lines isNewline source).take site.secondEnd :=
  take_of_whole isNewline isBreak break_of_newline source _ bounds.within whole

theorem same_above : site.above isBreak = site.above isNewline := by
  have cut := congrArg (List.take (site.first.lineno - 1)) (site.same_take bounds whole)
  obtain ⟨-, filled, apart, second_filled, -⟩ := bounds
  rwa [List.take_take, List.take_take, Nat.min_eq_left (by omega)] at cut

theorem same_between : site.between isBreak = site.between isNewline := by
  have cut := congrArg (List.take (site.second.lineno - 1)) (site.same_take bounds whole)
  obtain ⟨-, filled, apart, second_filled, -⟩ := bounds
  rw [List.take_take, List.take_take, Nat.min_eq_left (by omega)] at cut
  rw [between, between, cut]

theorem same_below : (site.below isBreak).flatten = (site.below isNewline).flatten :=
  (flatten_drop_iff isNewline isBreak break_of_newline source _ bounds.within).mpr whole

theorem same_rewritten (firstText secondText : List Char) :
    site.rewritten isBreak firstText secondText = site.rewritten isNewline firstText secondText := by
  rw [rewritten, rewritten, site.same_above bounds whole, site.same_between bounds whole,
    site.same_below bounds whole]

variable {target : Target} (lawful : Lawful astParse target) (firstText secondText : List Char)
  (firstReplacement : replacement target site.first.name = .ok firstText)
  (secondReplacement : replacement target site.second.name = .ok secondText)

include firstReplacement secondReplacement

theorem breaks_rewritten :
    lines isBreak (site.rewritten isNewline firstText secondText) =
      site.above isBreak ++ lines isBreak firstText ++ site.between isBreak ++
        lines isBreak secondText ++ site.below isBreak := by
  rw [← site.same_rewritten bounds whole]
  exact site.lines_rewritten bounds firstText secondText firstReplacement secondReplacement isBreak
    (by decide) (bounds.within.trans (length_newlines_le source))

/-- The marker of the output is one the source has outside of the definitions. -/
theorem marked_rewritten : isMarked (site.rewritten isNewline firstText secondText) = true ↔
    ∃ line ∈ site.leading target, marker.toList <:+: stripEnd isBreak line := by
  have first := printed_replacement target _ firstText firstReplacement
  have second := printed_replacement target _ secondText secondReplacement
  have firstLength : replacementLength target site.first.name =
      (lines isBreak firstText).length := by
    rw [replacementLength, firstReplacement, first.sameLines]
  have secondLength : replacementLength target site.second.name =
      (lines isBreak secondText).length := by
    rw [replacementLength, secondReplacement, second.sameLines]
  rw [isMarked_iff, site.breaks_rewritten bounds whole firstText secondText firstReplacement
    secondReplacement]
  simp only [leading, firstLength, secondLength, List.take_append, List.length_append,
    List.mem_append]
  constructor
  · rintro ⟨line, (((above | inFirst) | between) | inSecond) | below, carries⟩
    · exact ⟨line, .inl (.inl above), carries⟩
    · exact absurd carries (first.unmarked line (List.mem_of_mem_take inFirst))
    · exact ⟨line, .inl (.inr between), carries⟩
    · exact absurd carries (second.unmarked line (List.mem_of_mem_take inSecond))
    · exact ⟨line, .inr below, carries⟩
  · rintro ⟨line, (above | between) | below, carries⟩
    · exact ⟨line, .inl (.inl (.inl (.inl above))), carries⟩
    · exact ⟨line, .inl (.inl (.inr between)), carries⟩
    · exact ⟨line, .inr below, carries⟩

include lawful in
/-- The output is patched to itself. -/
theorem patch_again (marked : isMarked (site.rewritten isNewline firstText secondText) = true) :
    patchSource astParse (site.rewritten isNewline firstText secondText) target =
      .ok (site.rewritten isNewline firstText secondText) := by
  have first := printed_replacement target _ firstText firstReplacement
  have second := printed_replacement target _ secondText secondReplacement
  have parsed := site.parse_rewritten bounds firstText secondText firstReplacement
    secondReplacement lawful
  have patched := (site.again firstText secondText parsed).patchSource_eq
    ((site.again firstText secondText parsed).bounds lawful) firstText secondText
    firstReplacement secondReplacement marked
  obtain ⟨above, between, below⟩ := site.again_parts firstText secondText parsed bounds isBreak
    (bounds.within.trans (length_newlines_le source)) (congrArg List.length first.sameLines)
    (congrArg List.length second.sameLines)
    (site.breaks_rewritten bounds whole firstText secondText firstReplacement secondReplacement)
  rw [patched, rewritten, above, between, below]
  exact congrArg Except.ok (site.same_rewritten bounds whole firstText secondText)

end Whole

/-- What is behind the upper definition binds its name after an exchange where
it did before, the signature of the lower one apart. -/
theorem again_free_iff (firstText secondText : List Char)
    (parsed : astParse (site.rewritten isNewline firstText secondText) =
      some (site.newBody firstText secondText)) :
    (∀ other ∈ (site.again firstText secondText parsed).middle ++
      .functionDef (site.again firstText secondText parsed).second
        (site.again firstText secondText parsed).secondDecorators
        (site.again firstText secondText parsed).secondSignature ::
        (site.again firstText secondText parsed).after, site.first.name ∉ other.binds) ↔
      (∀ statement ∈ site.middle ++ site.after, site.first.name ∉ statement.binds) ∧
        site.first.name ∉ site.secondDecorators := by
  simp only [again, List.forall_mem_append, List.forall_mem_cons, List.forall_mem_map,
    Statement.binds_move]
  simp only [Statement.binds, List.append_nil, List.mem_append, List.mem_singleton, not_or]
  constructor
  · rintro ⟨middle, ⟨undecorated, -⟩, after⟩
    exact ⟨⟨middle, after⟩, undecorated⟩
  · rintro ⟨⟨middle, after⟩, undecorated⟩
    exact ⟨middle, ⟨undecorated, site.names_ne⟩, after⟩

section Effect
variable {target : Target} (lawful : Lawful astParse target) (firstText secondText : List Char)
  (firstReplacement : replacement target site.first.name = .ok firstText)
  (secondReplacement : replacement target site.second.name = .ok secondText)

include lawful firstReplacement secondReplacement

theorem defined_first_iff : DefinedAs astParse (site.rewritten isNewline firstText secondText)
    site.first.name firstText ↔
      (∀ statement ∈ site.middle ++ site.after, site.first.name ∉ statement.binds) ∧
        site.first.name ∉ site.secondDecorators := by
  have bounds := site.bounds lawful
  have parsed := site.parse_rewritten bounds firstText secondText firstReplacement
    secondReplacement lawful
  have cut := site.lines_rewritten bounds firstText secondText firstReplacement secondReplacement
    isNewline (by decide) bounds.within
  obtain ⟨text, -⟩ := site.again_texts firstText secondText parsed bounds cut
  have read : astParse (site.rewritten isNewline firstText secondText) =
    some (site.again firstText secondText parsed).body :=
    (site.again firstText secondText parsed).parsed
  constructor
  · rintro ⟨body, definition, decorators, signature, last, same, effect, named, -, -⟩
    rw [read] at same
    cases same
    have free := free_of_inEffect _ _ _ _ definition decorators signature effect named
      (site.again firstText secondText parsed).first_last
    exact (site.again_free_iff firstText secondText parsed).mp free
  · intro kept
    have free := (site.again_free_iff firstText secondText parsed).mpr kept
    refine ⟨_, _, _, _, _, read, inEffect_eq _ _ _ _ ?_ free, rfl, rfl, text⟩
    simp [Statement.binds, again]

theorem defined_second_iff : DefinedAs astParse (site.rewritten isNewline firstText secondText)
    site.second.name secondText ↔ ∀ statement ∈ site.after, site.second.name ∉ statement.binds := by
  have bounds := site.bounds lawful
  have parsed := site.parse_rewritten bounds firstText secondText firstReplacement
    secondReplacement lawful
  have cut := site.lines_rewritten bounds firstText secondText firstReplacement secondReplacement
    isNewline (by decide) bounds.within
  obtain ⟨-, text⟩ := site.again_texts firstText secondText parsed bounds cut
  have read : astParse (site.rewritten isNewline firstText secondText) =
    some (site.again firstText secondText parsed).body :=
    (site.again firstText secondText parsed).parsed
  have moved : (∀ other ∈ (site.again firstText secondText parsed).after,
      site.second.name ∉ other.binds) ↔
      ∀ statement ∈ site.after, site.second.name ∉ statement.binds := by
    simp only [again, List.forall_mem_map, Statement.binds_move]
  rw [body_lower] at read
  rw [← moved]
  constructor
  · rintro ⟨body, definition, decorators, signature, last, same, effect, named, -, -⟩
    rw [read] at same
    cases same
    exact free_of_inEffect _ _ _ _ definition decorators signature effect named
      (site.again firstText secondText parsed).secondLast
  · intro free
    refine ⟨_, _, _, _, _, read, inEffect_eq _ _ _ _ ?_ free, rfl, rfl, text⟩
    simp [Statement.binds, again]

end Effect

end Site

theorem replacement_of_named (target : Target) (name : String) (named : name ∈ functionNames) :
    ∃ text, replacement target name = .ok text := by
  unfold replacement
  split
  · exact ⟨_, rfl⟩
  · next other =>
      have invoke : name = invokeFunction :=
        List.mem_singleton.mp ((List.mem_cons.mp named).resolve_left other)
      rw [if_pos invoke]
      exact ⟨_, rfl⟩

theorem patches_exactly_iff {astParse : List Char → Option (List Statement)} {target : Target}
    {source output : List Char} (lawful : Lawful astParse target)
    (patched : patchSource astParse source target = .ok output) :
    Nonempty (Site astParse source) ∧
      ∀ site : Site astParse source, site.PatchesExactly target output ↔ site.Patchable target := by
  obtain ⟨marked, exists_site⟩ := accepted lawful patched
  refine ⟨exists_site, fun site => ?_⟩
  have bounds := site.bounds lawful
  obtain ⟨firstText, firstReplacement⟩ := replacement_of_named target _ site.first_named
  obtain ⟨secondText, secondReplacement⟩ := replacement_of_named target _ site.second_named
  have result := site.patchSource_eq bounds firstText secondText firstReplacement
    secondReplacement marked
  have first_iff := site.defined_first_iff lawful firstText secondText firstReplacement
    secondReplacement
  have second_iff := site.defined_second_iff lawful firstText secondText firstReplacement
    secondReplacement
  obtain rfl : site.rewritten isBreak firstText secondText = output :=
    Except.ok.inj (result.symm.trans patched)
  constructor
  · rintro ⟨-, inPlace, effect, again⟩
    have whole : Whole isBreak ((lines isNewline source).take site.secondEnd) :=
      (flatten_drop_iff isNewline isBreak break_of_newline source _ bounds.within).mp inPlace.2.2
    have same := site.same_rewritten bounds whole firstText secondText
    rw [same] at effect again
    obtain ⟨text, found, defined⟩ := effect site.first.name site.first_named
    obtain rfl := Except.ok.inj (firstReplacement.symm.trans found)
    obtain ⟨kept, undecorated⟩ := first_iff.mp defined
    obtain ⟨other, otherFound, otherDefined⟩ := effect site.second.name site.second_named
    obtain rfl := Except.ok.inj (secondReplacement.symm.trans otherFound)
    have stays := (accepted lawful again).1
    exact ⟨whole, kept, undecorated, second_iff.mp otherDefined,
      (site.marked_rewritten bounds whole firstText secondText firstReplacement
        secondReplacement).mp stays⟩
  · rintro ⟨whole, kept, undecorated, secondKept, leads⟩
    have same := site.same_rewritten bounds whole firstText secondText
    have stays := (site.marked_rewritten bounds whole firstText secondText firstReplacement
      secondReplacement).mpr leads
    refine ⟨⟨firstText, secondText, firstReplacement, secondReplacement, same⟩, ⟨?_, ?_, ?_⟩, ?_, ?_⟩
    · rw [site.same_above bounds whole]
    · rw [site.same_between bounds whole]
    · exact site.same_below bounds whole
    · rw [same]
      intro name named
      rcases (site.mem_functionNames name).mp named with rfl | rfl
      · exact ⟨firstText, firstReplacement, first_iff.mpr ⟨kept, undecorated⟩⟩
      · exact ⟨secondText, secondReplacement, second_iff.mpr secondKept⟩
    · rw [same]
      exact site.patch_again bounds whole lawful firstText secondText firstReplacement
        secondReplacement stays

/-! A file of two header lines and the two replacements. -/

section Files

def capiResource : List Char :=
  (resourceText capiCore.packageName capiCore.exampleToken capiCore.pluginName).toList

theorem capi_first : replacement capiCore resourceFunction = .ok capiResource := if_pos rfl

theorem capi_second : replacement capiCore invokeFunction = .ok invokeText.toList := by
  rw [replacement, if_neg (by decide), if_pos rfl]

set_option maxRecDepth 2000 in
theorem length_capi : (lines isNewline capiResource).length = 7 := by
  delta capiResource resourceText capiCore
  simp only [String.toList_append]
  repeat rw [String.toList_ofList]
  rfl

theorem length_invoke : (lines isNewline invokeText.toList).length = 2 := by
  delta invokeText
  simp only [String.toList_append]
  repeat rw [String.toList_ofList]
  rfl

def file (header : List Char) : List Char := header ++ capiResource ++ invokeText.toList

def fileBody : List Statement :=
  [.functionDef ⟨resourceFunction, 3, some 9⟩ [] [],
    .functionDef ⟨invokeFunction, 10, some 11⟩ [] []]

/-- A parser of one file. -/
def parseFile (header source : List Char) : Option (List Statement) :=
  if source = file header then some fileBody else none

def fileSite (header : List Char) : Site (parseFile header) (file header) where
  before := []
  first := ⟨resourceFunction, 3, some 9⟩
  firstDecorators := []
  firstSignature := []
  middle := []
  second := ⟨invokeFunction, 10, some 11⟩
  secondDecorators := []
  secondSignature := []
  after := []
  firstEnd := 9
  secondEnd := 11
  parsed := if_pos rfl
  names := .inl ⟨rfl, rfl⟩
  firstSpan := rfl
  secondSpan := rfl
  firstLast := nofun
  secondLast := nofun

variable (front : List Char)

theorem lines_file (breaks : Char → Bool) (feed : breaks '\n' = true) :
    lines breaks (file (front ++ ['\n'])) = lines breaks (front ++ ['\n']) ++
      lines breaks capiResource ++ lines breaks invokeText.toList := by
  have resource := printed_replacement capiCore _ _ capi_first
  have header : Closed breaks (front ++ ['\n']) (capiResource ++ invokeText.toList) :=
    ⟨front, '\n', rfl, feed, by simp⟩
  rw [file, List.append_assoc, lines_append breaks _ _ header,
    lines_append breaks _ _ (resource.closed breaks feed _), List.append_assoc]

theorem parsed_file (header source : List Char) (body : List Statement)
    (found : parseFile header source = some body) : source = file header ∧ body = fileBody := by
  rw [parseFile] at found
  split at found
  · next same => exact ⟨same, (Option.some.inj found).symm⟩
  · cases found

/-- The replacements take the places they have. -/
theorem replaceLines_file (two : (lines isNewline (front ++ ['\n'])).length = 2) :
    replaceLines (file (front ++ ['\n'])) 3 9 capiResource = file (front ++ ['\n']) ∧
    replaceLines (file (front ++ ['\n'])) 10 11 invokeText.toList = file (front ++ ['\n']) := by
  have cut : lines isNewline (file (front ++ ['\n'])) = lines isNewline (front ++ ['\n']) ++
      (lines isNewline capiResource ++ lines isNewline invokeText.toList) := by
    rw [lines_file front isNewline (by decide), List.append_assoc]
  have seven := length_capi
  have last := length_invoke
  have header : (lines isNewline (front ++ ['\n']) ++ lines isNewline capiResource).length = 9 := by
    rw [List.length_append]
    omega
  constructor
  · rw [replaceLines, cut, List.take_left' two, ← List.append_assoc, List.drop_left' header,
      flatten_lines, flatten_lines]
    rfl
  · rw [replaceLines, cut, ← List.append_assoc, List.take_left' header,
      List.drop_eq_nil_of_le (by rw [List.length_append]; omega), List.flatten_append,
      flatten_lines, flatten_lines, List.flatten_nil, List.append_nil]
    rfl

theorem lawful_file (two : (lines isNewline (front ++ ['\n'])).length = 2) :
    Lawful (parseFile (front ++ ['\n'])) capiCore := by
  have long : (lines isNewline (file (front ++ ['\n']))).length = 11 := by
    rw [lines_file front isNewline (by decide), List.length_append, List.length_append, two,
      length_capi, length_invoke]
  obtain ⟨first, second⟩ := replaceLines_file front two
  constructor
  · intro source body found definition member
    obtain ⟨rfl, rfl⟩ := parsed_file _ source body found
    rw [long]
    rcases List.mem_cons.mp member with rfl | other
    · exact ⟨9, rfl, by decide⟩
    · rw [List.mem_singleton.mp other]
      exact ⟨11, rfl, by decide⟩
  · intro source body found
    obtain ⟨rfl, rfl⟩ := parsed_file _ source body found
    simp [definitions, fileBody, Statement.definition?]
  · intro source before definition decorators signature after last text found ends replaced
    obtain ⟨rfl, shape⟩ := parsed_file _ source _ found
    cases before with
    | nil =>
        cases shape
        cases ends
        obtain rfl := Except.ok.inj (capi_first.symm.trans replaced)
        rw [first, length_capi]
        exact if_pos rfl
    | cons statement rest =>
        cases rest with
        | nil =>
            cases shape
            cases ends
            obtain rfl := Except.ok.inj (capi_second.symm.trans replaced)
            rw [second, length_invoke]
            exact if_pos rfl
        | cons next others => 
            have sizes := congrArg List.length shape
            simp [fileBody] at sizes

/-- A header of which either notion makes the same two lines is kept. -/
theorem rewritten_file (breaks : Char → Bool) (feed : breaks '\n' = true)
    (two : (lines breaks (front ++ ['\n'])).length = 2)
    (seven : (lines breaks capiResource).length = 7)
    (last : (lines breaks invokeText.toList).length = 2) :
    (fileSite (front ++ ['\n'])).rewritten breaks capiResource invokeText.toList =
      file (front ++ ['\n']) := by
  have cut : lines breaks (file (front ++ ['\n'])) = lines breaks (front ++ ['\n']) ++
      (lines breaks capiResource ++ lines breaks invokeText.toList) := by
    rw [lines_file front breaks feed, List.append_assoc]
  have header : (lines breaks (front ++ ['\n']) ++ lines breaks capiResource).length = 9 := by
    rw [List.length_append]
    omega
  have above : (fileSite (front ++ ['\n'])).above breaks = lines breaks (front ++ ['\n']) := by
    rw [Site.above, cut]
    exact List.take_left' two
  have between : (fileSite (front ++ ['\n'])).between breaks = [] := by
    apply List.drop_eq_nil_of_le
    exact List.length_take_le _ _
  have below : (fileSite (front ++ ['\n'])).below breaks = [] := by
    rw [Site.below, cut, ← List.append_assoc]
    apply List.drop_eq_nil_of_le
    rw [List.length_append, header, last]
    exact Nat.le_refl 11
  rw [Site.rewritten, above, between, below, flatten_lines]
  rw [List.flatten_nil, List.append_nil, List.append_nil, file]

theorem header_marked :
    ("# ".toList ++ marker.toList) ++ [] = stripEnd isBreak "# generated by crd2pulumi\n".toList := by
  delta marker
  repeat rw [String.toList_ofList]
  rfl

theorem marked_file (others : List (List Char))
    (begins : lines isBreak (front ++ ['\n']) = "# generated by crd2pulumi\n".toList :: others) :
    isMarked (file (front ++ ['\n'])) = true := by
  rw [isMarked_iff, lines_file front isBreak (by decide), begins]
  exact ⟨_, List.mem_cons_self, "# ".toList, [], header_marked⟩

def plainFront : List Char := "# generated by crd2pulumi\n# CRDs".toList
def feedFront : List Char := "# generated by crd2pulumi\n# a\x0cb".toList

theorem plain_begins : lines isBreak (plainFront ++ ['\n']) =
    ["# generated by crd2pulumi\n".toList, "# CRDs\n".toList] := by
  delta plainFront
  repeat rw [String.toList_ofList]
  rfl

theorem feed_begins : lines isBreak (feedFront ++ ['\n']) =
    ["# generated by crd2pulumi\n".toList, "# a\x0c".toList, "b\n".toList] := by
  delta feedFront
  repeat rw [String.toList_ofList]
  rfl

theorem patched_file (others : List (List Char))
    (two : (lines isNewline (front ++ ['\n'])).length = 2)
    (begins : lines isBreak (front ++ ['\n']) = "# generated by crd2pulumi\n".toList :: others) :
    patchSource (parseFile (front ++ ['\n'])) (file (front ++ ['\n'])) capiCore =
      .ok ((fileSite (front ++ ['\n'])).rewritten isBreak capiResource invokeText.toList) :=
  (fileSite (front ++ ['\n'])).patchSource_eq
    ((fileSite (front ++ ['\n'])).bounds (lawful_file front two)) _ _ capi_first capi_second
    (marked_file front others begins)

end Files

/-- A file patched before satisfies the condition, and is left as it is. -/
theorem plain_file_patched : ∃ site : Site (parseFile (plainFront ++ ['\n']))
      (file (plainFront ++ ['\n'])),
    site.PatchesExactly capiCore (file (plainFront ++ ['\n'])) := by
  have two : (lines isNewline (plainFront ++ ['\n'])).length = 2 := by
    delta plainFront
    rw [String.toList_ofList]
    rfl
  have breaks : (lines isBreak (plainFront ++ ['\n'])).length = 2 := by rw [plain_begins]; rfl
  have patched := patched_file plainFront _ two plain_begins
  have seven := length_capi
  have last := length_invoke
  rw [← (printed_replacement capiCore _ _ capi_first).sameLines] at seven
  rw [← (printed_replacement capiCore _ _ capi_second).sameLines] at last
  rw [rewritten_file plainFront isBreak (by decide) breaks seven last] at patched
  have same : lines isBreak (file (plainFront ++ ['\n'])) =
      lines isNewline (file (plainFront ++ ['\n'])) := by
    have header : lines isBreak (plainFront ++ ['\n']) = lines isNewline (plainFront ++ ['\n']) := by
      delta plainFront
      rw [String.toList_ofList]
      rfl
    rw [lines_file plainFront isBreak (by decide), lines_file plainFront isNewline (by decide),
      header, (printed_replacement capiCore _ _ capi_first).sameLines,
      (printed_replacement capiCore _ _ capi_second).sameLines]
  have above : (fileSite (plainFront ++ ['\n'])).above isBreak =
      ["# generated by crd2pulumi\n".toList, "# CRDs\n".toList] := by
    rw [Site.above, lines_file plainFront isBreak (by decide), plain_begins]
    rfl
  refine ⟨fileSite _, ((patches_exactly_iff (lawful_file plainFront two) patched).2 _).mpr
    ⟨?_, ?_, List.not_mem_nil, ?_, ?_⟩⟩
  · intro line member
    have listed := List.mem_of_mem_take member
    rw [← same] at listed
    exact lines_singleton isBreak _ line listed
  · intro statement member
    cases member
  · intro statement member
    cases member
  · refine ⟨"# generated by crd2pulumi\n".toList, ?_, "# ".toList, [], header_marked⟩
    rw [Site.leading, above]
    exact List.mem_append_left _ (List.mem_append_left _ List.mem_cons_self)

/-- A form feed in a comment shifts the cuts by a line. -/
theorem form_feed_shifts : Lawful (parseFile (feedFront ++ ['\n'])) capiCore ∧
    ∃ output, patchSource (parseFile (feedFront ++ ['\n'])) (file (feedFront ++ ['\n']))
        capiCore = .ok output ∧
      ¬ ∃ firstText secondText, replacement capiCore resourceFunction = .ok firstText ∧
        replacement capiCore invokeFunction = .ok secondText ∧
        output = (fileSite (feedFront ++ ['\n'])).rewritten isNewline firstText secondText := by
  have two : (lines isNewline (feedFront ++ ['\n'])).length = 2 := by
    delta feedFront
    rw [String.toList_ofList]
    rfl
  have resource := printed_replacement capiCore _ _ capi_first
  refine ⟨lawful_file feedFront two, _, patched_file feedFront _ two feed_begins, ?_⟩
  rintro ⟨firstText, secondText, first, second, same⟩
  obtain rfl := Except.ok.inj (capi_first.symm.trans first)
  obtain rfl := Except.ok.inj (capi_second.symm.trans second)
  rw [rewritten_file feedFront isNewline (by decide) two length_capi length_invoke] at same
  have above : ((fileSite (feedFront ++ ['\n'])).above isBreak).flatten =
      "# generated by crd2pulumi\n# a\x0c".toList := by
    rw [Site.above, lines_file feedFront isBreak (by decide), feed_begins]
    repeat rw [String.toList_ofList]
    rfl
  have header : feedFront ++ ['\n'] =
      "# generated by crd2pulumi\n# a\x0c".toList ++ ['b', '\n'] := by
    delta feedFront
    repeat rw [String.toList_ofList]
    rfl
  have whole : file (feedFront ++ ['\n']) = "# generated by crd2pulumi\n# a\x0c".toList ++
      ['b', '\n'] ++ capiResource ++ invokeText.toList := by
    rw [file, header]
  rw [Site.rewritten, above] at same
  replace same := same.trans whole
  simp only [List.append_assoc] at same
  have behind := congrArg List.head? (List.append_cancel_left same)
  rw [head_append _ _ (by rintro none; rw [none] at resource; cases resource.starts),
    resource.starts] at behind
  cases behind

end ClusterApiForSlinky.SdkPatch
