import ClusterApiForSlinky.SdkPatchSites

/-!
What a patch makes of the lines around the two definitions, and of the lines,
the statements and the marker of its own output.
-/

namespace ClusterApiForSlinky.SdkPatch
open LineBreaks ModelCodec

theorem break_of_newline (char : Char) (newline : isNewline char = true) : isBreak char = true := by
  rcases Bool.or_eq_true_iff.mp newline with feed | carriage
  · rw [beq_iff_eq.mp feed]
    decide
  · rw [beq_iff_eq.mp carriage]
    decide

/-- A text both notions of line cut alike, that stands on its own among any
other lines and does not carry the marker. -/
structure Printed (text : List Char) : Prop where
  sameLines : lines isBreak text = lines isNewline text
  starts : text.head? = some 'd'
  closed : ∀ breaks : Char → Bool, breaks '\n' = true → ∀ next : List Char,
    Closed breaks text next
  unmarked : ∀ line ∈ lines isBreak text, ¬ marker.toList <:+: stripEnd isBreak line

/-- A text whose lines all end in a line feed and hold no other break. -/
theorem printed_of_feeds (front : List Char)
    (feeds : ∀ char ∈ front ++ ['\n'], isBreak char = true → char = '\n')
    (starts : (front ++ ['\n']).head? = some 'd')
    (unmarked : ¬ marker.toList <:+: front ++ ['\n']) : Printed (front ++ ['\n']) := by
  refine ⟨?_, starts, ?_, ?_⟩
  · apply lines_congr
    intro char member
    rw [Bool.eq_iff_iff]
    constructor
    · intro breaks
      rw [feeds char member breaks]
      rfl
    · exact break_of_newline char
  · intro breaks ends next
    exact ⟨front, '\n', rfl, ends, by simp⟩
  · intro line member inside
    have within := List.infix_of_mem_flatten member
    rw [flatten_lines] at within
    exact unmarked (inside.trans ((List.takeWhile_prefix _).isInfix.trans within))

def feedsOnly (text : List Char) : Bool := text.all (fun char => !isBreak char || char == '\n')

theorem feed_of_feedsOnly (text : List Char) (feeds : feedsOnly text = true) (char : Char)
    (member : char ∈ text) (breaks : isBreak char = true) : char = '\n' := by
  have one := List.all_eq_true.mp feeds char member
  simpa [breaks] using one

theorem feedsOnly_append (first second : List Char) :
    feedsOnly (first ++ second) = (feedsOnly first && feedsOnly second) := List.all_append

theorem feedsOnly_of_plain (text : List Char)
    (plain : text.all (fun char => !isBreak char) = true) : feedsOnly text = true := by
  apply List.all_eq_true.mpr
  intro char member
  exact Bool.or_eq_true_iff.mpr (.inl (List.all_eq_true.mp plain char member))

theorem feedsOnly_resource (target : Target) : feedsOnly
    (resourceText target.packageName target.exampleToken target.pluginName).toList = true := by
  have plain := target.plain
  rw [List.all_append, List.all_append, Bool.and_eq_true, Bool.and_eq_true] at plain
  have package := feedsOnly_of_plain _ plain.1.1
  have token := feedsOnly_of_plain _ plain.1.2
  have plugin := feedsOnly_of_plain _ plain.2
  delta resourceText
  simp only [String.toList_append, feedsOnly_append, package, token, plugin]
  repeat rw [String.toList_ofList]
  rfl

theorem printed_resource (target : Target) :
    Printed (resourceText target.packageName target.exampleToken target.pluginName).toList := by
  have feeds := feedsOnly_resource target
  have unmarked := mt (Text.contains_iff _ _).mpr (Bool.eq_false_iff.mp target.unmarked)
  have starts : (resourceText target.packageName target.exampleToken
      target.pluginName).toList.head? = some 'd' := by
    have first : "def get_resource_opts_defaults() -> pulumi.ResourceOptions:\n".toList.head? =
        some 'd' := by
      rw [String.toList_ofList]
      rfl
    delta resourceText
    simp only [String.toList_append, List.head?_append, first, Option.some_or]
  have ending : ∃ front, (resourceText target.packageName target.exampleToken
      target.pluginName).toList = front ++ ['\n'] := by
    have last : "    return pulumi.ResourceOptions()\n".toList =
        "    return pulumi.ResourceOptions()".toList ++ ['\n'] := by
      rw [String.toList_ofList, String.toList_ofList]
      rfl
    delta resourceText
    rw [String.toList_append, last, ← List.append_assoc]
    exact ⟨_, rfl⟩
  obtain ⟨front, whole⟩ := ending
  rw [whole] at feeds starts unmarked ⊢
  exact printed_of_feeds front (feed_of_feedsOnly _ feeds) starts unmarked

theorem printed_invoke : Printed invokeText.toList := by
  have ending : invokeText.toList = invokeText.toList.dropLast ++ ['\n'] := by
    delta invokeText
    simp only [String.toList_append]
    repeat rw [String.toList_ofList]
    rfl
  have feeds : feedsOnly invokeText.toList = true := by
    delta invokeText
    simp only [String.toList_append]
    repeat rw [String.toList_ofList]
    rfl
  have starts : invokeText.toList.head? = some 'd' := by
    delta invokeText
    simp only [String.toList_append]
    repeat rw [String.toList_ofList]
    rfl
  have unmarked : Text.contains invokeText marker = false := by
    delta invokeText Text.contains
    simp only [String.toList_append]
    repeat rw [String.toList_ofList]
    rfl
  have absent := mt (Text.contains_iff _ _).mpr (Bool.eq_false_iff.mp unmarked)
  rw [ending] at feeds starts absent ⊢
  exact printed_of_feeds _ (feed_of_feedsOnly _ feeds) starts absent

theorem printed_replacement (target : Target) (function : String) (text : List Char)
    (found : replacement target function = .ok text) : Printed text := by
  unfold replacement at found
  split at found
  · rw [← Except.ok.inj found]
    exact printed_resource target
  · split at found
    · rw [← Except.ok.inj found]
      exact printed_invoke
    · cases found

theorem length_newlines_le (source : List Char) :
    (lines isNewline source).length ≤ (lines isBreak source).length := by
  rw [lines_flatMap isNewline isBreak break_of_newline source]
  apply length_le_flatMap
  exact filled_of_mem_lines isNewline source

/-- Slices assigned from the lower one to the upper one do not shift each other. -/
theorem setSlice_twice (cut firstLines secondLines : List (List Char))
    (start stop next last : Nat) (first : start ≤ stop) (apart : stop ≤ next)
    (second : next ≤ last) (long : next ≤ cut.length) :
    setSlice (setSlice cut next last secondLines) start stop firstLines =
      cut.take start ++ firstLines ++ (cut.take next).drop stop ++ secondLines ++
        cut.drop last := by
  have size : (cut.take next).length = next := List.length_take_of_le long
  have head : (cut.take next ++ (secondLines ++ cut.drop last)).take start = cut.take start := by
    rw [List.take_append_of_le_length (by omega), List.take_take, Nat.min_eq_left (by omega)]
  have tail : (cut.take next ++ (secondLines ++ cut.drop last)).drop stop =
      (cut.take next).drop stop ++ (secondLines ++ cut.drop last) :=
    List.drop_append_of_le_length (by omega)
  rw [setSlice, setSlice, Nat.max_eq_right first, Nat.max_eq_right second,
    List.append_assoc (cut.take next), head, tail]
  simp only [List.append_assoc]

namespace Site
variable {astParse : List Char → Option (List Statement)} {target : Target} {source : List Char}
  (site : Site astParse source)

/-- The lines in front of both definitions, between them and behind them. -/
def above (breaks : Char → Bool) : List (List Char) :=
  (lines breaks source).take (site.first.lineno - 1)

def between (breaks : Char → Bool) : List (List Char) :=
  ((lines breaks source).take (site.second.lineno - 1)).drop site.firstEnd

def below (breaks : Char → Bool) : List (List Char) :=
  (lines breaks source).drop site.secondEnd

/-- The source with two texts in the places of the definitions. -/
def rewritten (breaks : Char → Bool) (firstText secondText : List Char) : List Char :=
  (site.above breaks).flatten ++ firstText ++ (site.between breaks).flatten ++ secondText ++
    (site.below breaks).flatten

theorem missing_nil : functionNames.filter
    (fun name => name ∉ (functions site.body).keys) = [] := by
  apply List.filter_eq_nil_iff.mpr
  intro name named
  have held : name ∈ (functions site.body).keys := by
    rcases (site.mem_functionNames name).mp named with rfl | rfl
    · exact List.mem_map_of_mem (Mapping.mem_of_lookup _ _ _ site.functions_first)
    · exact List.mem_map_of_mem (Mapping.mem_of_lookup _ _ _ site.functions_second)
  simpa using held

/-- A marked source is cut by the one notion of line at the numbers of the other. -/
theorem patchSource_eq (bounds : site.Bounds) (firstText secondText : List Char)
    (firstReplacement : replacement target site.first.name = .ok firstText)
    (secondReplacement : replacement target site.second.name = .ok secondText)
    (marked : isMarked source = true) :
    patchSource astParse source target = .ok (site.rewritten isBreak firstText secondText) := by
  have filled := bounds.first_filled
  have apart := bounds.apart
  have second_filled := bounds.second_filled
  have long := bounds.within.trans (length_newlines_le source)
  have sliced := setSlice_twice (lines isBreak source) (lines isBreak firstText)
    (lines isBreak secondText) (site.first.lineno - 1) site.firstEnd (site.second.lineno - 1)
    site.secondEnd (by omega) (by omega) (by omega) (by omega)
  have parsed : astParse source = some site.body := site.parsed
  have turns : [(site.second.name, site.second), (site.first.name, site.first)].foldlM
      (edit target) (lines isBreak source) = .ok
      (setSlice (setSlice (lines isBreak source) (site.second.lineno - 1) site.secondEnd
        (lines isBreak secondText)) (site.first.lineno - 1) site.firstEnd
          (lines isBreak firstText)) := by
    simp only [List.foldlM_cons, List.foldlM_nil, edit, site.firstSpan, site.secondSpan,
      firstReplacement, secondReplacement]
    rfl
  rw [patchSource, marked, parsed]
  simp only [Bool.not_true, Bool.false_eq_true, if_false, site.missing_nil, ne_eq,
    not_true_eq_false, site.sorted bounds, turns, sliced]
  simp only [List.flatten_append, flatten_lines]
  rfl

end Site

theorem defined_of_key (body : List Statement) (name : String)
    (member : name ∈ (functions body).keys) :
    ∃ definition ∈ definitions body, definition.name = name := by
  rcases (Mapping.mem_keys_assignAll _ _ name).mp member with held | item
  · cases held
  · obtain ⟨entry, listed, rfl⟩ := List.mem_map.mp item
    obtain ⟨statement, inside, target⟩ := List.mem_filterMap.mp listed
    cases statement with
    | other binds => cases target
    | functionDef definition decorators signature =>
        simp only [Statement.target?] at target
        split at target
        · cases target
          exact ⟨definition, List.mem_filterMap.mpr ⟨_, inside, rfl⟩, rfl⟩
        · cases target

theorem definition_last (body : List Statement) (name : String)
    (defined : ∃ definition ∈ definitions body, definition.name = name) :
    ∃ before definition decorators signature after,
      body = before ++ .functionDef definition decorators signature :: after ∧
        definition.name = name ∧ ∀ other ∈ definitions after, other.name ≠ name := by
  induction body with
  | nil =>
      obtain ⟨definition, member, -⟩ := defined
      cases member
  | cons statement rest ih =>
      by_cases later : ∃ definition ∈ definitions rest, definition.name = name
      · obtain ⟨before, definition, decorators, signature, after, rfl, named, last⟩ := ih later
        exact ⟨statement :: before, definition, decorators, signature, after, rfl, named, last⟩
      · have last : ∀ other ∈ definitions rest, other.name ≠ name :=
          fun other member same => later ⟨other, member, same⟩
        obtain ⟨definition, member, named⟩ := defined
        cases statement with
        | other binds => exact absurd named (last definition member)
        | functionDef here decorators signature =>
            rcases List.mem_cons.mp member with rfl | behind
            · exact ⟨[], definition, decorators, signature, rest, rfl, named, last⟩
            · exact absurd named (last definition behind)

/-- The last definitions of two names, the upper one first. -/
theorem site_of_splits {astParse : List Char → Option (List Statement)} {target : Target}
    {source : List Char} (lawful : Lawful astParse target) (before : List Statement)
    (first : FunctionDef) (firstDecorators firstSignature : List String)
    (middle : List Statement) (second : FunctionDef)
    (secondDecorators secondSignature : List String) (after : List Statement)
    (parsed : astParse source = some (before ++ .functionDef first firstDecorators firstSignature ::
      (middle ++ .functionDef second secondDecorators secondSignature :: after)))
    (names : (first.name = resourceFunction ∧ second.name = invokeFunction) ∨
      (first.name = invokeFunction ∧ second.name = resourceFunction))
    (firstLast : ∀ definition ∈ definitions (middle ++
      .functionDef second secondDecorators secondSignature :: after), definition.name ≠ first.name)
    (secondLast : ∀ definition ∈ definitions after, definition.name ≠ second.name) :
    Nonempty (Site astParse source) := by
  have spans := lawful.spans source _ parsed
  obtain ⟨firstEnd, firstSpan, -⟩ := spans first (by simp [definitions, Statement.definition?])
  obtain ⟨secondEnd, secondSpan, -⟩ := spans second (by simp [definitions, Statement.definition?])
  refine ⟨⟨before, first, firstDecorators, firstSignature, middle, second, secondDecorators,
    secondSignature, after, firstEnd, secondEnd, parsed, names, firstSpan, secondSpan, ?_,
    secondLast⟩⟩
  intro definition member
  apply firstLast
  rw [definitions, List.filterMap_append, List.filterMap_cons]
  rcases List.mem_append.mp member with inside | behind
  · exact List.mem_append_left _ inside
  · exact List.mem_append_right _ (List.mem_cons_of_mem _ behind)

/-- What an accepted source is known to hold. -/
theorem accepted {astParse : List Char → Option (List Statement)} {target : Target}
    {source output : List Char} (lawful : Lawful astParse target)
    (patched : patchSource astParse source target = .ok output) :
    isMarked source = true ∧ Nonempty (Site astParse source) := by
  rw [patchSource] at patched
  split at patched
  · cases patched
  · next unmarked =>
      refine ⟨by simpa using unmarked, ?_⟩
      cases parsed : astParse source with
      | none =>
          rw [parsed] at patched
          cases patched
      | some body =>
          rw [parsed] at patched
          dsimp only at patched
          split at patched
          · cases patched
          · next present =>
              have key : ∀ name ∈ functionNames, name ∈ (functions body).keys := by
                intro name named
                have none := List.filter_eq_nil_iff.mp (not_not.mp present) name named
                simpa using none
              obtain ⟨before, resource, decorators, signature, after, whole, named, last⟩ :=
                definition_last body resourceFunction
                  (defined_of_key body _ (key _ List.mem_cons_self))
              obtain ⟨otherBefore, invoke, otherDecorators, otherSignature, otherAfter, otherWhole,
                otherNamed, otherLast⟩ := definition_last body invokeFunction
                  (defined_of_key body _ (key _ (List.mem_cons_of_mem _ List.mem_cons_self)))
              rcases List.append_eq_append_iff.mp (whole.symm.trans otherWhole) with
                ⟨skipped, rfl, rest⟩ | ⟨skipped, rfl, rest⟩
              · cases skipped with
                | nil =>
                    cases rest
                    exact absurd (named.symm.trans otherNamed) (by decide)
                | cons statement middle =>
                    cases rest
                    exact site_of_splits lawful before resource decorators signature middle invoke
                      otherDecorators otherSignature otherAfter (parsed.trans (congrArg some whole))
                      (.inl ⟨named, otherNamed⟩) (named ▸ last) (otherNamed ▸ otherLast)
              · cases skipped with
                | nil =>
                    cases rest
                    exact absurd (named.symm.trans otherNamed) (by decide)
                | cons statement middle =>
                    cases rest
                    exact site_of_splits lawful otherBefore invoke otherDecorators otherSignature
                      middle resource decorators signature after
                      (parsed.trans (congrArg some otherWhole))
                      (.inr ⟨otherNamed, named⟩) (otherNamed ▸ otherLast) (named ▸ last)

end ClusterApiForSlinky.SdkPatch
