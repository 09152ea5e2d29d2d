import ClusterApiForSlinky.SdkPatchEdits

/-!
The output of a patch read again: its lines by either notion, its statements,
and where the two definitions stand in it.
-/

namespace ClusterApiForSlinky.SdkPatch
open LineBreaks ModelCodec

/-- Among lines whose notion is not mixed with another one a slice of printed
lines is cut out again as it was put in. -/
theorem lines_setSlice (breaks : Char → Bool) (feed : breaks '\n' = true)
    (source text : List Char) (printed : Printed text) (start stop : Nat) (filled : start < stop)
    (within : stop ≤ (lines breaks source).length) :
    lines breaks (setSlice (lines breaks source) start stop (lines breaks text)).flatten =
      setSlice (lines breaks source) start stop (lines breaks text) := by
  have cut : lines breaks source = (lines breaks source).take start ++
      ((lines breaks source).take stop).drop start ++ (lines breaks source).drop stop := by
    conv_lhs => rw [← List.take_append_drop stop (lines breaks source),
      ← List.take_append_drop start ((lines breaks source).take stop), List.take_take,
      Nat.min_eq_left (by omega)]
  have replaced : ((lines breaks source).take stop).drop start ≠ [] := by
    rw [ne_eq, List.drop_eq_nil_iff, List.length_take_of_le within]
    omega
  have nonempty : text ≠ [] := by
    rintro rfl
    cases printed.starts
  have spliced := lines_splice breaks source text _ _ _ cut replaced
    (by rw [printed.starts]; decide) nonempty (printed.closed breaks feed)
  rw [setSlice, Nat.max_eq_right (by omega), List.flatten_append, List.flatten_append,
    flatten_lines, spliced]

theorem replaceLines_eq (source text : List Char) (lineno last : Nat) (filled : lineno - 1 ≤ last) :
    replaceLines source lineno last text =
      (setSlice (lines isNewline source) (lineno - 1) last (lines isNewline text)).flatten := by
  rw [setSlice, Nat.max_eq_right filled, List.flatten_append, List.flatten_append, flatten_lines]
  rfl

theorem slice_middle (before middle after : List (List Char)) (start stop : Nat)
    (from_start : start = before.length) (to_stop : stop = start + middle.length) :
    ((before ++ middle ++ after).take stop).drop start = middle := by
  subst from_start to_stop
  rw [List.take_left' (List.length_append), List.drop_left]

/-- Moving statements renames no definition. -/
theorem name_of_moved (last newLast : Nat) (body : List Statement) (definition : FunctionDef)
    (member : definition ∈ definitions (body.map (Statement.move last newLast))) :
    ∃ origin ∈ definitions body, origin.name = definition.name := by
  obtain ⟨statement, listed, found⟩ := List.mem_filterMap.mp member
  obtain ⟨origin, inside, rfl⟩ := List.mem_map.mp listed
  cases origin with
  | other binds => cases found
  | functionDef here decorators signature =>
      cases found
      exact ⟨here, List.mem_filterMap.mpr ⟨_, inside, rfl⟩, rfl⟩

namespace Site
variable {astParse : List Char → Option (List Statement)} {target : Target} {source : List Char}
  (site : Site astParse source)

/-- The last lines of the two definitions when texts stand in their places, the
lower one before the upper one is exchanged. -/
def newFirstEnd (firstText : List Char) : Nat :=
  site.first.lineno - 1 + (lines isNewline firstText).length

def newSecondEnd (secondText : List Char) : Nat :=
  site.second.lineno - 1 + (lines isNewline secondText).length

def newBody (firstText secondText : List Char) : List Statement :=
  site.before ++
    .functionDef { site.first with endLineno := some (site.newFirstEnd firstText) }
      site.firstDecorators [] ::
    (site.middle ++
      .functionDef { site.second with endLineno := some (site.newSecondEnd secondText) }
        site.secondDecorators [] ::
      site.after.map (Statement.move site.secondEnd (site.newSecondEnd secondText))).map
    (Statement.move site.firstEnd (site.newFirstEnd firstText))

section Rewritten
variable (bounds : site.Bounds) (firstText secondText : List Char)
  (firstReplacement : replacement target site.first.name = .ok firstText)
  (secondReplacement : replacement target site.second.name = .ok secondText)

include bounds firstReplacement secondReplacement

theorem lines_rewritten (breaks : Char → Bool) (feed : breaks '\n' = true)
    (long : site.secondEnd ≤ (lines breaks source).length) :
    lines breaks (site.rewritten breaks firstText secondText) =
      site.above breaks ++ lines breaks firstText ++ site.between breaks ++
        lines breaks secondText ++ site.below breaks := by
  obtain ⟨starts, filled, apart, second_filled, -⟩ := bounds
  have twice := setSlice_twice (lines breaks source) (lines breaks firstText)
    (lines breaks secondText) (site.first.lineno - 1) site.firstEnd (site.second.lineno - 1)
    site.secondEnd (by omega) (by omega) (by omega) (by omega)
  have first := printed_replacement target _ firstText firstReplacement
  have second := printed_replacement target _ secondText secondReplacement
  have lower := lines_setSlice breaks feed source secondText second (site.second.lineno - 1)
    site.secondEnd (by omega) long
  have room : site.firstEnd ≤ (setSlice (lines breaks source) (site.second.lineno - 1)
      site.secondEnd (lines breaks secondText)).length := by
    rw [setSlice, List.append_assoc, List.length_append, List.length_take_of_le (by omega)]
    omega
  rw [← lower] at room
  have upper := lines_setSlice breaks feed _ firstText first (site.first.lineno - 1)
    site.firstEnd (by omega) room
  rw [lower, twice] at upper
  have whole : site.rewritten breaks firstText secondText = ((lines breaks source).take
      (site.first.lineno - 1) ++ lines breaks firstText ++
        ((lines breaks source).take (site.second.lineno - 1)).drop site.firstEnd ++
          lines breaks secondText ++ (lines breaks source).drop site.secondEnd).flatten := by
    simp only [List.flatten_append, flatten_lines]
    rfl
  rw [whole, upper]
  rfl

/-- The parser on a source in which both definitions were exchanged. -/
theorem parse_rewritten (lawful : Lawful astParse target) :
    astParse (site.rewritten isNewline firstText secondText) =
      some (site.newBody firstText secondText) := by
  obtain ⟨starts, filled, apart, second_filled, within⟩ := bounds
  have second := printed_replacement target _ secondText secondReplacement
  have lower := lines_setSlice isNewline (by decide) source secondText second
    (site.second.lineno - 1) site.secondEnd (by omega) within
  have twice := setSlice_twice (lines isNewline source) (lines isNewline firstText)
    (lines isNewline secondText) (site.first.lineno - 1) site.firstEnd (site.second.lineno - 1)
    site.secondEnd (by omega) (by omega) (by omega) (by omega)
  have parsed : astParse source = some site.body := site.parsed
  rw [body_lower] at parsed
  have once := lawful.replaced source _ site.second site.secondDecorators site.secondSignature
    site.after site.secondEnd secondText parsed site.secondSpan secondReplacement
  rw [List.append_assoc, List.cons_append] at once
  have again := lawful.replaced _ _ site.first site.firstDecorators site.firstSignature _
    site.firstEnd firstText once site.firstSpan firstReplacement
  rw [replaceLines_eq _ firstText _ _ (by omega),
    replaceLines_eq source secondText _ _ (by omega), lower, twice] at again
  refine Eq.trans (congrArg astParse ?_) again
  simp only [List.flatten_append, flatten_lines]
  rfl

end Rewritten

/-- The same two definitions in a source in which both were exchanged. -/
def again (firstText secondText : List Char)
    (parsed : astParse (site.rewritten isNewline firstText secondText) =
      some (site.newBody firstText secondText)) :
    Site astParse (site.rewritten isNewline firstText secondText) where
  before := site.before
  first := { site.first with
    endLineno := some (site.newFirstEnd firstText) }
  firstDecorators := site.firstDecorators
  firstSignature := []
  middle := site.middle.map (Statement.move site.firstEnd (site.newFirstEnd firstText))
  second := { site.second with
    lineno := site.second.lineno + site.newFirstEnd firstText - site.firstEnd
    endLineno := some (site.newSecondEnd secondText + site.newFirstEnd firstText - site.firstEnd) }
  secondDecorators := site.secondDecorators
  secondSignature := []
  after := (site.after.map (Statement.move site.secondEnd (site.newSecondEnd secondText))).map
    (Statement.move site.firstEnd (site.newFirstEnd firstText))
  firstEnd := site.newFirstEnd firstText
  secondEnd := site.newSecondEnd secondText + site.newFirstEnd firstText - site.firstEnd
  parsed := by
    rw [parsed, newBody, List.map_append, List.map_cons]
    rfl
  names := site.names
  firstSpan := rfl
  secondSpan := rfl
  firstLast := by
    intro definition member
    rcases List.mem_append.mp member with inside | behind
    · obtain ⟨origin, here, same⟩ := name_of_moved _ _ _ _ inside
      rw [← same]
      exact site.firstLast origin (List.mem_append_left _ here)
    · obtain ⟨moved, once, same⟩ := name_of_moved _ _ _ _ behind
      obtain ⟨origin, here, named⟩ := name_of_moved _ _ _ _ once
      rw [← same, ← named]
      exact site.firstLast origin (List.mem_append_right _ here)
  secondLast := by
    intro definition member
    obtain ⟨moved, once, same⟩ := name_of_moved _ _ _ _ member
    obtain ⟨origin, here, named⟩ := name_of_moved _ _ _ _ once
    rw [← same, ← named]
    exact site.secondLast origin here

section Again
variable (firstText secondText : List Char)
  (parsed : astParse (site.rewritten isNewline firstText secondText) =
    some (site.newBody firstText secondText))

/-- Exchanging the definitions leaves the lines outside of them where they are. -/
theorem again_parts (bounds : site.Bounds) (breaks : Char → Bool)
    (long : site.secondEnd ≤ (lines breaks source).length)
    (firstSize : (lines breaks firstText).length = (lines isNewline firstText).length)
    (secondSize : (lines breaks secondText).length = (lines isNewline secondText).length)
    (cut : lines breaks (site.rewritten isNewline firstText secondText) =
      site.above breaks ++ lines breaks firstText ++ site.between breaks ++
        lines breaks secondText ++ site.below breaks) :
    (site.again firstText secondText parsed).above breaks = site.above breaks ∧
    (site.again firstText secondText parsed).between breaks = site.between breaks ∧
    (site.again firstText secondText parsed).below breaks = site.below breaks := by
  obtain ⟨starts, filled, apart, second_filled, -⟩ := bounds
  have aboveSize : (site.above breaks).length = site.first.lineno - 1 :=
    List.length_take_of_le (by omega)
  have betweenSize : (site.between breaks).length = site.second.lineno - 1 - site.firstEnd := by
    rw [between, List.length_drop, List.length_take_of_le (by omega)]
  have first : site.newFirstEnd firstText =
      site.first.lineno - 1 + (lines breaks firstText).length := by
    rw [newFirstEnd, firstSize]
  have second : site.newSecondEnd secondText =
      site.second.lineno - 1 + (lines breaks secondText).length := by
    rw [newSecondEnd, secondSize]
  refine ⟨?_, ?_, ?_⟩
  · rw [above, cut]
    simp only [List.append_assoc]
    exact List.take_left' aboveSize
  · rw [between, cut, List.append_assoc]
    apply slice_middle
    · simp only [again, List.length_append]
      omega
    · simp only [again]
      omega
  · rw [below, cut]
    apply List.drop_left'
    simp only [again, List.length_append]
    omega

/-- The texts stand in the lines of the two definitions. -/
theorem again_texts (bounds : site.Bounds)
    (cut : lines isNewline (site.rewritten isNewline firstText secondText) =
      site.above isNewline ++ lines isNewline firstText ++ site.between isNewline ++
        lines isNewline secondText ++ site.below isNewline) :
    (((lines isNewline (site.rewritten isNewline firstText secondText)).take
      (site.again firstText secondText parsed).firstEnd).drop
        ((site.again firstText secondText parsed).first.lineno - 1)).flatten = firstText ∧
    (((lines isNewline (site.rewritten isNewline firstText secondText)).take
      (site.again firstText secondText parsed).secondEnd).drop
        ((site.again firstText secondText parsed).second.lineno - 1)).flatten = secondText := by
  obtain ⟨starts, filled, apart, second_filled, within⟩ := bounds
  have aboveSize : (site.above isNewline).length = site.first.lineno - 1 :=
    List.length_take_of_le (by omega)
  have betweenSize : (site.between isNewline).length =
      site.second.lineno - 1 - site.firstEnd := by
    rw [between, List.length_drop, List.length_take_of_le (by omega)]
  rw [cut]
  constructor
  · have upper : (((site.above isNewline ++ lines isNewline firstText) ++
        (site.between isNewline ++ lines isNewline secondText ++ site.below isNewline)).take
          (site.newFirstEnd firstText)).drop (site.first.lineno - 1) =
        lines isNewline firstText := slice_middle _ _ _ _ _ aboveSize.symm rfl
    simp only [← List.append_assoc] at upper
    exact (congrArg List.flatten upper).trans (flatten_lines isNewline firstText)
  · rw [slice_middle, flatten_lines]
    · simp only [again, newFirstEnd, List.length_append]
      omega
    · simp only [again, newFirstEnd, newSecondEnd]
      omega

end Again

end Site

end ClusterApiForSlinky.SdkPatch
