import ClusterApiForSlinky.SdkPatch

/-!
Where the two functions of a source are defined, and what a patch makes of it.
`Lawful` is what the patch relies on of Python's parser: the lines a definition
takes, and that another definition in these lines leaves every other statement
as it was, moved by as many lines as the text grew.
-/

namespace ClusterApiForSlinky.SdkPatch
open LineBreaks ModelCodec

def Statement.definition? : Statement → Option FunctionDef
  | .functionDef definition _ _ => some definition
  | .other _ => none

def definitions (body : List Statement) : List FunctionDef :=
  body.filterMap Statement.definition?

/-- A statement behind a line whose number changes. -/
def Statement.move (last newLast : Nat) : Statement → Statement
  | .functionDef definition decorators signature =>
      .functionDef
        { definition with
          lineno := definition.lineno + newLast - last
          endLineno := definition.endLineno.map (fun line => line + newLast - last) }
        decorators signature
  | .other binds => .other binds

@[simp] theorem Statement.binds_move (last newLast : Nat) (statement : Statement) :
    (statement.move last newLast).binds = statement.binds := by
  cases statement <;> rfl

/-- The source with another text in the place of some of its lines. -/
def replaceLines (source : List Char) (lineno last : Nat) (text : List Char) : List Char :=
  ((lines isNewline source).take (lineno - 1)).flatten ++ text ++
    ((lines isNewline source).drop last).flatten

structure Lawful (astParse : List Char → Option (List Statement)) (target : Target) : Prop where
  spans : ∀ source body, astParse source = some body → ∀ definition ∈ definitions body,
    ∃ last, definition.endLineno = some last ∧ 1 ≤ definition.lineno ∧ definition.lineno ≤ last ∧
      last ≤ (lines isNewline source).length
  ordered : ∀ source body, astParse source = some body →
    (definitions body).Pairwise (fun earlier later =>
      ∀ last, earlier.endLineno = some last → last < later.lineno)
  replaced : ∀ source before definition decorators signature after last text,
    astParse source = some (before ++ .functionDef definition decorators signature :: after) →
    definition.endLineno = some last → replacement target definition.name = .ok text →
    astParse (replaceLines source definition.lineno last text) =
      some (before ++ .functionDef
        { definition with
          endLineno := some (definition.lineno - 1 + (lines isNewline text).length) }
        decorators [] ::
        after.map (Statement.move last (definition.lineno - 1 + (lines isNewline text).length)))

/-- The definitions of the two functions: of each the last one of the module. -/
structure Site (astParse : List Char → Option (List Statement)) (source : List Char) where
  before : List Statement
  first : FunctionDef
  firstDecorators : List String
  firstSignature : List String
  middle : List Statement
  second : FunctionDef
  secondDecorators : List String
  secondSignature : List String
  after : List Statement
  firstEnd : Nat
  secondEnd : Nat
  parsed : astParse source = some (before ++ .functionDef first firstDecorators firstSignature ::
    (middle ++ .functionDef second secondDecorators secondSignature :: after))
  names : (first.name = resourceFunction ∧ second.name = invokeFunction) ∨
    (first.name = invokeFunction ∧ second.name = resourceFunction)
  firstSpan : first.endLineno = some firstEnd
  secondSpan : second.endLineno = some secondEnd
  firstLast : ∀ definition ∈ definitions middle ++ definitions after, definition.name ≠ first.name
  secondLast : ∀ definition ∈ definitions after, definition.name ≠ second.name

namespace Site
variable {astParse : List Char → Option (List Statement)} {target : Target} {source : List Char}
  (site : Site astParse source)

def body : List Statement :=
  site.before ++ .functionDef site.first site.firstDecorators site.firstSignature ::
    (site.middle ++
      .functionDef site.second site.secondDecorators site.secondSignature :: site.after)

theorem names_ne : site.first.name ≠ site.second.name := by
  rcases site.names with ⟨first, second⟩ | ⟨first, second⟩
  · rw [first, second]
    decide
  · rw [first, second]
    decide

theorem first_named : site.first.name ∈ functionNames := by
  rcases site.names with ⟨first, -⟩ | ⟨first, -⟩
  · rw [first]
    exact List.mem_cons_self
  · rw [first]
    exact List.mem_cons_of_mem _ List.mem_cons_self

theorem second_named : site.second.name ∈ functionNames := by
  rcases site.names with ⟨-, second⟩ | ⟨-, second⟩
  · rw [second]
    exact List.mem_cons_of_mem _ List.mem_cons_self
  · rw [second]
    exact List.mem_cons_self

theorem mem_functionNames (name : String) :
    name ∈ functionNames ↔ name = site.first.name ∨ name = site.second.name := by
  rcases site.names with ⟨first, second⟩ | ⟨first, second⟩
  · rw [first, second]
    simp [functionNames]
  · rw [first, second]
    simp [functionNames, or_comm]

end Site

/-- A name no definition of the statements has is none of theirs. -/
theorem lookup_targets_none (body : List Statement) (name : String)
    (absent : ∀ definition ∈ definitions body, definition.name ≠ name) :
    (body.filterMap Statement.target?).reverse.lookup name = none := by
  rw [List.lookup_eq_none_iff]
  intro entry member
  obtain ⟨statement, listed, target⟩ := List.mem_filterMap.mp (List.mem_reverse.mp member)
  cases statement with
  | other binds => cases target
  | functionDef definition decorators signature =>
      simp only [Statement.target?] at target
      split at target
      · cases target
        apply bne_iff_ne.mpr
        exact (absent definition (List.mem_filterMap.mpr ⟨_, listed, rfl⟩)).symm
      · cases target

/-- The last definition of a name is the one the dictionary keeps. -/
theorem lookup_functions (before after : List Statement) (definition : FunctionDef)
    (decorators signature : List String) (named : definition.name ∈ functionNames)
    (last : ∀ other ∈ definitions after, other.name ≠ definition.name) :
    (functions (before ++ .functionDef definition decorators signature :: after)).lookup
      definition.name = some definition := by
  rw [functions, Mapping.lookup_ofItems, List.filterMap_append, List.reverse_append,
    List.filterMap_cons]
  simp only [Statement.target?, if_pos named]
  rw [List.reverse_cons, List.append_assoc, List.lookup_append,
    lookup_targets_none after definition.name last, Option.none_or, List.singleton_append,
    Mapping.lookup_cons, if_pos rfl]

theorem keys_functions (body : List Statement) (name : String)
    (member : name ∈ (functions body).keys) : name ∈ functionNames := by
  rcases (Mapping.mem_keys_assignAll _ _ name).mp member with held | item
  · cases held
  · obtain ⟨entry, listed, rfl⟩ := List.mem_map.mp item
    obtain ⟨statement, -, target⟩ := List.mem_filterMap.mp listed
    cases statement with
    | other binds => cases target
    | functionDef definition decorators signature =>
        simp only [Statement.target?] at target
        split at target
        · next named =>
            cases target
            exact named
        · cases target

namespace Site
variable {astParse : List Char → Option (List Statement)} {target : Target} {source : List Char}
  (site : Site astParse source)

theorem first_last (definition : FunctionDef)
    (member : definition ∈ definitions (site.middle ++
      .functionDef site.second site.secondDecorators site.secondSignature :: site.after)) :
    definition.name ≠ site.first.name := by
  rw [definitions, List.filterMap_append, List.filterMap_cons] at member
  simp only [Statement.definition?] at member
  rcases List.mem_append.mp member with inside | behind
  · exact site.firstLast definition (List.mem_append_left _ inside)
  · rcases List.mem_cons.mp behind with rfl | later
    · exact site.names_ne.symm
    · exact site.firstLast definition (List.mem_append_right _ later)

theorem functions_first : (functions site.body).lookup site.first.name = some site.first :=
  lookup_functions _ _ _ _ _ site.first_named site.first_last

/-- The statements around the lower definition. -/
theorem body_lower : site.body =
    (site.before ++ .functionDef site.first site.firstDecorators site.firstSignature ::
      site.middle) ++
      .functionDef site.second site.secondDecorators site.secondSignature :: site.after := by
  rw [body, List.append_assoc]
  rfl

theorem functions_second : (functions site.body).lookup site.second.name = some site.second := by
  rw [body_lower]
  exact lookup_functions _ _ _ _ _ site.second_named site.secondLast

/-- Where the two definitions stand. -/
structure Bounds : Prop where
  starts : 1 ≤ site.first.lineno
  first_filled : site.first.lineno ≤ site.firstEnd
  apart : site.firstEnd < site.second.lineno
  second_filled : site.second.lineno ≤ site.secondEnd
  within : site.secondEnd ≤ (lines isNewline source).length

theorem bounds (lawful : Lawful astParse target) : site.Bounds := by
  have spans := lawful.spans source _ site.parsed
  have ordered := lawful.ordered source _ site.parsed
  have shape : definitions site.body = definitions site.before ++ site.first ::
      (definitions site.middle ++ site.second :: definitions site.after) := by
    simp [body, definitions, Statement.definition?, List.filterMap_append]
  rw [← body, shape] at ordered
  have behind := (List.pairwise_cons.mp (List.pairwise_append.mp ordered).2.1).1 site.second
    (List.mem_append_right _ List.mem_cons_self)
  obtain ⟨firstEnd, sameFirst, starts, filled, -⟩ := spans site.first (by
    rw [← body, shape]
    exact List.mem_append_right _ List.mem_cons_self)
  obtain ⟨secondEnd, sameSecond, -, second_filled, within⟩ := spans site.second (by
    rw [← body, shape]
    exact List.mem_append_right _ (List.mem_cons_of_mem _
      (List.mem_append_right _ List.mem_cons_self)))
  rw [site.firstSpan] at sameFirst
  rw [site.secondSpan] at sameSecond
  cases sameFirst
  cases sameSecond
  exact ⟨starts, filled, behind _ site.firstSpan, second_filled, within⟩

/-- The loop takes the lower definition first. -/
theorem sorted (bounds : site.Bounds) :
    (functions site.body).entries.mergeSort (fun a b => b.2.lineno ≤ a.2.lineno) =
      [(site.second.name, site.second), (site.first.name, site.first)] := by
  have below : site.first.lineno < site.second.lineno :=
    lt_of_le_of_lt bounds.first_filled bounds.apart
  have distinct : [(site.second.name, site.second), (site.first.name, site.first)].Nodup := by
    simp [site.names_ne.symm]
  have members : ∀ entry, entry ∈ (functions site.body).entries ↔
      entry ∈ [(site.second.name, site.second), (site.first.name, site.first)] := by
    rintro ⟨name, definition⟩
    constructor
    · intro member
      have held := Mapping.lookup_of_mem _ name definition member
      have named := keys_functions site.body name (List.mem_map_of_mem member)
      rcases (site.mem_functionNames name).mp named with rfl | rfl
      · rw [site.functions_first] at held
        simp [Option.some.inj held]
      · rw [site.functions_second] at held
        simp [Option.some.inj held]
    · intro member
      rcases List.mem_cons.mp member with same | other
      · cases same
        exact Mapping.mem_of_lookup _ _ _ site.functions_second
      · cases List.mem_singleton.mp other
        exact Mapping.mem_of_lookup _ _ _ site.functions_first
  have reordered := (List.perm_ext_iff_of_nodup (List.Nodup.of_map Prod.fst
    (functions site.body).unique) distinct).mpr members
  have inOrder : [(site.second.name, site.second), (site.first.name, site.first)].Pairwise
      (fun a b : String × FunctionDef => decide (b.2.lineno ≤ a.2.lineno) = true) := by
    simp [below.le]
  have sortedEntries : ((functions site.body).entries.mergeSort
      (fun a b => decide (b.2.lineno ≤ a.2.lineno))).Pairwise
      (fun a b => decide (b.2.lineno ≤ a.2.lineno) = true) :=
    List.pairwise_mergeSort (by simp; omega) (by simp; omega) _
  apply List.Perm.eq_of_pairwise _ sortedEntries inOrder ((List.mergeSort_perm _ _).trans reordered)
  intro one other member otherMember up down
  have level : one.2.lineno = other.2.lineno :=
    le_antisymm (of_decide_eq_true down) (of_decide_eq_true up)
  have listed := (members one).mp ((List.mergeSort_perm _ _).mem_iff.mp member)
  simp only [List.mem_cons, List.not_mem_nil, or_false] at listed otherMember
  rcases listed with rfl | rfl <;> rcases otherMember with rfl | rfl
  · rfl
  · exact absurd level below.ne'
  · exact absurd level below.ne
  · rfl

end Site

end ClusterApiForSlinky.SdkPatch
