import Mathlib.Data.List.Nodup

/-!
The names under which Pulumi registers resources. A URN holds the types of the
ancestors of a resource, its own type and its name, but no ancestor's name.
Two registrations with one URN are an error.
-/

namespace ClusterApiForSlinky.ResourceUrns

structure Urn where
  parents : List String
  type : String
  name : String
  deriving DecidableEq, Repr

def resource (type name : String) : Urn := { parents := [], type, name }

def under (parent : String) (urn : Urn) : Urn := { urn with parents := parent :: urn.parents }

/-- A component and what it registers as its children. -/
def component (type name : String) (children : List Urn) : List Urn :=
  resource type name :: children.map (under type)

/-- The type of the outermost ancestor, or of the resource where it has none. -/
def outermost (urn : Urn) : String := urn.parents.headD urn.type

@[simp] theorem under_inj (parent : String) (first second : Urn) :
    under parent first = under parent second ↔ first = second := by
  cases first
  cases second
  simp [under]

theorem resource_ne_under (type name parent : String) (urn : Urn) :
    resource type name ≠ under parent urn := by
  intro same
  exact List.cons_ne_nil _ _ (congrArg Urn.parents same).symm

theorem mem_component (type name : String) (children : List Urn) (urn : Urn) :
    urn ∈ component type name children ↔
      urn = resource type name ∨ ∃ child ∈ children, under type child = urn := by
  rw [component, List.mem_cons, List.mem_map]

theorem outermost_component (type name : String) (children : List Urn) (urn : Urn)
    (member : urn ∈ component type name children) : outermost urn = type := by
  rcases (mem_component type name children urn).mp member with rfl | ⟨child, _, rfl⟩ <;> rfl

@[simp] theorem nodup_component (type name : String) (children : List Urn) :
    (component type name children).Nodup ↔ children.Nodup := by
  have injective : Function.Injective (under type) := fun first second same =>
    (under_inj type first second).mp same
  rw [component, List.nodup_cons, List.nodup_map_iff injective]
  constructor
  · exact fun ⟨_, distinct⟩ => distinct
  · intro distinct
    refine ⟨?_, distinct⟩
    intro member
    obtain ⟨child, _, same⟩ := List.mem_map.mp member
    exact resource_ne_under type name type child same.symm

/-- Components of two types never meet; those of one type meet in their names or
in their children, whatever they are called themselves. -/
theorem disjoint_component (type other name second : String) (children rest : List Urn) :
    List.Disjoint (component type name children) (component other second rest) ↔
      (type = other → name ≠ second ∧ List.Disjoint children rest) := by
  constructor
  · rintro apart rfl
    constructor
    · rintro rfl
      exact apart List.mem_cons_self List.mem_cons_self
    · intro child left right
      exact apart ((mem_component type name children _).mpr (Or.inr ⟨child, left, rfl⟩))
        ((mem_component type second rest _).mpr (Or.inr ⟨child, right, rfl⟩))
  · intro apart urn left right
    have same : type = other := (outermost_component type name children urn left).symm.trans
      (outermost_component other second rest urn right)
    obtain ⟨names, kids⟩ := apart same
    subst same
    rcases (mem_component type name children urn).mp left with rfl | ⟨child, member, rfl⟩ <;>
      rcases (mem_component type second rest _).mp right with same | ⟨again, there, same⟩
    · exact names (congrArg Urn.name same)
    · exact resource_ne_under type name type again same.symm
    · exact resource_ne_under type second type child same.symm
    · rw [under_inj] at same
      subst same
      exact kids member there

theorem nodup_component_append (type other name second : String) (children rest : List Urn)
    (apart : type ≠ other) :
    (component type name children ++ component other second rest).Nodup ↔
      children.Nodup ∧ rest.Nodup := by
  have disjoint := (disjoint_component type other name second children rest).mpr
    (fun same => absurd same apart)
  rw [List.nodup_append', nodup_component, nodup_component]
  exact ⟨fun ⟨left, right, _⟩ => ⟨left, right⟩, fun ⟨left, right⟩ => ⟨left, right, disjoint⟩⟩

/-- Components that are made one for each entry of a list have URNs of their own
exactly when no two of one type share a name or a child. -/
theorem nodup_components {Entry : Type} (type name : Entry → String)
    (children : Entry → List Urn) (entries : List Entry) :
    (entries.flatMap (fun entry => component (type entry) (name entry) (children entry))).Nodup ↔
      (∀ entry ∈ entries, (children entry).Nodup) ∧
        entries.Pairwise (fun first second => type first = type second →
          name first ≠ name second ∧ List.Disjoint (children first) (children second)) := by
  rw [List.nodup_flatMap]
  apply and_congr
  · simp only [nodup_component]
  · apply List.Pairwise.iff
    intro first second
    exact disjoint_component (type first) (type second) (name first) (name second)
      (children first) (children second)

/-! Components whose children's names continue their own. -/

/-- `suffixes` holds the type of each child and what its name adds. -/
structure Registration where
  type : String
  name : String
  suffixes : List (String × String) := []
  deriving DecidableEq, Repr

def Registration.children (made : Registration) : List Urn :=
  made.suffixes.map (fun child => resource child.1 (made.name ++ child.2))

def Registration.key (made : Registration) : String × String := (made.type, made.name)

def urns (made : List Registration) : List Urn :=
  made.flatMap (fun one => component one.type one.name one.children)

/-- No suffix of one list ends in one of the other that goes with the same type. -/
def SuffixesApart (first second : List (String × String)) : Prop :=
  ∀ left ∈ first, ∀ right ∈ second, left.1 = right.1 →
    left.2.toList <:+ right.2.toList ∨ right.2.toList <:+ left.2.toList → left.2 = right.2

instance (first second : List (String × String)) : Decidable (SuffixesApart first second) := by
  unfold SuffixesApart
  infer_instance

theorem children_nodup (made : Registration) (distinct : made.suffixes.Nodup) :
    made.children.Nodup := by
  apply distinct.map
  rintro ⟨type, suffix⟩ ⟨other, rest⟩ same
  have types : type = other := congrArg Urn.type same
  have names : made.name ++ suffix = made.name ++ rest := congrArg Urn.name same
  rw [types, (String.append_right_inj _).mp names]

theorem children_disjoint (first second : Registration) (names : first.name ≠ second.name)
    (apart : SuffixesApart first.suffixes second.suffixes) :
    List.Disjoint first.children second.children := by
  intro urn left right
  obtain ⟨child, member, rfl⟩ := List.mem_map.mp left
  obtain ⟨other, there, same⟩ := List.mem_map.mp right
  have types : other.1 = child.1 := congrArg Urn.type same
  have joined : second.name ++ other.2 = first.name ++ child.2 := congrArg Urn.name same
  have texts : second.name.toList ++ other.2.toList = first.name.toList ++ child.2.toList := by
    rw [← String.toList_append, joined, String.toList_append]
  -- both end the same text, so the shorter one ends the longer one
  have ends := List.suffix_or_suffix_of_suffix (List.suffix_append _ child.2.toList)
    (texts ▸ List.suffix_append second.name.toList other.2.toList)
  have suffixes := apart child member other there types.symm ends
  rw [suffixes] at joined
  exact names ((String.append_left_inj _).mp joined).symm

/-- What is registered has URNs of its own exactly when no two components share
both type and name. -/
theorem nodup_urns (made : List Registration)
    (own : ∀ one ∈ made, one.suffixes.Nodup)
    (apart : ∀ first ∈ made, ∀ second ∈ made, first.type = second.type →
      SuffixesApart first.suffixes second.suffixes) :
    (urns made).Nodup ↔ (made.map Registration.key).Nodup := by
  have keyed : (made.map Registration.key).Nodup ↔
      made.Pairwise (fun first second => first.key ≠ second.key) := List.pairwise_map
  rw [keyed]
  apply (nodup_components Registration.type Registration.name Registration.children made).trans
  constructor
  · rintro ⟨_, differ⟩
    apply differ.imp
    intro first second names same
    obtain ⟨types, same⟩ := Prod.mk.inj same
    exact (names types).1 same
  · intro keys
    refine ⟨fun one member => children_nodup one (own one member), ?_⟩
    apply keys.imp_of_mem
    intro first second left right differ types
    have names : first.name ≠ second.name := fun same => differ (Prod.ext types same)
    exact ⟨names, children_disjoint first second names (apart first left second right types)⟩

/-- The names that are registered under a type, in order. -/
def named (type : String) (made : List Registration) : List String :=
  (made.filter (fun one => one.type = type)).map Registration.name

@[simp] theorem named_nil (type : String) : named type [] = [] := rfl

@[simp] theorem named_append (type : String) (first second : List Registration) :
    named type (first ++ second) = named type first ++ named type second := by
  rw [named, List.filter_append, List.map_append]
  rfl

@[simp] theorem named_cons (type : String) (one : Registration) (rest : List Registration) :
    named type (one :: rest) =
      if one.type = type then one.name :: named type rest else named type rest := by
  by_cases same : one.type = type <;> simp [named, same]

/-- What can never meet the rest may be looked at by itself. -/
theorem nodup_between (front names rest : List String) (own : (front ++ rest).Nodup)
    (apart : List.Disjoint names (front ++ rest)) :
    (front ++ names ++ rest).Nodup ↔ names.Nodup := by
  have moved : (front ++ names ++ rest).Perm (names ++ (front ++ rest)) := by
    rw [← List.append_assoc]
    exact List.perm_append_comm.append_right rest
  rw [moved.nodup_iff, List.nodup_append']
  exact ⟨And.left, fun distinct => ⟨distinct, own, apart⟩⟩

/-- Where every type is known, the names under each can be looked at by themselves. -/
theorem nodup_keys_iff (types : List String) (made : List Registration)
    (known : ∀ one ∈ made, one.type ∈ types) :
    (made.map Registration.key).Nodup ↔ ∀ type ∈ types, (named type made).Nodup := by
  have keyed : (made.map Registration.key).Nodup ↔
      made.Pairwise (fun first second => first.key ≠ second.key) := List.pairwise_map
  have typed : ∀ type, (named type made).Nodup ↔ made.Pairwise (fun first second =>
      first.type = type → second.type = type → first.name ≠ second.name) := by
    intro type
    apply List.pairwise_map.trans
    apply List.pairwise_filter.trans
    simp only [decide_eq_true_eq]
  simp only [keyed, typed, List.pairwise_iff_forall_sublist]
  constructor
  · intro differ type _ first second pair left right names
    exact differ pair (Prod.ext (left.trans right.symm) names)
  · intro differ first second pair same
    obtain ⟨types, names⟩ := Prod.mk.inj same
    have member : second ∈ made := pair.subset (by simp)
    exact differ second.type (known second member) pair types rfl names

end ClusterApiForSlinky.ResourceUrns
