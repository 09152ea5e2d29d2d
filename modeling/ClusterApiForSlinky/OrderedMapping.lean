import ClusterApiForSlinky.ModelCodec
import Mathlib.Data.List.Nodup
import Mathlib.Data.List.Perm.Subperm

/-!
Operations on dictionaries that keep the order in which their keys were inserted.
-/

namespace ClusterApiForSlinky.ModelCodec.Mapping

variable {Name Value Other Error : Type}

def keys (mapping : Mapping Name Value) : List Name := mapping.entries.map Prod.fst

def lookup [DecidableEq Name] (mapping : Mapping Name Value) (name : Name) : Option Value :=
  mapping.entries.lookup name

theorem lookup_cons [DecidableEq Name] (entry : Name × Value) (rest : List (Name × Value))
    (name : Name) :
    (entry :: rest).lookup name = if name = entry.1 then some entry.2 else rest.lookup name := by
  rw [List.lookup_cons]
  by_cases same : name = entry.1
  · simp [same]
  · simp [same, beq_eq_false_iff_ne.mpr same]

theorem lookup_eq_none [DecidableEq Name] (mapping : Mapping Name Value) (name : Name) :
    mapping.lookup name = none ↔ name ∉ mapping.keys := by
  simp only [lookup, keys, List.lookup_eq_none_iff, List.mem_map]
  constructor
  · rintro different ⟨entry, member, rfl⟩
    simpa using different entry member
  · intro absent entry member
    apply bne_iff_ne.mpr
    intro same
    exact absent ⟨entry, member, same.symm⟩

/-- A name that does not come in the rest of a dictionary is not found there. -/
theorem lookup_rest [DecidableEq Name] (entry : Name × Value) (rest : List (Name × Value))
    (unique : ((entry :: rest).map Prod.fst).Nodup) : rest.lookup entry.1 = none := by
  obtain ⟨fresh, later⟩ := List.nodup_cons.mp unique
  exact (lookup_eq_none ⟨rest, later⟩ entry.1).mpr fresh

theorem mem_of_lookup [DecidableEq Name] (mapping : Mapping Name Value) (name : Name)
    (value : Value) (found : mapping.lookup name = some value) :
    (name, value) ∈ mapping.entries := by
  obtain ⟨before, after, same, -⟩ := List.lookup_eq_some_iff.mp found
  rw [same]
  exact List.mem_append_right before List.mem_cons_self

theorem eq_of_mem (mapping : Mapping Name Value) (name : Name) (left right : Value)
    (first : (name, left) ∈ mapping.entries) (second : (name, right) ∈ mapping.entries) :
    left = right :=
  congrArg Prod.snd (List.inj_on_of_nodup_map mapping.unique first second rfl)

theorem lookup_of_mem [DecidableEq Name] (mapping : Mapping Name Value) (name : Name)
    (value : Value) (member : (name, value) ∈ mapping.entries) :
    mapping.lookup name = some value := by
  cases found : mapping.lookup name with
  | none =>
      have absent := (lookup_eq_none mapping name).mp found
      exact absurd (List.mem_map_of_mem (f := Prod.fst) member) absent
  | some other =>
      rw [eq_of_mem mapping name other value (mem_of_lookup mapping name other found) member]

/-! Changing every value. -/

def mapValues (change : Value → Other) (mapping : Mapping Name Value) : Mapping Name Other where
  entries := mapping.entries.map (fun entry => (entry.1, change entry.2))
  unique := by simpa [Function.comp_def] using mapping.unique

theorem mem_mapValues (change : Value → Other) (mapping : Mapping Name Value)
    (entry : Name × Other) :
    entry ∈ (mapping.mapValues change).entries ↔
      ∃ value, (entry.1, value) ∈ mapping.entries ∧ change value = entry.2 := by
  simp only [mapValues, List.mem_map]
  constructor
  · rintro ⟨⟨name, value⟩, member, rfl⟩
    exact ⟨value, member, rfl⟩
  · rintro ⟨value, member, same⟩
    exact ⟨(entry.1, value), member, Prod.ext rfl same⟩

/-- The entries in order, up to the first value that cannot be changed. -/
def traverseEntries (change : Value → Except Error Other) :
    List (Name × Value) → Except Error (List (Name × Other))
  | [] => .ok []
  | (name, value) :: rest =>
      match change value, traverseEntries change rest with
      | .ok next, .ok others => .ok ((name, next) :: others)
      | .ok _, .error error => .error error
      | .error error, _ => .error error

theorem traverseEntries_cons (change : Value → Except Error Other) (name : Name) (value : Value)
    (rest : List (Name × Value)) (changed : List (Name × Other))
    (done : traverseEntries change ((name, value) :: rest) = .ok changed) :
    ∃ next others, change value = .ok next ∧ traverseEntries change rest = .ok others ∧
      changed = (name, next) :: others := by
  unfold traverseEntries at done
  split at done
  case h_1 next others first later =>
    cases done
    exact ⟨next, others, first, later, rfl⟩
  all_goals exact nomatch done

theorem traverseEntries_keys (change : Value → Except Error Other) (entries : List (Name × Value))
    (changed : List (Name × Other)) (done : traverseEntries change entries = .ok changed) :
    changed.map Prod.fst = entries.map Prod.fst := by
  induction entries generalizing changed with
  | nil =>
      cases done
      rfl
  | cons entry rest ih =>
      obtain ⟨next, others, _, later, rfl⟩ :=
        traverseEntries_cons change entry.1 entry.2 rest changed done
      simp only [List.map_cons, ih others later]

theorem mem_traverseEntries (change : Value → Except Error Other) (entries : List (Name × Value))
    (changed : List (Name × Other)) (done : traverseEntries change entries = .ok changed)
    (entry : Name × Other) :
    entry ∈ changed ↔ ∃ value, (entry.1, value) ∈ entries ∧ change value = .ok entry.2 := by
  induction entries generalizing changed with
  | nil =>
      cases done
      simp
  | cons first rest ih =>
      obtain ⟨next, others, mine, later, rfl⟩ :=
        traverseEntries_cons change first.1 first.2 rest changed done
      simp only [List.mem_cons, ih others later]
      constructor
      · rintro (rfl | ⟨value, member, same⟩)
        · exact ⟨first.2, Or.inl rfl, mine⟩
        · exact ⟨value, Or.inr member, same⟩
      · rintro ⟨value, rfl | member, same⟩
        · rw [mine] at same
          exact Or.inl (Prod.ext rfl (Except.ok.inj same).symm)
        · exact Or.inr ⟨value, member, same⟩

def traverse (change : Value → Except Error Other) (mapping : Mapping Name Value) :
    Except Error (Mapping Name Other) :=
  match done : traverseEntries change mapping.entries with
  | .ok changed => .ok ⟨changed, by
      rw [traverseEntries_keys change mapping.entries changed done]
      exact mapping.unique⟩
  | .error error => .error error

theorem traverse_entries (change : Value → Except Error Other) (mapping : Mapping Name Value)
    (changed : Mapping Name Other) (done : mapping.traverse change = .ok changed) :
    traverseEntries change mapping.entries = .ok changed.entries := by
  unfold traverse at done
  split at done
  case h_1 others read =>
    cases done
    exact read
  case h_2 => exact nomatch done

theorem mem_traverse (change : Value → Except Error Other) (mapping : Mapping Name Value)
    (changed : Mapping Name Other) (done : mapping.traverse change = .ok changed)
    (entry : Name × Other) :
    entry ∈ changed.entries ↔
      ∃ value, (entry.1, value) ∈ mapping.entries ∧ change value = .ok entry.2 :=
  mem_traverseEntries change mapping.entries changed.entries
    (traverse_entries change mapping changed done) entry

theorem eq_of_entries (left right : Mapping Name Value) (same : left.entries = right.entries) :
    left = right := by
  cases left
  cases right
  cases same
  rfl

theorem traverse_eq_ok (change : Value → Except Error Other) (mapping : Mapping Name Value)
    (changed : Mapping Name Other) :
    mapping.traverse change = .ok changed ↔
      traverseEntries change mapping.entries = .ok changed.entries := by
  constructor
  · exact traverse_entries change mapping changed
  · intro read
    unfold traverse
    split
    case h_1 others done =>
      exact congrArg Except.ok (eq_of_entries _ _ (Except.ok.inj (done.symm.trans read)))
    case h_2 error done => exact nomatch done.symm.trans read

/-- Where every value of the dictionary can be changed, a traversal only maps. -/
theorem traverse_of_total (change : Value → Except Error Other) (total : Value → Other)
    (mapping : Mapping Name Value)
    (fine : ∀ entry ∈ mapping.entries, change entry.2 = .ok (total entry.2)) :
    mapping.traverse change = .ok (mapping.mapValues total) := by
  rw [traverse_eq_ok]
  show traverseEntries change mapping.entries =
    .ok (mapping.entries.map (fun entry => (entry.1, total entry.2)))
  generalize mapping.entries = entries at fine ⊢
  induction entries with
  | nil => rfl
  | cons entry rest ih =>
      obtain ⟨mine, later⟩ := List.forall_mem_cons.mp fine
      simp only [traverseEntries, mine, ih later, List.map_cons]

/-! Changing every value with its name at hand. -/

/-- Each value beside its own name. -/
def withNames (mapping : Mapping Name Value) : Mapping Name (Name × Value) where
  entries := mapping.entries.map (fun entry => (entry.1, entry))
  unique := by simpa [Function.comp_def] using mapping.unique

def mapNamed (change : Name → Value → Other) (mapping : Mapping Name Value) : Mapping Name Other :=
  mapping.withNames.mapValues (fun entry => change entry.1 entry.2)

def traverseNamed (change : Name → Value → Except Error Other) (mapping : Mapping Name Value) :
    Except Error (Mapping Name Other) :=
  mapping.withNames.traverse (fun entry => change entry.1 entry.2)

theorem entries_mapNamed (change : Name → Value → Other) (mapping : Mapping Name Value) :
    (mapping.mapNamed change).entries =
      mapping.entries.map (fun entry => (entry.1, change entry.1 entry.2)) := by
  simp [mapNamed, withNames, mapValues]

theorem traverseNamed_of_total (change : Name → Value → Except Error Other)
    (total : Name → Value → Other) (mapping : Mapping Name Value)
    (fine : ∀ entry ∈ mapping.entries, change entry.1 entry.2 = .ok (total entry.1 entry.2)) :
    mapping.traverseNamed change = .ok (mapping.mapNamed total) := by
  apply traverse_of_total
  intro paired member
  obtain ⟨entry, here, rfl⟩ := List.mem_map.mp member
  exact fine entry here

theorem keys_mapNamed (change : Name → Value → Other) (mapping : Mapping Name Value) :
    (mapping.mapNamed change).keys = mapping.keys := by
  simp [keys, entries_mapNamed, Function.comp_def]

theorem mapNamed_mapNamed {Last : Type} (first : Name → Value → Other)
    (second : Name → Other → Last) (mapping : Mapping Name Value) :
    (mapping.mapNamed first).mapNamed second =
      mapping.mapNamed (fun name value => second name (first name value)) := by
  apply eq_of_entries
  simp [entries_mapNamed, Function.comp_def]

theorem mapNamed_id (mapping : Mapping Name Value) :
    mapping.mapNamed (fun _ value => value) = mapping := by
  apply eq_of_entries
  simp [entries_mapNamed]

theorem mapNamed_const (change : Value → Other) (mapping : Mapping Name Value) :
    mapping.mapNamed (fun _ => change) = mapping.mapValues change := by
  apply eq_of_entries
  rw [entries_mapNamed]
  rfl

theorem mem_mapNamed (change : Name → Value → Other) (mapping : Mapping Name Value)
    (entry : Name × Other) :
    entry ∈ (mapping.mapNamed change).entries ↔
      ∃ value, (entry.1, value) ∈ mapping.entries ∧ change entry.1 value = entry.2 := by
  rw [entries_mapNamed, List.mem_map]
  constructor
  · rintro ⟨⟨name, value⟩, member, rfl⟩
    exact ⟨value, member, rfl⟩
  · rintro ⟨value, member, same⟩
    exact ⟨(entry.1, value), member, Prod.ext rfl same⟩

/-- The same dictionary under other keys. -/
def mapKeys {Key : Type} (text : Name → Key) (injective : Function.Injective text)
    (mapping : Mapping Name Value) : Mapping Key Value where
  entries := mapping.entries.map (fun entry => (text entry.1, entry.2))
  unique := by
    have renamed : (mapping.entries.map (fun entry => (text entry.1, entry.2))).map Prod.fst =
        (mapping.entries.map Prod.fst).map text := by simp [Function.comp_def]
    rw [renamed]
    exact List.Nodup.map injective mapping.unique

theorem mem_keys_mapKeys {Key : Type} (text : Name → Key) (injective : Function.Injective text)
    (mapping : Mapping Name Value) (key : Key) :
    key ∈ (mapping.mapKeys text injective).keys ↔
      ∃ name ∈ mapping.keys, text name = key := by
  simp [mapKeys, keys]

theorem keys_traverse (change : Value → Except Error Other) (mapping : Mapping Name Value)
    (changed : Mapping Name Other) (done : mapping.traverse change = .ok changed) :
    changed.keys = mapping.keys :=
  traverseEntries_keys change mapping.entries changed.entries
    (traverse_entries change mapping changed done)

theorem keys_withNames (mapping : Mapping Name Value) : mapping.withNames.keys = mapping.keys := by
  simp [keys, withNames, Function.comp_def]

theorem mem_traverseNamed (change : Name → Value → Except Error Other)
    (mapping : Mapping Name Value) (changed : Mapping Name Other)
    (done : mapping.traverseNamed change = .ok changed) (entry : Name × Other) :
    entry ∈ changed.entries ↔
      ∃ value, (entry.1, value) ∈ mapping.entries ∧ change entry.1 value = .ok entry.2 := by
  obtain ⟨name, next⟩ := entry
  rw [mem_traverse _ _ changed done]
  constructor
  · rintro ⟨paired, member, ran⟩
    obtain ⟨⟨_, value⟩, here, same⟩ := List.mem_map.mp member
    cases same
    exact ⟨value, here, ran⟩
  · rintro ⟨value, member, ran⟩
    exact ⟨(name, value), List.mem_map.mpr ⟨(name, value), member, rfl⟩, ran⟩

theorem keys_traverseNamed (change : Name → Value → Except Error Other)
    (mapping : Mapping Name Value) (changed : Mapping Name Other)
    (done : mapping.traverseNamed change = .ok changed) : changed.keys = mapping.keys :=
  (keys_traverse _ _ changed done).trans (keys_withNames mapping)

/-! Reading a changed dictionary. -/

theorem lookup_mapNamed [DecidableEq Name] (change : Name → Value → Other)
    (mapping : Mapping Name Value) (name : Name) :
    (mapping.mapNamed change).lookup name = (mapping.lookup name).map (change name) := by
  unfold lookup
  rw [entries_mapNamed]
  induction mapping.entries with
  | nil => rfl
  | cons entry rest ih =>
      rw [List.map_cons, lookup_cons, lookup_cons, ih]
      by_cases same : name = entry.1
      · rw [if_pos same, if_pos same, Option.map_some, same]
      · rw [if_neg same, if_neg same]

theorem lookup_mapValues [DecidableEq Name] (change : Value → Other)
    (mapping : Mapping Name Value) (name : Name) :
    (mapping.mapValues change).lookup name = (mapping.lookup name).map change := by
  rw [← mapNamed_const, lookup_mapNamed]

/-- The values that are chosen, under their names. -/
def filterMap (choose : Value → Option Other) (mapping : Mapping Name Value) :
    Mapping Name Other where
  entries := mapping.entries.filterMap
    (fun entry => (choose entry.2).map (fun chosen => (entry.1, chosen)))
  unique := by
    apply List.Nodup.sublist _ mapping.unique
    induction mapping.entries with
    | nil => exact List.Sublist.slnil
    | cons entry rest ih =>
        cases kept : choose entry.2 with
        | none => simpa [kept] using ih.cons entry.1
        | some chosen => simpa [kept] using ih.cons_cons entry.1

theorem lookup_filterMap [DecidableEq Name] (choose : Value → Option Other)
    (mapping : Mapping Name Value) (name : Name) :
    (mapping.filterMap choose).lookup name = (mapping.lookup name).bind choose := by
  have read : ∀ entries : List (Name × Value), (entries.map Prod.fst).Nodup →
      (entries.filterMap
        (fun entry => (choose entry.2).map (fun chosen => (entry.1, chosen)))).lookup name =
          (entries.lookup name).bind choose := by
    intro entries unique
    induction entries with
    | nil => rfl
    | cons entry rest ih =>
        have absent := lookup_rest entry rest unique
        have later := (List.nodup_cons.mp unique).2
        rw [lookup_cons, List.filterMap_cons]
        cases kept : choose entry.2 with
        | some chosen =>
            rw [Option.map_some, lookup_cons, ih later]
            by_cases same : name = entry.1
            · rw [if_pos same, if_pos same, Option.bind_some, kept]
            · rw [if_neg same, if_neg same]
        | none =>
            rw [Option.map_none, ih later]
            by_cases same : name = entry.1
            · rw [if_pos same, same, absent, Option.bind_some, kept]
              rfl
            · rw [if_neg same]
  exact read mapping.entries mapping.unique

/-! Assignment and `dict.update`. -/

variable [DecidableEq Name]

/-- A key that is there keeps its place; a new one comes last. -/
def assign (name : Name) (value : Value) : List (Name × Value) → List (Name × Value)
  | [] => [(name, value)]
  | entry :: rest =>
      if entry.1 = name then (name, value) :: rest else entry :: assign name value rest

theorem mem_keys_assign (name other : Name) (value : Value) (entries : List (Name × Value)) :
    other ∈ (assign name value entries).map Prod.fst ↔
      other = name ∨ other ∈ entries.map Prod.fst := by
  induction entries with
  | nil => simp [assign]
  | cons entry rest ih =>
      unfold assign
      by_cases same : entry.1 = name
      · simp [same]
      · simp only [if_neg same, List.map_cons, List.mem_cons, ih]
        exact or_left_comm

theorem nodup_assign (name : Name) (value : Value) (entries : List (Name × Value))
    (unique : (entries.map Prod.fst).Nodup) : ((assign name value entries).map Prod.fst).Nodup := by
  induction entries with
  | nil => simp [assign]
  | cons entry rest ih =>
      obtain ⟨fresh, later⟩ := List.nodup_cons.mp unique
      unfold assign
      by_cases same : entry.1 = name
      · rw [if_pos same, List.map_cons, List.nodup_cons]
        rw [same] at fresh
        exact ⟨fresh, later⟩
      · rw [if_neg same, List.map_cons, List.nodup_cons, mem_keys_assign]
        constructor
        · rintro (equal | member)
          · exact same equal
          · exact fresh member
        · exact ih later

theorem lookup_assign (name other : Name) (value : Value) (entries : List (Name × Value)) :
    (assign name value entries).lookup other =
      if other = name then some value else entries.lookup other := by
  induction entries with
  | nil => exact lookup_cons (name, value) [] other
  | cons entry rest ih =>
      unfold assign
      by_cases held : entry.1 = name
      · by_cases same : other = name <;> simp [held, lookup_cons, same]
      · rw [if_neg held, lookup_cons, lookup_cons, ih]
        by_cases same : other = entry.1
        · simp [same, held]
        · simp [same]

theorem assign_same (name : Name) (value : Value) (entries : List (Name × Value))
    (found : entries.lookup name = some value) : assign name value entries = entries := by
  induction entries with
  | nil => cases found
  | cons entry rest ih =>
      rw [lookup_cons] at found
      unfold assign
      by_cases held : entry.1 = name
      · rw [if_pos held.symm] at found
        rw [if_pos held, ← held, ← Option.some.inj found]
      · rw [if_neg (Ne.symm held)] at found
        rw [if_neg held, ih found]

def set (mapping : Mapping Name Value) (name : Name) (value : Value) : Mapping Name Value where
  entries := assign name value mapping.entries
  unique := nodup_assign name value mapping.entries mapping.unique

theorem lookup_set (mapping : Mapping Name Value) (name other : Name) (value : Value) :
    (mapping.set name value).lookup other =
      if other = name then some value else mapping.lookup other :=
  lookup_assign name other value mapping.entries

def assignAll (items : List (Name × Value)) (mapping : Mapping Name Value) : Mapping Name Value :=
  items.foldl (fun held item => held.set item.1 item.2) mapping

/-- `{**mapping, **updates}` -/
def update (mapping updates : Mapping Name Value) : Mapping Name Value :=
  updates.entries.foldl (fun held entry => held.set entry.1 entry.2) mapping

theorem lookup_assignAll (items : List (Name × Value)) (unique : (items.map Prod.fst).Nodup)
    (mapping : Mapping Name Value) (name : Name) :
    (assignAll items mapping).lookup name = (items.lookup name).or (mapping.lookup name) := by
  induction items generalizing mapping with
  | nil => rfl
  | cons item rest ih =>
      have absent := lookup_rest item rest unique
      have later := (List.nodup_cons.mp unique).2
      rw [assignAll, List.foldl_cons]
      refine (ih later (mapping.set item.1 item.2)).trans ?_
      rw [lookup_set, lookup_cons]
      by_cases same : name = item.1
      · rw [if_pos same, if_pos same, same, absent]
        rfl
      · rw [if_neg same, if_neg same]

theorem lookup_update (mapping updates : Mapping Name Value) (name : Name) :
    (mapping.update updates).lookup name = (updates.lookup name).or (mapping.lookup name) :=
  lookup_assignAll updates.entries updates.unique mapping name

/-! A dictionary that is filled from a list. -/

/-- `{name: value for name, value in items}` -/
def ofItems (items : List (Name × Value)) : Mapping Name Value :=
  assignAll items ⟨[], List.nodup_nil⟩

theorem assign_fresh (name : Name) (value : Value) (entries : List (Name × Value))
    (fresh : name ∉ entries.map Prod.fst) :
    assign name value entries = entries ++ [(name, value)] := by
  induction entries with
  | nil => rfl
  | cons entry rest ih =>
      rw [List.map_cons, List.mem_cons, not_or] at fresh
      rw [assign, if_neg (Ne.symm fresh.1), ih fresh.2, List.cons_append]

theorem entries_assignAll (items : List (Name × Value)) (mapping : Mapping Name Value)
    (fresh : (mapping.keys ++ items.map Prod.fst).Nodup) :
    (assignAll items mapping).entries = mapping.entries ++ items := by
  induction items generalizing mapping with
  | nil => rw [List.append_nil]; rfl
  | cons item rest ih =>
      have absent : item.1 ∉ mapping.entries.map Prod.fst := by
        intro member
        exact List.disjoint_of_nodup_append fresh member List.mem_cons_self
      have held : (mapping.set item.1 item.2).entries = mapping.entries ++ [item] :=
        assign_fresh item.1 item.2 mapping.entries absent
      have later : ((mapping.set item.1 item.2).keys ++ rest.map Prod.fst).Nodup := by
        rw [keys, held, List.map_append, List.append_assoc]
        exact fresh
      have assigned : (assignAll (item :: rest) mapping).entries = _ := ih _ later
      rw [assigned, held, List.append_assoc, List.singleton_append]

theorem mem_keys_assignAll (items : List (Name × Value)) (mapping : Mapping Name Value)
    (name : Name) :
    name ∈ (assignAll items mapping).keys ↔ name ∈ mapping.keys ∨ name ∈ items.map Prod.fst := by
  induction items generalizing mapping with
  | nil => simp [assignAll]
  | cons item rest ih =>
      have set : name ∈ (mapping.set item.1 item.2).keys ↔ name = item.1 ∨ name ∈ mapping.keys :=
        mem_keys_assign item.1 name item.2 mapping.entries
      have later : name ∈ (assignAll (item :: rest) mapping).keys ↔ _ :=
        ih (mapping.set item.1 item.2)
      rw [later, set, List.map_cons, List.mem_cons]
      tauto

theorem entries_ofItems (items : List (Name × Value)) (unique : (items.map Prod.fst).Nodup) :
    (ofItems items).entries = items :=
  entries_assignAll items ⟨[], List.nodup_nil⟩ unique

theorem lookup_assignAll_last (items : List (Name × Value)) (mapping : Mapping Name Value)
    (name : Name) :
    (assignAll items mapping).lookup name = (items.reverse.lookup name).or (mapping.lookup name) := by
  induction items generalizing mapping with
  | nil => rfl
  | cons item rest ih =>
      rw [assignAll, List.foldl_cons]
      refine (ih (mapping.set item.1 item.2)).trans ?_
      rw [lookup_set, List.reverse_cons, List.lookup_append, Option.or_assoc]
      congr 1
      rw [lookup_cons]
      by_cases same : name = item.1 <;> simp [same]

/-- Of the items with one name the last is kept. -/
theorem lookup_ofItems (items : List (Name × Value)) (name : Name) :
    (ofItems items).lookup name = items.reverse.lookup name := by
  rw [ofItems, lookup_assignAll_last]
  exact Option.or_none

/-- As many entries as items are kept only when no name comes twice. -/
theorem nodup_of_length_ofItems (items : List (Name × Value))
    (level : (ofItems items).entries.length = items.length) : (items.map Prod.fst).Nodup := by
  have within : (ofItems items).keys ⊆ items.map Prod.fst := by
    intro name member
    rcases (mem_keys_assignAll items _ name).mp member with held | item
    · cases held
    · exact item
  have counted : (items.map Prod.fst).length ≤ (ofItems items).keys.length := by
    simp [keys, level]
  have same := (List.subperm_of_subset (ofItems items).unique within).perm_of_length_le counted
  exact same.nodup_iff.mp (ofItems items).unique

end ClusterApiForSlinky.ModelCodec.Mapping
