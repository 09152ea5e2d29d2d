import ClusterApiForSlinky.InventoryMembership

/-!
The inventory against the order of the machines. Every list the loop keeps has
no duplicates and is sorted at the end, and which keys a group has is settled by
the machines it was named for, so only the set of listed machines matters to the
groups. The hostvars follow as long as every hostname has one machine.
-/

namespace ClusterApiForSlinky.InventoryOrder
open MachineInventory InventoryGraph

def childList (groups : Dictionary Group) (name : String) : Option (List String) :=
  (groups.lookup name).bind Group.children

def hostList (groups : Dictionary Group) (name : String) : Option (List String) :=
  (groups.lookup name).bind Group.hosts

/-! Which groups have a "children" key, and which a "hosts" key. -/

def HasChildrenKey (groups : Dictionary Group) (name : String) : Prop :=
  (childList groups name).isSome = true

def HasHostsKey (groups : Dictionary Group) (name : String) : Prop :=
  (hostList groups name).isSome = true

theorem childrenKey_addChild (group child name : String) (groups : Dictionary Group) :
    HasChildrenKey (addChild group child groups) name ↔
      HasChildrenKey groups name ∨ name = group := by
  by_cases same : name = group
  · subst same
    simp [HasChildrenKey, childList, addChild]
  · simp [HasChildrenKey, childList, addChild, same]

theorem hostsKey_addChild (group child name : String) (groups : Dictionary Group) :
    HasHostsKey (addChild group child groups) name ↔ HasHostsKey groups name := by
  by_cases same : name = group
  · subst same
    cases held : groups.lookup name <;> simp [HasHostsKey, hostList, addChild, held]
  · simp [HasHostsKey, hostList, addChild, same]

theorem childrenKey_addHost (group host name : String) (groups : Dictionary Group) :
    HasChildrenKey (addHost group host groups) name ↔ HasChildrenKey groups name := by
  by_cases same : name = group
  · subst same
    cases held : groups.lookup name <;> simp [HasChildrenKey, childList, addHost, held]
  · simp [HasChildrenKey, childList, addHost, same]

theorem hostsKey_addHost (group host name : String) (groups : Dictionary Group) :
    HasHostsKey (addHost group host groups) name ↔ HasHostsKey groups name ∨ name = group := by
  by_cases same : name = group
  · subst same
    simp [HasHostsKey, hostList, addHost]
  · simp [HasHostsKey, hostList, addHost, same]

theorem childrenKey_setDefault (key name : String) (value : Group) (groups : Dictionary Group) :
    HasChildrenKey (groups.setDefault key value) name ↔
      HasChildrenKey groups name ∨
        (name = key ∧ groups.lookup key = none ∧ value.children.isSome = true) := by
  by_cases same : name = key
  · subst same
    cases held : groups.lookup name <;>
      simp [HasChildrenKey, childList, Dictionary.lookup_setDefault, held]
  · simp [HasChildrenKey, childList, Dictionary.lookup_setDefault, same]

theorem hostsKey_setDefault (key name : String) (value : Group) (groups : Dictionary Group) :
    HasHostsKey (groups.setDefault key value) name ↔
      HasHostsKey groups name ∨
        (name = key ∧ groups.lookup key = none ∧ value.hosts.isSome = true) := by
  by_cases same : name = key
  · subst same
    cases held : groups.lookup name <;>
      simp [HasHostsKey, hostList, Dictionary.lookup_setDefault, held]
  · simp [HasHostsKey, hostList, Dictionary.lookup_setDefault, same]

theorem childrenKey_addRole (isRole : Bool) (role child name : String)
    (groups : Dictionary Group) :
    HasChildrenKey (addRole isRole role child groups) name ↔
      HasChildrenKey groups name ∨ (isRole = true ∧ name = role) := by
  cases isRole with
  | false => simp [addRole]
  | true =>
      simp only [addRole, if_true, childrenKey_addChild, childrenKey_setDefault]
      tauto

theorem hostsKey_addRole (isRole : Bool) (role child name : String) (groups : Dictionary Group) :
    HasHostsKey (addRole isRole role child groups) name ↔ HasHostsKey groups name := by
  cases isRole with
  | false => simp [addRole]
  | true => simp [addRole, hostsKey_addChild, hostsKey_setDefault]

/-- The groups a machine gives children to. -/
def Parent (options : Options) (entry : Listed) (name : String) : Prop :=
  name = "all" ∨ name = "slurm" ∨ name = clusterGroup entry ∨ name = typeGroup entry ∨
    Role options entry name

/-- A default that was set for a group is no trace: the group is extended next. -/
theorem childrenKey_addGroups (options : Options) (entry : Listed) (groups : Dictionary Group)
    (name : String) :
    HasChildrenKey (addGroups options entry groups) name ↔
      HasChildrenKey groups name ∨ Parent options entry name := by
  simp only [addGroups, childrenKey_addRole, childrenKey_addHost, childrenKey_addChild,
    childrenKey_setDefault, Option.isSome_some, Option.isSome_none, Bool.false_eq_true, and_true,
    and_false, or_false, decide_eq_true_eq, Parent, Role]
  grind

theorem hostsKey_addGroups (options : Options) (entry : Listed) (groups : Dictionary Group)
    (name : String) :
    HasHostsKey (addGroups options entry groups) name ↔
      HasHostsKey groups name ∨ name = clusterTypeGroup entry := by
  simp only [addGroups, hostsKey_addRole, hostsKey_addHost, hostsKey_addChild,
    hostsKey_setDefault, Option.isSome_some, Option.isSome_none, Bool.false_eq_true, and_true,
    and_false, or_false]
  grind

/-! The lists have no duplicates. -/

structure Duplicateless (groups : Dictionary Group) : Prop where
  children : ∀ name, (children groups name).Nodup
  hosts : ∀ name, (hosts groups name).Nodup

theorem insertNew_nodup (items : List String) (item : String) (distinct : items.Nodup) :
    (insertNew items item).Nodup := by
  unfold insertNew
  split
  · exact distinct
  · next fresh => exact List.Nodup.append distinct (List.nodup_singleton item) (by simpa using fresh)

theorem addChild_duplicateless (group child : String) (groups : Dictionary Group)
    (clean : Duplicateless groups) : Duplicateless (addChild group child groups) := by
  constructor
  · intro name
    by_cases same : name = group
    · subst same
      have held := clean.children name
      have shape : children (addChild name child groups) name =
          insertNew (children groups name) child := by
        cases present : groups.lookup name <;> simp [children, addChild, present]
      rw [shape]
      exact insertNew_nodup _ _ held
    · simpa [children, addChild, same] using clean.children name
  · intro name
    rw [hosts_addChild]
    exact clean.hosts name

theorem addHost_duplicateless (group host : String) (groups : Dictionary Group)
    (clean : Duplicateless groups) : Duplicateless (addHost group host groups) := by
  constructor
  · intro name
    rw [children_addHost]
    exact clean.children name
  · intro name
    by_cases same : name = group
    · subst same
      have held := clean.hosts name
      have shape : hosts (addHost name host groups) name =
          insertNew (hosts groups name) host := by
        cases present : groups.lookup name <;> simp [hosts, addHost, present]
      rw [shape]
      exact insertNew_nodup _ _ held
    · simpa [hosts, addHost, same] using clean.hosts name

theorem setDefault_duplicateless (key : String) (value : Group) (empty : Empty value)
    (groups : Dictionary Group) (clean : Duplicateless groups) :
    Duplicateless (groups.setDefault key value) := by
  constructor
  · intro name
    rw [children_setDefault key name value empty]
    exact clean.children name
  · intro name
    rw [hosts_setDefault key name value empty]
    exact clean.hosts name

theorem addRole_duplicateless (isRole : Bool) (role child : String) (groups : Dictionary Group)
    (clean : Duplicateless groups) : Duplicateless (addRole isRole role child groups) := by
  cases isRole with
  | false => exact clean
  | true =>
      exact addChild_duplicateless _ _ _ (setDefault_duplicateless _ _ emptyChildren _ clean)

theorem addGroups_duplicateless (options : Options) (entry : Listed) (groups : Dictionary Group)
    (clean : Duplicateless groups) : Duplicateless (addGroups options entry groups) := by
  have defaults := setDefault_duplicateless (clusterTypeGroup entry) _ emptyHosts _
    (setDefault_duplicateless (typeGroup entry) _ emptyChildren _
      (setDefault_duplicateless (clusterGroup entry) _ emptyChildren _ clean))
  unfold addGroups
  refine addRole_duplicateless _ _ _ _ (addRole_duplicateless _ _ _ _ ?_)
  refine addHost_duplicateless _ _ _ ?_
  exact addChild_duplicateless _ _ _ (addChild_duplicateless _ _ _ (addChild_duplicateless _ _ _
    (addChild_duplicateless _ _ _ (addChild_duplicateless _ _ _ defaults))))

theorem collected_duplicateless (options : Options) (machines : List Machine) :
    Duplicateless
      (Execution.run (addMachine options) (initialInventory options) machines).groups := by
  refine Execution.run_invariant (addMachine options)
    (fun inventory => Duplicateless inventory.groups) ?_ _ machines ?_
  · intro inventory machine clean
    unfold addMachine
    split
    · exact clean
    · exact addGroups_duplicateless _ _ _ clean
  · constructor
    · intro name
      simp only [children, initial_lookup]
      split_ifs <;> simp
    · intro name
      simp only [hosts, initial_lookup]
      split_ifs <;> simp

/-! The groups are settled by the set of listed machines. -/

theorem sortedStrings_perm (left right : List String) (reordered : left.Perm right) :
    sortedStrings left = sortedStrings right := by
  refine List.Perm.eq_of_pairwise (fun a b _ _ up down => le_antisymm up down)
    (List.pairwise_insertionSort _ left) (List.pairwise_insertionSort _ right) ?_
  exact (List.perm_insertionSort _ left).trans
    (reordered.trans (List.perm_insertionSort _ right).symm)

theorem sorted_option_eq (left right : Option (List String))
    (leftDistinct : (left.getD []).Nodup) (rightDistinct : (right.getD []).Nodup)
    (present : left.isSome = true ↔ right.isSome = true)
    (same : ∀ item, item ∈ left.getD [] ↔ item ∈ right.getD []) :
    left.map sortedStrings = right.map sortedStrings := by
  cases left with
  | none =>
      cases right with
      | none => rfl
      | some items => simp at present
  | some items =>
      cases right with
      | none => simp at present
      | some others =>
          exact congrArg some (sortedStrings_perm items others
            ((List.perm_ext_iff_of_nodup leftDistinct rightDistinct).mpr same))

/-- Two collections that agree on names, keys and members are sorted alike. -/
theorem sorted_groups_eq (left right : Dictionary Group) (leftClean : Duplicateless left)
    (rightClean : Duplicateless right) (names : ∀ name, name ∈ left ↔ name ∈ right)
    (childrenKeys : ∀ name, HasChildrenKey left name ↔ HasChildrenKey right name)
    (hostsKeys : ∀ name, HasHostsKey left name ↔ HasHostsKey right name)
    (sameChildren : ∀ name item, item ∈ children left name ↔ item ∈ children right name)
    (sameHosts : ∀ name item, item ∈ hosts left name ↔ item ∈ hosts right name) :
    left.mapValues sortGroup = right.mapValues sortGroup := by
  apply Finmap.ext_lookup
  intro name
  rw [Dictionary.lookup_mapValues, Dictionary.lookup_mapValues]
  have defined := names name
  rw [← Finmap.lookup_isSome, ← Finmap.lookup_isSome] at defined
  have childrenEq := sorted_option_eq (childList left name) (childList right name)
    (leftClean.children name) (rightClean.children name) (childrenKeys name) (sameChildren name)
  have hostsEq := sorted_option_eq (hostList left name) (hostList right name)
    (leftClean.hosts name) (rightClean.hosts name) (hostsKeys name) (sameHosts name)
  unfold childList at childrenEq
  unfold hostList at hostsEq
  cases here : left.lookup name with
  | none =>
      cases there : right.lookup name with
      | none => rfl
      | some group => simp [here, there] at defined
  | some group =>
      cases there : right.lookup name with
      | none => simp [here, there] at defined
      | some other =>
          rw [here, there] at childrenEq hostsEq
          have sorted : sortGroup group = sortGroup other := by
            simpa [sortGroup] using And.intro childrenEq hostsEq
          exact congrArg some sorted

theorem listing_congr {Fact : Prop} (options : Options) (left right : List Machine)
    (same : ∀ entry, Listing options left entry ↔ Listing options right entry)
    (adds : Listed → Prop) :
    (Fact ∨ ∃ entry, Listing options left entry ∧ adds entry) ↔
      (Fact ∨ ∃ entry, Listing options right entry ∧ adds entry) :=
  or_congr_right (exists_congr fun entry => and_congr_left fun _ => same entry)

theorem groups_of_listing (options : Options) (left right : List Machine)
    (same : ∀ entry, Listing options left entry ↔ Listing options right entry) :
    (inventoryFromMachines options left).groups = (inventoryFromMachines options right).groups := by
  refine sorted_groups_eq _ _ (collected_duplicateless options left)
    (collected_duplicateless options right) ?_ ?_ ?_ ?_ ?_
  · intro name
    have collect := collected_iff options (fun inventory name => name ∈ inventory.groups)
      (fun entry name => Names options entry name)
      (fun inventory entry name => mem_addGroups options entry inventory.groups name)
    rw [collect left name, collect right name]
    exact listing_congr options left right same _
  · intro name
    have collect := collected_iff options (fun inventory name => HasChildrenKey inventory.groups name)
      (fun entry name => Parent options entry name)
      (fun inventory entry name => childrenKey_addGroups options entry inventory.groups name)
    rw [collect left name, collect right name]
    exact listing_congr options left right same _
  · intro name
    have collect := collected_iff options (fun inventory name => HasHostsKey inventory.groups name)
      (fun entry name => name = clusterTypeGroup entry)
      (fun inventory entry name => hostsKey_addGroups options entry inventory.groups name)
    rw [collect left name, collect right name]
    exact listing_congr options left right same _
  · intro name item
    have edges := ((child_iff options left name item).trans
      (listing_congr options left right same _)).trans (child_iff options right name item).symm
    exact (sortGroup_children _ name item).symm.trans (edges.trans (sortGroup_children _ name item))
  · intro name item
    have edges := ((hasHost_iff options left name item).trans
      (listing_congr options left right same _)).trans (hasHost_iff options right name item).symm
    exact (sortGroup_hosts _ name item).symm.trans (edges.trans (sortGroup_hosts _ name item))

/-! The hostvars, when every hostname has one machine. -/

theorem listed_hostname (options : Options) (machine : Machine) (entry : Listed)
    (present : listed options machine = some entry) :
    entry.hostname = machineHostname machine := by
  unfold listed at present
  split at present
  · cases present
    rfl
  · cases present

/-- Hostnames do not repeat across different machines of the list. -/
def OwnHostnames (machines : List Machine) : Prop :=
  ∀ machine ∈ machines, ∀ other ∈ machines,
    machineHostname machine = machineHostname other → machine = other

theorem hostvars_of_listing (options : Options) (left right : List Machine)
    (same : ∀ entry, Listing options left entry ↔ Listing options right entry)
    (own : OwnHostnames left) :
    (inventoryFromMachines options left).hostvars =
      (inventoryFromMachines options right).hostvars := by
  apply Finmap.ext_lookup
  intro host
  simp only [inventoryFromMachines]
  rcases InventoryMembership.run_hostvars options left (initialInventory options) host with
    ⟨entry, member, named, shown⟩ | ⟨absent, kept⟩
  · rcases InventoryMembership.run_hostvars options right (initialInventory options) host with
      ⟨other, otherMember, otherNamed, otherShown⟩ | ⟨absent, _⟩
    · obtain ⟨machine, inside, present⟩ := member
      obtain ⟨source, otherInside, otherPresent⟩ := (same other).mpr otherMember
      have equal : machine = source := by
        apply own machine inside source otherInside
        rw [← listed_hostname options machine entry present,
          ← listed_hostname options source other otherPresent, named, otherNamed]
      rw [equal, otherPresent] at present
      rw [shown, otherShown, Option.some.inj present]
    · exact absurd named (absent entry ((same entry).mp member))
  · rcases InventoryMembership.run_hostvars options right (initialInventory options) host with
      ⟨other, otherMember, otherNamed, _⟩ | ⟨_, otherKept⟩
    · exact absurd otherNamed (absent other ((same other).mpr otherMember))
    · rw [kept, otherKept]

theorem inventory_of_listing (options : Options) (left right : List Machine)
    (same : ∀ entry, Listing options left entry ↔ Listing options right entry)
    (own : OwnHostnames left) :
    inventoryFromMachines options left = inventoryFromMachines options right := by
  have groups := groups_of_listing options left right same
  have hostvars := hostvars_of_listing options left right same own
  revert groups hostvars
  generalize inventoryFromMachines options left = first
  generalize inventoryFromMachines options right = second
  obtain ⟨firstVars, firstGroups⟩ := first
  obtain ⟨secondVars, secondGroups⟩ := second
  rintro rfl rfl
  rfl

theorem ownHostnames_of_nodup (machines : List Machine)
    (distinct : (machines.map machineHostname).Nodup) : OwnHostnames machines :=
  fun _ member _ other same => List.inj_on_of_nodup_map distinct member other same

/-- Neither the order of the machines nor a repeated machine shows. -/
theorem inventory_order_independent (options : Options) (machines : List Machine)
    (distinct : (machines.map machineHostname).Nodup) :
    (∀ reordered, reordered.Perm machines →
      inventoryFromMachines options reordered = inventoryFromMachines options machines) ∧
    (∀ machine ∈ machines,
      inventoryFromMachines options (machines ++ [machine]) =
        inventoryFromMachines options machines) := by
  have own := ownHostnames_of_nodup machines distinct
  constructor
  · intro reordered permutation
    refine (inventory_of_listing options machines reordered ?_ own).symm
    intro entry
    simp only [Listing, permutation.mem_iff]
  · intro machine member
    refine (inventory_of_listing options machines (machines ++ [machine]) ?_ own).symm
    intro entry
    constructor
    · rintro ⟨source, inside, present⟩
      exact ⟨source, List.mem_append_left _ inside, present⟩
    · rintro ⟨source, inside, present⟩
      rcases List.mem_append.mp inside with first | last
      · exact ⟨source, first, present⟩
      · rw [List.mem_singleton.mp last] at present
        exact ⟨machine, member, present⟩

/-- A controller of cluster "a_b" and a worker whose type has the name of the
first one's group. -/
def collidingMachines : List Machine :=
  [{ name := some "head-0"
     labels := [("slinky.slurm.net/node-type", "controller"), (clusterNameLabel, "a b")] },
    { name := some "node-0"
      labels := [("slinky.slurm.net/node-type", "controller_a_b"), (clusterNameLabel, "a-b")] }]

theorem colliding_machines_reordered :
    inventoryFromMachines { executable := "python3" } collidingMachines.reverse =
        inventoryFromMachines { executable := "python3" } collidingMachines ∧
      inventoryFromMachines { executable := "python3" }
          (collidingMachines ++ collidingMachines.take 1) =
        inventoryFromMachines { executable := "python3" } collidingMachines := by
  obtain ⟨reordered, repeated⟩ := inventory_order_independent { executable := "python3" }
    collidingMachines (by decide)
  exact ⟨reordered _ (List.reverse_perm _), repeated _ (by simp [collidingMachines])⟩

end ClusterApiForSlinky.InventoryOrder
