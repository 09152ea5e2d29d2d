import ClusterApiForSlinky.Segments
import ClusterApiForSlinky.WorkloadConfig

/-!
Azure resource ids: localenv/_azure.py takes the id of the host's subnet apart,
and stacks/workload_cluster/workload_cluster_class_azure_byo.py builds one from
the names in the configuration. What the instance metadata service and Azure
Resource Manager answer is a parameter, and so is Unicode case folding.
-/

namespace ClusterApiForSlinky.AzureNetwork
open WorkloadConfig Segments

def armComputeApiVersion : String := "2024-11-01"
def armNetworkApiVersion : String := "2024-05-01"

structure AzureHostNetwork where
  subscriptionId : String
  location : String
  vnetId : String
  vnetName : String
  vnetResourceGroup : String
  subnetId : String
  subnetName : String
  subnetAddressPrefix : String
  networkSecurityGroupId : Option String
  natGatewayId : Option String
  routeTableId : Option String
  deriving DecidableEq

abbrev Entries := List (String × Json)

/-- An HTTP answer; `json` is `none` for a body that is no JSON text. -/
structure Answer where
  statusCode : Nat
  json : Option Json
  deriving DecidableEq

/-- What surrounds the discovery. A request or a credential that fails gives `none`. -/
structure Host where
  imds : Option Answer
  token : Option UUID → Option String
  arm : String → String → String → Option Answer

inductive Failure where
  | attributeError
  | valueError (message : String)
  deriving DecidableEq

def requiredStr (mapping : Entries) (key : String) : Option String :=
  match mapping.lookup key with
  | some (.str text) => if text = "" then none else some text
  | _ => none

def asDict : Option Json → Option Entries
  | some (.dict entries) => some entries
  | _ => none

/-- `_imds_instance_payload` and `_arm_resource_payload` of the answer they got. -/
def payload (answer : Option Answer) : Option Entries :=
  match answer with
  | some ⟨200, json⟩ => asDict json
  | _ => none

/-- `value.get("properties", {})`, to be asked for one of its items. -/
def propertiesOf (value : Entries) : Except Failure Entries :=
  match value.lookup "properties" with
  | none => .ok []
  | some (.dict entries) => .ok entries
  | some _ => .error .attributeError

def isPrimary (value : Entries) : Except Failure Bool := do
  if value.lookup "primary" = some (.bool true) then return true
  let properties ← propertiesOf value
  return properties.lookup "primary" = some (.bool true)

def firstPrimary : List Entries → Except Failure (Option Entries)
  | [] => .ok none
  | value :: rest => do
      if ← isPrimary value then return some value
      firstPrimary rest

def primaryMapping (values : Option Json) : Except Failure (Option Entries) :=
  match values with
  | some (.list values) => do
      let candidates := values.filterMap (fun value => asDict (some value))
      return (← firstPrimary candidates).or candidates.head?
  | _ => .ok none

/-- `_resource_id_part` of the parts of an id. -/
def partAfter (folding : CaseFolding) (collection : Segment) : List Segment → Option Segment
  | part :: next :: rest =>
      if folding.casefold part = folding.casefold collection then some next
      else partAfter folding collection (next :: rest)
  | _ => none

def resourceIdPart (folding : CaseFolding) (resourceId collection : String) : Option String :=
  (partAfter folding collection.toList (split resourceId.toList)).map String.ofList

/-- What the metadata service says about the host. -/
structure Compute where
  subscriptionId : String
  resourceGroup : String
  vmName : String
  location : String
  deriving DecidableEq

def readCompute (host : Host) : Option Compute := do
  let compute ← asDict ((← payload host.imds).lookup "compute")
  return { subscriptionId := ← requiredStr compute "subscriptionId"
           resourceGroup := ← requiredStr compute "resourceGroupName"
           vmName := ← requiredStr compute "name"
           location := ← requiredStr compute "location" }

def vmId (compute : Compute) : String :=
  "/subscriptions/" ++ compute.subscriptionId ++ "/resourceGroups/" ++ compute.resourceGroup ++
    "/providers/Microsoft.Compute/virtualMachines/" ++ compute.vmName

/-- The id of the primary network interface of the machine. -/
def primaryNic (host : Host) (token : String) (compute : Compute) :
    Except Failure (Option String) := do
  match payload (host.arm (vmId compute) armComputeApiVersion token) with
  | none => return none
  | some [] => return none
  | some vm =>
      let some profile := asDict ((← propertiesOf vm).lookup "networkProfile") | return none
      let some nic ← primaryMapping (profile.lookup "networkInterfaces") | return none
      return requiredStr nic "id"

/-- The id of the subnet of the primary address of an interface. -/
def primarySubnet (host : Host) (token nicId : String) : Except Failure (Option String) := do
  let nic := payload (host.arm nicId armNetworkApiVersion token)
  let some properties := asDict (nic.bind (List.lookup "properties" ·)) | return none
  let some address ← primaryMapping (properties.lookup "ipConfigurations") | return none
  let some addressProperties := asDict (address.lookup "properties") | return none
  let some subnet := asDict (addressProperties.lookup "subnet") | return none
  return requiredStr subnet "id"

def subnetProperties (host : Host) (token subnetId : String) : Option Entries :=
  let subnet := payload (host.arm subnetId armNetworkApiVersion token)
  asDict (subnet.bind (List.lookup "properties" ·))

def addressPrefix (properties : Entries) : Option String :=
  (requiredStr properties "addressPrefix").or
    (match properties.lookup "addressPrefixes" with
      | some (.list (.str first :: _)) => if first = "" then none else some first
      | _ => none)

def nestedId (properties : Entries) (key : String) : Option String :=
  (asDict (properties.lookup key)).bind (requiredStr · "id")

/-- What the discovery collects before it takes the id of the subnet apart. -/
structure SubnetFacts where
  compute : Compute
  subnetId : String
  properties : Entries
  deriving DecidableEq

def subnetFacts (host : Host) (clientId : Option UUID) : Except Failure (Option SubnetFacts) := do
  let some compute := readCompute host | return none
  let some token := host.token clientId | return none
  let some nicId ← primaryNic host token compute | return none
  let some subnetId ← primarySubnet host token nicId | return none
  let some properties := subnetProperties host token subnetId | return none
  return some { compute, subnetId, properties }

def vnetIdOf (subnetId : String) : String :=
  String.ofList (rsplitFirst "/subnets/".toList subnetId.toList)

def hostNetwork (folding : CaseFolding) (facts : SubnetFacts) : Option AzureHostNetwork := do
  let subnetAddressPrefix ← addressPrefix facts.properties
  let vnetName ← resourceIdPart folding facts.subnetId "virtualNetworks"
  let subnetName ← resourceIdPart folding facts.subnetId "subnets"
  let vnetResourceGroup ← resourceIdPart folding facts.subnetId "resourceGroups"
  return {
    subscriptionId := facts.compute.subscriptionId
    location := facts.compute.location
    vnetId := vnetIdOf facts.subnetId
    vnetName, vnetResourceGroup
    subnetId := facts.subnetId
    subnetName, subnetAddressPrefix
    networkSecurityGroupId := nestedId facts.properties "networkSecurityGroup"
    natGatewayId := nestedId facts.properties "natGateway"
    routeTableId := nestedId facts.properties "routeTable" }

/-- With `raise_on_missing`. -/
def discoverAzureHostNetwork (folding : CaseFolding) (host : Host) (clientId : Option UUID) :
    Except Failure AzureHostNetwork := do
  match (← subnetFacts host clientId).bind (hostNetwork folding) with
  | some network => return network
  | none =>
      throw (.valueError "azure host network discovery found no usable host VNet/subnet")

structure AzureBYOSubnet where
  subscriptionId : String
  location : String
  vnetId : String
  vnetName : String
  vnetResourceGroup : String
  subnetId : String
  subnetName : String
  addressPrefix : Option String
  networkSecurityGroupId : Option String := none
  natGatewayId : Option String := none
  routeTableId : Option String := none
  deriving DecidableEq

def AzureBYOSubnet.fromHostNetwork (network : AzureHostNetwork) : AzureBYOSubnet :=
  { subscriptionId := network.subscriptionId, location := network.location
    vnetId := network.vnetId, vnetName := network.vnetName
    vnetResourceGroup := network.vnetResourceGroup, subnetId := network.subnetId
    subnetName := network.subnetName, addressPrefix := some network.subnetAddressPrefix
    networkSecurityGroupId := network.networkSecurityGroupId
    natGatewayId := network.natGatewayId, routeTableId := network.routeTableId }

def azureResourceId (subscriptionId : UUID) (resourceGroup providerPath : String) : String :=
  "/subscriptions/" ++ subscriptionId.text ++ "/resourceGroups/" ++ resourceGroup ++
    "/providers/" ++ providerPath

def vnetId (subscriptionId : UUID) (vnet : AzureBYOVNetConfig) : String :=
  azureResourceId subscriptionId vnet.resourceGroup.text
    ("Microsoft.Network/virtualNetworks/" ++ vnet.name.text)

def explicitByoSubnet (parameters : AzureBYOWorkloadSpec) : Option AzureBYOSubnet :=
  parameters.vnet.map (fun vnet =>
    { subscriptionId := parameters.subscriptionId.text, location := parameters.location.text
      vnetId := vnetId parameters.subscriptionId vnet
      vnetName := vnet.name.text, vnetResourceGroup := vnet.resourceGroup.text
      subnetId := vnetId parameters.subscriptionId vnet ++ "/subnets/" ++ vnet.subnet.name.text
      subnetName := vnet.subnet.name.text
      addressPrefix := vnet.subnet.addressPrefix.map (·.text) })

def resolveByoSubnet (folding : CaseFolding) (host : Host) (parameters : AzureBYOWorkloadSpec) :
    Except Failure (Option AzureBYOSubnet) := do
  let explicit := explicitByoSubnet parameters
  if parameters.useAutoDiscoveredVnet ≠ some true ∧ explicit.isSome then return explicit
  if parameters.useAutoDiscoveredVnet = some false then return none
  let network ← discoverAzureHostNetwork folding host none
  let differs := fun (found given : String) =>
    folding.casefold found.toList ≠ folding.casefold given.toList
  if differs network.subscriptionId parameters.subscriptionId.text then
    throw (.valueError
      "auto-discovered VNet subscription does not match azure-byo subscriptionId")
  if differs network.location parameters.location.text then
    throw (.valueError "auto-discovered VNet location does not match azure-byo location")
  return some (.fromHostNetwork network)

/-! Ids in any letter case of their collection segments. -/

/-- How Azure spells the three collections. -/
structure Spelling where
  resourceGroups : Segment
  virtualNetworks : Segment
  subnets : Segment
  groups_variant : CaseVariant "resourceGroups".toList resourceGroups
  networks_variant : CaseVariant "virtualNetworks".toList virtualNetworks
  subnets_variant : CaseVariant "subnets".toList subnets
  deriving DecidableEq

def Spelling.canonical : Spelling :=
  ⟨"resourceGroups".toList, "virtualNetworks".toList, "subnets".toList, rfl, rfl, rfl⟩

section
variable (spelling : Spelling) (subscriptionId : UUID) (vnet : AzureBYOVNetConfig)

def vnetSegments : List Segment :=
  ["subscriptions".toList, subscriptionId.text.toList, spelling.resourceGroups,
    vnet.resourceGroup.text.toList, "providers".toList, "Microsoft.Network".toList,
    spelling.virtualNetworks, vnet.name.text.toList]

def subnetSegments : List Segment :=
  vnetSegments spelling subscriptionId vnet ++ [spelling.subnets, vnet.subnet.name.text.toList]

def spelledVnetId : String := String.ofList (joined (vnetSegments spelling subscriptionId vnet))

def spelledSubnetId : String := String.ofList (joined (subnetSegments spelling subscriptionId vnet))

/-- The names hold no slash; that they are not empty is part of the configuration. -/
structure PlainNames : Prop where
  resourceGroup : '/' ∉ vnet.resourceGroup.text.toList
  name : '/' ∉ vnet.name.text.toList
  subnet : '/' ∉ vnet.subnet.name.text.toList

theorem idText_toList (subscription group network : String) :
    ("/subscriptions/" ++ subscription ++ "/resourceGroups/" ++ group ++ "/providers/" ++
        ("Microsoft.Network/virtualNetworks/" ++ network)).toList =
      joined ["subscriptions".toList, subscription.toList, "resourceGroups".toList, group.toList,
        "providers".toList, "Microsoft.Network".toList, "virtualNetworks".toList,
        network.toList] := by
  simp only [String.toList_append, joined_cons, joined_nil]
  simp

theorem vnetId_toList : (vnetId subscriptionId vnet).toList =
    joined (vnetSegments .canonical subscriptionId vnet) := idText_toList _ _ _

theorem canonical_vnetId :
    spelledVnetId .canonical subscriptionId vnet = vnetId subscriptionId vnet := by
  rw [spelledVnetId, ← vnetId_toList, String.ofList_toList]

theorem canonical_subnetId :
    spelledSubnetId .canonical subscriptionId vnet =
      vnetId subscriptionId vnet ++ "/subnets/" ++ vnet.subnet.name.text := by
  have chars : (vnetId subscriptionId vnet ++ "/subnets/" ++ vnet.subnet.name.text).toList =
      joined (subnetSegments .canonical subscriptionId vnet) := by
    rw [String.toList_append, String.toList_append, vnetId_toList, subnetSegments, joined_append,
      List.append_assoc]
    rw [joined_cons, joined_cons, joined_nil, List.append_nil]
    rfl
  rw [spelledSubnetId, ← chars, String.ofList_toList]

theorem hexDigit_plain (digit : Fin 16) :
    (Text.hexDigit digit).toNat < 128 ∧ Text.hexDigit digit ≠ '/' := by
  revert digit
  decide

theorem uuid_chars (char : Char) (member : char ∈ subscriptionId.text.toList) :
    char = '-' ∨ ∃ digit, char = Text.hexDigit digit := by
  rw [UUID.text, String.toList_ofList] at member
  rcases UUID.mem_hyphenate _ char member with dash | listed
  · exact Or.inl dash
  · obtain ⟨digit, -, same⟩ := List.mem_map.mp listed
    exact Or.inr ⟨digit, same.symm⟩

theorem uuid_ascii : isAscii subscriptionId.text.toList = true := by
  rw [isAscii, List.all_eq_true]
  intro char member
  rcases uuid_chars subscriptionId char member with rfl | ⟨digit, rfl⟩
  · decide
  · exact decide_eq_true (hexDigit_plain digit).1

theorem uuid_plain : '/' ∉ subscriptionId.text.toList := by
  intro member
  rcases uuid_chars subscriptionId '/' member with dash | ⟨digit, same⟩
  · exact absurd dash (by decide)
  · exact (hexDigit_plain digit).2 same.symm

theorem uuid_length : subscriptionId.text.toList.length = 36 := by
  rw [UUID.text, String.toList_ofList]
  exact UUID.length_hyphenate _ (by rw [List.length_map, subscriptionId.length])

theorem spelled_segment (word text : Segment) (variant : CaseVariant word text)
    (filled : word ≠ []) (plain : '/' ∉ word.map Char.toLower) : text ≠ [] ∧ '/' ∉ text := by
  constructor
  · rintro rfl
    exact filled (List.length_eq_zero_iff.mp (caseVariant_length word [] variant).symm)
  · intro member
    rw [← show text.map Char.toLower = _ from variant] at plain
    exact plain (List.mem_map.mpr ⟨'/', member, rfl⟩)

theorem segments_plain (plain : PlainNames vnet) :
    ∀ part ∈ subnetSegments spelling subscriptionId vnet, part ≠ [] ∧ '/' ∉ part := by
  have given : ∀ text : NonEmptyStr, text.text.toList ≠ [] := by
    intro text
    simpa using text.accepted
  have filled : subscriptionId.text.toList ≠ [] := by
    intro none
    have length := uuid_length subscriptionId
    rw [none] at length
    cases length
  simp only [subnetSegments, vnetSegments, List.cons_append, List.nil_append,
    List.forall_mem_cons]
  exact ⟨⟨by decide, by decide⟩, ⟨filled, uuid_plain subscriptionId⟩,
    spelled_segment _ _ spelling.groups_variant (by decide) (by decide),
    ⟨given vnet.resourceGroup, plain.resourceGroup⟩, ⟨by decide, by decide⟩,
    ⟨by decide, by decide⟩,
    spelled_segment _ _ spelling.networks_variant (by decide) (by decide),
    ⟨given vnet.name, plain.name⟩,
    spelled_segment _ _ spelling.subnets_variant (by decide) (by decide),
    ⟨given vnet.subnet.name, plain.subnet⟩, by simp⟩

theorem split_subnetId (plain : PlainNames vnet) :
    split (spelledSubnetId spelling subscriptionId vnet).toList =
      subnetSegments spelling subscriptionId vnet := by
  rw [spelledSubnetId, String.toList_ofList]
  exact split_joined _ (segments_plain spelling subscriptionId vnet plain)

variable (folding : CaseFolding)

theorem casefold_uuid_ne (word : Segment) (ascii : isAscii word = true)
    (length : word.length ≠ 36) :
    folding.casefold subscriptionId.text.toList ≠ folding.casefold word := by
  intro same
  have lengths := congrArg List.length same
  rw [folding.casefold_ascii_length _ (uuid_ascii subscriptionId),
    folding.casefold_ascii_length _ ascii, uuid_length] at lengths
  exact length lengths.symm

theorem casefold_ne_of_ascii (first second : Segment) (ascii : isAscii first = true)
    (other : isAscii second = true)
    (different : first.map Char.toLower ≠ second.map Char.toLower) :
    folding.casefold first ≠ folding.casefold second := by
  rwa [folding.casefold_ascii first ascii, folding.casefold_ascii second other]

theorem part_resourceGroups :
    partAfter folding "resourceGroups".toList (subnetSegments spelling subscriptionId vnet) =
      some vnet.resourceGroup.text.toList := by
  have start := casefold_ne_of_ascii folding "subscriptions".toList "resourceGroups".toList
    (by decide) (by decide) (by decide)
  have second := casefold_uuid_ne subscriptionId folding "resourceGroups".toList
    (by decide) (by decide)
  have here := casefold_variant folding "resourceGroups".toList spelling.resourceGroups
    spelling.groups_variant (by decide) (by decide)
  simp only [subnetSegments, vnetSegments, List.cons_append, List.nil_append, partAfter,
    if_neg start, if_neg second, if_pos here]

/-- A collection behind the provider is looked for in the name of the resource group first. -/
theorem part_behind_group (word : Segment) (ascii : isAscii word = true)
    (length : word.length ≠ 36)
    (other : ∀ fixed ∈ ["subscriptions", "resourceGroups", "providers", "Microsoft.Network"],
      fixed.toList.map Char.toLower ≠ word.map Char.toLower) :
    partAfter folding word (subnetSegments spelling subscriptionId vnet) =
      if folding.casefold vnet.resourceGroup.text.toList = folding.casefold word then
        some "providers".toList
      else partAfter folding word [spelling.virtualNetworks, vnet.name.text.toList,
        spelling.subnets, vnet.subnet.name.text.toList] := by
  have start := casefold_ne_of_ascii folding "subscriptions".toList word (by decide) ascii
    (other "subscriptions" (by simp))
  have second := casefold_uuid_ne subscriptionId folding word ascii length
  have third := casefold_ne_of_ascii folding "resourceGroups".toList word (by decide) ascii
    (other "resourceGroups" (by simp))
  rw [← casefold_variant folding "resourceGroups".toList spelling.resourceGroups
    spelling.groups_variant (by decide) (by decide)] at third
  have fifth := casefold_ne_of_ascii folding "providers".toList word (by decide) ascii
    (other "providers" (by simp))
  have sixth := casefold_ne_of_ascii folding "Microsoft.Network".toList word (by decide) ascii
    (other "Microsoft.Network" (by simp))
  simp only [subnetSegments, vnetSegments, List.cons_append, List.nil_append, partAfter,
    if_neg start, if_neg second, if_neg third, if_neg fifth, if_neg sixth]

theorem part_virtualNetworks :
    partAfter folding "virtualNetworks".toList (subnetSegments spelling subscriptionId vnet) =
      if folding.casefold vnet.resourceGroup.text.toList =
          folding.casefold "virtualNetworks".toList then some "providers".toList
      else some vnet.name.text.toList := by
  have here := casefold_variant folding "virtualNetworks".toList spelling.virtualNetworks
    spelling.networks_variant (by decide) (by decide)
  rw [part_behind_group spelling subscriptionId vnet folding "virtualNetworks".toList
    (by decide) (by decide) (by decide), partAfter, if_pos here]

theorem part_subnets :
    partAfter folding "subnets".toList (subnetSegments spelling subscriptionId vnet) =
      if folding.casefold vnet.resourceGroup.text.toList = folding.casefold "subnets".toList then
        some "providers".toList
      else if folding.casefold vnet.name.text.toList = folding.casefold "subnets".toList then
        some spelling.subnets
      else some vnet.subnet.name.text.toList := by
  have networks := casefold_ne_of_ascii folding "virtualNetworks".toList "subnets".toList
    (by decide) (by decide) (by decide)
  rw [← casefold_variant folding "virtualNetworks".toList spelling.virtualNetworks
    spelling.networks_variant (by decide) (by decide)] at networks
  have here := casefold_variant folding "subnets".toList spelling.subnets
    spelling.subnets_variant (by decide) (by decide)
  rw [part_behind_group spelling subscriptionId vnet folding "subnets".toList
    (by decide) (by decide) (by decide)]
  simp only [partAfter, if_neg networks, if_pos here]

/-- The id is cut at the right place exactly when its last collection is spelled as in the code. -/
theorem vnetIdOf_iff (plain : PlainNames vnet) :
    vnetIdOf (spelledSubnetId spelling subscriptionId vnet) =
        spelledVnetId spelling subscriptionId vnet ↔ spelling.subnets = "subnets".toList := by
  let segments := subnetSegments spelling subscriptionId vnet
  have slashless : ∀ part ∈ segments, '/' ∉ part :=
    fun part member => (segments_plain spelling subscriptionId vnet plain part member).2
  have eight : vnetSegments spelling subscriptionId vnet = segments.take 8 := rfl
  have size : segments.length = 10 := rfl
  have found : rsplitFirst "/subnets/".toList (joined segments) =
      ((segmentsBefore "subnets".toList segments).map joined).getD (joined segments) := by
    rw [← beforeLast_joined "subnets".toList segments (by decide) slashless]
    rfl
  have chars : (spelledSubnetId spelling subscriptionId vnet).toList = joined segments :=
    String.toList_ofList
  rw [vnetIdOf, chars, spelledVnetId, String.ofList_inj, found, eight]
  constructor
  · intro same
    cases last : segmentsBefore "subnets".toList segments with
    | none =>
        rw [last, Option.map_none, Option.getD_none] at same
        nth_rewrite 1 [← List.take_length (l := segments)] at same
        exact absurd same.symm (joined_ne_of_length segments 8 segments.length (by omega) le_rfl)
    | some before =>
        rw [last, Option.map_some, Option.getD_some] at same
        obtain ⟨after, parts⟩ := segmentsBefore_some _ _ _ last
        have cut : before = segments.take before.length := by
          rw [parts, List.take_left]
        have within : before.length ≤ segments.length := by
          rw [parts, List.length_append]
          exact Nat.le_add_right _ _
        rw [cut] at same
        rcases Nat.lt_trichotomy before.length 8 with less | exactly | more
        · exact absurd same (joined_ne_of_length segments _ 8 less (by omega))
        · have eighth : segments[8]? = some "subnets".toList := by
            rw [parts, ← exactly, List.getElem?_append_right le_rfl, Nat.sub_self]
            rfl
          exact Option.some.inj eighth
        · exact absurd same.symm (joined_ne_of_length segments 8 _ more within)
  · intro same
    have last : segmentsBefore "subnets".toList segments = some (segments.take 8) := by
      simp [segments, subnetSegments, vnetSegments, segmentsBefore, same]
    rw [last, Option.map_some, Option.getD_some]

section
variable (plain : PlainNames vnet)
include plain

theorem idPart_resourceGroups :
    resourceIdPart folding (spelledSubnetId spelling subscriptionId vnet) "resourceGroups" =
      some vnet.resourceGroup.text := by
  rw [resourceIdPart, split_subnetId spelling subscriptionId vnet plain, part_resourceGroups,
    Option.map_some, String.ofList_toList]

theorem idPart_virtualNetworks :
    resourceIdPart folding (spelledSubnetId spelling subscriptionId vnet) "virtualNetworks" =
      some (if folding.casefold vnet.resourceGroup.text.toList =
          folding.casefold "virtualNetworks".toList then "providers" else vnet.name.text) := by
  rw [resourceIdPart, split_subnetId spelling subscriptionId vnet plain, part_virtualNetworks]
  split
  · rfl
  · rw [Option.map_some, String.ofList_toList]

theorem idPart_subnets :
    resourceIdPart folding (spelledSubnetId spelling subscriptionId vnet) "subnets" =
      some (if folding.casefold vnet.resourceGroup.text.toList =
          folding.casefold "subnets".toList then "providers"
        else if folding.casefold vnet.name.text.toList = folding.casefold "subnets".toList then
          String.ofList spelling.subnets
        else vnet.subnet.name.text) := by
  rw [resourceIdPart, split_subnetId spelling subscriptionId vnet plain, part_subnets]
  split
  · rfl
  · split
    · rfl
    · rw [Option.map_some, String.ofList_toList]

end

/-- Two descriptions of one subnet, up to the letter case of the collections in
their ids: those of the first are spelled as given, those of the second as in the code. -/
structure AgreesUpToCase (discovered explicit : AzureBYOSubnet) : Prop where
  vnetName : discovered.vnetName = explicit.vnetName
  vnetResourceGroup : discovered.vnetResourceGroup = explicit.vnetResourceGroup
  subnetName : discovered.subnetName = explicit.subnetName
  vnetId : discovered.vnetId = spelledVnetId spelling subscriptionId vnet ∧
    explicit.vnetId = spelledVnetId .canonical subscriptionId vnet
  subnetId : discovered.subnetId = spelledSubnetId spelling subscriptionId vnet ∧
    explicit.subnetId = spelledSubnetId .canonical subscriptionId vnet

structure ParsedBack (network : AzureHostNetwork) (explicit : AzureBYOSubnet) : Prop where
  resourceGroup : network.vnetResourceGroup = vnet.resourceGroup.text
  vnetName : network.vnetName = vnet.name.text
  subnetName : network.subnetName = vnet.subnet.name.text
  vnetId : network.vnetId = spelledVnetId spelling subscriptionId vnet
  agrees : AgreesUpToCase spelling subscriptionId vnet (.fromHostNetwork network) explicit

/-- No name is taken for a collection, and the id is cut where its subnets begin. -/
structure NoNameCollides : Prop where
  collection : spelling.subnets = "subnets".toList
  group_network : folding.casefold vnet.resourceGroup.text.toList =
    folding.casefold "virtualNetworks".toList → vnet.name.text = "providers"
  group_subnet : folding.casefold vnet.resourceGroup.text.toList =
    folding.casefold "subnets".toList → vnet.subnet.name.text = "providers"
  network_subnet : folding.casefold vnet.resourceGroup.text.toList ≠
      folding.casefold "subnets".toList →
    folding.casefold vnet.name.text.toList = folding.casefold "subnets".toList →
      vnet.subnet.name.text = "subnets"

end

section
variable (folding : CaseFolding) (host : Host) (clientId : Option UUID)

theorem hostNetwork_parts (spelling : Spelling) (subscriptionId : UUID)
    (vnet : AzureBYOVNetConfig) (plain : PlainNames vnet) (facts : SubnetFacts)
    (network : AzureHostNetwork)
    (reported : facts.subnetId = spelledSubnetId spelling subscriptionId vnet)
    (made : hostNetwork folding facts = some network) :
    network.vnetResourceGroup = vnet.resourceGroup.text ∧
      network.vnetName = (if folding.casefold vnet.resourceGroup.text.toList =
        folding.casefold "virtualNetworks".toList then "providers" else vnet.name.text) ∧
      network.subnetName = (if folding.casefold vnet.resourceGroup.text.toList =
          folding.casefold "subnets".toList then "providers"
        else if folding.casefold vnet.name.text.toList = folding.casefold "subnets".toList then
          String.ofList spelling.subnets
        else vnet.subnet.name.text) ∧
      network.vnetId = vnetIdOf facts.subnetId ∧ network.subnetId = facts.subnetId := by
  unfold hostNetwork at made
  rw [reported, idPart_virtualNetworks spelling subscriptionId vnet folding plain,
    idPart_subnets spelling subscriptionId vnet folding plain,
    idPart_resourceGroups spelling subscriptionId vnet folding plain] at made
  cases addressed : addressPrefix facts.properties with
  | none =>
      rw [addressed] at made
      cases made
  | some address =>
      rw [addressed] at made
      cases made
      rw [reported]
      exact ⟨rfl, rfl, rfl, rfl, rfl⟩

theorem hostNetwork_made (spelling : Spelling) (subscriptionId : UUID)
    (vnet : AzureBYOVNetConfig) (plain : PlainNames vnet) (facts : SubnetFacts)
    (addressed : addressPrefix facts.properties ≠ none)
    (reported : facts.subnetId = spelledSubnetId spelling subscriptionId vnet) :
    ∃ network, hostNetwork folding facts = some network := by
  obtain ⟨address, addressed⟩ := Option.ne_none_iff_exists'.mp addressed
  unfold hostNetwork
  rw [reported, idPart_virtualNetworks spelling subscriptionId vnet folding plain,
    idPart_subnets spelling subscriptionId vnet folding plain,
    idPart_resourceGroups spelling subscriptionId vnet folding plain, addressed]
  exact ⟨_, rfl⟩

theorem discover_of_facts (facts : SubnetFacts) (network : AzureHostNetwork)
    (found : subnetFacts host clientId = .ok (some facts))
    (made : hostNetwork folding facts = some network) :
    discoverAzureHostNetwork folding host clientId = .ok network := by
  unfold discoverAzureHostNetwork
  rw [found]
  simp only [bind, Except.bind, Option.bind_some, made]
  rfl

/-- The host's own subnet is discovered with the names it was built from, in
agreement with the configured one. -/
def RoundTrips (spelling : Spelling) (parameters : AzureBYOWorkloadSpec)
    (vnet : AzureBYOVNetConfig) : Prop :=
  ∃ network explicit, discoverAzureHostNetwork folding host clientId = .ok network ∧
    explicitByoSubnet parameters = some explicit ∧
    ParsedBack spelling parameters.subscriptionId vnet network explicit

theorem parsedBack_iff (spelling : Spelling) (parameters : AzureBYOWorkloadSpec)
    (vnet : AzureBYOVNetConfig) (facts : SubnetFacts) (network : AzureHostNetwork)
    (explicit : AzureBYOSubnet) (chosen : parameters.vnet = some vnet) (plain : PlainNames vnet)
    (built : explicitByoSubnet parameters = some explicit)
    (reported : facts.subnetId = spelledSubnetId spelling parameters.subscriptionId vnet)
    (made : hostNetwork folding facts = some network) :
    ParsedBack spelling parameters.subscriptionId vnet network explicit ↔
      NoNameCollides spelling vnet folding := by
  obtain ⟨group, vnetName, subnetName, vnetId, subnetId⟩ :=
    hostNetwork_parts folding spelling parameters.subscriptionId vnet plain facts network reported
      made
  rw [reported] at vnetId
  have cut := vnetIdOf_iff spelling parameters.subscriptionId vnet plain
  rw [← vnetId] at cut
  rw [explicitByoSubnet, chosen, Option.map_some] at built
  cases built
  constructor
  · intro parsed
    have collection := cut.mp parsed.vnetId
    constructor
    · exact collection
    · intro same
      rw [← parsed.vnetName, vnetName, if_pos same]
    · intro same
      rw [← parsed.subnetName, subnetName, if_pos same]
    · intro different same
      rw [← parsed.subnetName, subnetName, if_neg different, if_pos same, collection,
        String.ofList_toList]
  · intro apart
    have named : network.vnetName = vnet.name.text := by
      rw [vnetName]
      split
      · next same => exact (apart.group_network same).symm
      · rfl
    have subnetNamed : network.subnetName = vnet.subnet.name.text := by
      rw [subnetName]
      split
      · next same => exact (apart.group_subnet same).symm
      · next different =>
          split
          · next same =>
              rw [apart.collection, apart.network_subnet different same, String.ofList_toList]
          · rfl
    have placed := cut.mpr apart.collection
    exact ⟨group, named, subnetNamed, placed, named, group, subnetNamed,
      ⟨placed, (canonical_vnetId _ _).symm⟩, subnetId.trans reported,
      (canonical_subnetId _ _).symm⟩

/-- Parsing inverts building exactly when no name is taken for a collection and
Azure spells the collection of subnets in lower case. -/
theorem discovery_round_trips_iff (spelling : Spelling) (parameters : AzureBYOWorkloadSpec)
    (vnet : AzureBYOVNetConfig) (facts : SubnetFacts) (chosen : parameters.vnet = some vnet)
    (plain : PlainNames vnet) (found : subnetFacts host clientId = .ok (some facts))
    (addressed : addressPrefix facts.properties ≠ none)
    (reported : facts.subnetId = spelledSubnetId spelling parameters.subscriptionId vnet) :
    RoundTrips folding host clientId spelling parameters vnet ↔
      NoNameCollides spelling vnet folding := by
  obtain ⟨network, made⟩ := hostNetwork_made folding spelling parameters.subscriptionId vnet plain
    facts addressed reported
  have discovered := discover_of_facts folding host clientId facts network found made
  constructor
  · rintro ⟨other, explicit, discoveredToo, built, parsed⟩
    obtain rfl : network = other := Except.ok.inj (discovered.symm.trans discoveredToo)
    exact (parsedBack_iff folding spelling parameters vnet facts network explicit chosen plain
      built reported made).mp parsed
  · intro apart
    cases built : explicitByoSubnet parameters with
    | none =>
        rw [explicitByoSubnet, chosen] at built
        cases built
    | some explicit =>
        exact ⟨network, explicit, discovered, built,
          (parsedBack_iff folding spelling parameters vnet facts network explicit chosen plain
            built reported made).mpr apart⟩

theorem hostNetwork_placement (facts : SubnetFacts) (network : AzureHostNetwork)
    (made : hostNetwork folding facts = some network) :
    network.subscriptionId = facts.compute.subscriptionId ∧
      network.location = facts.compute.location := by
  simp only [hostNetwork, bind, Option.bind_eq_some_iff] at made
  obtain ⟨_, _, _, _, _, _, _, _, same⟩ := made
  cases same
  exact ⟨rfl, rfl⟩

/-- Where a subnet of the workload must lie. -/
structure LiesWith (parameters : AzureBYOWorkloadSpec) (subscriptionId location : String) :
    Prop where
  subscription : folding.casefold subscriptionId.toList =
    folding.casefold parameters.subscriptionId.text.toList
  location : folding.casefold location.toList = folding.casefold parameters.location.text.toList

theorem explicit_lies (parameters : AzureBYOWorkloadSpec) (subnet : AzureBYOSubnet)
    (built : explicitByoSubnet parameters = some subnet) :
    LiesWith folding parameters subnet.subscriptionId subnet.location := by
  obtain ⟨vnet, -, rfl⟩ := Option.map_eq_some_iff.mp built
  exact ⟨rfl, rfl⟩

theorem resolve_explicit (parameters : AzureBYOWorkloadSpec) (subnet : AzureBYOSubnet)
    (built : explicitByoSubnet parameters = some subnet)
    (named : parameters.useAutoDiscoveredVnet ≠ some true) :
    resolveByoSubnet folding host parameters = .ok (some subnet) := by
  unfold resolveByoSubnet
  rw [built]
  exact if_pos ⟨named, rfl⟩

theorem resolve_discovered (parameters : AzureBYOWorkloadSpec) (network : AzureHostNetwork)
    (asked : parameters.useAutoDiscoveredVnet = some true)
    (found : discoverAzureHostNetwork folding host none = .ok network)
    (lies : LiesWith folding parameters network.subscriptionId network.location) :
    resolveByoSubnet folding host parameters = .ok (some (.fromHostNetwork network)) := by
  unfold resolveByoSubnet
  rw [asked, found]
  simp [bind, Except.bind, lies.subscription, lies.location, pure, Except.pure]

/-- Whatever is resolved lies in the subscription and the location of the workload. -/
theorem resolved_lies (parameters : AzureBYOWorkloadSpec) (subnet : AzureBYOSubnet)
    (resolved : resolveByoSubnet folding host parameters = .ok (some subnet)) :
    LiesWith folding parameters subnet.subscriptionId subnet.location := by
  unfold resolveByoSubnet at resolved
  simp only [bind, Except.bind, pure, Except.pure] at resolved
  split at resolved
  · exact explicit_lies folding parameters subnet (Except.ok.inj resolved)
  · split at resolved
    · cases resolved
    · split at resolved
      · cases resolved
      · -- the subnet of the host, which is compared with the configuration before it is taken
        next network _ =>
          split at resolved
          · cases resolved
          · next subscription =>
              split at resolved
              · cases resolved
              · next location =>
                  cases resolved
                  exact ⟨not_ne_iff.mp subscription, not_ne_iff.mp location⟩

/-- The subnet of the host, asked for, is the one that could have been named
exactly when no name is taken for a collection. -/
theorem resolved_agrees_iff (spelling : Spelling) (parameters : AzureBYOWorkloadSpec)
    (vnet : AzureBYOVNetConfig) (facts : SubnetFacts) (chosen : parameters.vnet = some vnet)
    (plain : PlainNames vnet) (found : subnetFacts host none = .ok (some facts))
    (addressed : addressPrefix facts.properties ≠ none)
    (reported : facts.subnetId = spelledSubnetId spelling parameters.subscriptionId vnet)
    (lies : LiesWith folding parameters facts.compute.subscriptionId facts.compute.location) :
    (∃ discovered explicit,
      resolveByoSubnet folding host { parameters with useAutoDiscoveredVnet := some true } =
        .ok (some discovered) ∧
      resolveByoSubnet folding host { parameters with useAutoDiscoveredVnet := some false } =
        .ok (some explicit) ∧
      AgreesUpToCase spelling parameters.subscriptionId vnet discovered explicit) ↔
    NoNameCollides spelling vnet folding := by
  obtain ⟨network, made⟩ := hostNetwork_made folding spelling parameters.subscriptionId vnet plain
    facts addressed reported
  have discovered := discover_of_facts folding host none facts network found made
  obtain ⟨subscription, location⟩ := hostNetwork_placement folding facts network made
  rw [← subscription, ← location] at lies
  obtain ⟨explicit, built⟩ : ∃ explicit, explicitByoSubnet parameters = some explicit :=
    ⟨_, by rw [explicitByoSubnet, chosen, Option.map_some]⟩
  -- Both settings resolve; what is left is whether they resolve to one subnet.
  have asked := resolve_discovered folding host
    { parameters with useAutoDiscoveredVnet := some true } network rfl discovered
    ⟨lies.subscription, lies.location⟩
  have named := resolve_explicit folding host
    { parameters with useAutoDiscoveredVnet := some false } explicit built (by simp)
  have parsed := parsedBack_iff folding spelling parameters vnet facts network explicit chosen plain
    built reported made
  rw [← parsed]
  constructor
  · rintro ⟨_, _, fromHost, fromNames, agrees⟩
    cases fromHost.symm.trans asked
    cases fromNames.symm.trans named
    rw [explicitByoSubnet, chosen, Option.map_some] at built
    cases built
    exact ⟨agrees.vnetResourceGroup, agrees.vnetName, agrees.subnetName, agrees.vnetId.1, agrees⟩
  · intro parsed
    exact ⟨_, explicit, asked, named, parsed.agrees⟩

end

def sampleNicId : String :=
  "/subscriptions/00000000-0000-0000-0000-000000000000/resourceGroups/nodes" ++
    "/providers/Microsoft.Network/networkInterfaces/vm-nic"

/-- A machine with one interface, in the subnet of the given id. -/
def sampleHost (subnetId : String) : Host where
  imds := some ⟨200, some (.dict [("compute", .dict [
    ("subscriptionId", .str UUID.nil.text), ("resourceGroupName", .str "nodes"),
    ("name", .str "vm"), ("location", .str "westus2")])])⟩
  token _ := some "token"
  arm resourceId apiVersion _ :=
    if apiVersion = armComputeApiVersion then
      some ⟨200, some (.dict [("properties", .dict [("networkProfile", .dict [
        ("networkInterfaces", .list [.dict [("id", .str sampleNicId)]])])])])⟩
    else if resourceId = sampleNicId then
      some ⟨200, some (.dict [("properties", .dict [("ipConfigurations", .list [.dict [
        ("properties", .dict [("subnet", .dict [("id", .str subnetId)])])]])])])⟩
    else some ⟨200, some (.dict [("properties", .dict [
      ("addressPrefix", .str "10.0.0.0/24")])])⟩

theorem sampleHost_facts (subnetId : String) (filled : subnetId ≠ "")
    (other : subnetId ≠ sampleNicId) :
    ∃ facts, subnetFacts (sampleHost subnetId) none = .ok (some facts) ∧
      facts.subnetId = subnetId ∧ addressPrefix facts.properties = some "10.0.0.0/24" := by
  let compute : Compute := ⟨UUID.nil.text, "nodes", "vm", "westus2"⟩
  have known : readCompute (sampleHost subnetId) = some compute := rfl
  have nic : primaryNic (sampleHost subnetId) "token" compute = .ok (some sampleNicId) := rfl
  have subnet : primarySubnet (sampleHost subnetId) "token" sampleNicId =
      .ok (requiredStr [("id", .str subnetId)] "id") := rfl
  have named : requiredStr [("id", .str subnetId)] "id" = some subnetId := if_neg filled
  have answered : (sampleHost subnetId).arm subnetId armNetworkApiVersion "token" =
      some ⟨200, some (.dict [("properties", .dict [("addressPrefix", .str "10.0.0.0/24")])])⟩ := by
    simp [sampleHost, armNetworkApiVersion, armComputeApiVersion, other]
  have properties : subnetProperties (sampleHost subnetId) "token" subnetId =
      some [("addressPrefix", .str "10.0.0.0/24")] := by
    rw [subnetProperties, answered]
    rfl
  refine ⟨⟨compute, subnetId, [("addressPrefix", .str "10.0.0.0/24")]⟩, ?_, rfl, rfl⟩
  unfold subnetFacts
  rw [known]
  change (primaryNic (sampleHost subnetId) "token" compute >>= _) = _
  rw [nic]
  simp only [bind, Except.bind, subnet, named, properties]
  rfl

theorem prefixed_subnet_round_trips :
    ∃ host parameters vnet, RoundTrips CaseFolding.asciiOnly host none .canonical parameters vnet := by
  let vnet : AzureBYOVNetConfig :=
    { name := ⟨"shared", by decide⟩, resourceGroup := ⟨"network", by decide⟩
      subnet := { name := ⟨"nodes", by decide⟩ } }
  let parameters : AzureBYOWorkloadSpec :=
    { subscriptionId := UUID.nil, location := ⟨"westus2", by decide⟩, vnet := some vnet }
  obtain ⟨facts, found, subnetId, addressed⟩ :=
    sampleHost_facts (spelledSubnetId .canonical UUID.nil vnet) (by decide +kernel)
      (by decide +kernel)
  refine ⟨_, parameters, vnet, (discovery_round_trips_iff CaseFolding.asciiOnly _ none .canonical
    parameters vnet facts rfl ?_ found (by simp [addressed]) subnetId).mpr ?_⟩
  · exact ⟨by decide, by decide, by decide⟩
  · exact ⟨rfl, by decide, by decide, by decide⟩

/-- Azure may return the collection as `Subnets`; the whole id is then taken for
the id of the network. -/
theorem capitalised_subnets_lose_network : ¬ ∀ (folding : CaseFolding) (host : Host)
    (clientId : Option UUID) (spelling : Spelling) (parameters : AzureBYOWorkloadSpec)
    (vnet : AzureBYOVNetConfig) (facts : SubnetFacts), parameters.vnet = some vnet →
    PlainNames vnet → subnetFacts host clientId = .ok (some facts) →
    addressPrefix facts.properties ≠ none →
    facts.subnetId = spelledSubnetId spelling parameters.subscriptionId vnet →
    RoundTrips folding host clientId spelling parameters vnet := by
  intro always
  let vnet : AzureBYOVNetConfig :=
    { name := ⟨"shared", by decide⟩, resourceGroup := ⟨"network", by decide⟩
      subnet := { name := ⟨"nodes", by decide⟩ } }
  let parameters : AzureBYOWorkloadSpec :=
    { subscriptionId := UUID.nil, location := ⟨"westus2", by decide⟩, vnet := some vnet }
  let spelling : Spelling := { Spelling.canonical with
    subnets := "Subnets".toList, subnets_variant := by decide }
  have plain : PlainNames vnet := ⟨by decide, by decide, by decide⟩
  obtain ⟨facts, found, subnetId, addressed⟩ :=
    sampleHost_facts (spelledSubnetId spelling UUID.nil vnet) (by decide +kernel) (by decide +kernel)
  obtain ⟨network, explicit, discovered, built, parsed⟩ :=
    always CaseFolding.asciiOnly _ none spelling parameters vnet facts rfl plain found
      (by simp [addressed]) subnetId
  obtain ⟨other, made⟩ := hostNetwork_made CaseFolding.asciiOnly spelling UUID.nil vnet plain facts
    (by simp [addressed]) subnetId
  have discoveredToo := discover_of_facts CaseFolding.asciiOnly _ none facts other found made
  obtain rfl : network = other := Except.ok.inj (discovered.symm.trans discoveredToo)
  have apart := (parsedBack_iff CaseFolding.asciiOnly spelling parameters vnet facts network explicit
    rfl plain built subnetId made).mp parsed
  exact absurd apart.collection (by decide)

end ClusterApiForSlinky.AzureNetwork
