import ClusterApiForSlinky.LineBreaks
import ClusterApiForSlinky.OrderedMapping
import ClusterApiForSlinky.Text

/-!
`patch_source` of scripts/patch_crd_sdk_provider_defaults.py. A text is the list
of its characters. `astParse` is `ast.parse`: `none` is a syntax error, otherwise
it gives the statements of the module. Of a statement only the names it binds
or deletes matter, and the lines of a function definition.
-/

namespace ClusterApiForSlinky.SdkPatch
open LineBreaks ModelCodec

/-- The characters at which `ast` ends a line. -/
def isNewline (char : Char) : Bool := char == '\n' || char == '\r'

def marker : String := "generated by crd2pulumi"

def resourceFunction : String := "get_resource_opts_defaults"
def invokeFunction : String := "get_invoke_opts_defaults"
def functionNames : List String := [resourceFunction, invokeFunction]

def resourceText (packageName exampleToken pluginName : String) : String :=
  "def get_resource_opts_defaults() -> pulumi.ResourceOptions:\n" ++
    "    # crd2pulumi generated this shim as ``" ++ packageName ++ "``, but its\n" ++
    "    # resource tokens are Kubernetes tokens, for example:\n" ++
    "    # ``" ++ exampleToken ++ "``.\n" ++
    "    # Attaching shim defaults makes Pulumi try to install the nonexistent\n" ++
    "    # ``" ++ pluginName ++ "`` provider plugin.\n" ++
    "    return pulumi.ResourceOptions()\n"

def invokeText : String :=
  "def get_invoke_opts_defaults() -> pulumi.InvokeOptions:\n" ++
    "    return pulumi.InvokeOptions()\n"

/-- The names of a target stand in a comment line each. -/
structure Target where
  packageName : String
  exampleToken : String
  pluginName : String
  plain : (packageName.toList ++ exampleToken.toList ++ pluginName.toList).all
    (fun char => !isBreak char) = true
  unmarked : Text.contains (resourceText packageName exampleToken pluginName) marker = false

structure FunctionDef where
  name : String
  lineno : Nat
  endLineno : Option Nat
  deriving DecidableEq

/-- A definition binds what its decorators and then its signature bind, and its
own name last. -/
inductive Statement where
  | functionDef (definition : FunctionDef) (decorators signature : List String)
  | other (binds : List String)
  deriving DecidableEq

def Statement.binds : Statement → List String
  | .functionDef definition decorators signature => decorators ++ signature ++ [definition.name]
  | .other binds => binds

inductive Fault where
  | missingMarker
  | syntaxError
  | missingFunctions (names : List String)
  | noSpan (function : String)
  | unsupportedFunction (function : String)
  deriving DecidableEq

def replacement (target : Target) (function : String) : Except Fault (List Char) :=
  if function = resourceFunction then
    .ok (resourceText target.packageName target.exampleToken target.pluginName).toList
  else if function = invokeFunction then .ok invokeText.toList
  else .error (.unsupportedFunction function)

def isMarked (source : List Char) : Bool :=
  Text.contains
    (String.ofList (['\n'].intercalate ((splitLines isBreak source).take 5))) marker

/-- The definition of one of the two functions, by its name. -/
def Statement.target? : Statement → Option (String × FunctionDef)
  | .functionDef definition _ _ =>
      if definition.name ∈ functionNames then some (definition.name, definition) else none
  | .other _ => none

def functions (body : List Statement) : Mapping String FunctionDef :=
  Mapping.ofItems (body.filterMap Statement.target?)

/-- `items[start:stop] = new` -/
def setSlice (items : List (List Char)) (start stop : Nat) (new : List (List Char)) :
    List (List Char) :=
  items.take start ++ new ++ items.drop (max start stop)

/-- One turn of the loop over the functions. -/
def edit (target : Target) (cut : List (List Char)) (function : String × FunctionDef) :
    Except Fault (List (List Char)) :=
  match function.2.endLineno with
  | none => .error (.noSpan function.1)
  | some last =>
      match replacement target function.1 with
      | .ok text => .ok (setSlice cut (function.2.lineno - 1) last (lines isBreak text))
      | .error fault => .error fault

def patchSource (astParse : List Char → Option (List Statement)) (source : List Char)
    (target : Target) : Except Fault (List Char) :=
  if !isMarked source then .error .missingMarker
  else match astParse source with
    | none => .error .syntaxError
    | some body =>
        let missing := functionNames.filter (fun name => name ∉ (functions body).keys)
        if missing ≠ [] then .error (.missingFunctions (missing.mergeSort (fun a b => a ≤ b)))
        else
          let sorted := (functions body).entries.mergeSort (fun a b => b.2.lineno ≤ a.2.lineno)
          match sorted.foldlM (edit target) (lines isBreak source) with
          | .ok edited => .ok edited.flatten
          | .error fault => .error fault

def capiCore : Target where
  packageName := "ca4s-capi-core-crds"
  exampleToken := "kubernetes:cluster.x-k8s.io/v1beta2:Cluster"
  pluginName := "pulumi-resource-ca4s-capi-core-crds"
  plain := by
    repeat rw [String.toList_ofList]
    rfl
  unmarked := by
    delta resourceText Text.contains
    simp only [String.toList_append]
    repeat rw [String.toList_ofList]
    decide +kernel

def flux : Target where
  packageName := "flux-crds"
  exampleToken := "kubernetes:source.toolkit.fluxcd.io/v1:GitRepository"
  pluginName := "pulumi-resource-flux-crds"
  plain := by
    repeat rw [String.toList_ofList]
    rfl
  unmarked := by
    delta resourceText Text.contains
    simp only [String.toList_append]
    repeat rw [String.toList_ofList]
    decide +kernel

end ClusterApiForSlinky.SdkPatch
