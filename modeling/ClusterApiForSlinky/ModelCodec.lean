import ClusterApiForSlinky.Json

/-!
Configuration models that are dumped without the fields that hold their default
and filled in again when they are validated. A default may be a value, a
discovery in the environment of the moment, or a discovery that reads the fields
validated before it. A dump compares a field with what is discovered, so it raises
where the discovery does. `refresh` is what one dump and one validation do to a
value; each codec carries the law that says so.
-/

namespace ClusterApiForSlinky.ModelCodec

variable {Env Value Model Parts Before : Type}

/-- Keys are field names, or the aliases of `to_camel`. -/
inductive Mode where
  | byName
  | byAlias

/-- `encode` and `decode` are `none` where they raise. -/
structure Codec (Env Value : Type) where
  encode : Mode → Env → Value → Option Json
  decode : Env → Json → Option Value
  /-- The value is Python's `None`. -/
  absent : Value → Bool := fun _ => false
  refresh : Env → Env → Value → Option Value
  law : ∀ mode outer inner value, (encode mode outer value).bind (decode inner) =
    refresh outer inner value

/-- Nothing is lost, in any two environments. -/
def Codec.Exact (codec : Codec Env Value) : Prop :=
  ∀ outer inner value, codec.refresh outer inner value = some value

/-- No value is `None`. -/
def Codec.Present (codec : Codec Env Value) : Prop := ∀ value, codec.absent value = false

/-! Codecs that nest no model. -/

def leaf (encode : Value → Json) (decode : Json → Option Value)
    (exact : ∀ value, decode (encode value) = some value) : Codec Env Value where
  encode _ _ value := some (encode value)
  decode _ json := decode json
  refresh _ _ value := some value
  law _ _ _ value := exact value

section Leaves

def bool : Codec Env Bool :=
  leaf Json.bool (fun json => match json with
    | .bool value => some value
    | _ => none) (fun _ => rfl)

def string : Codec Env String :=
  leaf Json.str (fun json => match json with
    | .str value => some value
    | _ => none) (fun _ => rfl)

def uuid : Codec Env UUID :=
  leaf (fun value => .str value.text) (fun json => match json with
    | .str text => UUID.parse text
    | _ => none) UUID.parse_text

/-- `dict[str, object]`. -/
def object : Codec Env (List (String × Json)) :=
  leaf Json.dict (fun json => match json with
    | .dict entries => some entries
    | _ => none) (fun _ => rfl)

/-- A `Literal` with one text for each value. -/
def literal (text : Value → String) (read : String → Option Value)
    (exact : ∀ value, read (text value) = some value) : Codec Env Value :=
  leaf (fun value => .str (text value)) (fun json => match json with
    | .str label => read label
    | _ => none) exact

theorem exact_bool : (bool : Codec Env Bool).Exact := fun _ _ _ => rfl
theorem exact_string : (string : Codec Env String).Exact := fun _ _ _ => rfl
theorem exact_uuid : (uuid : Codec Env UUID).Exact := fun _ _ _ => rfl
theorem exact_object : (object : Codec Env (List (String × Json))).Exact := fun _ _ _ => rfl

end Leaves

/-! Codecs over other codecs. -/

/-- No value is dumped as `null`. -/
def Codec.Solid (codec : Codec Env Value) : Prop :=
  ∀ mode outer value, codec.encode mode outer value ≠ some .null

theorem solid_leaf (encode : Value → Json) (decode : Json → Option Value)
    (exact : ∀ value, decode (encode value) = some value) (solid : ∀ value, encode value ≠ .null) :
    (leaf encode decode exact : Codec Env Value).Solid :=
  fun _ _ value same => solid value (Option.some.inj same)

theorem solid_bool : (bool : Codec Env Bool).Solid := solid_leaf _ _ _ (fun _ => Json.noConfusion)
theorem solid_uuid : (uuid : Codec Env UUID).Solid := solid_leaf _ _ _ (fun _ => Json.noConfusion)
theorem solid_object : (object : Codec Env (List (String × Json))).Solid :=
  solid_leaf _ _ _ (fun _ => Json.noConfusion)

def Codec.optional (codec : Codec Env Value) (solid : codec.Solid) :
    Codec Env (Option Value) where
  encode mode outer value := match value with
    | none => some .null
    | some value => codec.encode mode outer value
  decode inner json := if json = .null then some none else (codec.decode inner json).map some
  absent value := value.isNone
  refresh outer inner value := match value with
    | none => some none
    | some value => (codec.refresh outer inner value).map some
  law mode outer inner value := by
    cases value with
    | none => rfl
    | some value =>
        simp only
        rw [← codec.law mode outer inner value]
        cases encoded : codec.encode mode outer value with
        | none => rfl
        | some json =>
            have filled : json ≠ .null := by
              rintro rfl
              exact solid mode outer value encoded
            simp [filled]

/-- A list that is changed twice is changed item by item. -/
theorem mapM_bind_mapM {First Second Third : Type} (first : First → Option Second)
    (second : Second → Option Third) (items : List First) :
    (items.mapM first).bind (fun middle => middle.mapM second) =
      items.mapM (fun item => (first item).bind second) := by
  induction items with
  | nil => rfl
  | cons item rest ih =>
      simp only [List.mapM_cons, ← ih]
      cases first item with
      | none => rfl
      | some next =>
          cases rest.mapM first with
          | none => cases changed : second next <;> simp [changed]
          | some nexts => exact List.mapM_cons

/-- A tuple, dumped as a list. -/
def Codec.tuple (codec : Codec Env Value) : Codec Env (List Value) where
  encode mode outer values := (values.mapM (codec.encode mode outer)).map .list
  decode inner json := match json with
    | .list items => items.mapM (codec.decode inner)
    | _ => none
  refresh outer inner values := values.mapM (codec.refresh outer inner)
  law mode outer inner values := by
    rw [Option.bind_map]
    refine (mapM_bind_mapM _ _ values).trans ?_
    exact congrArg (fun change => values.mapM change)
      (funext (fun value => codec.law mode outer inner value))

/-- A key that is a checked text. -/
structure TextKey (Name : Type) where
  text : Name → String
  read : String → Option Name
  exact : ∀ name, read (text name) = some name

/-- The entries of a dictionary, in insertion order. -/
def Codec.entries {Name : Type} (names : TextKey Name) (codec : Codec Env Value) :
    Codec Env (List (Name × Value)) where
  encode mode outer entries := (entries.mapM (fun entry =>
    (codec.encode mode outer entry.2).map (fun json => (names.text entry.1, json)))).map .dict
  decode inner json := match json with
    | .dict entries => entries.mapM (fun entry => (names.read entry.1).bind (fun name =>
        (codec.decode inner entry.2).map (fun value => (name, value))))
    | _ => none
  refresh outer inner entries := entries.mapM (fun entry =>
    (codec.refresh outer inner entry.2).map (fun value => (entry.1, value)))
  law mode outer inner entries := by
    rw [Option.bind_map]
    refine (mapM_bind_mapM _ _ entries).trans ?_
    apply congrArg (fun change => entries.mapM change)
    funext entry
    simp only [Option.bind_map, Function.comp_def, names.exact, Option.bind_some,
      ← codec.law mode outer inner entry.2, Option.map_bind]

/-- A model and its fields; `build` is where validators of the model run. -/
structure Shape (Model Parts : Type) where
  parts : Model → Parts
  build : Parts → Option Model
  rebuild : ∀ model, build (parts model) = some model
  reads : ∀ read model, build read = some model → parts model = read

def Codec.shaped (codec : Codec Env Parts) (shape : Shape Model Parts) : Codec Env Model where
  encode mode outer model := codec.encode mode outer (shape.parts model)
  decode inner json := (codec.decode inner json).bind shape.build
  refresh outer inner model := (codec.refresh outer inner (shape.parts model)).bind shape.build
  law mode outer inner model := by rw [← codec.law mode outer inner, Option.bind_assoc]

theorem solid_tuple (codec : Codec Env Value) : codec.tuple.Solid := by
  intro mode outer values same
  obtain ⟨items, -, other⟩ := Option.map_eq_some_iff.mp same
  cases other

theorem present_shaped (codec : Codec Env Parts) (shape : Shape Model Parts) :
    (codec.shaped shape).Present := fun _ => rfl

theorem solid_shaped (codec : Codec Env Parts) (shape : Shape Model Parts)
    (solid : codec.Solid) : (codec.shaped shape).Solid :=
  fun mode outer model => solid mode outer (shape.parts model)

theorem exact_optional (codec : Codec Env Value) (solid : codec.Solid) (exact : codec.Exact) :
    (codec.optional solid).Exact := by
  intro outer inner value
  cases value with
  | none => rfl
  | some value => simp only [Codec.optional, exact outer inner value, Option.map_some]

theorem exact_tuple (codec : Codec Env Value) (exact : codec.Exact) : codec.tuple.Exact := by
  intro outer inner values
  induction values with
  | nil => rfl
  | cons value rest ih =>
      simp only [Codec.tuple, List.mapM_cons, exact outer inner value] at ih ⊢
      simp [ih]

theorem exact_entries {Name : Type} (names : TextKey Name) (codec : Codec Env Value)
    (exact : codec.Exact) : (codec.entries names).Exact := by
  intro outer inner entries
  induction entries with
  | nil => rfl
  | cons entry rest ih =>
      simp only [Codec.entries, List.mapM_cons, exact outer inner entry.2] at ih ⊢
      simp [ih]

theorem exact_shaped (codec : Codec Env Parts) (shape : Shape Model Parts)
    (exact : codec.Exact) : (codec.shaped shape).Exact := by
  intro outer inner model
  simp only [Codec.shaped, exact outer inner (shape.parts model), Option.bind_some, shape.rebuild]

/-- A dictionary, with its keys in insertion order. -/
structure Mapping (Name Value : Type) where
  entries : List (Name × Value) := []
  unique : (entries.map Prod.fst).Nodup := by simp
  deriving DecidableEq

def Mapping.shape {Name : Type} [DecidableEq Name] :
    Shape (Mapping Name Value) (List (Name × Value)) where
  parts mapping := mapping.entries
  build entries := if unique : (entries.map Prod.fst).Nodup then some ⟨entries, unique⟩ else none
  rebuild mapping := by simp [mapping.unique]
  reads := by
    intro entries mapping built
    simp only [Option.dite_none_right_eq_some, Option.some.injEq] at built
    obtain ⟨_, rfl⟩ := built
    rfl

def Codec.mapping {Name : Type} [DecidableEq Name] (names : TextKey Name)
    (codec : Codec Env Value) : Codec Env (Mapping Name Value) :=
  (codec.entries names).shaped Mapping.shape

/-! Keys. -/

def camel : List Char → List Char
  | '_' :: char :: rest => char.toUpper :: camel rest
  | char :: rest => char :: camel rest
  | [] => []

/-- `to_camel` of words in lower case. -/
def toCamel (name : String) : String := String.ofList (camel name.toList)

structure Key where
  name : String
  aliasName : String
  deriving DecidableEq

def key (name : String) : Key := ⟨name, toCamel name⟩

def Mode.key (mode : Mode) (key : Key) : String :=
  match mode with
  | .byName => key.name
  | .byAlias => key.aliasName

/-- `populate_by_name`: the alias first, then the name. -/
def find (entries : List (String × Json)) (key : Key) : Option Json :=
  (entries.lookup key.aliasName).or (entries.lookup key.name)

def Apart (left right : Key) : Prop :=
  left.name ≠ right.name ∧ left.name ≠ right.aliasName ∧
    left.aliasName ≠ right.name ∧ left.aliasName ≠ right.aliasName

instance (left right : Key) : Decidable (Apart left right) :=
  inferInstanceAs (Decidable (_ ∧ _ ∧ _ ∧ _))

/-- Neither spelling of the key is there. -/
def Misses (entries : List (String × Json)) (key : Key) : Prop :=
  entries.lookup key.aliasName = none ∧ entries.lookup key.name = none

theorem apart_symm (left right : Key) (apart : Apart left right) : Apart right left :=
  ⟨apart.1.symm, apart.2.2.1.symm, apart.2.1.symm, apart.2.2.2.symm⟩

theorem find_of_misses (entries rest : List (String × Json)) (key : Key)
    (misses : Misses entries key) : find (entries ++ rest) key = find rest key := by
  simp only [find, List.lookup_append, misses.1, misses.2, Option.none_or]

theorem find_append_misses (entries rest : List (String × Json)) (key : Key)
    (misses : Misses rest key) : find (entries ++ rest) key = find entries key := by
  simp only [find, List.lookup_append, misses.1, misses.2, Option.or_none]

theorem misses_append (entries rest : List (String × Json)) (key : Key)
    (first : Misses entries key) (second : Misses rest key) : Misses (entries ++ rest) key := by
  simp only [Misses, List.lookup_append, first.1, first.2, second.1, second.2, Option.or_none,
    and_self]

theorem find_single (mode : Mode) (key : Key) (json : Json) :
    find [(mode.key key, json)] key = some json := by
  cases mode with
  | byAlias => simp [find, Mode.key, List.lookup_cons]
  | byName =>
      by_cases same : key.aliasName = key.name
      · simp [find, Mode.key, same]
      · simp [find, Mode.key, List.lookup_cons, beq_eq_false_iff_ne.mpr same]

theorem misses_single (mode : Mode) (left right : Key) (apart : Apart left right) (json : Json) :
    Misses [(mode.key left, json)] right := by
  obtain ⟨names, crossed, other, aliases⟩ := apart
  cases mode with
  | byName =>
      simp [Misses, Mode.key, List.lookup_cons, beq_eq_false_iff_ne.mpr names.symm,
        beq_eq_false_iff_ne.mpr crossed.symm]
  | byAlias =>
      simp [Misses, Mode.key, List.lookup_cons, beq_eq_false_iff_ne.mpr other.symm,
        beq_eq_false_iff_ne.mpr aliases.symm]

/-! Fields. -/

/-- What an absent field becomes. `derived` is a `default_factory` that takes the
data validated before it; it is never compared when the model is dumped. -/
inductive Default (Env Before Value : Type) where
  | required
  | static (same : DecidableEq Value) (value : Value)
  | discovered (same : DecidableEq Value) (factory : Env → Option Value)
  | derived (factory : Env → Before → Option Value)

structure Field (Env Before Value : Type) where
  key : Key
  codec : Codec Env Value
  default : Default Env Before Value
  /-- A field serializer runs, so the field is dumped even at its default. -/
  serialized : Bool := false

/-- `none` where the discovery raises, and the dump with it. -/
def Field.atDefault (field : Field Env Before Value) (outer : Env) (value : Value) :
    Option Bool :=
  match field.default with
  | .static _ default => some (value = default)
  | .discovered _ factory => (factory outer).map (fun default => decide (value = default))
  | .required | .derived _ => some false

/-- `exclude_none`, and then `exclude_defaults`, which a serializer keeps from the field. -/
def Field.omitted (field : Field Env Before Value) (outer : Env) (value : Value) : Option Bool :=
  if field.codec.absent value then some true
  else if field.serialized then some false
  else field.atDefault outer value

def Field.fill (field : Field Env Before Value) (inner : Env) (before : Before) : Option Value :=
  match field.default with
  | .required => none
  | .static _ default => some default
  | .discovered _ factory => factory inner
  | .derived factory => factory inner before

def Field.refresh (field : Field Env Before Value) (outer inner : Env) (before : Before)
    (value : Value) : Option Value :=
  (field.omitted outer value).bind (fun omitted =>
    if omitted then field.fill inner before else field.codec.refresh outer inner value)

def Field.encode (field : Field Env Before Value) (mode : Mode) (outer : Env) (value : Value) :
    Option (List (String × Json)) :=
  (field.omitted outer value).bind (fun omitted =>
    if omitted then some []
    else (field.codec.encode mode outer value).map (fun json => [(mode.key field.key, json)]))

def Field.decode (field : Field Env Before Value) (inner : Env) (before : Before)
    (entries : List (String × Json)) : Option Value :=
  match find entries field.key with
  | some json => field.codec.decode inner json
  | none => field.fill inner before

/-- A field is left out, or dumped under its key. -/
theorem Field.encode_cases (field : Field Env Before Value) (mode : Mode) (outer : Env)
    (value : Value) (entries : List (String × Json))
    (encoded : field.encode mode outer value = some entries) :
    field.omitted outer value = some true ∧ entries = [] ∨
      field.omitted outer value = some false ∧ ∃ json,
        field.codec.encode mode outer value = some json ∧
          entries = [(mode.key field.key, json)] := by
  obtain ⟨omitted, decided, rest⟩ := Option.bind_eq_some_iff.mp encoded
  cases omitted with
  | true => exact Or.inl ⟨decided, (Option.some.inj rest).symm⟩
  | false =>
      obtain ⟨json, dumped, same⟩ := Option.map_eq_some_iff.mp rest
      exact Or.inr ⟨decided, json, dumped, same.symm⟩

theorem Field.misses_encode (field : Field Env Before Value) (mode : Mode) (outer : Env)
    (value : Value) (key : Key) (apart : Apart field.key key) (entries : List (String × Json))
    (encoded : field.encode mode outer value = some entries) : Misses entries key := by
  rcases field.encode_cases mode outer value entries encoded with ⟨-, rfl⟩ | ⟨-, json, -, rfl⟩
  · exact ⟨rfl, rfl⟩
  · exact misses_single mode field.key key apart json

theorem Field.decode_congr (field : Field Env Before Value) (inner : Env) (before : Before)
    (entries others : List (String × Json)) (same : find entries field.key = find others field.key) :
    field.decode inner before entries = field.decode inner before others := by
  unfold Field.decode
  rw [same]

theorem Field.decode_encode (field : Field Env Before Value) (mode : Mode) (outer inner : Env)
    (before : Before) (value : Value) :
    (field.encode mode outer value).bind (field.decode inner before) =
      field.refresh outer inner before value := by
  unfold Field.encode Field.refresh
  cases field.omitted outer value with
  | none => rfl
  | some omitted =>
      cases omitted with
      | true => rfl
      | false =>
          have read : ∀ json, field.decode inner before [(mode.key field.key, json)] =
              field.codec.decode inner json := by
            intro json
            simp only [Field.decode, find_single]
          simp only [Option.bind_some, Bool.false_eq_true, if_false, Option.bind_map,
            Function.comp_def, read]
          exact field.codec.law mode outer inner value

/-- The fields of a model, in the order in which they are validated. -/
inductive Fields (Env : Type) : Type → Type 1 where
  | nil : Fields Env Unit
  | snoc {Before Value : Type} (before : Fields Env Before) (field : Field Env Before Value) :
      Fields Env (Before × Value)

namespace Fields

def keys : {Parts : Type} → Fields Env Parts → List Key
  | _, .nil => []
  | _, .snoc before field => field.key :: before.keys

def encode (mode : Mode) (outer : Env) :
    {Parts : Type} → Fields Env Parts → Parts → Option (List (String × Json))
  | _, .nil, _ => some []
  | _, .snoc before field, (parts, value) =>
      (encode mode outer before parts).bind (fun earlier =>
        (field.encode mode outer value).map (fun mine => earlier ++ mine))

def decode (inner : Env) (entries : List (String × Json)) :
    {Parts : Type} → Fields Env Parts → Option Parts
  | _, .nil => some ()
  | _, .snoc before field =>
      (decode inner entries before).bind (fun parts =>
        (field.decode inner parts entries).map (fun value => (parts, value)))

def refresh (outer inner : Env) : {Parts : Type} → Fields Env Parts → Parts → Option Parts
  | _, .nil, _ => some ()
  | _, .snoc before field, (parts, value) =>
      (refresh outer inner before parts).bind (fun fresh =>
        (field.refresh outer inner fresh value).map (fun value => (fresh, value)))

/-- `extra="forbid"`. -/
def allows (fields : Fields Env Parts) (entries : List (String × Json)) : Bool :=
  entries.all (fun entry => fields.keys.any (fun key => entry.1 == key.name || entry.1 == key.aliasName))

theorem encode_snoc {Value : Type} (before : Fields Env Parts) (field : Field Env Parts Value)
    (mode : Mode) (outer : Env) (parts : Parts) (value : Value) (entries : List (String × Json))
    (encoded : (before.snoc field).encode mode outer (parts, value) = some entries) :
    ∃ earlier mine, before.encode mode outer parts = some earlier ∧
      field.encode mode outer value = some mine ∧ entries = earlier ++ mine := by
  obtain ⟨earlier, first, rest⟩ := Option.bind_eq_some_iff.mp encoded
  obtain ⟨mine, second, same⟩ := Option.map_eq_some_iff.mp rest
  exact ⟨earlier, mine, first, second, same.symm⟩

theorem misses_encode (mode : Mode) (outer : Env) (fields : Fields Env Parts) (parts : Parts)
    (key : Key) (apart : ∀ other ∈ fields.keys, Apart other key) (entries : List (String × Json))
    (encoded : fields.encode mode outer parts = some entries) : Misses entries key := by
  induction fields generalizing entries with
  | nil =>
      cases encoded
      exact ⟨rfl, rfl⟩
  | snoc before field ih =>
      obtain ⟨parts, value⟩ := parts
      obtain ⟨earlier, mine, first, second, rfl⟩ :=
        encode_snoc before field mode outer parts value entries encoded
      apply misses_append
      · exact ih parts (fun other member => apart other (List.mem_cons_of_mem _ member)) _ first
      · exact field.misses_encode mode outer value key (apart field.key List.mem_cons_self) _ second

/-- Validation reads back each dumped field and fills in the others, whatever
follows under other keys. -/
theorem decode_encode (mode : Mode) (outer inner : Env) (fields : Fields Env Parts)
    (apart : fields.keys.Pairwise Apart) (parts : Parts) (rest : List (String × Json))
    (others : ∀ key ∈ fields.keys, Misses rest key) :
    (fields.encode mode outer parts).bind (fun entries => fields.decode inner (entries ++ rest)) =
      fields.refresh outer inner parts := by
  induction fields generalizing rest with
  | nil => rfl
  | snoc before field ih =>
      obtain ⟨parts, value⟩ := parts
      obtain ⟨fromField, apart⟩ := List.pairwise_cons.mp apart
      have otherKeys : ∀ key ∈ before.keys, Misses rest key :=
        fun key member => others key (List.mem_cons_of_mem _ member)
      cases first : before.encode mode outer parts with
      | none =>
          have lost := ih apart parts rest otherKeys
          rw [first] at lost
          simp only [encode, refresh, first, ← lost, Option.bind_none]
      | some earlier =>
          cases second : field.encode mode outer value with
          | none =>
              have lost : ∀ fresh, field.refresh outer inner fresh value = none := by
                intro fresh
                rw [← field.decode_encode mode outer inner fresh value, second]
                rfl
              simp only [encode, refresh, first, second, lost, Option.map_none, Option.bind_none,
                Option.bind_some]
              cases before.refresh outer inner parts <;> rfl
          | some mine =>
              -- The entries of this field are among what follows the earlier fields.
              have front : before.decode inner (earlier ++ (mine ++ rest)) =
                  before.refresh outer inner parts := by
                rw [← ih apart parts (mine ++ rest), first, Option.bind_some]
                intro key member
                apply misses_append
                · exact field.misses_encode mode outer value key (fromField key member) mine second
                · exact otherKeys key member
              -- Neither the earlier fields nor the rest use a key of this field.
              have back : ∀ fresh, field.decode inner fresh (earlier ++ (mine ++ rest)) =
                  field.refresh outer inner fresh value := by
                intro fresh
                rw [← field.decode_encode mode outer inner fresh value, second, Option.bind_some]
                apply field.decode_congr
                have missed := misses_encode mode outer before parts field.key
                  (fun other member => apart_symm _ _ (fromField other member)) earlier first
                rw [find_of_misses _ _ _ missed,
                  find_append_misses _ _ _ (others field.key List.mem_cons_self)]
              simp only [encode, decode, refresh, first, second, Option.map_some,
                Option.bind_some, List.append_assoc, front, back]

theorem encode_keys (mode : Mode) (outer : Env) (fields : Fields Env Parts) (parts : Parts)
    (entries : List (String × Json)) (encoded : fields.encode mode outer parts = some entries) :
    ∀ entry ∈ entries, ∃ key ∈ fields.keys, entry.1 = key.name ∨ entry.1 = key.aliasName := by
  induction fields generalizing entries with
  | nil =>
      cases encoded
      nofun
  | snoc before field ih =>
      obtain ⟨parts, value⟩ := parts
      obtain ⟨earlier, mine, first, second, rfl⟩ :=
        encode_snoc before field mode outer parts value entries encoded
      intro entry member
      rcases List.mem_append.mp member with early | late
      · obtain ⟨key, known, spelled⟩ := ih parts earlier first entry early
        exact ⟨key, List.mem_cons_of_mem _ known, spelled⟩
      · rcases field.encode_cases mode outer value mine second with ⟨-, rfl⟩ | ⟨-, json, -, rfl⟩
        · exact nomatch late
        · rw [List.mem_singleton.mp late]
          refine ⟨field.key, List.mem_cons_self, ?_⟩
          cases mode with
          | byName => exact Or.inl rfl
          | byAlias => exact Or.inr rfl

theorem allows_encode (mode : Mode) (outer : Env) (fields : Fields Env Parts) (parts : Parts)
    (entries : List (String × Json)) (encoded : fields.encode mode outer parts = some entries) :
    fields.allows entries = true := by
  rw [allows, List.all_eq_true]
  intro entry member
  obtain ⟨key, known, spelled⟩ := encode_keys mode outer fields parts entries encoded entry member
  rw [List.any_eq_true]
  exact ⟨key, known, by simpa using spelled⟩

/-- A field that is not left out is found under its key. -/
theorem find_encode_last {Value : Type} (before : Fields Env Parts)
    (field : Field Env Parts Value) (mode : Mode) (outer : Env) (parts : Parts) (value : Value)
    (apart : ∀ other ∈ before.keys, Apart other field.key)
    (emitted : field.omitted outer value = some false) (entries : List (String × Json))
    (encoded : (before.snoc field).encode mode outer (parts, value) = some entries) :
    find entries field.key = field.codec.encode mode outer value := by
  obtain ⟨earlier, mine, first, second, rfl⟩ :=
    encode_snoc before field mode outer parts value entries encoded
  have missed := misses_encode mode outer before parts field.key apart earlier first
  rcases field.encode_cases mode outer value mine second with ⟨left, -⟩ | ⟨-, json, dumped, rfl⟩
  · rw [emitted] at left
    cases left
  · rw [find_of_misses _ _ _ missed, find_single, dumped]

/-- A dictionary with these fields and no others. -/
def codec (fields : Fields Env Parts) (apart : fields.keys.Pairwise Apart) :
    Codec Env Parts where
  encode mode outer parts := (fields.encode mode outer parts).map .dict
  decode inner json := match json with
    | .dict entries => if fields.allows entries then fields.decode inner entries else none
    | _ => none
  refresh outer inner parts := fields.refresh outer inner parts
  law mode outer inner parts := by
    rw [← decode_encode mode outer inner fields apart parts [] (fun _ _ => ⟨rfl, rfl⟩)]
    cases encoded : fields.encode mode outer parts with
    | none => rfl
    | some entries =>
        have allowed := allows_encode mode outer fields parts entries encoded
        simp only [Option.map_some, Option.bind_some, allowed, if_true, List.append_nil]

end Fields

theorem solid_codec (fields : Fields Env Parts) (apart : fields.keys.Pairwise Apart) :
    (fields.codec apart).Solid := by
  intro mode outer parts same
  obtain ⟨entries, -, other⟩ := Option.map_eq_some_iff.mp same
  cases other

/-! Unions told apart by the tag in one field. -/

def tagOf (key : Key) (json : Json) : Option String :=
  match json with
  | .dict entries => match find entries key with
    | some (.str tag) => some tag
    | _ => none
  | _ => none

def untagged : Codec Env Empty where
  encode _ _ value := value.elim
  decode _ _ := none
  refresh _ _ value := value.elim
  law _ _ _ value := value.elim

/-- Every dump has this tag. -/
def Codec.Tagged (codec : Codec Env Value) (key : Key) (tag : String) : Prop :=
  ∀ mode outer value json, codec.encode mode outer value = some json → tagOf key json = some tag

/-- No dump has it. -/
def Codec.Untagged (codec : Codec Env Value) (key : Key) (tag : String) : Prop :=
  ∀ mode outer value json, codec.encode mode outer value = some json → tagOf key json ≠ some tag

/-- The variant with this tag, or one of the rest. -/
def tagged {Other : Type} (key : Key) (tag : String) (codec : Codec Env Value)
    (rest : Codec Env Other) (here : codec.Tagged key tag) (elsewhere : rest.Untagged key tag) :
    Codec Env (Value ⊕ Other) where
  encode mode outer value := match value with
    | .inl value => codec.encode mode outer value
    | .inr other => rest.encode mode outer other
  decode inner json :=
    if tagOf key json = some tag then (codec.decode inner json).map .inl
    else (rest.decode inner json).map .inr
  refresh outer inner value := match value with
    | .inl value => (codec.refresh outer inner value).map .inl
    | .inr other => (rest.refresh outer inner other).map .inr
  law mode outer inner value := by
    cases value with
    | inl value =>
        simp only [← codec.law mode outer inner value]
        cases encoded : codec.encode mode outer value with
        | none => rfl
        | some json =>
            simp only [Option.bind_some, here mode outer value json encoded, if_true]
    | inr other =>
        simp only [← rest.law mode outer inner other]
        cases encoded : rest.encode mode outer other with
        | none => rfl
        | some json =>
            simp only [Option.bind_some, elsewhere mode outer other json encoded, if_false]

/-- Every dump of the fields has this tag. -/
def Fields.Tagged (fields : Fields Env Parts) (key : Key) (tag : String) : Prop :=
  ∀ mode outer parts entries, fields.encode mode outer parts = some entries →
    tagOf key (.dict entries) = some tag

/-- Later fields under other keys leave the tag alone. -/
theorem Fields.Tagged.snoc {before : Fields Env Parts} {key : Key} {tag : String}
    (tagged : before.Tagged key tag) {Value : Type} (field : Field Env Parts Value)
    (away : Apart field.key key) : (before.snoc field).Tagged key tag := by
  rintro mode outer ⟨parts, value⟩ entries encoded
  obtain ⟨earlier, mine, first, second, rfl⟩ :=
    Fields.encode_snoc before field mode outer parts value entries encoded
  have missed := field.misses_encode mode outer value key away mine second
  rw [← tagged mode outer parts earlier first]
  simp only [tagOf, find_append_misses _ _ _ missed]

theorem tagged_shaped {fields : Fields Env Parts} {key : Key} {tag : String}
    (tagged : fields.Tagged key tag) (apart : fields.keys.Pairwise Apart)
    (shape : Shape Model Parts) : ((fields.codec apart).shaped shape).Tagged key tag := by
  intro mode outer model json encoded
  obtain ⟨entries, dumped, rfl⟩ := Option.map_eq_some_iff.mp encoded
  exact tagged mode outer (shape.parts model) entries dumped

theorem untagged_untagged (key : Key) (tag : String) :
    (untagged : Codec Env Empty).Untagged key tag := fun _ _ value => value.elim

/-- No variant of a union without this tag is dumped under it. -/
theorem untagged_tagged {Other : Type} (key : Key) (tag other : String) (codec : Codec Env Value)
    (rest : Codec Env Other) (here : codec.Tagged key other) (elsewhere : rest.Untagged key other)
    (different : other ≠ tag) (others : rest.Untagged key tag) :
    (tagged key other codec rest here elsewhere).Untagged key tag := by
  intro mode outer value json encoded
  cases value with
  | inl value =>
      intro same
      exact different (Option.some.inj ((here mode outer value json encoded).symm.trans same))
  | inr value => exact others mode outer value json encoded

/-! What survives. -/

def Codec.Keeps (codec : Codec Env Value) (outer inner : Env) (value : Value) : Prop :=
  codec.refresh outer inner value = some value

theorem Codec.Exact.keeps {codec : Codec Env Value} (exact : codec.Exact) (outer inner : Env)
    (value : Value) : codec.Keeps outer inner value := exact outer inner value

/-- A value that one handoff to itself and one to another environment return is
returned by each of them. -/
def Codec.Settles (codec : Codec Env Value) : Prop :=
  ∀ outer inner value fresh, codec.refresh outer outer value = some fresh →
    codec.refresh outer inner fresh = some value → fresh = value

theorem Codec.Exact.settles {codec : Codec Env Value} (exact : codec.Exact) : codec.Settles := by
  intro outer inner value fresh first second
  rw [exact outer outer value] at first
  exact (Option.some.inj first).symm

theorem refresh_twice (codec : Codec Env Value) (settles : codec.Settles) (outer inner : Env)
    (value : Value) :
    (codec.refresh outer outer value).bind (codec.refresh outer inner) = some value ↔
      codec.Keeps outer outer value ∧ codec.Keeps outer inner value := by
  constructor
  · intro returned
    obtain ⟨fresh, first, second⟩ := Option.bind_eq_some_iff.mp returned
    have same := settles outer inner value fresh first second
    subst same
    exact ⟨first, second⟩
  · rintro ⟨first, second⟩
    rw [first]
    exact second

section Optional
variable (codec : Codec Env Value) (solid : codec.Solid)

theorem keeps_optional (outer inner : Env) (value : Option Value) :
    (codec.optional solid).Keeps outer inner value ↔
      ∀ some, value = Option.some some → codec.Keeps outer inner some := by
  cases value with
  | none => simp [Codec.Keeps, Codec.optional]
  | some value => simp [Codec.Keeps, Codec.optional]

theorem settles_optional (settles : codec.Settles) : (codec.optional solid).Settles := by
  intro outer inner value fresh first second
  cases value with
  | none => exact (Option.some.inj first).symm
  | some value =>
      obtain ⟨next, refreshed, rfl⟩ := Option.map_eq_some_iff.mp first
      obtain ⟨again, returned, same⟩ := Option.map_eq_some_iff.mp second
      cases same
      rw [settles outer inner value next refreshed returned]

end Optional

theorem mapM_eq_some_self {Item : Type} (change : Item → Option Item) (items : List Item) :
    items.mapM change = some items ↔ ∀ item ∈ items, change item = some item := by
  induction items with
  | nil => simp
  | cons item rest ih =>
      rw [List.mapM_cons]
      cases changed : change item with
      | none => simp [changed]
      | some next =>
          cases others : rest.mapM change with
          | none =>
              rw [others] at ih
              simp only [List.mem_cons, forall_eq_or_imp, changed]
              simp [← ih]
          | some nexts =>
              rw [others] at ih
              simp only [List.mem_cons, forall_eq_or_imp, changed, ← ih]
              simp

theorem mapM_settles {Item : Type} (first second : Item → Option Item)
    (settles : ∀ item fresh, first item = some fresh → second fresh = some item → fresh = item)
    (items fresh : List Item) (forth : items.mapM first = some fresh)
    (back : fresh.mapM second = some items) : fresh = items := by
  induction items generalizing fresh with
  | nil => simpa using forth.symm
  | cons item rest ih =>
      rw [List.mapM_cons] at forth
      obtain ⟨next, changed, tail⟩ := Option.bind_eq_some_iff.mp forth
      obtain ⟨nexts, others, same⟩ := Option.bind_eq_some_iff.mp tail
      cases same
      rw [List.mapM_cons] at back
      obtain ⟨again, returned, tail⟩ := Option.bind_eq_some_iff.mp back
      obtain ⟨agains, restored, same⟩ := Option.bind_eq_some_iff.mp tail
      cases same
      rw [settles item next changed returned, ih nexts others restored]

theorem keeps_entries {Name : Type} (names : TextKey Name) (codec : Codec Env Value)
    (outer inner : Env) (entries : List (Name × Value)) :
    (codec.entries names).Keeps outer inner entries ↔
      ∀ entry ∈ entries, codec.Keeps outer inner entry.2 := by
  unfold Codec.Keeps Codec.entries
  rw [mapM_eq_some_self]
  refine forall_congr' fun entry => forall_congr' fun _ => ?_
  rw [Option.map_eq_some_iff]
  constructor
  · rintro ⟨value, refreshed, same⟩
    rw [refreshed, ← same]
  · intro kept
    exact ⟨entry.2, kept, rfl⟩

theorem settles_entries {Name : Type} (names : TextKey Name) (codec : Codec Env Value)
    (settles : codec.Settles) : (codec.entries names).Settles := by
  intro outer inner entries fresh
  refine mapM_settles _ _ ?_ entries fresh
  intro entry next forth back
  obtain ⟨value, refreshed, rfl⟩ := Option.map_eq_some_iff.mp forth
  obtain ⟨again, returned, same⟩ := Option.map_eq_some_iff.mp back
  rw [← same] at refreshed ⊢
  rw [settles outer inner again value refreshed returned]

theorem keeps_shaped (codec : Codec Env Parts) (shape : Shape Model Parts) (outer inner : Env)
    (model : Model) :
    (codec.shaped shape).Keeps outer inner model ↔
      codec.Keeps outer inner (shape.parts model) := by
  unfold Codec.Keeps Codec.shaped
  rw [Option.bind_eq_some_iff]
  constructor
  · rintro ⟨read, refreshed, built⟩
    rw [refreshed, shape.reads read model built]
  · intro kept
    exact ⟨shape.parts model, kept, shape.rebuild model⟩

theorem settles_shaped (codec : Codec Env Parts) (shape : Shape Model Parts)
    (settles : codec.Settles) : (codec.shaped shape).Settles := by
  intro outer inner model fresh first second
  obtain ⟨read, refreshed, built⟩ := Option.bind_eq_some_iff.mp first
  obtain ⟨again, returned, restored⟩ := Option.bind_eq_some_iff.mp second
  rw [← shape.reads read fresh built] at refreshed
  rw [← shape.reads again model restored] at returned
  have same := settles outer inner (shape.parts model) (shape.parts fresh) refreshed returned
  have equal := (shape.rebuild fresh).symm.trans
    ((congrArg shape.build same).trans (shape.rebuild model))
  exact Option.some.inj equal

section Tagged
variable {Other : Type} (key : Key) (tag : String) (codec : Codec Env Value)
  (rest : Codec Env Other) (here : codec.Tagged key tag) (elsewhere : rest.Untagged key tag)

theorem keeps_tagged_inl (outer inner : Env) (value : Value) :
    (tagged key tag codec rest here elsewhere).Keeps outer inner (.inl value) ↔
      codec.Keeps outer inner value := by
  simp [Codec.Keeps, tagged]

theorem keeps_tagged_inr (outer inner : Env) (value : Other) :
    (tagged key tag codec rest here elsewhere).Keeps outer inner (.inr value) ↔
      rest.Keeps outer inner value := by
  simp [Codec.Keeps, tagged]

theorem settles_tagged (settles : codec.Settles) (others : rest.Settles) :
    (tagged key tag codec rest here elsewhere).Settles := by
  intro outer inner value fresh first second
  cases value with
  | inl value =>
      obtain ⟨next, refreshed, rfl⟩ := Option.map_eq_some_iff.mp first
      obtain ⟨again, returned, same⟩ := Option.map_eq_some_iff.mp second
      cases same
      rw [settles outer inner value next refreshed returned]
  | inr other =>
      obtain ⟨next, refreshed, rfl⟩ := Option.map_eq_some_iff.mp first
      obtain ⟨again, returned, same⟩ := Option.map_eq_some_iff.mp second
      cases same
      rw [others outer inner other next refreshed returned]

theorem settles_untagged : (untagged : Codec Env Empty).Settles := fun _ _ value => value.elim

end Tagged

/-! What survives in a field, by the kind of its default. -/

def Field.Keeps (field : Field Env Before Value) (outer inner : Env) (before : Before)
    (value : Value) : Prop := field.refresh outer inner before value = some value

def Field.Settles (field : Field Env Before Value) : Prop :=
  ∀ outer inner before value fresh, field.refresh outer outer before value = some fresh →
    field.refresh outer inner before fresh = some value → fresh = value

section Field
variable (name : Key) (codec : Codec Env Value) (serialized : Bool)

def Field.required : Field Env Before Value := { key := name, codec, default := .required }

def Field.static [DecidableEq Value] (value : Value) : Field Env Before Value :=
  { key := name, codec, default := .static inferInstance value, serialized }

def Field.discovered [DecidableEq Value] (factory : Env → Option Value) :
    Field Env Before Value :=
  { key := name, codec, default := .discovered inferInstance factory, serialized }

def Field.derived (factory : Env → Before → Option Value) : Field Env Before Value :=
  { key := name, codec, default := .derived factory }

theorem keeps_required (outer inner : Env) (before : Before) (value : Value) :
    (Field.required name codec : Field Env Before Value).Keeps outer inner before value ↔
      codec.absent value = false ∧ codec.Keeps outer inner value := by
  cases absent : codec.absent value <;>
    simp [Field.required, Field.Keeps, Codec.Keeps, Field.refresh, Field.omitted, Field.atDefault,
      Field.fill, absent]

theorem settles_required (settles : codec.Settles) :
    (Field.required name codec : Field Env Before Value).Settles := by
  intro outer inner before value fresh first second
  have emitted : ∀ (inner : Env) (value fresh : Value),
      (Field.required name codec : Field Env Before Value).refresh outer inner before value =
        some fresh → codec.refresh outer inner value = some fresh := by
    intro inner value fresh refreshed
    cases absent : codec.absent value <;>
      simp [Field.required, Field.refresh, Field.omitted, Field.atDefault, Field.fill, absent]
        at refreshed
    exact refreshed
  exact settles outer inner value fresh (emitted outer value fresh first)
    (emitted inner fresh value second)

theorem present_absent (present : codec.Present) (default : Value) (value : Value)
    (absent : codec.absent value = true) : value = default := by
  rw [present value] at absent
  exact nomatch absent

/-- Where `None` can only be the default, an omitted field holds the default. -/
theorem static_of_omitted [DecidableEq Value] (default : Value)
    (absents : ∀ value, codec.absent value = true → value = default) (outer : Env) (value : Value)
    (omitted : (Field.static name codec serialized default :
      Field Env Before Value).omitted outer value = some true) : value = default := by
  unfold Field.omitted Field.static Field.atDefault at omitted
  cases absent : codec.absent value with
  | true => exact absents value absent
  | false =>
      cases serialized with
      | true => simp [absent] at omitted
      | false => simpa [absent] using omitted

/-- Nothing is discovered, so nothing raises. -/
theorem static_decided [DecidableEq Value] (default : Value) (outer : Env) (value : Value) :
    ∃ omitted, (Field.static name codec serialized default :
      Field Env Before Value).omitted outer value = some omitted := by
  unfold Field.omitted Field.static Field.atDefault
  cases codec.absent value <;> cases serialized <;> simp

/-- A field with a value for its default holds that or is dumped. -/
theorem static_refresh [DecidableEq Value] (default : Value)
    (absents : ∀ value, codec.absent value = true → value = default) (outer inner : Env)
    (before : Before) (value : Value) :
    (Field.static name codec serialized default :
        Field Env Before Value).refresh outer inner before value = some default ∧
        value = default ∨
      (Field.static name codec serialized default :
        Field Env Before Value).refresh outer inner before value =
          codec.refresh outer inner value := by
  obtain ⟨omitted, decided⟩ : ∃ omitted, (Field.static name codec serialized default :
      Field Env Before Value).omitted outer value = some omitted :=
    static_decided name codec serialized default outer value
  unfold Field.refresh
  cases omitted with
  | true =>
      left
      rw [decided]
      exact ⟨rfl, static_of_omitted name codec serialized default absents outer value decided⟩
  | false =>
      right
      rw [decided]
      rfl

theorem keeps_static [DecidableEq Value] (default : Value)
    (absents : ∀ value, codec.absent value = true → value = default) (outer inner : Env)
    (kept : codec.Keeps outer inner default) (before : Before) (value : Value) :
    (Field.static name codec serialized default : Field Env Before Value).Keeps outer inner before
      value ↔ codec.Keeps outer inner value := by
  unfold Field.Keeps
  rcases static_refresh name codec serialized default absents outer inner before value with
    ⟨filled, rfl⟩ | dumped
  · exact iff_of_true filled kept
  · rw [dumped]
    rfl

theorem settles_static [DecidableEq Value] (default : Value)
    (absents : ∀ value, codec.absent value = true → value = default) (settles : codec.Settles) :
    (Field.static name codec serialized default : Field Env Before Value).Settles := by
  intro outer inner before value fresh first second
  rcases static_refresh name codec serialized default absents outer inner before fresh with
    ⟨filled, rfl⟩ | dumped
  · exact Option.some.inj (filled.symm.trans second)
  · rw [dumped] at second
    rcases static_refresh name codec serialized default absents outer outer before value with
      ⟨filled, rfl⟩ | dumped
    · exact (Option.some.inj (filled.symm.trans first)).symm
    · rw [dumped] at first
      exact settles outer inner value fresh first second

/-- A value that is dumped, or `None`, is lost only as `None`; any other has to be
told from what is discovered when it is dumped. -/
theorem keeps_discovered [DecidableEq Value] (factory : Env → Option Value) (exact : codec.Exact)
    (outer inner : Env) (before : Before) (value : Value) :
    (Field.discovered name codec serialized factory : Field Env Before Value).Keeps outer inner
      before value ↔
        (codec.absent value = true → factory inner = some value) ∧
        (codec.absent value = false → serialized = false → ∃ found, factory outer = some found ∧
          (found = value → factory inner = some value)) := by
  unfold Field.Keeps Field.refresh Field.omitted Field.discovered Field.atDefault Field.fill
  cases absent : codec.absent value with
  | true => simp
  | false =>
      cases serialized with
      | true => simpa using exact outer inner value
      | false =>
          cases found : factory outer with
          | none => simp [found]
          | some other =>
              by_cases same : value = other
              · simp [found, same]
              · simpa [found, same, Ne.symm same] using exact outer inner value

/-- What becomes of a discovered field that does not raise. -/
theorem discovered_refresh [DecidableEq Value] (factory : Env → Option Value)
    (exact : codec.Exact) (outer inner : Env) (before : Before) (value fresh : Value)
    (refreshed : (Field.discovered name codec serialized factory :
      Field Env Before Value).refresh outer inner before value = some fresh) :
    fresh = value ∨ factory inner = some fresh ∧
      (codec.absent value = true ∨ serialized = false ∧ factory outer = some value) := by
  unfold Field.refresh Field.omitted Field.discovered Field.atDefault Field.fill at refreshed
  cases absent : codec.absent value with
  | true =>
      right
      simpa [absent] using refreshed
  | false =>
      have dumped : codec.refresh outer inner value = some fresh → fresh = value := by
        intro dumped
        exact (Option.some.inj ((exact outer inner value).symm.trans dumped)).symm
      cases serialized with
      | true =>
          left
          exact dumped (by simpa [absent] using refreshed)
      | false =>
          cases found : factory outer with
          | none => simp [absent, found] at refreshed
          | some other =>
              by_cases same : value = other
              · right
                simpa [absent, found, same] using refreshed
              · left
                exact dumped (by simpa [absent, found, same] using refreshed)

theorem settles_discovered [DecidableEq Value] (factory : Env → Option Value)
    (exact : codec.Exact)
    (serializes : serialized = true ∨ codec.Present)
    (absents : ∀ left right, codec.absent left = true → codec.absent right = true → left = right) :
    (Field.discovered name codec serialized factory : Field Env Before Value).Settles := by
  intro outer inner before value fresh first second
  rcases discovered_refresh name codec serialized factory exact outer outer before value fresh first
    with same | ⟨filled, gone | ⟨-, held⟩⟩
  · exact same
  · rcases discovered_refresh name codec serialized factory exact outer inner before fresh value
      second with same | ⟨-, absent | ⟨quiet, -⟩⟩
    · exact same.symm
    · -- `None` comes back only when what was discovered is `None` too
      exact absents fresh value absent gone
    · rcases serializes with loud | present
      · exact absurd (quiet.symm.trans loud) Bool.false_ne_true
      · exact absurd (gone.symm.trans (present value)) (by decide)
  · exact Option.some.inj (filled.symm.trans held)

/-- A derived default is never compared, so the field is lost only as `None`. -/
theorem keeps_derived (factory : Env → Before → Option (Option Value)) (solid : codec.Solid)
    (outer inner : Env) (before : Before) (value : Option Value) :
    (Field.derived name (codec.optional solid) factory).Keeps outer inner before value ↔
      match value with
      | none => factory inner before = some none
      | some value => codec.Keeps outer inner value := by
  cases value with
  | none => rfl
  | some value =>
      simp [Field.Keeps, Field.refresh, Field.omitted, Field.derived, Field.atDefault,
        Codec.optional, Codec.Keeps]

theorem settles_derived (factory : Env → Before → Option (Option Value)) (solid : codec.Solid)
    (settles : codec.Settles) :
    (Field.derived name (codec.optional solid) factory).Settles := by
  intro outer inner before value fresh first second
  cases value with
  | none =>
      cases fresh with
      | none => rfl
      | some fresh =>
          have refreshed : (codec.refresh outer inner fresh).map some = some none := second
          simp at refreshed
  | some value =>
      have refreshed : (codec.refresh outer outer value).map some = some fresh := first
      obtain ⟨next, forth, rfl⟩ := Option.map_eq_some_iff.mp refreshed
      have returned : (codec.refresh outer inner next).map some = some (some value) := second
      obtain ⟨again, back, same⟩ := Option.map_eq_some_iff.mp returned
      cases same
      rw [settles outer inner value next forth back]

end Field

/-! Models without a discovered field lose nothing. -/

def Field.Exact (field : Field Env Before Value) : Prop :=
  ∀ outer inner before value, field.Keeps outer inner before value

theorem exact_required (name : Key) (codec : Codec Env Value) (present : codec.Present)
    (exact : codec.Exact) : (Field.required name codec : Field Env Before Value).Exact := by
  intro outer inner before value
  rw [keeps_required]
  exact ⟨present value, exact outer inner value⟩

theorem exact_static [DecidableEq Value] (name : Key) (codec : Codec Env Value)
    (serialized : Bool) (default : Value) (present : codec.Present) (exact : codec.Exact) :
    (Field.static name codec serialized default : Field Env Before Value).Exact := by
  intro outer inner before value
  rw [keeps_static name codec serialized default (present_absent codec present default) outer inner
    (exact outer inner default)]
  exact exact outer inner value

theorem optional_absent (codec : Codec Env Value) (solid : codec.Solid) (value : Option Value)
    (absent : (codec.optional solid).absent value = true) : value = none :=
  Option.isNone_iff_eq_none.mp absent

theorem keeps_static_optional [DecidableEq Value] (name : Key) (codec : Codec Env Value)
    (solid : codec.Solid) (serialized : Bool) (outer inner : Env) (before : Before)
    (value : Option Value) :
    (Field.static name (codec.optional solid) serialized none :
      Field Env Before (Option Value)).Keeps outer inner before value ↔
        ∀ some, value = Option.some some → codec.Keeps outer inner some := by
  rw [keeps_static name (codec.optional solid) serialized none (optional_absent codec solid)
    outer inner rfl, keeps_optional]

theorem exact_static_optional [DecidableEq Value] (name : Key) (codec : Codec Env Value)
    (solid : codec.Solid) (serialized : Bool) (exact : codec.Exact) :
    (Field.static name (codec.optional solid) serialized none :
      Field Env Before (Option Value)).Exact := by
  intro outer inner before value
  rw [keeps_static_optional]
  exact fun some _ => exact outer inner some

theorem Field.Exact.settles {field : Field Env Before Value} (exact : field.Exact) :
    field.Settles := by
  intro outer inner before value fresh first _
  rw [exact outer outer before value] at first
  exact (Option.some.inj first).symm

def Fields.Keeps (fields : Fields Env Parts) (outer inner : Env) (parts : Parts) : Prop :=
  fields.refresh outer inner parts = some parts

theorem keeps_codec (fields : Fields Env Parts) (apart : fields.keys.Pairwise Apart)
    (outer inner : Env) (parts : Parts) :
    (fields.codec apart).Keeps outer inner parts ↔ fields.Keeps outer inner parts := Iff.rfl

theorem keeps_snoc (before : Fields Env Before) (field : Field Env Before Value)
    (outer inner : Env) (parts : Before) (value : Value) :
    (before.snoc field).Keeps outer inner (parts, value) ↔
      before.Keeps outer inner parts ∧ field.Keeps outer inner parts value := by
  simp only [Fields.Keeps, Fields.refresh, Option.bind_eq_some_iff, Option.map_eq_some_iff, Prod.mk.injEq]
  constructor
  · rintro ⟨fresh, first, next, second, rfl, rfl⟩
    exact ⟨first, second⟩
  · rintro ⟨first, second⟩
    exact ⟨parts, first, value, second, rfl, rfl⟩

def Fields.Exact (fields : Fields Env Parts) : Prop :=
  ∀ outer inner parts, fields.Keeps outer inner parts

theorem exact_nil : (Fields.nil : Fields Env Unit).Exact := fun _ _ _ => rfl

theorem exact_snoc (before : Fields Env Before) (field : Field Env Before Value)
    (earlier : before.Exact) (mine : field.Exact) : (before.snoc field).Exact := by
  rintro outer inner ⟨parts, value⟩
  rw [keeps_snoc]
  exact ⟨earlier outer inner parts, mine outer inner parts value⟩

/-- Fields that lose nothing can be left out of the account. -/
theorem keeps_last (before : Fields Env Before) (field : Field Env Before Value)
    (earlier : before.Exact) (outer inner : Env) (parts : Before) (value : Value) :
    (before.snoc field).Keeps outer inner (parts, value) ↔
      field.Keeps outer inner parts value := by
  rw [keeps_snoc]
  exact and_iff_right (earlier outer inner parts)

theorem keeps_before (before : Fields Env Before) (field : Field Env Before Value)
    (mine : field.Exact) (outer inner : Env) (parts : Before) (value : Value) :
    (before.snoc field).Keeps outer inner (parts, value) ↔
      before.Keeps outer inner parts := by
  rw [keeps_snoc]
  exact and_iff_left (mine outer inner parts value)

theorem exact_codec (fields : Fields Env Parts) (apart : fields.keys.Pairwise Apart)
    (exact : fields.Exact) : (fields.codec apart).Exact := exact

def Fields.Settles (fields : Fields Env Parts) : Prop :=
  ∀ outer inner parts fresh, fields.refresh outer outer parts = some fresh →
    fields.refresh outer inner fresh = some parts → fresh = parts

theorem settles_nil : (Fields.nil : Fields Env Unit).Settles := fun _ _ _ _ _ _ => rfl

theorem Fields.Exact.settles {fields : Fields Env Parts} (exact : fields.Exact) :
    fields.Settles := by
  intro outer inner parts fresh first _
  rw [exact outer outer parts] at first
  exact (Option.some.inj first).symm

theorem settles_snoc (before : Fields Env Before) (field : Field Env Before Value)
    (earlier : before.Settles) (mine : field.Settles) : (before.snoc field).Settles := by
  rintro outer inner ⟨parts, value⟩ ⟨fresh, next⟩ first second
  simp only [Fields.refresh, Option.bind_eq_some_iff, Option.map_eq_some_iff,
    Prod.mk.injEq] at first second
  obtain ⟨_, refreshed, _, forth, rfl, rfl⟩ := first
  obtain ⟨_, returned, _, back, rfl, rfl⟩ := second
  -- The earlier fields settle first; this one may be derived from them.
  have same := earlier outer inner _ _ refreshed returned
  subst same
  rw [mine outer inner _ _ _ forth back]

theorem settles_before (before : Fields Env Before) (field : Field Env Before Value)
    (earlier : before.Settles) (mine : field.Exact) : (before.snoc field).Settles :=
  settles_snoc before field earlier mine.settles

theorem settles_codec (fields : Fields Env Parts) (apart : fields.keys.Pairwise Apart)
    (settles : fields.Settles) : (fields.codec apart).Settles := settles

end ClusterApiForSlinky.ModelCodec
