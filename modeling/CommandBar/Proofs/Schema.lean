/-
What the schema of answers asks of a value.

A schema is an object of keywords, and a value conforms to it when it is as every
keyword asks.  Four keywords ask for something: `type` for a kind of value, `enum` for
one of some values, `required` for the names an object has to have, and `properties` for
the members of an object that have a schema of their own.  A description asks for
nothing, and neither does any keyword that the schema of answers does not use.  Members
without a schema may be anything.

The kinds are those of JSON, where all numbers are of one kind and a boolean is not
among them.
-/
import CommandBar.OutputSchema
import CommandBar.Proofs.Fields
import CommandBar.Validation.Answer

namespace CommandBar

open Json

namespace OutputSchema

/-! ### Conforming -/

/-- The kind of a value, as schemas call it. -/
def kindOf : Value → String
  | .null => "null"
  | .bool _ => "boolean"
  | .int _ | .float _ => "number"
  | .str _ => "string"
  | .arr _ => "array"
  | .obj _ => "object"

/-- Whether a value is of a kind, or of one of several. -/
def isOfKind (kinds v : Value) : Bool :=
  match kinds with
  | .str kind => kindOf v == kind
  | .arr kinds => decide (.str (kindOf v) ∈ kinds)
  | _ => false

/-- Whether a value is one of those listed. -/
def isListed (listed v : Value) : Bool :=
  match listed with
  | .arr values => decide (v ∈ values)
  | _ => false

/-- Whether a value has the members of these names, if it is an object. -/
def hasNames (names v : Value) : Bool :=
  match names, v with
  | .arr names, .obj members => names.all fun name =>
      match name with
      | .str s => (Fields.get? s members).isSome
      | _ => false
  | _, .obj _ => false
  | _, _ => true

mutual

/-- Whether a value conforms to a schema. -/
def conforms : Value → Value → Bool
  | .obj keywords, v => obeys keywords v
  | _, _ => false
termination_by structural schema => schema

/-- Whether a value is as each of these keywords asks. -/
def obeys : List (String × Value) → Value → Bool
  | [], _ => true
  | (keyword, asked) :: rest, v =>
    (keyword != "type" || isOfKind asked v) && (keyword != "enum" || isListed asked v) &&
      (keyword != "required" || hasNames asked v) &&
      (keyword != "properties" || hasMembers asked v) && obeys rest v
termination_by structural keywords => keywords

/-- Whether a value has members that conform to these schemas, if it is an object. -/
def hasMembers : Value → Value → Bool
  | .obj schemas, .obj members => fits schemas members
  | .obj _, _ => true
  | _, _ => false
termination_by structural asked => asked

/-- Whether the members conform to the schemas that there are for their names. -/
def fits : List (String × Value) → Fields Value → Bool
  | [], _ => true
  | (name, schema) :: rest, members =>
    (match Fields.get? name members with
      | some value => conforms schema value
      | none => true) && fits rest members
termination_by structural schemas => schemas

end

/-! ### Reading a schema -/

/-- The schema of a property, `null` if there is none. -/
def propertyOf (schema : Value) (name : String) : Value :=
  match schema with
  | .obj keywords =>
    match Value.member keywords "properties" with
    | .obj schemas => Value.member schemas name
    | _ => .null
  | _ => .null

/-- The values that a property is restricted to, none without a restriction. -/
def choices (schema : Value) (name : String) : List Value :=
  match propertyOf schema name with
  | .obj keywords =>
    match Value.member keywords "enum" with
    | .arr values => values
    | _ => []
  | _ => []

section Conforms

variable {keywords members schemas : Fields Value} {schema value v : Value}
  {name : String}

theorem obeys_of_mem {keyword : String} {asked : Value} (h : obeys keywords v = true)
    (hmem : (keyword, asked) ∈ keywords) : obeys [(keyword, asked)] v = true := by
  induction keywords with
  | nil => simp at hmem
  | cons first rest ih =>
      obtain ⟨other, asked'⟩ := first
      rw [obeys, Bool.and_eq_true] at h
      rcases List.mem_cons.mp hmem with heq | hrest
      · simp only [Prod.mk.injEq] at heq
        obtain ⟨rfl, rfl⟩ := heq
        simp only [obeys, Bool.and_true]
        exact h.1
      · exact ih h.2 hrest

theorem fits_of_mem (h : fits schemas members = true) (hmem : (name, schema) ∈ schemas)
    (hvalue : Fields.get? name members = some value) : conforms schema value = true := by
  induction schemas with
  | nil => simp at hmem
  | cons first rest ih =>
      obtain ⟨other, schema'⟩ := first
      rw [fits, Bool.and_eq_true] at h
      rcases List.mem_cons.mp hmem with heq | hrest
      · simp only [Prod.mk.injEq] at heq
        obtain ⟨rfl, rfl⟩ := heq
        simpa only [hvalue] using h.1
      · exact ih h.2 hrest

/-- A member is named by a schema's properties only where it exists. -/
theorem member_ne_null (h : Value.member members name ≠ .null) :
    (name, Value.member members name) ∈ members := by
  unfold Value.member at h ⊢
  cases hvalue : Fields.get? name members with
  | none => simp [hvalue] at h
  | some value => exact Fields.mem_of_get?_eq_some hvalue

/-- A property with a schema is among the properties. -/
theorem exists_properties (h : propertyOf schema name ≠ .null) :
    ∃ keywords schemas, schema = .obj keywords ∧ ("properties", .obj schemas) ∈ keywords ∧
      (name, propertyOf schema name) ∈ schemas := by
  unfold propertyOf at h ⊢
  split at h
  · next keywords =>
      split at h
      · next schemas hproperties =>
          have hmem : ("properties", .obj schemas) ∈ keywords := by
            rw [← hproperties]
            exact member_ne_null (by simp [hproperties])
          exact ⟨keywords, schemas, rfl, hmem, by simpa [hproperties] using member_ne_null h⟩
      · exact absurd rfl h
  · exact absurd rfl h

/-- A member of a conforming object conforms to the schema of its name. -/
theorem conforms_property (h : conforms schema (.obj members) = true)
    (hvalue : Fields.get? name members = some value) (hschema : propertyOf schema name ≠ .null) :
    conforms (propertyOf schema name) value = true := by
  obtain ⟨keywords, schemas, hkeywords, hproperties, hmem⟩ := exists_properties hschema
  have hobeys : obeys keywords (.obj members) = true := by rwa [hkeywords, conforms] at h
  have hfits : fits schemas members = true := by
    simpa [obeys, hasMembers] using obeys_of_mem hobeys hproperties
  exact fits_of_mem hfits hmem hvalue

/-- A conforming object has the members that the schema requires. -/
theorem conforms_required (names : List Value)
    (h : conforms (.obj keywords) (.obj members) = true)
    (hnames : ("required", .arr names) ∈ keywords) (hname : .str name ∈ names) :
    ∃ value, Fields.get? name members = some value := by
  rw [conforms] at h
  have hall : ∀ asked ∈ names, hasNames (.arr [asked]) (.obj members) = true := by
    simpa [obeys, hasNames] using obeys_of_mem h hnames
  have hone := hall _ hname
  exact Option.isSome_iff_exists.mp (by simpa [hasNames] using hone)

theorem conforms_property_kind {kind description : String}
    (h : conforms (property kind description) value = true) : kindOf value = kind := by
  rw [property, conforms] at h
  simpa [obeys, isOfKind] using obeys_of_mem h List.mem_cons_self

theorem conforms_oneOf {texts : List String} {description : String}
    (h : conforms (oneOf texts description) value = true) : ∃ s ∈ texts, value = .str s := by
  have henum : ("enum", Value.arr (texts.map .str)) ∈ [("type", Value.str "string"),
      ("enum", .arr (texts.map .str)), ("description", .str description)] := by simp
  rw [oneOf, conforms] at h
  have hlisted : value ∈ texts.map .str := by
    simpa [obeys, isListed] using obeys_of_mem h henum
  obtain ⟨s, hs, rfl⟩ := List.mem_map.mp hlisted
  exact ⟨s, hs, rfl⟩

theorem choices_oneOf {texts : List String} {description : String}
    (h : propertyOf schema name = oneOf texts description) :
    choices schema name = texts.map .str := by
  simp [choices, h, oneOf, Value.member, Fields.get?]

theorem exists_str (h : kindOf v = "string") : ∃ s, v = .str s := by
  cases v with
  | str s => exact ⟨s, rfl⟩
  | null | bool | int | float | arr | obj => simp [kindOf] at h

theorem exists_obj (h : kindOf v = "object") : ∃ members, v = .obj members := by
  cases v with
  | obj members => exact ⟨members, rfl⟩
  | null | bool | int | float | str | arr => simp [kindOf] at h

end Conforms

/-! ### The schema of answers -/

/-- The fields that hold a text, whatever it says. -/
def textFields : List String :=
  ["targetWidgetId", "targetWidgetTitle", "title", "settingName", "contextualHint",
    "feedbackToUser"]

section Answers

variable {vocabulary : Vocabulary} {catalog : Catalog} {answer : Answer} {field : String}

theorem propertyOf_action (vocabulary : Vocabulary) (catalog : Catalog) :
    ∃ description, propertyOf (ofVocabulary vocabulary catalog) "action" =
      oneOf (vocabulary.map (·.action.name)) description :=
  ⟨_, rfl⟩

theorem propertyOf_widgetType (vocabulary : Vocabulary) (catalog : Catalog) :
    ∃ description, propertyOf (ofVocabulary vocabulary catalog) "widgetType" =
      oneOf catalog.types description :=
  ⟨_, rfl⟩

theorem propertyOf_settings (vocabulary : Vocabulary) (catalog : Catalog) :
    ∃ description, propertyOf (ofVocabulary vocabulary catalog) "initialSettings" =
      property "object" description :=
  ⟨_, rfl⟩

theorem propertyOf_text (vocabulary : Vocabulary) (catalog : Catalog)
    (hfield : field ∈ textFields) :
    ∃ description, propertyOf (ofVocabulary vocabulary catalog) field =
      property "string" description := by
  simp only [textFields, List.mem_cons, List.not_mem_nil, or_false] at hfield
  rcases hfield with rfl | rfl | rfl | rfl | rfl | rfl
  · exact ⟨_, rfl⟩
  · exact ⟨_, rfl⟩
  · exact ⟨_, rfl⟩
  · exact ⟨_, rfl⟩
  · exact ⟨_, rfl⟩
  · exact ⟨_, rfl⟩

theorem choices_action (vocabulary : Vocabulary) (catalog : Catalog) :
    choices (ofVocabulary vocabulary catalog) "action" =
      (vocabulary.map (·.action.name)).map .str := by
  obtain ⟨description, hproperty⟩ := propertyOf_action vocabulary catalog
  exact choices_oneOf hproperty

theorem choices_widgetType (vocabulary : Vocabulary) (catalog : Catalog) :
    choices (ofVocabulary vocabulary catalog) "widgetType" = catalog.types.map .str := by
  obtain ⟨description, hproperty⟩ := propertyOf_widgetType vocabulary catalog
  exact choices_oneOf hproperty

/-- A field of a conforming answer is missing, or is as the schema of the property asks. -/
theorem conforms_field {schema asked : Value} (h : conforms schema (.obj answer) = true)
    (hproperty : propertyOf schema field = asked) (hne : asked ≠ .null) :
    Value.member answer field = .null ∨ conforms asked (Value.member answer field) = true := by
  subst hproperty
  cases hvalue : Fields.get? field answer with
  | none => exact Or.inl (by simp [Value.member, hvalue])
  | some value =>
      have hconforms := conforms_property h hvalue hne
      exact Or.inr (by simpa [Value.member, hvalue] using hconforms)

/-- What the schema of answers says of the fields of an answer. -/
structure Conforming (vocabulary : Vocabulary) (catalog : Catalog) (answer : Answer) : Prop where
  /-- An enabled action is named. -/
  action : ∃ spec ∈ vocabulary, Value.member answer "action" = .str spec.action.name
  /-- The type is one of the catalog. -/
  widgetType : Value.member answer "widgetType" = .null ∨
    ∃ b ∈ catalog, Value.member answer "widgetType" = .str b.type
  /-- The settings are an object. -/
  settings : Value.member answer "initialSettings" = .null ∨
    ∃ members, Value.member answer "initialSettings" = .obj members
  /-- The other fields are texts, but for the value of a single setting. -/
  text : ∀ field ∈ textFields, Value.member answer field = .null ∨
    ∃ s, Value.member answer field = .str s

theorem conforming_of_conforms
    (h : conforms (ofVocabulary vocabulary catalog) (.obj answer) = true) :
    Conforming vocabulary catalog answer := by
  constructor
  · obtain ⟨description, hproperty⟩ := propertyOf_action vocabulary catalog
    obtain ⟨value, hvalue⟩ : ∃ value, Fields.get? "action" answer = some value :=
      conforms_required [.str "action"] h (by simp) (by simp)
    have hconforms := conforms_property h hvalue (by simp [hproperty, oneOf])
    rw [hproperty] at hconforms
    obtain ⟨name, hname, rfl⟩ := conforms_oneOf hconforms
    obtain ⟨spec, hspec, rfl⟩ := List.mem_map.mp hname
    exact ⟨spec, hspec, by simp [Value.member, hvalue]⟩
  · obtain ⟨description, hproperty⟩ := propertyOf_widgetType vocabulary catalog
    rcases conforms_field h hproperty (by simp [oneOf]) with hnull | htype
    · exact Or.inl hnull
    · obtain ⟨type, hmem, htype⟩ := conforms_oneOf htype
      obtain ⟨b, hb, rfl⟩ := List.mem_map.mp hmem
      exact Or.inr ⟨b, hb, htype⟩
  · obtain ⟨description, hproperty⟩ := propertyOf_settings vocabulary catalog
    rcases conforms_field h hproperty (by simp [property]) with hnull | hsettings
    · exact Or.inl hnull
    · exact Or.inr (exists_obj (conforms_property_kind hsettings))
  · intro field hfield
    obtain ⟨description, hproperty⟩ := propertyOf_text vocabulary catalog hfield
    rcases conforms_field h hproperty (by simp [property]) with hnull | htext
    · exact Or.inl hnull
    · exact Or.inr (exists_str (conforms_property_kind htext))

end Answers

end OutputSchema

end CommandBar
