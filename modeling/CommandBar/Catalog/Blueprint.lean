/-
Blueprints of widgets.

A blueprint describes a type of widget: how it is called, its settings with their
defaults and choices, and possibly a key setting, one that is easy to forget
although the user clearly cares about it.  A catalog lists the blueprints that a
dashboard knows, one for each type.
-/
import CommandBar.Json.Value

namespace CommandBar

/-- One setting of a widget type. -/
structure SettingInfo where
  default : Json.Value
  description : String := ""
  /-- The values a text setting is restricted to, none for no restriction. -/
  choices : List String := []
deriving DecidableEq

/-- What a user says and the command it should become. -/
structure Example where
  spoken : String
  command : Json.Value
deriving DecidableEq

/-- An optional setting of high value, with the phrases that imply it. -/
structure KeySetting where
  name : String
  intentPhrases : List String
  correct : Example
  incorrect : Example
deriving DecidableEq

/-- A type of widget. -/
structure Blueprint where
  type : String
  displayName : String
  defaultTitle : String
  description : String
  settings : Fields SettingInfo := []
  keySetting : Option KeySetting := none
deriving DecidableEq

/-- The default of every setting, in order. -/
def Blueprint.defaults (b : Blueprint) : Fields Json.Value :=
  b.settings.map fun (name, info) => (name, info.default)

/-- The widget types of a dashboard, in order. -/
abbrev Catalog := List Blueprint

namespace Catalog

/-- The blueprint of a type. -/
def find? (catalog : Catalog) (type : String) : Option Blueprint :=
  List.find? (fun b => decide (b.type = type)) catalog

/-- The blueprint of a type, if there is a type. -/
def ofType? (catalog : Catalog) (type : Option String) : Option Blueprint :=
  type.bind catalog.find?

/-- The names of the types, in order. -/
def types (catalog : Catalog) : List String :=
  catalog.map (·.type)

/-- Puts a blueprint in the place of the one for its type, or last. -/
def put (b : Blueprint) : Catalog → Catalog
  | [] => [b]
  | other :: rest => if other.type = b.type then b :: rest else other :: put b rest

/-- The catalog that a list of blueprints builds, a repeated type keeping its last blueprint. -/
def ofBlueprints (blueprints : List Blueprint) : Catalog :=
  blueprints.foldl (fun catalog b => put b catalog) []

/-- The default settings of a type, none for an unknown one. -/
def defaultSettings (catalog : Catalog) (type : String) : Fields Json.Value :=
  match catalog.find? type with
  | some b => b.defaults
  | none => []

/-- How users call a type: by its display name if the type is known. -/
def displayName (catalog : Catalog) (type : String) : String :=
  match catalog.find? type with
  | some b => b.displayName
  | none => type

end Catalog

end CommandBar
