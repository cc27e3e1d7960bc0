import ScreenSight.Settings.Basic
import ScreenSight.Value
import ScreenSight.Yaml.Document

/-!
# Reading settings

Settings are read from any form of structured document.  Every field may be left out, fields that
are not known are passed over, and a field of the wrong shape makes the settings unreadable.
-/

namespace ScreenSight

/-- A form of structured document that settings can be read from: as a text, a word out of a fixed
list, a number of 64 bits, a truth value, nothing, a list, or a structure with fields of given
names. -/
class SettingsDocument (δ : Type) where
  text? : δ → Option String
  word? : δ → Option String
  size? : δ → Option Nat
  truth? : δ → Option Bool
  isNull : δ → Bool
  items? : δ → Option (List δ)
  structure? : List String → δ → Option (String → Option δ)

instance : SettingsDocument Value where
  text? := Value.text?
  word? := Value.word?
  size? := Value.size?
  truth? := Value.truth?
  isNull
    | .null => true
    | _ => false
  items? := Value.items?
  structure? := Value.structure?

instance : SettingsDocument Yaml.Node where
  text? := Yaml.Node.text?
  word? := Yaml.Node.text?
  size? := Yaml.Node.size?
  truth? := Yaml.Node.truth?
  isNull := Yaml.Node.isNull
  items? := Yaml.Node.items?
  structure? := Yaml.Node.structure?

namespace Settings

section

variable {δ : Type} [SettingsDocument δ]

open SettingsDocument

def field? {α : Type} (field : Option δ) (read : δ → Option α) (default : α) : Option α :=
  match field with
  | some document => read document
  | none => some default

def readTexts? (document : δ) : Option (List String) :=
  (items? document).bind fun items => items.mapM text?

def readLimits? (document : δ) : Option Limits := do
  let field ← structure? ["max_width", "max_height", "tab_width"] document
  let defaults : Limits := default
  let maxWidth ← field? (field "max_width") size? defaults.maxWidth
  let maxHeight ← field? (field "max_height") size? defaults.maxHeight
  let tabWidth ← field? (field "tab_width") size? defaults.tabWidth
  Limits.ofSizes? maxWidth maxHeight tabWidth

/-- Read the bucket size of the spatial index. -/
def readIndex? (document : δ) : Option Nat := do
  let field ← structure? ["cell_size"] document
  field? (field "cell_size") size? defaultCellSize

def readMatching? (document : δ) : Option MatchingSettings := do
  let field ← structure? ["strategy", "known_component_types"] document
  let strategy ←
    field? (field "strategy") (fun word => (word? word).bind MatchStrategy.ofName?) .firstRegistered
  let knownTypes ← field? (field "known_component_types") readTexts? defaultComponentTypes
  return ⟨strategy, knownTypes⟩

def readContainment? (document : δ) : Option ContainmentSettings := do
  let field ← structure? ["enabled", "direct_children_only"] document
  let enabled ← field? (field "enabled") truth? true
  let directOnly ← field? (field "direct_children_only") truth? false
  return ⟨enabled, directOnly⟩

def read? (document : δ) : Option Settings := do
  let field ←
    structure? ["log_level", "patterns", "grid", "index", "matching", "containment"] document
  let logLevel ←
    field? (field "log_level")
      (fun level => if isNull level then some none else (text? level).map some) none
  let patterns ← field? (field "patterns") readTexts? []
  let limits ← field? (field "grid") readLimits? default
  let cellSize ← field? (field "index") readIndex? defaultCellSize
  let matching ← field? (field "matching") readMatching? {}
  let containment ← field? (field "containment") readContainment? {}
  return ⟨logLevel, patterns, limits, cellSize, matching, containment⟩

end

def ofYaml (text : String) : Except Failure Settings :=
  match (Yaml.read? text).bind read? with
  | none => .error .malformedSettings
  | some settings => do
      settings.validate
      return settings

/-- Settings as a record of all fields. -/
def toValue (settings : Settings) : Value :=
  .record [
    ("log_level", match settings.logLevel with
      | some level => .text level
      | none => .null),
    ("patterns", .ofTexts settings.patterns),
    ("grid", .record [
      ("max_width", .integer settings.limits.maxWidth),
      ("max_height", .integer settings.limits.maxHeight),
      ("tab_width", .integer settings.limits.tabWidth)]),
    ("index", .record [("cell_size", .integer settings.cellSize)]),
    ("matching", .record [
      ("strategy", .text settings.matching.strategy.name),
      ("known_component_types", .ofTexts settings.matching.knownTypes)]),
    ("containment", .record [
      ("enabled", .truth settings.containment.enabled),
      ("direct_children_only", .truth settings.containment.directOnly)])]

end Settings

end ScreenSight
