import RpcProxy.Config.Update
import RpcProxy.Report.Basic

/-!
# Reports on settings

Settings as a JSON value, and what a reload changes.
-/

set_option autoImplicit false

namespace RpcProxy.Report

open Json (ofInt ofStrings)

mutual

/-- A value of a settings file. -/
def setting : Toml.Value → Json
  | .string s => .string s
  | .integer n => ofInt n
  | .float x => double x
  | .boolean b => .bool b
  | .datetime d => .object [("datetime", .string d.text)]
  | .array vs => .array (settings vs)
  | .table es => .object (settingMembers es)

/-- The values of an array. -/
def settings : List Toml.Value → List Json
  | [] => []
  | v :: rest => setting v :: settings rest

/-- The entries of a table. -/
def settingMembers : List (String × Toml.Value) → List (String × Json)
  | [] => []
  | (key, v) :: rest => (key, setting v) :: settingMembers rest

end

/-- What a reload changes; `ask` are names of listeners that somebody asks about. -/
def update (ask : List String) (u : Config.Update) : Json :=
  .object [("changed", ofStrings u.changed), ("added", ofStrings u.added),
    ("removed", ofStrings u.removed), ("clusters_changed", .bool u.clustersChanged),
    ("is_changed", .array (ask.map fun n => .bool (u.isChanged n))),
    ("listeners", ofStrings (u.config.listeners.map (·.name)))]

/-- Why settings cannot be loaded. -/
def loadError : Config.LoadError → Json
  | .unreadable => error "Io"
  | .malformed => error "TomlParse"
  | .invalid fault => errorWith "Validation" ("Validation error: " ++ fault.message)

end RpcProxy.Report
