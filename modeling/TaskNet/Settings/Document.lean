import TaskNet.Failure
import TaskNet.Settings
import TaskNet.Settings.Scalar

/-!
# Settings documents

A settings document gives each of the four settings at most once. What it does not give keeps its
default.
-/

namespace TaskNet.Settings

/-- The settings with one more of them given, if there is such a setting and it takes the value. -/
def assign? (settings : Settings) (key : String) (value : Toml.Scalar) : Option Settings :=
  match key, value with
  | "domain_type", .string domainType => some { settings with domainType }
  | "problem_type", .string problemType => some { settings with problemType }
  | "strict_ambiguity", .bool strictAmbiguity => some { settings with strictAmbiguity }
  | "parallel", .bool parallel => some { settings with parallel }
  | _, _ => none

/-- The settings that a list of keys and values gives. -/
def ofEntries? (entries : List (String × Toml.Scalar)) : Option Settings :=
  if (entries.map (·.1)).Nodup then
    entries.foldlM (fun settings (key, value) => settings.assign? key value) {}
  else none

/-- The settings that a document gives. -/
def parse (text : String) : Except SettingsError Settings :=
  match (Toml.parse? text.toList).bind ofEntries? with
  | some settings => .ok settings
  | none => .error (.invalid "the text is not a settings document")

end TaskNet.Settings
