import PageShell.Config.Codec
import PageShell.Json.Reader
import PageShell.Json.Writer
import PageShell.Toml.Reader
import PageShell.Toml.Writer
import PageShell.Yaml.Writer

/-!
# Configurations as text

Configurations are kept in TOML and exported to TOML, JSON or YAML.
-/

namespace PageShell

/-- The formats that a configuration can be exported to. -/
inductive Format
  | toml
  | json
  | yaml
  deriving DecidableEq, Repr

namespace Format

/-- The format that a name asks for. Every unknown name asks for TOML. -/
def ofName (name : String) : Format :=
  match String.ofList (name.toList.map Char.toLower) with
  | "json" => json
  | "yaml" => yaml
  | "yml" => yaml
  | _ => toml

/-- The name of a format. -/
def label : Format → String
  | toml => "Toml"
  | json => "Json"
  | yaml => "Yaml"

end Format

namespace Config

/-- A configuration in TOML. -/
def toToml (c : Config) : Text := Toml.write c.toFields

/-- A configuration in JSON. -/
def toJson (c : Config) : Text := Json.write c.toData

/-- A configuration in YAML. -/
def toYaml (c : Config) : Text := Yaml.write c.toFields

/-- A configuration in a format. -/
def written (c : Config) : Format → Text
  | .toml => c.toToml
  | .json => c.toJson
  | .yaml => c.toYaml

/-- The configuration that a TOML document holds. -/
def ofToml? (t : Text) : Option Config := do ofData? .toml (.record (← Toml.read? t))

/-- The configuration that a JSON document holds. -/
def ofJson? (t : Text) : Option Config := do ofData? .json (← Json.read? t)

end Config

end PageShell
