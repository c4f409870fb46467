/-
Configurations as YAML texts: what a text describes, checked for consistency.
-/
import ScopedStore.Config.Read
import ScopedStore.Yaml.Reading

namespace ScopedStore.Config

/-- the consistent configuration that a text describes -/
def ofYaml (text : String) : Except ConfigError Config :=
  match (DocumentGraph.ofYaml? text).bind (DocumentGraph.read? ofDocument) with
  | none => .error .unparsable
  | some config => config.validate.map fun _ => config

end ScopedStore.Config
