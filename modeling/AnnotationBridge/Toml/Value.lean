/-!
# TOML values

A `Toml.Value` is what a key of a configuration file stands for. Floats and dates are told apart
from other values, but their contents do not matter here.
-/

namespace AnnotationBridge.Toml

/-- A value of a configuration file. -/
inductive Value where
  | string (text : String)
  | integer (value : Int)
  | float
  | boolean (value : Bool)
  | datetime
  | array (items : List Value)
  | table (entries : List (String × Value))
  deriving Repr, Inhabited

end AnnotationBridge.Toml
