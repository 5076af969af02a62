/-!
# TOML values

A value of TOML. A point in time is known only as such: nothing here asks which one it is.
-/

namespace CloudGraph.Toml

inductive Value where
  | text (value : String)
  | integer (value : Int)
  | double (value : Float)
  | flag (value : Bool)
  | moment
  | array (items : List Value)
  | table (entries : List (String × Value))
deriving Inhabited

end CloudGraph.Toml
