/-
Documents: data without a schema, as a configuration file holds it before its settings are read. Numbers with a
fraction and dates keep their written form, since no setting is one.
-/
namespace EdgeCache

/-- data without a schema -/
inductive Document where
  | nothing
  | flag (value : Bool)
  | integer (value : Int)
  | real (written : String)
  | text (value : String)
  | date (written : String)
  | list (items : List Document)
  | table (entries : List (String × Document))
deriving Inhabited

end EdgeCache
