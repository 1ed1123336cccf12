import StyleRules.Value.Basic

/-!
# Defaults

The configuration that holds where nothing else is said, and the schema that configurations are checked
against.
-/

namespace StyleRules.Configuration

def textList (items : List String) : Value := .list (items.map .str)

def defaults : List (Value × Value) :=
  [(.str "matchers", .map []),
    (.str "xslt_transforms", .map []),
    (.str "plugins", .list []),
    (.str "transforms", .ofFields [
      ("enabled", .bool true),
      ("cache_enabled", .bool true),
      ("max_cache_size", .int 100),
      ("processors", textList ["lxml"]),
      ("default_processor", .str "lxml"),
      ("transform_paths", textList ["./transforms"]),
      ("common_templates", .bool false)]),
    (.str "error_handling", .ofFields [
      ("fallback_strategy", .str "ignore"),
      ("strict_mode", .bool false),
      ("max_errors", .int 100)]),
    (.str "logging", .ofFields [("level", .str "INFO")])]

/-- The schema of a kind of values with further constraints. -/
def schemaOf (kind : String) (constraints : List (String × Value)) : Value :=
  .ofFields (("type", .str kind) :: constraints)

def textListSchema : Value := schemaOf "array" [("itemSchema", schemaOf "string" [])]

/-- The schema of the section about transforms. -/
def transformSchema : Value :=
  schemaOf "object" [("properties", .ofFields [
    ("enabled", schemaOf "boolean" []),
    ("cache_enabled", schemaOf "boolean" []),
    ("max_cache_size", schemaOf "number" [("min", .int 1), ("integer", .bool true)]),
    ("processors", textListSchema),
    ("default_processor", schemaOf "string" [("minLength", .int 1)]),
    ("transform_paths", textListSchema),
    ("common_templates", schemaOf "boolean" [])])]

/-- The schema of the section about errors. -/
def errorSchema : Value :=
  schemaOf "object" [("properties", .ofFields [
    ("fallback_strategy", schemaOf "string"
      [("enum", textList ["ignore", "suggest-alternatives", "diagnose"])]),
    ("strict_mode", schemaOf "boolean" []),
    ("max_errors", schemaOf "number" [("min", .int 0), ("integer", .bool true)])])]

def defaultSchema : Value :=
  schemaOf "object" [("properties", .ofFields [
    ("matchers", schemaOf "object" []),
    ("xslt_transforms", schemaOf "object" []),
    ("plugins", schemaOf "array" []),
    ("transforms", transformSchema),
    ("error_handling", errorSchema),
    ("logging", schemaOf "object" [])])]

end StyleRules.Configuration
