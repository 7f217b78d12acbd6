/-!
# Grammars

Which nodes of a language's syntax trees are declarations, and which of them open a scope.
-/

namespace Emend

/-- How to find the declarations of one language. -/
structure Grammar where
  name : String
  /-- The package that holds the grammar's parser. -/
  package : String
  extensions : List String
  /-- The kinds of node that declare something, and what they declare. -/
  kinds : List (String × String)
  /-- The kinds of node that add to the depth of what they hold. -/
  scopes : List String := []
  /-- The scopes whose name becomes the parent of what they hold. -/
  namedScopes : List String := []
  /-- The kinds of node that declare something only if they have a body. -/
  bodyRequired : List String := []
  deriving DecidableEq, BEq, Repr, Inhabited

namespace Grammar

/-- Declarations of python. -/
def python : Grammar where
  name := "python"
  package := "tree_sitter_python"
  extensions := [".py", ".pyw"]
  kinds :=
    [("function_definition", "function"), ("class_definition", "class"),
     ("assignment", "variable")]
  scopes :=
    ["class_definition"]
  namedScopes :=
    ["class_definition"]

/-- Declarations of javascript. -/
def javascript : Grammar where
  name := "javascript"
  package := "tree_sitter_javascript"
  extensions := [".js", ".mjs", ".cjs", ".jsx"]
  kinds :=
    [("function_declaration", "function"), ("generator_function_declaration", "function"),
     ("class_declaration", "class"), ("method_definition", "method"),
     ("field_definition", "property"), ("variable_declarator", "function")]
  scopes :=
    ["class", "class_declaration", "object"]
  namedScopes :=
    ["class", "class_declaration"]

/-- Declarations of typescript. -/
def typescript : Grammar where
  name := "typescript"
  package := "tree_sitter_typescript"
  extensions := [".ts", ".mts", ".cts"]
  kinds :=
    [("function_declaration", "function"), ("generator_function_declaration", "function"),
     ("class_declaration", "class"), ("method_definition", "method"),
     ("field_definition", "property"), ("variable_declarator", "function"),
     ("abstract_class_declaration", "class"), ("interface_declaration", "interface"),
     ("type_alias_declaration", "type"), ("enum_declaration", "enum"),
     ("method_signature", "method"), ("abstract_method_signature", "method"),
     ("public_field_definition", "property"), ("property_signature", "property")]
  scopes :=
    ["abstract_class_declaration", "class", "class_declaration", "interface_declaration",
     "object"]
  namedScopes :=
    ["abstract_class_declaration", "class", "class_declaration", "interface_declaration"]

/-- Declarations of tsx. -/
def tsx : Grammar where
  name := "tsx"
  package := "tree_sitter_typescript"
  extensions := [".tsx"]
  kinds :=
    [("function_declaration", "function"), ("generator_function_declaration", "function"),
     ("class_declaration", "class"), ("method_definition", "method"),
     ("field_definition", "property"), ("variable_declarator", "function"),
     ("abstract_class_declaration", "class"), ("interface_declaration", "interface"),
     ("type_alias_declaration", "type"), ("enum_declaration", "enum"),
     ("method_signature", "method"), ("abstract_method_signature", "method"),
     ("public_field_definition", "property"), ("property_signature", "property")]
  scopes :=
    ["abstract_class_declaration", "class", "class_declaration", "interface_declaration",
     "object"]
  namedScopes :=
    ["abstract_class_declaration", "class", "class_declaration", "interface_declaration"]

/-- Declarations of java. -/
def java : Grammar where
  name := "java"
  package := "tree_sitter_java"
  extensions := [".java"]
  kinds :=
    [("class_declaration", "class"), ("record_declaration", "class"),
     ("interface_declaration", "interface"), ("enum_declaration", "enum"),
     ("method_declaration", "method"), ("constructor_declaration", "method"),
     ("field_declaration", "property")]
  scopes :=
    ["class_declaration", "enum_declaration", "interface_declaration", "record_declaration"]
  namedScopes :=
    ["class_declaration", "enum_declaration", "interface_declaration", "record_declaration"]

/-- Declarations of c. -/
def c : Grammar where
  name := "c"
  package := "tree_sitter_c"
  extensions := [".c", ".h"]
  kinds :=
    [("function_definition", "function"), ("struct_specifier", "class"),
     ("enum_specifier", "enum"), ("type_definition", "type")]
  bodyRequired := ["enum_specifier", "struct_specifier"]

/-- Declarations of cpp. -/
def cpp : Grammar where
  name := "cpp"
  package := "tree_sitter_cpp"
  extensions := [".cpp", ".cc", ".cxx", ".hpp", ".hxx"]
  kinds :=
    [("function_definition", "function"), ("class_specifier", "class"),
     ("struct_specifier", "class"), ("enum_specifier", "enum")]
  scopes :=
    ["class_specifier", "struct_specifier"]
  namedScopes :=
    ["class_specifier", "struct_specifier"]
  bodyRequired := ["class_specifier", "enum_specifier", "struct_specifier"]

/-- Declarations of go. -/
def go : Grammar where
  name := "go"
  package := "tree_sitter_go"
  extensions := [".go"]
  kinds :=
    [("function_declaration", "function"), ("method_declaration", "method"),
     ("type_spec", "type")]

/-- Declarations of rust. -/
def rust : Grammar where
  name := "rust"
  package := "tree_sitter_rust"
  extensions := [".rs"]
  kinds :=
    [("function_item", "function"), ("function_signature_item", "method"),
     ("struct_item", "class"), ("enum_item", "enum"), ("trait_item", "trait"),
     ("type_item", "type")]
  scopes :=
    ["impl_item", "trait_item"]
  namedScopes :=
    ["impl_item", "trait_item"]

/-- Declarations of ruby. -/
def ruby : Grammar where
  name := "ruby"
  package := "tree_sitter_ruby"
  extensions := [".rb"]
  kinds :=
    [("class", "class"), ("module", "class"), ("method", "function"),
     ("singleton_method", "method")]
  scopes :=
    ["class", "module"]
  namedScopes :=
    ["class", "module"]

/-- Declarations of php. -/
def php : Grammar where
  name := "php"
  package := "tree_sitter_php"
  extensions := [".php", ".phtml"]
  kinds :=
    [("class_declaration", "class"), ("interface_declaration", "interface"),
     ("trait_declaration", "trait"), ("enum_declaration", "enum"),
     ("function_definition", "function"), ("method_declaration", "method")]
  scopes :=
    ["class_declaration", "enum_declaration", "interface_declaration", "trait_declaration"]
  namedScopes :=
    ["class_declaration", "enum_declaration", "interface_declaration", "trait_declaration"]

/-- Declarations of c_sharp. -/
def cSharp : Grammar where
  name := "c_sharp"
  package := "tree_sitter_c_sharp"
  extensions := [".cs"]
  kinds :=
    [("class_declaration", "class"), ("struct_declaration", "class"),
     ("record_declaration", "class"), ("interface_declaration", "interface"),
     ("enum_declaration", "enum"), ("method_declaration", "method"),
     ("constructor_declaration", "method"), ("property_declaration", "property")]
  scopes :=
    ["class_declaration", "interface_declaration", "record_declaration", "struct_declaration"]
  namedScopes :=
    ["class_declaration", "interface_declaration", "record_declaration", "struct_declaration"]

/-- The grammars that are known from the start. -/
def builtIn : List Grammar :=
  [python, javascript, typescript, tsx, java, c, cpp, go, rust, ruby, php, cSharp]

end Grammar

end Emend
