import Emend.Failure
import Emend.Log
import Emend.Outline.Fallback
import Emend.Outline.Walk
import Emend.Path
import Emend.Text.Case

/-!
# Extractors and their languages

Which extractor finds the declarations of a text. It is chosen by a language tag or by the extension
of a path; where none is known, or the chosen one fails, declarations are found by their words.
-/

namespace Emend

/-- A parsed text. -/
structure Parse where
  root : SyntaxTree
  /-- The text does not fit the grammar everywhere. -/
  damaged : Bool := false

/-- What parses texts: a grammar and a text give a tree, or a failure. -/
abbrev Parser := Grammar → List Char → Attempt Parse

/-- What was found in a text, and what is told about it. -/
structure Extraction where
  declarations : List Declaration
  notes : List Note := []
  deriving Inhabited

/-- A way to find declarations, for some languages and file extensions. -/
structure Extractor where
  languages : List String
  extensions : List String
  extract : List Char → String → Attempt Extraction

/-- The extractor of a grammar. -/
def Grammar.extractor (g : Grammar) (parse : Parser) : Extractor where
  languages := [g.name]
  extensions := g.extensions
  extract := fun text _ => do
    let p ← parse g text
    let notes := if p.damaged then
        [⟨.debug, .grammar,
          s!"[Structure] {g.name} source contains syntax errors; extraction is partial"⟩]
      else []
    return ⟨g.declarations (.ofText text) p.root, notes⟩

/-- The known extractors by language, and the languages by extension. -/
structure Registry where
  extractors : List (String × Extractor) := []
  languages : List (String × String) := []

namespace Registry

/-- Set a key; its old value gives way. -/
def set {α : Type} (key : String) (value : α) (entries : List (String × α)) : List (String × α) :=
  (key, value) :: entries.filter (·.1 != key)

/-- Add an extractor. It takes over its languages, and its extensions for the first of them. -/
def register (r : Registry) (e : Extractor) : Registry where
  extractors := e.languages.foldl (fun acc l => set l e acc) r.extractors
  languages := match e.languages with
    | [] => r.languages
    | first :: _ => e.extensions.foldl (fun acc x => set (Text.lower x) first acc) r.languages

/-- The extractors that are known from the start. -/
def builtIn (parse : Parser) : Registry :=
  Grammar.builtIn.foldl (fun r g => r.register (g.extractor parse)) {}

/-- The known languages, in order. -/
def supported (r : Registry) : List String :=
  (r.extractors.map (·.1)).mergeSort fun a b => !(b < a)

/-- The language of a path, by its extension. -/
def detect (r : Registry) (path : String) : Option String :=
  r.languages.lookup (Text.lower (String.ofList (Path.extension path.toList)))

/-- The language of a path, or else another one. An empty path or language is none. -/
def languageFor (r : Registry) (path otherwise : Option String) : Option String :=
  let detected := match path with
    | some p => if p.isEmpty then none else r.detect p
    | none => none
  match detected with
  | some l => if l.isEmpty then otherwise else some l
  | none => otherwise

/-- Other names of languages. -/
def aliases : List (String × String) :=
  [("py", "python"), ("js", "javascript"), ("jsx", "javascript"), ("ts", "typescript"),
   ("csharp", "c_sharp"), ("c#", "c_sharp"), ("c++", "cpp"), ("golang", "go")]

/-- The language that a tag or a path stands for. -/
def resolve (r : Registry) (tagOrPath : Option String) : Option String :=
  match tagOrPath with
  | none => none
  | some s =>
    if s.isEmpty then none
    else
      let tag := Text.lower s
      let tag := (aliases.lookup tag).getD tag
      if (r.extractors.lookup tag).isSome then some tag else r.detect s

/-- An extractor that fails in this way gives way to the search by words. -/
def givesWay : Failure → Bool
  | .missingModule _ | .badValue _ | .inverted _ | .undecodable | .unencodable | .unknownLevel _
  | .nullInPath => true
  | .extractor kind _ => ["ImportError", "ModuleNotFoundError", "ValueError", "UnicodeError",
      "RuntimeError", "NotImplementedError", "RecursionError"].contains kind
  | _ => false

/-- A tag or path as a note shows it. -/
def shown (tagOrPath : Option String) : String := (tagOrPath.map Text.quote).getD "None"

/-- The declarations of a text, by the extractor for a language tag or a path. -/
def extract (r : Registry) (text : List Char) (tagOrPath : Option String) : Attempt Extraction :=
  match r.resolve tagOrPath with
  | none => .ok {
      declarations := Fallback.declarations text
      notes := [⟨.debug, .outline,
        s!"[Structure] No extractor for {shown tagOrPath}, using regex fallback"⟩] }
  | some language =>
    match r.extractors.lookup language with
    | none => .error (.missingKey language)
    | some e =>
      match e.extract text language with
      | .ok found => .ok found
      | .error f =>
        if givesWay f then .ok {
          declarations := Fallback.declarations text
          notes := [⟨.warning, .outline,
            s!"[Structure] {language} extraction failed ({f.message}), using regex fallback"⟩] }
        else .error f

end Registry

end Emend
