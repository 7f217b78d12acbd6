import Emend.Command.Options

/-!
# Help

What is shown to those who ask for help, and to those whose words make no command.
-/

namespace Emend.Command

/-- How the words of a command line are put together. -/
def usageLines : Option String → List String
  | some "apply" =>
    ["usage: structedit apply [-h] [--dry-run] [--no-track] [--review] request"]
  | some "outline" => ["usage: structedit outline [-h] [--language LANGUAGE] [--json] file"]
  | some "edit-stats" => ["usage: structedit edit-stats [-h] [--last-n LAST_N]"]
  | _ =>
    ["usage: structedit [-h] [--config CONFIG] [--project-root PROJECT_ROOT] [-v]",
     "                  COMMAND ..."]

/-- What the words mean. -/
def meaningLines : Option String → List String
  | some "apply" =>
    ["positional arguments:",
     "  request     Path to the request JSON file",
     "",
     "options:",
     "  -h, --help  show this help message and exit",
     "  --dry-run   Show the resulting diff without writing",
     "  --no-track  Do not record pending changes",
     "  --review    Approve or reject each change after applying"]
  | some "outline" =>
    ["positional arguments:",
     "  file                 Source file",
     "",
     "options:",
     "  -h, --help           show this help message and exit",
     "  --language LANGUAGE  Language tag (default: from the extension)",
     "  --json               Print JSON"]
  | some "edit-stats" =>
    ["options:",
     "  -h, --help       show this help message and exit",
     "  --last-n LAST_N  Number of most recent batches (default: 50)"]
  | _ =>
    ["Declarative structural edits with reviewable change tracking",
     "",
     "positional arguments:",
     "  COMMAND",
     "    apply               Apply a JSON edit request",
     "    outline             List the structural nodes of a file",
     "    edit-stats          Summarize recorded edit metrics",
     "",
     "options:",
     "  -h, --help            show this help message and exit",
     "  --config CONFIG       Path to a .structedit.yaml file",
     "  --project-root PROJECT_ROOT",
     "                        Resolve request paths against this directory",
     "  -v, --verbose         Debug logging"]

/-- The help on a task, or on all of them. -/
def helpLines (about : Option String) : List String :=
  usageLines about ++ [""] ++ meaningLines about

/-- The complaint about words that make no command. -/
def usageComplaint : List String := usageLines none ++ ["structedit: error: invalid arguments"]

end Emend.Command
