import FlagSearch.Sandbox.Kernel
import FlagSearch.Shell.Start
import FlagSearch.Tools.Calculating
import FlagSearch.Tools.Columns
import FlagSearch.Tools.Editing
import FlagSearch.Tools.Listing
import FlagSearch.Tools.Matching
import FlagSearch.Tools.Sorting
import FlagSearch.Tools.Telling

/-!
# The toolbox

* `Tools.all` — the tools by name.
* `Tools.toolbox` — the programs of a sandbox: the shells, and all tools.
-/

namespace FlagSearch.Tools

open Sandbox

def all : List (String × Tool) :=
  [("[", testAs true), ("basename", basename), ("cat", cat), ("chmod", chmod), ("cp", cp),
    ("cut", cut), ("dirname", dirname), ("echo", echo), ("egrep", grepAs (some "E")), ("env", env),
    ("expr", expr), ("false", failing), ("fgrep", grepAs (some "F")), ("grep", grepAs none),
    ("head", head), ("install", install), ("ln", ln), ("ls", ls), ("mkdir", mkdir),
    ("mktemp", mktemp), ("mv", mv), ("printf", printf), ("rm", rm), ("rmdir", rmdir), ("sed", sed),
    ("sleep", sleep), ("sort", sort), ("tail", tail), ("tee", tee), ("test", testAs false),
    ("touch", touch), ("tr", tr), ("true", succeed), ("uniq", uniq), ("wc", wc)]

def shells : List (String × Shell.Dialect) := [("dash", .plain), ("bash", .rich)]

def names : List String := shells.map Prod.fst ++ all.map Prod.fst

def toolbox : Toolbox := fun name arguments environment =>
  match shells.lookup name, all.lookup name with
  | some dialect, _ => Shell.program dialect arguments environment
  | none, some tool =>
      Routine.program (tool ⟨arguments.headD name, arguments.drop 1, environment⟩)
  | none, none => .exit 127

end FlagSearch.Tools
