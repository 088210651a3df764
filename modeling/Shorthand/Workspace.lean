import Shorthand.Path
import Shorthand.Uri.Basic

/-!
# Workspaces

Where the root of a workspace lies.
-/

namespace Shorthand

/-- The root of a workspace, given by a URI or else by a path.  Empty ones count as
not given. -/
def workspaceRoot (uri path : Option (List Char)) : Except Uri.Error (Option (List Char)) :=
  match uri.filter (!·.isEmpty), path.filter (!·.isEmpty) with
  | some uri, _ => (Uri.filePath uri).map fun path => some (Path.normalize path)
  | none, some path => .ok (some (Path.normalize path))
  | none, none => .ok none

end Shorthand
