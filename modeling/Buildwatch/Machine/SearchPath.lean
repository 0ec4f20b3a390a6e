import Buildwatch.Machine.Files

/-!
# Search paths

Where a program is looked for: a name without a slash stands for a file in one of the
directories of the search path.
-/

namespace Buildwatch.Machine.SearchPath

/-- The directories that are searched if nothing else is said. -/
def standard : Raw := Raw.ascii "/bin:/usr/bin"

/-- The search path of an environment. -/
def ofEnvironment (environment : List (Raw × Raw)) : Raw :=
  (environment.lookup (Raw.ascii "PATH")).getD standard

/-- The paths to try for a name. -/
def candidates (path name : Raw) : List Raw :=
  if name.contains '/' then [name]
  else (Text.cutAt ':' path).map fun d =>
    if d = [] then name else if d.getLast? = some '/' then d ++ name else d ++ '/' :: name

def isProgram (files : Files) (cwd : Place) (path : Raw) : Bool :=
  (files.find true cwd (Raw.toText path)).toOption.any fun (_, node) => node.isExecutable

def find? (files : Files) (cwd : Place) (path name : Raw) : Option Raw :=
  (candidates path name).find? (isProgram files cwd)

end Buildwatch.Machine.SearchPath
