/-!
Names of files, whose parts are separated by slashes.
-/

namespace CapabilityArena.Path

def isAbsolute (path : String) : Bool := path.toList.head? == some '/'

/-- What remains of a path, read backwards, when separators and parts that name the place itself are taken
    from its end. The root stays. -/
def trimmed : List Char → List Char
  | ['/'] => ['/']
  | '/' :: rest => trimmed rest
  | ['.'] => ['.']
  | '.' :: '/' :: rest => if rest.isEmpty then ['/'] else trimmed rest
  | cs => cs

/-- The directory of a file, if the path names one. -/
def parent? (path : String) : Option String :=
  let whole := trimmed path.toList.reverse
  if whole.isEmpty || whole = ['/'] then none
  else some (String.ofList (trimmed (whole.dropWhile (· ≠ '/'))).reverse)

/-- A path as seen from a directory. -/
def join (directory path : String) : String :=
  if isAbsolute path then path
  else if directory.isEmpty || directory.toList.getLast? == some '/' then directory ++ path
  else directory ++ "/" ++ path

end CapabilityArena.Path
