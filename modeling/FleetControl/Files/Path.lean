/-!
# Paths

A path is a text whose components are separated by slashes. Empty components and `.` components
that are not the first one carry no meaning; a path that starts with a slash is absolute.
-/

namespace FleetControl.Path

/-- The path starts at the root directory. -/
def isAbsolute (path : String) : Bool := path.toList.head? = some '/'

/-- Appends a path to another. An absolute second part replaces the first. -/
def join (base part : String) : String :=
  if isAbsolute part then part
  else if base.isEmpty || base.toList.getLast? = some '/' then base ++ part
  else base ++ "/" ++ part

/-- Splits characters at slashes. -/
def splitSlashes (chars : List Char) : List (List Char) :=
  match chars with
  | [] => [[]]
  | c :: rest =>
      match splitSlashes rest with
      | [] => [[c]]
      | first :: others => if c = '/' then [] :: first :: others else (c :: first) :: others

/-- The components that name something, `..` included, in order. -/
def components (path : String) : List String :=
  ((splitSlashes path.toList).filter fun part => part ≠ [] ∧ part ≠ ['.']).map String.ofList

/-- Whether two texts are the same path: they start at the same place and have the same
components. -/
def same (a b : String) : Bool :=
  isAbsolute a == isAbsolute b && startsHere a == startsHere b && components a = components b
where
  /-- The first component is a dot. -/
  startsHere (path : String) : Bool := (splitSlashes path.toList).head? = some ['.']

/-- Drops what follows the last meaningful component of a reversed path: slashes, and `.` components
that are not the first. The slash of the root directory stays. -/
def dropTail : List Char → List Char
  | '.' :: '/' :: rest => dropTail ('/' :: rest)
  | '/' :: c :: rest => dropTail (c :: rest)
  | reversed => reversed

/-- The path without its last component; nothing for the root directory and the empty path. -/
def parent? (path : String) : Option String :=
  match dropTail path.toList.reverse with
  | [] => none
  | ['/'] => none
  | reversed => some (String.ofList (dropTail (reversed.dropWhile (· ≠ '/'))).reverse)

/-- The last component, if it is a name. -/
def fileName? (path : String) : Option String :=
  match dropTail path.toList.reverse with
  | [] => none
  | reversed =>
      let name := (reversed.takeWhile (· ≠ '/')).reverse
      if name = [] ∨ name = ['.'] ∨ name = ['.', '.'] then none else some (String.ofList name)

/-- What follows the last dot of a name, unless that dot is its first character. -/
def extensionOf? (name : String) : Option String :=
  let reversed := name.toList.reverse
  let ending := reversed.takeWhile (· ≠ '.')
  let rest := reversed.drop ending.length
  if rest.length ≤ 1 then none else some (String.ofList ending.reverse)

/-- The path with `ending` appended to its last component, and without what follows that component.
A path whose last component is no name is left alone. -/
def appendToName (path ending : String) : String :=
  match fileName? path with
  | none => path
  | some _ => String.ofList (dropTail path.toList.reverse).reverse ++ ending

end FleetControl.Path
