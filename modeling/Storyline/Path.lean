/-!
# Paths of feature files

A path is cut at its slashes. Its *name* is the last piece that counts, where empty
pieces and single dots do not count; a path that ends in two dots, or has no piece that
counts, has no name.

The extension of a name is what stands behind its last dot, unless the dot is the first
character. It may be empty. `resolve` gives a path whose name has no extension the one
of feature files, and drops what follows the name. Any other path stays as it is.
-/

namespace Storyline.Path

/-- What stands between the slashes of a path. -/
def pieces (path : List Char) : List (List Char) := path.splitOn '/'

/-- Whether a piece of a path stands for nothing. -/
def isIdle (piece : List Char) : Bool := piece == [] || piece == ['.']

/-- The piece for the directory above. -/
def parent : List Char := ['.', '.']

/-- Whether a name has an extension: there is a dot in it behind its first character. -/
def hasExtension (name : List Char) : Bool := (name.drop 1).contains '.'

/-- The extension of feature files, with its dot. -/
def featureExtension : List Char := ['.', 'f', 'e', 'a', 't', 'u', 'r', 'e']

/-- Pieces put together to a path. -/
def join (pieces : List (List Char)) : List Char := List.intercalate ['/'] pieces

/-- A path with the extension of feature files, if its name has none. -/
def resolveChars (path : List Char) : List Char :=
  match (pieces path).reverse.dropWhile isIdle with
  | [] => path
  | name :: above =>
      if name = parent || hasExtension name then path
      else join (name :: above).reverse ++ featureExtension

/-- A path with the extension of feature files, if its name has none. -/
def resolve (path : String) : String := String.ofList (resolveChars path.toList)

end Storyline.Path
