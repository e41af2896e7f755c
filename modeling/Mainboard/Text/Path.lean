/-!
# Paths of directories

A path names a directory by the steps that lead to it, with slashes between
them.  Its text is kept as it is written.  Two texts name the same path if they
have the same steps: a slash at the end, a second slash in a row and a dot on
the way lead nowhere.  Two dots are a step like any other.
-/

namespace Mainboard.Text

/-- The pieces of a text between slashes. -/
def pieces : List Char → List (List Char)
  | [] => [[]]
  | character :: rest =>
      if character = '/' then [] :: pieces rest
      else
        match pieces rest with
        | [] => [[character]]
        | first :: others => (character :: first) :: others

def isStep (piece : List Char) : Bool := piece ≠ [] && piece ≠ ['.']

/-- The steps of a path.  Its first piece always counts: it is empty if the
path starts at the root, and a dot if it starts at the current directory. -/
def steps (path : String) : List (List Char) :=
  if path = "" then []
  else
    let found := pieces path.toList
    found.take 1 ++ (found.drop 1).filter isStep

def samePath (path other : String) : Bool := steps path = steps other

/-- A path below a directory.  Nothing is put before a path below no directory,
and a directory that ends in a slash gets no second one. -/
def pathBelow (directory name : String) : String :=
  if directory.isEmpty then name
  else if directory.toList.getLast? = some '/' then directory ++ name
  else directory ++ "/" ++ name

end Mainboard.Text
