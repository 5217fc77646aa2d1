namespace BenchCharts.Files

inductive Obstacle where
  | missing
  | occupied
  | notDirectory
  | isDirectory
deriving DecidableEq, Repr

def Obstacle.message : Obstacle → String
  | .missing => "No such file or directory (os error 2)"
  | .occupied => "File exists (os error 17)"
  | .notDirectory => "Not a directory (os error 20)"
  | .isDirectory => "Is a directory (os error 21)"

def joinPath (directory name : String) : String :=
  if name.startsWith "/" then name
  else if directory.isEmpty then name
  else if directory.endsWith "/" then directory ++ name
  else directory ++ "/" ++ name

def splitSlash : List Char → List (List Char)
  | [] => [[]]
  | c :: rest =>
    if c = '/' then [] :: splitSlash rest
    else
      match splitSlash rest with
      | [] => [[c]]
      | part :: parts => (c :: part) :: parts

def steps (path : String) : List String := (splitSlash path.toList).map .ofList

def isIdle (name : String) : Bool := name.isEmpty || name == "."

-- The last step, unless it leads upwards.
def fileName (path : String) : String :=
  match (steps path).reverse.dropWhile isIdle with
  | name :: _ => if name = ".." then "" else name
  | [] => ""

end BenchCharts.Files
