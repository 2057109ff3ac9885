/-!
# Paths

Slash-separated paths as text. `clean` is the shortest path with the same meaning when directories
are not links: it drops empty and `.` components and resolves `..` against the component before it.
-/
namespace WatchTrial.Path

/-- The components of a path between its slashes. -/
def components (path : List Char) : List (List Char) :=
  path.splitOn '/'

/-- Appends a component to cleaned components, the last one first. -/
def push (rooted : Bool) (done : List (List Char)) (c : List Char) : List (List Char) :=
  if c = [] ∨ c = ['.'] then done
  else if c = ['.', '.'] then
    match done with
    | [] => if rooted then [] else [c]
    | last :: rest => if last = ['.', '.'] then c :: done else rest
  else c :: done

def joinComponents (cs : List (List Char)) : List Char :=
  ['/'].intercalate cs

/-- The shortest path with the same meaning. -/
def cleanChars (path : List Char) : List Char :=
  let rooted := path.head? == some '/'
  match rooted, ((components path).foldl (push rooted) []).reverse with
  | true, cs => '/' :: joinComponents cs
  | false, [] => ['.']
  | false, cs => joinComponents cs

/-- Two paths one after the other, cleaned; an empty one adds nothing. -/
def joinChars (a b : List Char) : List Char :=
  match a, b with
  | [], [] => []
  | [], b => cleanChars b
  | a, b => cleanChars (a ++ '/' :: b)

/-- The last component, trailing slashes aside. -/
def baseChars (path : List Char) : List Char :=
  if path.isEmpty then ['.']
  else
    match (path.reverse.dropWhile (· == '/')).takeWhile (· != '/') with
    | [] => ['/']
    | name => name.reverse

/-- The path up to its last slash, cleaned. -/
def dirChars (path : List Char) : List Char :=
  cleanChars (path.reverse.dropWhile (· != '/')).reverse

/-- Two paths one after the other. -/
def join (a b : String) : String := String.ofList (joinChars a.toList b.toList)

/-- The last component of a path. -/
def base (path : String) : String := String.ofList (baseChars path.toList)

def dir (path : String) : String := String.ofList (dirChars path.toList)

end WatchTrial.Path
