/-!
Which part of the service a path belongs to, and what may be done there.

A path in which two slashes stand side by side is redirected to the one with a single slash, if that one
belongs to something.
-/

namespace ClusterLease.Http

/-- The parts of the service. -/
inductive Route where
  | version
  | clusters
  | cluster (id : String)
  /-- Files that are served as they are; there are none. -/
  | files
  deriving DecidableEq, Repr

namespace Route

/-- The parts of a path between its slashes, without what precedes the first one. -/
def parts (path : String) : List String := ((path.toList.splitOn '/').drop 1).map String.ofList

/-- Whether parts name a file: no slash stands before them, and after the first character no line ends. -/
def nameFile (parts : List String) : Bool :=
  match ("/".intercalate parts).toList with
  | [] => false
  | first :: rest => first != '/' && !rest.contains '\n'

/-- The route of the parts of a path. -/
def ofParts? : List String → Option Route
  | ["version"] => some version
  | ["clusters"] => some clusters
  | ["cluster", id] => if id ≠ "" then some (cluster id) else none
  | "static" :: file => if nameFile file then some files else none
  | _ => none

def ofPath? (path : String) : Option Route := ofParts? (parts path)

/-- The methods of a route besides the one that asks for methods. -/
def methods : Route → List String
  | version => ["GET", "HEAD"]
  | clusters => ["GET", "HEAD", "POST", "DELETE"]
  | cluster _ => ["GET", "HEAD", "PUT", "DELETE"]
  | files => ["GET", "HEAD"]

/-- Each two slashes side by side made one. -/
def mergeSlashes : List Char → List Char
  | '/' :: '/' :: rest => '/' :: mergeSlashes rest
  | c :: rest => c :: mergeSlashes rest
  | [] => []

/-- What is to be done with a request. -/
inductive Decision where
  | serve (route : Route)
  | describe
  | redirect
  | notAllowed
  | notFound
  deriving DecidableEq, Repr

/-- The method that asks for the methods of a route. -/
def askingMethod : String := "OPTIONS"

/-- What is to be done with a method and a path. -/
def decide (method path : String) : Decision :=
  match ofPath? path with
  | some route =>
    if route.methods.contains method then .serve route
    else if method = askingMethod then .describe
    else .notAllowed
  | none =>
    match ofPath? (String.ofList (mergeSlashes path.toList)) with
    | some route => if (askingMethod :: route.methods).contains method then .redirect else .notAllowed
    | none => .notFound

end Route

end ClusterLease.Http
