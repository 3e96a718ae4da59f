import ClusterLease.Http.Service
import ClusterLease.Json.Writer
import ClusterLease.Number.Numeral

/-!
Requests and answers as they are written on a connection.

A request starts with a line that holds its method and its target. Lines with a header each follow, up to an
empty line, and then the bytes of the body, as many as the header for the length says.
-/

namespace ClusterLease.Http

/-- The first line of a request. -/
structure RequestLine where
  method : String
  target : String
  deriving DecidableEq, Repr

/-- The method and the target of a first line, if it has both and a version of the protocol. -/
def RequestLine.ofText? (line : String) : Option RequestLine :=
  match (Text.strip line).toList.splitOn ' ' with
  | [method, target, _] => some ⟨String.ofList method, String.ofList target⟩
  | _ => none

/-- The name and the value of a header, if a line has a colon between them. -/
def headerOfText? (line : String) : Option (String × String) :=
  let cs := line.toList
  match cs.dropWhile (· != ':') with
  | [] => none
  | _ :: value => some (String.ofList (cs.takeWhile (· != ':')), Text.strip (String.ofList value))

/-- The length of the body that headers announce; without such a header there is no body. -/
def bodyLength (headers : Labels) : Nat :=
  match (headers.find? fun (key, _) => Request.headerKey key = "content-length").bind fun (_, s) => Numeral.int? s with
  | some length => length.toNat
  | none => 0

def Request.ofParts (line : RequestLine) (headers : Labels) (body : List UInt8) : Request :=
  let kind := headers.find? fun (key, _) => Request.headerKey key = "content-type"
  { method := line.method
    target := line.target
    headers
    contentType := (kind.map (·.2)).getD ""
    body }

/-- The phrase that goes with a status. -/
def phrase : Nat → String
  | 200 => "OK"
  | 308 => "Permanent Redirect"
  | 400 => "Bad Request"
  | 401 => "Unauthorized"
  | 403 => "Forbidden"
  | 404 => "Not Found"
  | 405 => "Method Not Allowed"
  | _ => "Internal Server Error"

def Response.text (response : Response) : String :=
  let body := match response.document with
    | some document => Json.write document ++ "\n"
    | none => ""
  s!"HTTP/1.1 {response.status} {phrase response.status}\r\nContent-Type: application/json\r\n" ++
    s!"Content-Length: {body.utf8ByteSize}\r\n\r\n" ++ body

/-- The answer to what is no request. -/
def Response.malformed : Response := failure 400 "malformed request"

end ClusterLease.Http
