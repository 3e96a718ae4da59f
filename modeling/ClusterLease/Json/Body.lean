import ClusterLease.Json.Document

/-!
JSON documents as bytes.

A byte order mark names the encoding. Without one, the zero bytes among the first four show how many bytes a
character has and in which order they come; if there are none, the encoding is UTF-8.
-/

namespace ClusterLease.Json

open Text

def decodeBody? (body : List UInt8) : Option (List Char) :=
  match body with
  | 0x00 :: 0x00 :: 0xFE :: 0xFF :: rest => decodeUtf32 .big rest
  | 0xFF :: 0xFE :: 0x00 :: 0x00 :: rest => decodeUtf32 .little rest
  | 0xFE :: 0xFF :: rest => decodeUtf16 .big rest
  | 0xFF :: 0xFE :: rest => decodeUtf16 .little rest
  | 0xEF :: 0xBB :: 0xBF :: rest => Utf8.decodeWithSurrogates rest
  | a :: b :: c :: d :: _ =>
    if a = 0 then (if b = 0 then decodeUtf32 .big body else decodeUtf16 .big body)
    else if b = 0 then (if c = 0 && d = 0 then decodeUtf32 .little body else decodeUtf16 .little body)
    else Utf8.decodeWithSurrogates body
  | [a, b] =>
    if a = 0 then decodeUtf16 .big body
    else if b = 0 then decodeUtf16 .little body
    else Utf8.decodeWithSurrogates body
  | _ => Utf8.decodeWithSurrogates body

/-- The value that a body writes, if it is a JSON document. -/
def ofBytes? (body : List UInt8) : Option Value := (decodeBody? body).bind read?

end ClusterLease.Json
