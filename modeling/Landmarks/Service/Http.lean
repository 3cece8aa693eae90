import Landmarks.Json.Printer
import Landmarks.Number.Integer
import Landmarks.Service.App
import Landmarks.Text.Case

/-!
# Messages on a connection

* `Head` : the lines before the body of a request.
* `Head.ofLines?` : its method, its target and the length of the body.
* `Reply.message` : a reply as it is sent.
-/

namespace Landmarks.Service

/-- What the lines before the body of a request say. -/
structure Head where
  method : String
  target : String
  length : Nat
  deriving DecidableEq, Repr

namespace Head

/-- The length of the body, if a line gives it. -/
def lengthOf? (line : List Char) : Option Nat :=
  let name := Text.trim (line.takeWhile (· != ':'))
  let value := (line.dropWhile (· != ':')).drop 1
  if Text.lower name == "content-length".toList then
    ((Number.readInteger 10 value).toOption).map Int.toNat
  else none

/-- The head of a request; none if the first line does not start one. -/
def ofLines? : List String → Option Head
  | [] => none
  | first :: lines =>
    match Text.words first.toList with
    | method :: target :: _ =>
      let lengths := lines.filterMap fun l => lengthOf? l.toList
      some ⟨String.ofList method, String.ofList target, lengths.headD 0⟩
    | _ => none

end Head

namespace Reply

/-- The status of a reply in words. -/
def phrase (r : Reply) : String :=
  match r with
  | healthy | page | markers _ _ => "OK"
  | refused _ => "Bad Request"
  | notFound => "Not Found"
  | notAllowed => "Method Not Allowed"
  | invalid _ => "Unprocessable Entity"

/-- A reply as it is sent. All characters of the body are ASCII. -/
def message (r : Reply) : String :=
  let body := r.body.compact
  "HTTP/1.1 " ++ toString r.status ++ " " ++ r.phrase ++ "\r\ncontent-length: " ++
    toString body.length ++ "\r\ncontent-type: application/json\r\n\r\n" ++ body

end Reply

end Landmarks.Service
