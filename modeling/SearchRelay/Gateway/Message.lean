import SearchRelay.Gateway.Server

/-!
# SearchRelay.Gateway.Message

Requests and answers as messages of HTTP/1.1.

1. A request begins with a line of three words and the lines of its headers, up
   to an empty line; its body is as long as the header `Content-Length` says.
2. An answer is a status line, its headers, an empty line and the body.
-/

namespace SearchRelay.Gateway

/-! ## Requests -/

/-- What stands in front of the body of a request. -/
structure Head where
  method : String
  target : String
  headers : List (String × List UInt8)
  deriving DecidableEq

namespace Head

/-- Whether a character is a blank in a header. -/
def isGap (c : Char) : Bool := c = ' ' || c = '\t' || c = '\r' || c = '\n'

def trimmed (cs : List Char) : List Char :=
  ((cs.dropWhile isGap).reverse.dropWhile isGap).reverse

def isEnd (line : String) : Bool := line.toList.all isGap

/-- The name and the value of a header. -/
def header? (line : String) : Option (String × List UInt8) :=
  let name := line.toList.takeWhile (· ≠ ':')
  match line.toList.drop name.length with
  | ':' :: value =>
    if name.isEmpty then none
    else some (String.ofList name, (String.ofList (trimmed value)).toUTF8.toList)
  | _ => none

/-- Reads the lines of a head. -/
def ofLines? : List String → Option Head
  | [] => none
  | first :: rest => match Text.wordsBy isGap first.toList with
    | [method, target, _] =>
      (rest.mapM header?).map (⟨String.ofList method, String.ofList target, ·⟩)
    | _ => none

/-- The length of the body. -/
def contentLength (head : Head) : Nat :=
  let given := head.headers.find? fun header => header.1.toLower = "content-length"
  given.elim 0 fun header =>
    let digits := header.2.map fun b => Char.ofNat b.toNat
    if digits.all Char.isDigit then
      digits.foldl (fun n c => n * 10 + Text.Table.digitValue c) 0
    else 0

/-- The request with a body. -/
def request (head : Head) (body : List UInt8) : Request where
  method := head.method
  target := head.target
  headers := head.headers
  body

end Head

/-! ## Answers -/

def headerLine (name value : String) : String := name ++ ": " ++ value ++ "\r\n"

/-- What stands in front of the body of an answer. -/
def Response.head (r : Response) : String :=
  String.join [
    "HTTP/1.1 ", toString r.status, " ", (Http.reason? r.status).getD "", "\r\n",
    r.contentType.elim "" (headerLine "content-type"),
    r.contentTypeOptions.elim "" (headerLine "x-content-type-options"),
    headerLine "content-length" (toString r.body.length),
    "\r\n"]

/-- An answer as a message. -/
def Response.bytes (r : Response) : List UInt8 := r.head.toUTF8.toList ++ r.body

def badRequest : Response := { status := 400 }

end SearchRelay.Gateway
