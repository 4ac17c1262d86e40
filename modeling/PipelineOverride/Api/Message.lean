import PipelineOverride.Document.Basic
import PipelineOverride.Text.Blank
import PipelineOverride.Text.Case

/-!
# Messages of the web service

Requests and responses, as far as the service looks at them or gives them. The names of headers are
compared without their letter case.
-/

set_option autoImplicit false

namespace PipelineOverride.Api

/-- A request. Its body, if it has one, is JSON text of a document. -/
structure Request where
  method : String
  path : String
  headers : List (String × String) := []
  sent : Option Document := none

namespace Request

def header? (request : Request) (name : String) : Option String :=
  (request.headers.find? fun header => Text.lower header.1 = name).map Prod.snd

def verb (request : Request) : String :=
  Text.upper request.method

/-- The path without the query, and without slashes at its end. A path that ends in a slash leads
to the same place as one that does not. -/
def place (request : Request) : String :=
  let path := request.path.toList.takeWhile fun c => c != '?' && c != '#'
  String.ofList (path.reverse.dropWhile (· == '/')).reverse

/-- Whether a content type is one of JSON. Parameters behind a semicolon do not matter. -/
def isJsonType (contentType : String) : Bool :=
  let kind := Text.lower (Text.trim (String.ofList (contentType.toList.takeWhile (· != ';'))))
  match kind.splitOn "/" with
  | ["application", subtype] => subtype = "json" || subtype.endsWith "+json"
  | _ => false

/-- The body as it is understood: bytes alone where another content type is announced. -/
def body (request : Request) : Option Document :=
  if (request.header? "content-type").all isJsonType then request.sent
  else request.sent.map fun _ => .scalar (.bytes [])

end Request

/-- What is wrong with a part of a request body. -/
inductive Complaint where
  | missing
  | noModel
  | noText
  | noMapping
  | tooShort
  deriving DecidableEq, Repr

def Complaint.name : Complaint → String
  | .missing => "missing"
  | .noModel => "model_attributes_type"
  | .noText => "string_type"
  | .noMapping => "dict_type"
  | .tooShort => "string_too_short"

/-- A complaint about the part of a request that steps lead to. -/
structure Finding where
  complaint : Complaint
  steps : List String
  deriving DecidableEq, Repr

/-- What a response carries. -/
inductive Content where
  | document (document : Document)
  /-- The complaints about a request body. -/
  | findings (findings : List Finding)

structure Response where
  status : Nat
  content : Content
  /-- The origins that may read the response, where that is said. -/
  allowOrigin : Option String := none

namespace Response

def ok (document : Document) : Response := ⟨200, .document document, none⟩

def refused (status : Nat) (detail : Document) : Response :=
  ⟨status, .document (.object [("detail", detail)]), none⟩

/-- A response to a request whose body is not as it should be. -/
def invalid (findings : List Finding) : Response := ⟨422, .findings findings, none⟩

end Response

end PipelineOverride.Api
