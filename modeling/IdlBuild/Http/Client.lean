import IdlBuild.Http.Fault
import IdlBuild.Http.Form
import IdlBuild.Http.Url

/-!
# Requests and redirects

A request is sent over a network, which either answers it or does not. Up to ten redirects are
followed: after 301, 302 and 303 a request is repeated as a request for the target without a body,
after 307 and 308 as it was. A redirect without a target, or with one that is no address or that no
request can carry, is an ordinary response. A redirect away from the web fails the request.
-/

namespace IdlBuild.Http

open Text (Bytes)

/-! ### Requests and responses -/

/-- What a request asks for. -/
inductive Method where
  | post
  | get
deriving DecidableEq, Repr

/-- The name of a method. -/
def Method.name : Method → String
  | post => "POST"
  | get => "GET"

/-- A request as it goes out. -/
structure Request where
  method : Method
  url : Url
  contentType : Option String
  body : Option Bytes
deriving DecidableEq, Repr

/-- A response as it comes in; the body is complete unless the connection ended before its announced
length. -/
structure Response where
  status : Nat
  headers : List (String × String)
  body : Bytes
  complete : Bool
deriving DecidableEq, Repr

/-- What becomes of one request. -/
inductive Answer where
  | response (response : Response)
  /-- No connection, a connection that closes, or no answer in time. -/
  | none (causes : List String)
deriving DecidableEq, Repr

/-- A network answers requests one after another; it may keep what it was asked. The time limit is
in milliseconds. -/
abbrev Network (σ : Type) := Request → Option Nat → σ → Answer × σ

/-- A request that posts named values. -/
def Request.postForm (url : Url) (fields : List Form.Field) : Request :=
  ⟨.post, url, some Form.contentType, some (Form.encode fields)⟩

/-- The characters of a name, all in lower case. -/
def lowered (name : String) : List Char := name.toList.map Char.toLower

/-- The value of a header, whatever the case of its name. -/
def Response.header? (r : Response) (name : String) : Option String :=
  (r.headers.find? fun h => lowered h.1 == lowered name).map Prod.snd

/-! ### Redirects -/

/-- The number of redirects that are followed. -/
def redirectLimit : Nat := 10

/-- Whether a status asks for another request. -/
def isRedirect (status : Nat) : Bool :=
  status == 301 || status == 302 || status == 303 || status == 307 || status == 308

/-- Whether a redirect repeats the request as it was. -/
def keepsRequest (status : Nat) : Bool := status == 307 || status == 308

/-- The request that a response redirects to, if it does. -/
def redirected? (request : Request) (response : Response) : Option Request :=
  if !isRedirect response.status then none
  else match response.header? "location" with
    | none => none
    | some target =>
      match request.url.resolve target with
      | .error _ => none
      | .ok url =>
        if !url.isCarried then none
        else if keepsRequest response.status then some { request with url }
        else some ⟨.get, url, none, none⟩

/-- How a request ended: with the final response and the request that it answers, or without one. -/
abbrev Delivery := Except Fault (Request × Response)

/-- The fault of asking an address that is not one of the web. -/
def notOfWeb (url : Url) : Fault := .address (some url.text) "URL scheme is not allowed"

/-- Sends a request and follows up to `redirects` redirects. -/
def send {σ : Type} (network : Network σ) (limit : Option Nat) :
    (redirects : Nat) → Request → σ → Delivery × σ
  | redirects, request, state =>
    match network request limit state with
    | (.none causes, state) => (.error (.sending request.url.text causes), state)
    | (.response response, state) =>
      match redirected? request response with
      | none => (.ok (request, response), state)
      | some next =>
        match redirects with
        | 0 => (.error (.redirects request.url.text), state)
        | redirects + 1 =>
          if next.url.isRequestable then send network limit redirects next state
          else (.error (notOfWeb next.url), state)

/-- The address that a request for a written one is sent to. -/
def requestable (address : String) : Except Fault Url :=
  match Url.read address with
  | .error detail => .error (.address none detail)
  | .ok url =>
    let url := url.withoutCredentials
    if !url.isRequestable then .error (notOfWeb url)
    else if !url.isCarried then .error (.address (some url.text) "Parsed Url is not a valid Uri")
    else .ok url

/-- Posts named values to an address. -/
def post {σ : Type} (network : Network σ) (limit : Option Nat) (address : String)
    (fields : List Form.Field) (state : σ) : Delivery × σ :=
  match requestable address with
  | .error fault => (.error fault, state)
  | .ok url => send network limit redirectLimit (.postForm url fields) state

/-! ### Networks -/

/-- A network without any connection. Where no time at all is allowed that is not even noticed. -/
def unreachable {σ : Type} : Network σ := fun _ limit state =>
  (.none (if limit = some 0 then ["operation timed out"]
    else ["client error (Connect)", "tcp connect error", (IoFault.system 101).message]), state)

end IdlBuild.Http
