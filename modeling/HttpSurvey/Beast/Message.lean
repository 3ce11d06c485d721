/-
The requests that `session::on_read` looks at and the response it builds from one. Beast's message
setters are given by what they do to the list of header fields: `set` replaces a field, `keep_alive`
sets or erases `Connection` as the version needs, `prepare_payload` sets `Content-Length` to the size
of the body. Octets are written as characters.
-/
import Mathlib.Tactic

namespace HttpSurvey.Beast

/-- A parsed request: `method_string`, `target`, `version` (11 for HTTP/1.1), what `keep_alive` says,
and the body. -/
structure Request where
  method : String
  target : String
  version : Nat
  keepAlive : Bool
  body : String
  deriving DecidableEq, Repr

/-- The start line and the header fields of a response. -/
structure Head where
  version : Nat
  status : Nat
  fields : List (String × String)
  deriving DecidableEq, Repr

/-- `http::response<http::string_body>`. -/
structure Response extends Head where
  body : String
  deriving DecidableEq, Repr

namespace Head

/-- The value of a field. -/
def field (h : Head) (name : String) : Option String := h.fields.lookup name

/-- The version tells whether a connection persists unless its field says otherwise. -/
def keepAlive (h : Head) : Bool :=
  if h.version < 11 then h.field "Connection" = some "keep-alive" else h.field "Connection" ≠ some "close"

end Head

namespace Response

/-- `http::response(status, version)`. -/
def make (status version : Nat) : Response := { version, status, fields := [], body := "" }

def erase (r : Response) (name : String) : Response :=
  { r with fields := r.fields.filter (·.1 ≠ name) }

def set (r : Response) (name value : String) : Response :=
  { r with fields := (r.erase name).fields ++ [(name, value)] }

/-- `keep_alive(value)`. -/
def setKeepAlive (r : Response) (value : Bool) : Response :=
  if r.version < 11 then
    if value then r.set "Connection" "keep-alive" else r.erase "Connection"
  else
    if value then r.erase "Connection" else r.set "Connection" "close"

/-- `prepare_payload`, for a body of known size. -/
def preparePayload (r : Response) : Response := r.set "Content-Length" (toString r.body.length)

/-- `need_eof`: the connection has to end after the message. -/
def needEof (r : Response) : Bool :=
  if (r.field "Content-Length").isSome then !r.keepAlive else true

end Response

/-- The body that reports the size of the request's body. -/
def sizeText (size : Nat) : String := "Data received. Size: " ++ toString size ++ " bytes."

/-- The response that `session::on_read` builds. -/
def respond (req : Request) : Response :=
  let res := Response.make 200 req.version
  let res := res.set "Server" "Beast Server"
  let res := res.set "Content-Type" "text/plain"
  let res := res.setKeepAlive req.keepAlive
  let res := { res with body := sizeText req.body.length }
  res.preparePayload

/-! ## The response, field by field -/

/-- The `Connection` field that tells the client what the request asked for. -/
def connectionFields (version : Nat) (keepAlive : Bool) : List (String × String) :=
  if version < 11 then
    if keepAlive then [("Connection", "keep-alive")] else []
  else
    if keepAlive then [] else [("Connection", "close")]

theorem respond_eq (req : Request) :
    respond req =
      { version := req.version
        status := 200
        fields := [("Server", "Beast Server"), ("Content-Type", "text/plain")] ++
          connectionFields req.version req.keepAlive ++
          [("Content-Length", toString (sizeText req.body.length).length)]
        body := sizeText req.body.length } := by
  unfold respond Response.setKeepAlive connectionFields
  by_cases hv : req.version < 11 <;> cases req.keepAlive <;>
    simp [Response.make, Response.set, Response.erase, Response.preparePayload, hv]

/-- A response says of its connection what the request asked for. -/
theorem respond_keepAlive (req : Request) : (respond req).keepAlive = req.keepAlive := by
  rw [respond_eq]
  unfold connectionFields Head.keepAlive Head.field
  by_cases hv : req.version < 11 <;> cases req.keepAlive <;> simp [hv, List.lookup_cons]

theorem respond_contentLength (req : Request) :
    (respond req).field "Content-Length" = some (toString (respond req).body.length) := by
  rw [respond_eq]
  unfold connectionFields Head.field
  by_cases hv : req.version < 11 <;> cases req.keepAlive <;> simp [hv, List.lookup_cons]

theorem respond_needEof (req : Request) : (respond req).needEof = !req.keepAlive := by
  unfold Response.needEof
  rw [respond_contentLength, respond_keepAlive]
  rfl

end HttpSurvey.Beast
