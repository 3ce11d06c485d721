/-
The octets of requests and responses. Beast's parser and serializer are parameters: a `RequestFormat`
reads the requests of a client one at a time, a `ResponseFormat` does the same for the heads that
`session::on_read` builds. Both are instantiated by the text of HTTP/1.1.
-/
import HttpSurvey.Beast.Message
import HttpSurvey.Lib.TextHead

namespace HttpSurvey.Beast

open HttpSurvey.Lib

/-- The octets of a request as a client writes it, and `request_parser` on the octets received. -/
structure RequestFormat where
  wf : Request → Prop
  encode : Request → List Char
  read : List Char → Reading Request Char
  reads : SelfDelimiting wf encode read

/-- The octets of the requests. -/
def RequestFormat.octets (F : RequestFormat) (rs : List Request) : List Char := rs.flatMap F.encode

/-- A head that `session::on_read` builds for an HTTP/1.1 request. -/
def Built (h : Head) : Prop := ∃ req : Request, req.version = 11 ∧ h = (respond req).toHead

/-- The octets of a response's head as `async_write` writes it, and a client's reader of heads: every
head begins with the name of the protocol. -/
structure ResponseFormat where
  encode : Head → List Char
  read : List Char → Reading Head Char
  reads : SelfDelimiting Built encode read
  starts : ∀ {p h rest}, read p = .done h rest → "HTTP/".toList <+: p

/-! ## The text of HTTP/1.1 -/

/-- A word that can stand in a request line. -/
def Word (s : String) : Prop := ' ' ∉ s.toList ∧ '\r' ∉ s.toList

def protocol : List Char := "HTTP/1.1".toList

/-- `method target HTTP/1.1`. -/
def requestLine (method target : String) : List Char :=
  method.toList ++ ' ' :: (target.toList ++ ' ' :: protocol)

def readRequestLine (l : List Char) : Option (String × String) :=
  match splitFirst ' ' l with
  | none => none
  | some (method, l) =>
    match splitFirst ' ' l with
    | none => none
    | some (target, version) =>
      if version = protocol then some (String.ofList method, String.ofList target) else none

theorem readRequestLine_requestLine {method target : String} (hm : Word method) (ht : Word target) :
    readRequestLine (requestLine method target) = some (method, target) := by
  simp only [readRequestLine, requestLine, splitFirst_append _ hm.1, splitFirst_append _ ht.1, if_true,
    String.ofList_toList]

/-- The head of a request: its line, the size of its body, and whether the connection is to end. -/
def requestHead (req : Request) : TextHead :=
  { start := requestLine req.method req.target
    fields := ("Content-Length", toString req.body.length) ::
      if req.keepAlive then [] else [("Connection", "close")] }

/-- The size of the body that follows a head. -/
def bodySize (h : TextHead) : Nat :=
  ((h.fields.lookup "Content-Length").bind fun value => readDecimal value.toList).getD 0

def readRequestParts (m : TextHead × List Char) : Option Request :=
  (readRequestLine m.1.start).map fun line =>
    { method := line.1
      target := line.2
      version := 11
      keepAlive := m.1.fields.lookup "Connection" ≠ some "close"
      body := String.ofList m.2 }

/-- A request of HTTP/1.1 with words for its method and target. -/
structure PlainRequest (req : Request) : Prop where
  version : req.version = 11
  method : Word req.method
  target : Word req.target

theorem not_mem_toString {n : Nat} {c : Char} (hc : c.isDigit = false) : c ∉ (toString n).toList := by
  intro h
  rw [isDigit_of_mem_toString h] at hc
  cases hc

theorem bodySize_requestHead (req : Request) : bodySize (requestHead req) = req.body.length := by
  simp only [bodySize, requestHead, List.lookup_cons_self, Option.bind_some, readDecimal_toString,
    Option.getD_some]

/-- The names of the fields that are written. -/
theorem name_ok : ∀ name ∈ ["Server", "Content-Type", "Connection", "Content-Length"],
    ':' ∉ name.toList ∧ '\r' ∉ name.toList := by decide

theorem mem_requestHead {req : Request} {f : String × String} (hf : f ∈ (requestHead req).fields) :
    f = ("Content-Length", toString req.body.length) ∨ f = ("Connection", "close") := by
  rcases List.mem_cons.1 hf with hf | hf
  · exact .inl hf
  · split at hf
    · cases hf
    · exact .inr (List.mem_singleton.1 hf)

theorem requestHead_wf {req : Request} (h : PlainRequest req) : (requestHead req).WF where
  start_ne := by simp [requestHead, requestLine]
  start := by
    have hm := h.method.2
    have ht := h.target.2
    have hv : '\r' ∉ protocol := by decide
    simp [requestHead, requestLine, hm, ht, hv]
  names := by
    intro f hf
    rcases mem_requestHead hf with rfl | rfl
    · exact name_ok "Content-Length" (by decide)
    · exact name_ok "Connection" (by decide)
  values := by
    intro f hf
    rcases mem_requestHead hf with rfl | rfl
    · exact not_mem_toString (by decide)
    · decide

theorem readRequestParts_eq {req : Request} (h : PlainRequest req) :
    readRequestParts (requestHead req, req.body.toList) = some req := by
  obtain ⟨method, target, version, keepAlive, body⟩ := req
  have hv : version = 11 := h.version
  subst hv
  unfold readRequestParts requestHead
  rw [readRequestLine_requestLine h.method h.target]
  cases keepAlive <;> simp [List.lookup_cons]

/-- The requests of HTTP/1.1. -/
def http11Requests : RequestFormat where
  wf := PlainRequest
  encode req := (requestHead req).encode ++ req.body.toList
  read p := (readBody bodySize TextHead.read p).map readRequestParts
  reads := by
    refine (TextHead.reads.body bodySize).map (g := fun req => (requestHead req, req.body.toList)) ?_
      fun req h => readRequestParts_eq h
    intro req h
    exact ⟨requestHead_wf h, by rw [bodySize_requestHead]; exact String.length_toList⟩

/-- A request for `/` from a client that keeps the connection. -/
def ask (method body : String) : Request :=
  { method, target := "/", version := 11, keepAlive := true, body }

theorem plain_ask {method : String} (body : String) (h : Word method) : PlainRequest (ask method body) := by
  have htarget : Word "/" := by unfold Word; decide
  exact ⟨rfl, h, htarget⟩

def post (body : String) : Request := ask "POST" body

theorem plain_post (body : String) : PlainRequest (post body) :=
  plain_ask body (by unfold Word; decide)

theorem posts_wf (bodies : List String) :
    ∀ r ∈ bodies.map post, http11Requests.wf r ∧ r.keepAlive = true := by
  intro r hr
  obtain ⟨body, -, rfl⟩ := List.mem_map.1 hr
  exact ⟨plain_post body, rfl⟩

def statusLine : List Char := "HTTP/1.1 200 OK".toList

/-- The head of a response of HTTP/1.1 with status 200. -/
def responseHead (h : Head) : TextHead := { start := statusLine, fields := h.fields }

def readResponseHead (h : TextHead) : Option Head :=
  if h.start = statusLine then some { version := 11, status := 200, fields := h.fields } else none

theorem mem_respond {req : Request} {f : String × String} (hf : f ∈ (respond req).fields) :
    f = ("Server", "Beast Server") ∨ f = ("Content-Type", "text/plain") ∨
      f = ("Connection", "keep-alive") ∨ f = ("Connection", "close") ∨
      f = ("Content-Length", toString (sizeText req.body.length).length) := by
  rw [respond_eq] at hf
  simp only [connectionFields, List.cons_append, List.nil_append, List.mem_cons, List.mem_append] at hf
  rcases hf with hf | hf | hf | hf | hf
  · exact .inl hf
  · exact .inr (.inl hf)
  · split at hf <;> split at hf <;> simp at hf
    · exact .inr (.inr (.inl hf))
    · exact .inr (.inr (.inr (.inl hf)))
  · exact .inr (.inr (.inr (.inr hf)))
  · cases hf

theorem responseHead_wf {h : Head} (hb : Built h) : (responseHead h).WF := by
  obtain ⟨req, -, rfl⟩ := hb
  have hstatus : statusLine ≠ [] ∧ '\r' ∉ statusLine := by decide
  refine ⟨hstatus.1, hstatus.2, fun f hf => ?_, fun f hf => ?_⟩
  · rcases mem_respond hf with rfl | rfl | rfl | rfl | rfl
    · exact name_ok "Server" (by decide)
    · exact name_ok "Content-Type" (by decide)
    · exact name_ok "Connection" (by decide)
    · exact name_ok "Connection" (by decide)
    · exact name_ok "Content-Length" (by decide)
  · rcases mem_respond hf with rfl | rfl | rfl | rfl | rfl
    · decide
    · decide
    · decide
    · decide
    · exact not_mem_toString (by decide)

theorem readResponseHead_responseHead {h : Head} (hb : Built h) :
    readResponseHead (responseHead h) = some h := by
  obtain ⟨req, hv, rfl⟩ := hb
  unfold readResponseHead responseHead
  rw [if_pos rfl, respond_eq, hv]

/-- The heads of HTTP/1.1 responses with status 200. -/
def http11Responses : ResponseFormat where
  encode h := (responseHead h).encode
  read p := (TextHead.read p).map readResponseHead
  reads := TextHead.reads.map (g := responseHead) (fun _ hb => responseHead_wf hb)
    fun _ hb => readResponseHead_responseHead hb
  starts := by
    intro p h rest hr
    cases hread : TextHead.read p with
    | done th rest' =>
      rw [hread] at hr
      simp only [Reading.map, readResponseHead] at hr
      by_cases hstart : th.start = statusLine
      · have hpre := TextHead.start_prefix hread
        rw [hstart] at hpre
        exact List.IsPrefix.trans (by decide) hpre
      · rw [if_neg hstart] at hr
        cases hr
    | more | failed => rw [hread] at hr; cases hr

end HttpSurvey.Beast
