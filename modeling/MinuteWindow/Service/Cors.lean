import MinuteWindow.Service.Exchange
/-! The permissive cross-origin policy of the service.

Every response allows credentials and varies on the request's origin and preflight fields; when
the request names an origin, that origin is allowed. An `OPTIONS` request is a preflight: it is
answered at once, without reaching a handler, and the method and header fields it asks for are
allowed as asked. -/
namespace MinuteWindow.Service

/-- The fields every response carries, for this request. -/
def corsHeaders (r : Request) : List Header :=
  [("access-control-allow-credentials", "true"),
   ("vary", "origin, access-control-request-method, access-control-request-headers")] ++
  match r.header? "origin" with
  | some o => [("access-control-allow-origin", o)]
  | none => []

/-- Whether a request is a preflight. -/
def Request.isPreflight (r : Request) : Bool := r.method == "OPTIONS"

/-- The fields a preflight answer adds: the asked-for method and header fields, allowed. -/
def preflightHeaders (r : Request) : List Header :=
  (match r.header? "access-control-request-method" with
    | some m => [("access-control-allow-methods", m)]
    | none => []) ++
  (match r.header? "access-control-request-headers" with
    | some h => [("access-control-allow-headers", h)]
    | none => [])

/-- The answer to a preflight: an empty success with the policy's fields. -/
def preflight (r : Request) : Response :=
  ⟨200, corsHeaders r ++ preflightHeaders r, []⟩

end MinuteWindow.Service
