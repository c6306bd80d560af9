import NetworkRollout.Telemetry.Exposition

/-!
# The HTTP endpoints

Two servers answer requests: one tells whether the operator lives and is ready, the other gives the
metrics. A path that is not known is not found; on a known one, only `GET` and `HEAD` are allowed.

* `Health.respond`, `Metrics.respond`: the responses.
-/

namespace NetworkRollout

structure HttpRequest where
  method : String
  /-- The path, maybe with a query behind a question mark or a fragment behind a number sign. -/
  target : String
  deriving DecidableEq, Repr

namespace HttpRequest

/-- The path without query and fragment. -/
def path (r : HttpRequest) : String :=
  String.ofList (r.target.toList.takeWhile fun c => c ≠ '?' && c ≠ '#')

end HttpRequest

structure HttpResponse where
  status : Nat
  allow : Option String := none
  contentType : Option String := none
  body : String := ""
  deriving DecidableEq, Repr

namespace HttpResponse

def notFound : HttpResponse := { status := 404 }

/-- The method is not allowed. -/
def methodNotAllowed : HttpResponse := { status := 405, allow := some "GET,HEAD" }

/-- The response of a path that answers reading; there is no body for `HEAD`. -/
def reading (r : HttpRequest) (response : HttpResponse) : HttpResponse :=
  if r.method = "GET" then response
  else if r.method = "HEAD" then { response with body := "" }
  else methodNotAllowed

end HttpResponse

def Health.respond (ready : Bool) (r : HttpRequest) : HttpResponse :=
  if r.path = "/healthz" then .reading r { status := 200 }
  else if r.path = "/readyz" then .reading r { status := if ready then 200 else 503 }
  else .notFound

def Metrics.respond (m : Metrics) (r : HttpRequest) : HttpResponse :=
  if r.path = "/metrics" then
    .reading r { status := 200, contentType := some "text/plain; charset=utf-8", body := m.exposition }
  else .notFound

end NetworkRollout
