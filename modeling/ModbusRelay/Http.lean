/-!
Requests and responses of the two small web servers, the one for control and the one for metrics.
-/

namespace ModbusRelay

/-- A request, as far as the servers look at it. -/
structure HttpRequest where
  method : String
  path : String
  body : List UInt8 := []
  deriving DecidableEq, Repr

/-- A response, as far as the servers decide it. -/
structure HttpResponse where
  code : Nat
  contentType : String
  body : String
  deriving DecidableEq, Repr

namespace HttpResponse

/-- A plain text page. -/
def plain (code : Nat) (body : String) : HttpResponse := ⟨code, "text/plain; charset=UTF-8", body⟩

/-- What of a response is sent: a request by HEAD is answered without the body. -/
def sent (r : HttpResponse) (method : String) : HttpResponse :=
  if method = "HEAD" then { r with body := "" } else r

end HttpResponse

end ModbusRelay
