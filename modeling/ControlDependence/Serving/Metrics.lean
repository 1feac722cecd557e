-- SUMMARY: Serving metrics: when that can start, and what requests get.
import ControlDependence.Serving.Address

/-!
# Serving metrics
-/
namespace ControlDependence.Serving

inductive ServeError where
  /-- There are no metrics to serve. -/
  | noHandler
  | listen (address : String) (cause : AddressError)
  deriving Repr, DecidableEq

def ServeError.message : ServeError → String
  | .noHandler => "metrics handler not available"
  | .listen a c => s!"listen on {a}: listen tcp: {c.message}"

/-- Where a server listens. -/
structure Server where
  host : String
  port : Int
  deriving Repr, DecidableEq

namespace Server

/-- Starts to listen. A free port stands in where the address leaves it open. -/
def start (hasHandler : Bool) (address : String) (freePort : Int) : Except ServeError Server :=
  if !hasHandler then .error .noHandler
  else
    match Address.parse address with
    | .error e => .error (.listen address e)
    | .ok a => .ok { host := a.bound, port := if a.port = 0 then freePort else a.port }

def url (s : Server) : String := s!"http://{s.host}:{s.port}/metrics"

end Server

structure Response where
  status : Int
  body : String
  deriving Repr, DecidableEq

def notFound : Response := { status := 404, body := "404 page not found" }

/-- The path of a request without its query. -/
def pathOf (target : String) : String := String.ofList (target.toList.takeWhile (· != '?'))

def metricsPath : String := "/metrics"

/-- Sends a reader of the path with a slash after it to the path itself. -/
def redirect (target : String) : Response :=
  let query := String.ofList (target.toList.dropWhile (· != '?'))
  { status := 301, body := s!"<a href=\"{metricsPath}{query}\">Moved Permanently</a>.\n\n" }

/-- What a request gets. The handler gives the metrics. -/
def respond (handler : Response) (method target : String) : Response :=
  if method != "GET" then notFound
  else if pathOf target == metricsPath then handler
  else if pathOf target == metricsPath ++ "/" then redirect target
  else notFound

end ControlDependence.Serving
