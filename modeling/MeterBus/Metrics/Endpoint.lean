import MeterBus.Metrics.Counters

/-!
# The metrics endpoint

Two resources are served: the counters, and a sign of life without content. Both can be fetched or
looked up by their head only.
-/

namespace MeterBus.Endpoint

/-- A request as far as it decides the response. -/
structure Request where
  method : String
  /-- What is asked for: a path or an absolute address, with a query if need be. -/
  target : String
  deriving DecidableEq, Repr

/-- A response. -/
structure Response where
  status : Nat
  contentType : Option String := none
  /-- The methods that are allowed where the one of the request is not. -/
  allow : Option String := none
  body : String := ""
  deriving DecidableEq, Repr

/-- The resources that are served. -/
inductive Resource where
  | metrics | health
  deriving DecidableEq, Repr

/-- What stands in front of a query and a fragment. -/
def withoutQuery (target : List Char) : List Char :=
  target.takeWhile fun c => c != '?' && c != '#'

/-- What follows the scheme and the two slashes behind it, if there are any. -/
def afterScheme? : List Char → Option (List Char)
  | ':' :: '/' :: '/' :: rest => some rest
  | _ :: rest => afterScheme? rest
  | [] => none

/-- The path of a target; an address without one stands for the root. -/
def path (target : String) : String :=
  let characters := withoutQuery target.toList
  if characters.head? = some '/' then String.ofList characters
  else
    match afterScheme? characters with
    | none => ""
    | some address =>
      match address.dropWhile (· != '/') with
      | [] => "/"
      | path => String.ofList path

/-- The resource at a path, which has to be spelled exactly. -/
def resource? (path : String) : Option Resource :=
  if path = "/metrics" then some .metrics
  else if path = "/healthz" then some .health
  else none

/-- The response to a fetch of a resource. -/
def fetch (metrics : Metrics) : Resource → Response
  | .metrics =>
    { status := 200, contentType := some "text/plain; version=0.0.4", body := metrics.exposition }
  | .health => { status := 200 }

/-- The response to a request. -/
def respond (metrics : Metrics) (request : Request) : Response :=
  match resource? (path request.target) with
  | none => { status := 404 }
  | some resource =>
    if request.method = "GET" then fetch metrics resource
    else if request.method = "HEAD" then { fetch metrics resource with body := "" }
    else { status := 405, allow := some "GET,HEAD" }

/-- A way to reach the endpoint. -/
inductive Route where
  /-- The request is handed over within the program. -/
  | direct
  /-- The request goes over a connection of this host to itself. -/
  | loopback
  deriving DecidableEq, Repr

/-- Sends requests one after the other; without a network, none gets through a connection. -/
def serve (metrics : Metrics) (route : Route) (networked : Bool) (requests : List Request) :
    Except String (List Response) :=
  if route = .loopback ∧ ¬ networked ∧ requests ≠ [] then
    .error "Network is unreachable (os error 101)"
  else
    .ok (requests.map (respond metrics))

end MeterBus.Endpoint
