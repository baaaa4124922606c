import RadioMesh.Message.Code
import RadioMesh.Wire.Schema

/-!
Routes recorded by traceroutes, and the routing layer's own messages.
-/

namespace RadioMesh

open Wire

/-- The nodes a traceroute passed on its way there and back, and the signal-to-noise ratio of each hop in
quarters of a decibel. -/
structure RouteDiscovery where
  route : List UInt32 := []
  snrTowards : List Int32 := []
  routeBack : List UInt32 := []
  snrBack : List Int32 := []
deriving DecidableEq, Repr, Inhabited

def RouteDiscovery.schema : Schema RouteDiscovery where
  empty := {}
  fields := [
    .packed 1 "route" .fixed32 (·.route) fun v m => { m with route := v },
    .packed 2 "snr_towards" .int32 (·.snrTowards) fun v m => { m with snrTowards := v },
    .packed 3 "route_back" .fixed32 (·.routeBack) fun v m => { m with routeBack := v },
    .packed 4 "snr_back" .int32 (·.snrBack) fun v m => { m with snrBack := v }]

inductive RoutingNote
  | request (route : RouteDiscovery)
  | reply (route : RouteDiscovery)
  | error (reason : Int32)
deriving DecidableEq, Repr

def RoutingNote.request? : RoutingNote → Option RouteDiscovery
  | .request r => some r
  | _ => none

def RoutingNote.reply? : RoutingNote → Option RouteDiscovery
  | .reply r => some r
  | _ => none

def RoutingNote.error? : RoutingNote → Option Int32
  | .error n => some n
  | _ => none

/-- A message of the routing layer: an acknowledgement is the error reason that says there was none. -/
structure Routing where
  note : Option RoutingNote := none
deriving DecidableEq, Repr, Inhabited

def Routing.schema : Schema Routing where
  empty := {}
  fields := [
    .choice "variant"
      [.message 1 "route_request" RouteDiscovery.schema .request RoutingNote.request?,
        .message 2 "route_reply" RouteDiscovery.schema .reply RoutingNote.reply?,
        .scalar 3 "error_reason" .int32 .error RoutingNote.error?]
      (·.note) fun v m => { m with note := v }]

def Routing.ofError (reason : RoutingError) : Routing :=
  ⟨some (.error reason.number)⟩

/-- The reason a routing message gives, if it gives a known one. -/
def Routing.reason? (r : Routing) : Option RoutingError :=
  (r.note.bind RoutingNote.error?).bind RoutingError.ofNumber?

end RadioMesh
