import Parley.Web.Route

/-!
# The web server

The server is made of the handlers and a framework that reads addresses as clients do.
-/

namespace Parley.Web

/-- The handler of an endpoint. Where files are served as they are, there is none. -/
def Endpoint.destination (content : Content) : Endpoint → Destination
  | .document id => .handler (.document id)
  | .list => .handler .list
  | .resolve => .handler (.resolve content.json?)
  | .validate => .handler (.validate content.json?)
  | .asset => .own (.page 404)

def Route.destination (content : Content) : Route → Destination
  | .nowhere => .own (.page 404)
  | .wrongMethod => .own (.page 405)
  | .noSocket | .noServer => .own (.page 400)
  | .moved => .own (.page 308)
  | .found _ .methods => .own (.page 200)
  | .found endpoint _ => endpoint.destination content

/-- The framework of the server. It tells nothing of a fault, and leaves out the body of a reply for
the one method that asks for that, if it is in capitals. -/
def http : Framework Problem where
  route request := do
    let target ← Target.read request.address request.content
    return (Route.of request.method target).destination request.content
  body content := do
    content.check
    return content.json?
  send request
    | .error _ => .page 500
    | .ok reply => if request.method == "HEAD" then .page reply.status else reply.response

end Parley.Web
