import InstallStatus.Pass
import InstallStatus.Text.FormUrl

/-!
Requests to the server, and the request that each call of a pass makes. A request is checked before it
is sent: its object must have a name, its field manager must not be too long, and its address must be
one.
-/

namespace InstallStatus.Api

inductive Method
  | get
  | patch
  deriving DecidableEq, Repr

def Method.text : Method → String
  | .get => "GET"
  | .patch => "PATCH"

structure Request where
  method : Method
  path : String
  /-- The parameters, as they stand in the address. -/
  query : List (String × String)
  body : Option Json

inductive Resource
  | deployments
  | instances
  deriving DecidableEq, Repr

namespace Resource

def other : Resource → Resource
  | .deployments => .instances
  | .instances => .deployments

def plural : Resource → String
  | .deployments => ClusterDeployment.plural
  | .instances => ClusterInstance.plural

def apiVersion : Resource → String
  | .deployments => ClusterDeployment.apiVersion
  | .instances => ClusterInstance.apiVersion

/-- The resource that holds the objects of a kind. -/
def ofKind (kind : String) : Resource :=
  if kind = ClusterInstance.kind then .instances else .deployments

/-- The path of all objects of a resource, in one namespace or in all. -/
def path (resource : Resource) : Option String → String
  | some ns => "/apis/" ++ resource.apiVersion ++ "/namespaces/" ++ ns ++ "/" ++ resource.plural
  | none => "/apis/" ++ resource.apiVersion ++ "/" ++ resource.plural

end Resource

namespace Request

def parameters (cs : List Char) : List (String × String) :=
  ((String.ofList cs).splitOn "&").filterMap fun part =>
    let (key, value) := Text.Address.cut '=' part.toList
    if part.isEmpty then none else some (String.ofList key, String.ofList value)

def ofAddress (method : Method) (address : String) (body : Option Json) :
    Except RequestFault Request :=
  match Text.Address.read address with
  | .ok found => .ok ⟨method, String.ofList found.path, parameters found.query, body⟩
  | .error fault => .error (.address fault)

/-- The greatest length of a field manager, in octets. -/
def longestFieldManager : Nat := 128

/-- The request that a call makes on behalf of a field manager. -/
def ofCall (fieldManager : String) : Call → Except RequestFault Request
  | .getDeployment name ns =>
    if name = "" then .error .emptyName
    else ofAddress .get (Resource.deployments.path ns ++ "/" ++ name) none
  | .getInstance name ns =>
    if name = "" then .error .emptyName
    else ofAddress .get (Resource.instances.path ns ++ "/" ++ name) none
  | .patchStatus name ns patch =>
    if name = "" then .error .emptyName
    else if longestFieldManager < fieldManager.utf8ByteSize then .error .longFieldManager
    else
      ofAddress .patch (Resource.instances.path ns ++ "/" ++ name ++ "/status?fieldManager=" ++
        Text.formEncode fieldManager) (some patch)

/-- The version of the lists, from which watching goes on. -/
def listVersion : String := "1000"

/-- The request for the objects of a resource, in one namespace or in all. -/
def list (resource : Resource) (scope : Option String) : Except RequestFault Request :=
  ofAddress .get (resource.path scope ++ "?&limit=500") none

/-- The request for the changes of a resource from a list on. -/
def watch (resource : Resource) (scope : Option String) : Request :=
  ⟨.get, resource.path scope,
    [("allowWatchBookmarks", "true"), ("resourceVersion", listVersion), ("timeoutSeconds", "25"),
      ("watch", "true")], none⟩

/-- The parameters as part of an address, by ascending key. -/
def queryText (query : List (String × String)) : String :=
  if query.isEmpty then ""
  else "?" ++ "&".intercalate ((query.mergeSort fun a b => a.1 ≤ b.1).map fun p => p.1 ++ "=" ++ p.2)

def line (r : Request) : String :=
  r.method.text ++ " " ++ r.path ++ queryText r.query ++
    (r.body.map fun b => " " ++ b.compact).getD ""

end Request

end InstallStatus.Api
