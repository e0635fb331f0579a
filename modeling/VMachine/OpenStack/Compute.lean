import VMachine.OpenStack.World

/-! `ComputeService`: the server list, which is cached under "servers", and the operations
that change servers. Some of them invalidate that entry when they are through. -/
namespace VMachine.OpenStack
open Py Effects

def optionalStr (name : String) : Field := { name := name, type := .optional .str, default := some .none }

def serverSummarySchema : Schema where
  name := "ServerSummary"
  fields := [optionalStr "id", optionalStr "name", optionalStr "status", optionalStr "operation_task_id",
    optionalStr "flavor_id", optionalStr "image_id", optionalStr "created", optionalStr "key_name",
    optionalStr "project_id", optionalStr "availability_zone",
    { name := "addresses", type := .dict (.list .str), default := some (.dict []) }]

/- `_extract_reference_id`. -/
def extractReferenceId (value : Val) : Val :=
  match value.get? "id" with
  | none | some .none => .none
  | some id => .str id.text

/- The `addr` entries of one network that are strings. -/
def addressesOf (entries : List Val) : List Val :=
  entries.filterMap (fun entry =>
    match entry.get? "addr" with
    | some (.str ip) => some (.str ip)
    | _ => none)

/- `_extract_addresses`. -/
def extractAddresses (value : Val) : Val :=
  match value with
  | .dict networks => .dict (networks.filterMap (fun network =>
      match network.2 with
      | .list entries => some (network.1, .list (addressesOf entries))
      | _ => none))
  | _ => .dict []

/- `_extract_string_mapping`. -/
def extractStringMapping (value : Val) : Val :=
  match value with
  | .dict kvs => .dict (kvs.map (fun kv => (kv.1, .str kv.2.text)))
  | _ => .dict []

def serverSummaryData (server : Val) : List (String × Val) :=
  serializeResource server
      ["id", "name", "status", "created", "key_name", "project_id", "availability_zone"] ++
    [("flavor_id", extractReferenceId ((server.get? "flavor").getD .none)),
      ("image_id", extractReferenceId ((server.get? "image").getD .none)),
      ("addresses", extractAddresses ((server.get? "addresses").getD .none))]

def serializeServerSummary (server : Val) : Except Exc Obj :=
  validate serverSummarySchema (serverSummaryData server)

def serverDetailSchema : Schema where
  name := "ServerDetail"
  fields := serverSummarySchema.fields ++
    [optionalStr "updated", { name := "metadata", type := .dict .str, default := some (.dict []) }]

def serializeServerDetail (server : Val) : Except Exc Obj := do
  let summary ← serializeServerSummary server
  validate serverDetailSchema (summary.attrs ++
    [("updated", (server.get? "updated").getD .none),
      ("metadata", extractStringMapping ((server.get? "metadata").getD .none))])

structure ServerCreateRequest where
  name : String
  imageId : String
  flavorId : String
  networkId : String
  keyName : Option String := none
  availabilityZone : Option String := none
  metadata : List (String × Val) := []
  wait : Bool := false
  deriving Repr

structure ServerActionResponse where
  serverId : String
  action : String
  accepted : Bool
  deriving Repr

/- An optional string argument that is passed on only when it is set and not empty. -/
def given (name : String) (text : Option String) : List (String × Val) :=
  match nonempty text with
  | some s => [(name, .str s)]
  | none => []

section Service
variable (env : Env)

/- A lookup that answers 404 when the SDK finds nothing. -/
def lookupOr404 (service operation id message code : String) : M Val := do
  let reply ← call env service operation [.str id] []
  if reply.value.truthy then return reply.value else throw (.appException message 404 code)

def findServer (serverId : String) : M Val :=
  lookupOr404 env "compute" "get_server" serverId "Server not found" "server_not_found"

def listServers : M Listing := do
  match ← cacheGet env "servers" with
  | some cached => return cached
  | none =>
    let before ← get
    let servers ← call env "compute" "servers" [] [("limit", .int env.listLimit)]
    let items ← ofExcept (comprehend serializeServerSummary servers)
    let result : Listing := ⟨items.map .model, before.log.length⟩
    cacheSet env "servers" result
    return result

def getServer (serverId : String) : M Obj := do
  let server ← findServer env serverId
  ofExcept (serializeServerDetail server)

def checkKeypair (keyName : Option String) : M Unit :=
  match nonempty keyName with
  | some name => do
    let _ ← lookupOr404 env "compute" "get_keypair" name "Key pair not found" "keypair_not_found"
  | none => return

def awaitServer (wait : Bool) (server : Reply) : M Reply :=
  if wait then call env "compute" "wait_for_server" [server.value] [] else return server

def createServer (payload : ServerCreateRequest) : M Obj := do
  let _ ← lookupOr404 env "image" "get_image" payload.imageId "Image not found" "image_not_found"
  let _ ← lookupOr404 env "compute" "get_flavor" payload.flavorId "Flavor not found" "flavor_not_found"
  let _ ← lookupOr404 env "network" "get_network" payload.networkId "Network not found" "network_not_found"
  checkKeypair env payload.keyName
  let server ← call env "compute" "create_server" []
    ([("name", .str payload.name), ("image_id", .str payload.imageId), ("flavor_id", .str payload.flavorId),
      ("networks", .list [.dict [("uuid", .str payload.networkId)]]), ("metadata", .dict payload.metadata)] ++
      given "key_name" payload.keyName ++ given "availability_zone" payload.availabilityZone)
  let server ← awaitServer env payload.wait server
  cacheInvalidate env "servers"
  ofExcept (serializeServerSummary server.value)

def actionMap (action : String) : Option String :=
  [("start", "start_server"), ("stop", "stop_server"), ("reboot", "reboot_server")].lookup action

def performAction (serverId action : String) : M ServerActionResponse := do
  let server ← findServer env serverId
  match actionMap action with
  | none => throw (.appException "Unsupported action" 400 "invalid_action")
  | some sdkAction =>
    let _ ← call env "compute" sdkAction [server] []
    return ⟨serverId, action, true⟩

def deleteServer (serverId : String) : M Unit := do
  let deleted ← call env "compute" "delete_server" [.str serverId] [("ignore_missing", .bool true)]
  match deleted.value with
  | .bool false => throw (.appException "Server not found" 404 "server_not_found")
  | _ => cacheInvalidate env "servers"

/- The three resize operations: a lookup and one request, and no invalidation. -/
def serverRequest (serverId operation : String) (args : List Val) : M Unit := do
  let server ← findServer env serverId
  let _ ← call env "compute" operation (server :: args) []

def resizeServer (serverId flavorId : String) : M Unit :=
  serverRequest env serverId "resize_server" [.str flavorId]

def confirmResize (serverId : String) : M Unit := serverRequest env serverId "confirm_server_resize" []

def revertResize (serverId : String) : M Unit := serverRequest env serverId "revert_server_resize" []

/- What the SDK returns is passed on as it is, and no list is invalidated. -/
def createServerImage (serverId name : String) : M Val := do
  let server ← findServer env serverId
  let image ← call env "compute" "create_server_image" [server] [("name", .str name)]
  return image.value

def attachVolume (serverId volumeId : String) : M Unit := do
  let server ← findServer env serverId
  let volume ← lookupOr404 env "block_storage" "get_volume" volumeId "Volume not found" "volume_not_found"
  let id ← ofExcept (readAttr volume "id")
  let _ ← call env "compute" "create_volume_attachment" [server] [("volumeId", id)]
  cacheInvalidate env "servers"
  cacheInvalidate env "volumes"

/- `next((a for a in attachments if a.volume_id == volume_id), None)`: the generator is
read only up to the first match. -/
def findAttachment (volumeId : String) (fault : Option Exc) : List Val → Except Exc (Option Val)
  | [] =>
    match fault with
    | some exc => .error exc
    | none => .ok none
  | a :: rest => do
    match ← readAttr a "volume_id" with
    | .str id => if id = volumeId then return some a else findAttachment volumeId fault rest
    | _ => findAttachment volumeId fault rest

def attachmentOf (volumeId : String) (reply : Reply) : Except Exc (Option Val) :=
  match reply.value with
  | .list attachments => findAttachment volumeId reply.fault attachments
  | _ => .error (.typeError "object is not iterable")

def detachVolume (serverId volumeId : String) : M Unit := do
  let server ← findServer env serverId
  let attachments ← call env "compute" "volume_attachments" [server] []
  match ← ofExcept (attachmentOf volumeId attachments) with
  | none => throw (.appException "Volume attachment not found" 404 "attachment_not_found")
  | some attachment =>
    let _ ← call env "compute" "delete_volume_attachment" [attachment, server] []
    cacheInvalidate env "servers"
    cacheInvalidate env "volumes"

end Service

end VMachine.OpenStack
