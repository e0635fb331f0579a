import VMachine.Lib.Json
import VMachine.OpenStack.Services

/-! What Redis keeps of a list: the JSON of its elements. A list of summaries comes back as the
dictionaries of its models, and these build the same models again. -/
namespace VMachine.Cache
open Py OpenStack

/- VolumeSummary. The schemas of the other three lists stand with their services. -/
def volumeSummarySchema : Schema where
  name := "VolumeSummary"
  fields := [optionalStr "id", optionalStr "name", optionalStr "status", optional "size" .int, optionalStr "bootable",
    optionalStr "operation_task_id"]

/- What the four cached lists are made of. -/
def summarySchemas : List Schema := [serverSummarySchema, imageSummarySchema, networkSummarySchema, volumeSummarySchema]

/- An element of a list that is cached. Of an object that is neither plain nor a model only its
text matters. -/
inductive Element where
  | plain (v : Val)
  | model (o : Obj)
  | other (text : String)

def modelDump (o : Obj) : Val := .dict o.attrs

/- What is encoded for an element: itself, or what `_default` makes of it. -/
def Element.encoded : Element → Val
  | .plain v => v
  | .model o => modelDump o
  | .other text => .str text

/- The module `json`, as far as the cache uses it. -/
structure JsonModule where
  dumps : Val → String
  loads : String → Option Val

/- `loads` inverts `dumps`, on values whose dictionaries have distinct keys. -/
def JsonModule.Inverts (json : JsonModule) : Prop := ∀ v, Json.proper v = true → json.loads (json.dumps v) = some v

section Redis
variable (json : JsonModule)

/- `RedisCache._serialize`. -/
def serialize (value : List Element) : String := json.dumps (.list (value.map Element.encoded))

/- `RedisCache._deserialize`. -/
def deserialize (raw : String) : Option Val := json.loads raw

end Redis

/- The list that a hit returns. -/
def elementsOf : Val → List Element
  | .list vs => vs.map .plain
  | _ => []

/- An element of a list response: an instance of its model stays as it is, a dictionary is
validated. -/
def validateItem (schema : Schema) : Element → Except (List String) Obj
  | .model o => if o.cls = schema.name then .ok o else .error ["items"]
  | .plain (.dict kvs) => schema.construct kvs
  | _ => .error ["items"]

/- `ServerListResponse(items=..)`, and likewise for the other lists. -/
def listResponse (schema : Schema) (items : List Element) : Except (List String) (List Obj) :=
  items.mapM (validateItem schema)

/- A summary: an instance of its model, the values of whose attributes are values of Python. -/
structure Summary (schema : Schema) where
  obj : Obj
  valid : obj.Valid schema
  proper : ∀ entry ∈ obj.attrs, Json.proper entry.2 = true

section RoundTrip
variable {json : JsonModule} {schema : Schema}

theorem summarySchemas_sound : ∀ schema ∈ summarySchemas, (schema.fields.map Field.name).Nodup ∧
    schema.fields.all (fun f => f.default.all f.accepts) = true := by decide

theorem modelDump_proper (listed : schema ∈ summarySchemas) (summary : Summary schema) :
    Json.proper (modelDump summary.obj) = true := by
  obtain ⟨kwargs, ok⟩ := summary.valid
  rw [modelDump, Json.proper, Bool.and_eq_true, decide_eq_true_eq, (construct_shape ok).2, Json.entriesProper_iff]
  exact ⟨(summarySchemas_sound schema listed).1, summary.proper⟩

/-- A list whose elements encode to values of Python comes back as these values. -/
theorem deserialize_serialize (inverts : json.Inverts) {value : List Element}
    (proper : ∀ element ∈ value, Json.proper element.encoded = true) :
    deserialize json (serialize json value) = some (.list (value.map Element.encoded)) := by
  rw [deserialize, serialize]
  apply inverts
  rw [Json.proper, Json.allProper_iff]
  intro v member
  obtain ⟨element, inside, rfl⟩ := List.mem_map.mp member
  exact proper element inside

theorem construct_modelDump (listed : schema ∈ summarySchemas) (summary : Summary schema) :
    schema.construct summary.obj.attrs = .ok summary.obj := by
  obtain ⟨distinct, defaults⟩ := summarySchemas_sound schema listed
  exact construct_attrs summary.valid distinct defaults

theorem listResponse_ok {items : Summary schema → Element}
    (each : ∀ summary, validateItem schema (items summary) = .ok summary.obj) (l : List (Summary schema)) :
    listResponse schema (l.map items) = .ok (l.map Summary.obj) := by
  induction l with
  | nil => rfl
  | cons summary l ih =>
    rw [listResponse] at ih
    rw [List.map_cons, listResponse, List.mapM_cons, each summary, ih]
    rfl

/- The list that is cached. -/
def originals (l : List (Summary schema)) : List Element := l.map (fun summary => .model summary.obj)

/-- Redis loses nothing of a list of summaries: it gives back the dictionaries of the models in
order, these are validated to the models that they come from, and so a list response after a hit
is the one that was built at first. -/
theorem redis_round_trip (inverts : json.Inverts) (listed : schema ∈ summarySchemas) (l : List (Summary schema)) :
    deserialize json (serialize json (originals l)) = some (.list (l.map (fun summary => modelDump summary.obj))) ∧
    listResponse schema (l.map (fun summary => .plain (modelDump summary.obj))) = .ok (l.map Summary.obj) ∧
    (deserialize json (serialize json (originals l))).map (fun hit => listResponse schema (elementsOf hit)) =
      some (listResponse schema (originals l)) := by
  have back : deserialize json (serialize json (originals l)) =
      some (.list (l.map (fun summary => modelDump summary.obj))) := by
    have proper : ∀ element ∈ originals l, Json.proper element.encoded = true := by
      intro element member
      obtain ⟨summary, _, rfl⟩ := List.mem_map.mp member
      exact modelDump_proper listed summary
    rw [deserialize_serialize inverts proper, originals, List.map_map]
    rfl
  have validated : listResponse schema (l.map (fun summary => .plain (modelDump summary.obj))) = .ok (l.map Summary.obj) :=
    listResponse_ok (construct_modelDump listed) l
  have kept : listResponse schema (originals l) = .ok (l.map Summary.obj) := by
    refine listResponse_ok (fun summary => ?_) l
    obtain ⟨kwargs, ok⟩ := summary.valid
    exact if_pos (construct_shape ok).1
  refine ⟨back, validated, ?_⟩
  have elements : elementsOf (.list (l.map (fun summary => modelDump summary.obj))) =
      l.map (fun summary => .plain (modelDump summary.obj)) := by
    rw [elementsOf, List.map_map]
    rfl
  rw [back, Option.map_some, elements, validated, kept]

/- A server with two networks, one of which is without addresses. -/
def webServer : Summary serverSummarySchema where
  obj := ⟨"ServerSummary",
    [("id", .str "srv-1"), ("name", .str "웹 \"1\""), ("status", .str "ACTIVE"), ("operation_task_id", .none),
      ("flavor_id", .str "m1.small"), ("image_id", .none), ("created", .none), ("key_name", .none),
      ("project_id", .none), ("availability_zone", .str "nova"),
      ("addresses", .dict [("private", .list [.str "10.0.0.4", .str "fe80::1"]), ("public", .list [])])]⟩
  valid := ⟨[("id", .str "srv-1"), ("name", .str "웹 \"1\""), ("status", .str "ACTIVE"), ("flavor_id", .str "m1.small"),
    ("availability_zone", .str "nova"),
    ("addresses", .dict [("private", .list [.str "10.0.0.4", .str "fe80::1"]), ("public", .list [])])], rfl⟩
  proper := by decide +kernel

/- Python's own module. -/
def jsonModule : JsonModule := ⟨Json.dumps, Json.loads⟩

theorem jsonModule_inverts : jsonModule.Inverts := Json.loads_dumps

theorem webServer_round_trip :
    deserialize jsonModule (serialize jsonModule (originals [webServer])) =
      some (.list [modelDump webServer.obj]) ∧
    listResponse serverSummarySchema [.plain (modelDump webServer.obj)] = .ok [webServer.obj] ∧
    (deserialize jsonModule (serialize jsonModule (originals [webServer]))).map
        (fun hit => listResponse serverSummarySchema (elementsOf hit)) =
      some (listResponse serverSummarySchema (originals [webServer])) :=
  redis_round_trip jsonModule_inverts (.head _) [webServer]

end RoundTrip

/- The elements of a list response, as Redis sees them. -/
def itemElement : Item → Element
  | .model o => .model o
  | .plain attrs => .plain (.dict attrs)

/-- What a list response becomes in Redis is what `Listing.json` says of it. -/
theorem listing_json {json : JsonModule} (inverts : json.Inverts) (l : Listing)
    (proper : ∀ item ∈ l.items, Json.proper (itemElement item).encoded = true) :
    (deserialize json (serialize json (l.items.map itemElement))).map elementsOf = some (l.json.items.map itemElement) := by
  have encoded : ∀ element ∈ l.items.map itemElement, Json.proper element.encoded = true := by
    intro element member
    obtain ⟨item, inside, rfl⟩ := List.mem_map.mp member
    exact proper item inside
  rw [deserialize_serialize inverts encoded, Option.map_some, elementsOf, Listing.json, List.map_map, List.map_map,
    List.map_map]
  congr 1
  apply List.map_congr_left
  intro item _
  cases item <;> rfl

end VMachine.Cache
