import Sspl.Python.Value

/-!
# Acknowledgement messages

`AckResponseMsg` is the answer to a request that no handler takes. `getJson`
prepares the message, normalizes it and validates it against the schema of the
actuator responses; the schema is a parameter. The section has no `info`, so
`prepare_message` adds nothing to it.
-/

namespace Sspl

mutual

/-- `normalize_kv`: dashes in keys become underscores, and `N/A` becomes `NA`. -/
def Json.normalizeKv : Json → Json
  | .dict fields => .dict (fields.normalizeKv .nil)
  | .list items => .list items.normalizeKv
  | .str s => if s = "N/A" then .str "NA" else .str s
  | value => value

def Items.normalizeKv : Items → Items
  | .nil => .nil
  | .cons head tail => .cons head.normalizeKv tail.normalizeKv

/-- The entries are set one after the other, as in a dictionary comprehension. -/
def Fields.normalizeKv : Fields → Fields → Fields
  | .nil, done => done
  | .cons key value tail, done =>
    tail.normalizeKv (done.set
      (String.ofList (key.toList.map (fun c => if c = '-' then '_' else c))) value.normalizeKv)

end

/-- A dictionary from its entries. -/
def Json.ofEntries (entries : List (String × Json)) : Json :=
  .dict (entries.foldr (fun entry rest => .cons entry.1 entry.2 rest) .nil)

/-- The dictionary `AckResponseMsg` builds, with the defaults of its signature. -/
def ackResponseMsg (ackType ackMsg : String) (uuid : Json) : Json :=
  .ofEntries [
    ("title", .str "SSPL Actuator Response"),
    ("description", .str "Seagate Storage Platform Library - Actuator Response"),
    ("username", .str "SSPL-LL"),
    ("signature", .str "N/A"),
    ("time", .str "N/A"),
    ("expires", .int (-1)),
    ("message", .ofEntries [
      ("sspl_ll_msg_header", .ofEntries [
        ("schema_version", .str "1.0.0"),
        ("sspl_version", .str "2.0.0"),
        ("msg_version", .str "1.0.0"),
        ("uuid", uuid)]),
      ("actuator_response_type", .ofEntries [
        ("ack", .ofEntries [
          ("ack_type", .str ackType),
          ("ack_msg", .str ackMsg),
          ("error_no", .int 0)])])])]

/-- `getJson` of the acknowledgement, given the validation against the schema. -/
def ackJson (validate : Json → Except PyErr Unit) (ackType ackMsg : String) (uuid : Json) :
    Except PyErr Json := do
  let json := (ackResponseMsg ackType ackMsg uuid).normalizeKv
  validate json
  return json

end Sspl
