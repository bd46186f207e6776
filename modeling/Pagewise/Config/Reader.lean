import Pagewise.Config.Basic
import Pagewise.Yaml.Reading

/-!
Reading a configuration from YAML. Unknown fields are ignored. An end behavior is read without regard
to the order of its fields, so its scalars have the types of their forms.
-/
namespace Pagewise

open Yaml

def Backoff.ofNode (n : Node) : Reading Backoff := do
  match ← n.follow with
  | .scalar p style text =>
    match p.tag with
    | some (.named name) =>
      if style == .plain && (text.isEmpty || isNull text) then liftM (ofName? name) else failure
    | _ => liftM (ofName? text)
  | _ => failure

def RateLimit.ofNode (n : Node) : Reading RateLimit := do
  let fields ← n.fields ["requests_per_second", "burst_size"]
  let count := fun name => Node.defaulted 10 (Node.natBelow UInt32.size) (fields.lookup name)
  return ⟨← count "requests_per_second", ← count "burst_size"⟩

namespace EndBehavior

def depthLimit : Nat := 124

/-- A field may be named by its name or by its number. -/
def isFieldName : Option Typed → Bool
  | some (.text _) | some (.natural _) => true
  | _ => false

def isMember : Option Typed → Bool
  | some (.text name) => name == "member"
  | some (.natural n) => n == 0
  | _ => false

def ofFields? (name : String) (fields : List (Option Typed × Option Typed)) : Option EndBehavior :=
  match name with
  | "output_token_empty" => some .outputTokenEmpty
  | "identical_token" => some .identicalToken
  | "truncation_member" =>
    match fields.all fun e => isFieldName e.1, fields.filter fun e => isMember e.1 with
    | true, [(_, some (.text member))] => some (.truncationMember member)
    | _, _ => none
  | _ => none

def ofItems? (name : String) (items : List (Option Typed)) : Option EndBehavior :=
  match name, items with
  | "output_token_empty", [] => some .outputTokenEmpty
  | "identical_token", [] => some .identicalToken
  | "truncation_member", [some (.text member)] => some (.truncationMember member)
  | _, _ => none

inductive Entry where
  | type (name : String)
  | field (key value : Option Typed)

def Entry.ofNodes (e : Node × Node) : Reading Entry := do
  let key ← e.1.value depthLimit
  if key == some (.text "type") then return .type (← e.2.text)
  else return .field key (← e.2.value depthLimit)

def ofEntries? (entries : List Entry) : Option EndBehavior :=
  let names := entries.filterMap fun
    | .type name => some name
    | .field _ _ => none
  let fields := entries.filterMap fun
    | .type _ => none
    | .field key value => some (key, value)
  match names with
  | [name] => ofFields? name fields
  | _ => none

def ofNode (n : Node) : Reading EndBehavior := do
  match ← n.follow with
  | .mapping p entries =>
    Node.refuseNamed p
    liftM (ofEntries? (← entries.mapM Entry.ofNodes))
  | .sequence p (name :: items) =>
    Node.refuseNamed p
    liftM (ofItems? (← name.text) (← items.mapM (Node.value depthLimit)))
  | _ => failure

end EndBehavior

def OperationSettings.ofNode (n : Node) : Reading OperationSettings := do
  let fields ← n.fields ["end_behavior", "page_size"]
  let field := fun {α : Type} (name : String) (read : Node → Reading α) =>
    Node.defaulted none (Node.optional read) (fields.lookup name)
  return ⟨← field "end_behavior" EndBehavior.ofNode, ← field "page_size" (Node.natBelow UInt32.size)⟩

def HttpSettings.ofNode (n : Node) : Reading HttpSettings := do
  let fields ← n.fields fieldNames
  let count := fun name bound default =>
    Node.defaulted default (Node.natBelow bound) (fields.lookup name)
  return ⟨← count "timeout_secs" UInt64.size defaultTimeoutSeconds,
    .ofNat (← count "max_retries" UInt32.size defaultMaxRetries),
    ← Node.defaulted default Backoff.ofNode (fields.lookup "backoff"),
    ← count "initial_backoff_ms" UInt64.size defaultInitialBackoffMs,
    ← count "max_backoff_ms" UInt64.size defaultMaxBackoffMs,
    ← Node.defaulted none (Node.optional RateLimit.ofNode) (fields.lookup "rate_limit"),
    ← Node.defaulted .empty (Node.table Node.text) (fields.lookup "headers")⟩

namespace Config

def ofNode (n : Node) : Reading Config := do
  let fields ← n.fields ["endpoint", "target_prefix", "http", "operations", "max_pages"]
  return ⟨← (← liftM (fields.lookup "endpoint")).text,
    ← Node.defaulted none (Node.optional Node.text) (fields.lookup "target_prefix"),
    ← Node.defaulted default HttpSettings.ofNode (fields.lookup "http"),
    ← Node.defaulted .empty (Node.table OperationSettings.ofNode) (fields.lookup "operations"),
    ← Node.defaulted 0 (Node.natBelow UInt64.size) (fields.lookup "max_pages")⟩

/-- A configuration that has passed its checks. -/
def ofText (text : String) : Except Error Config :=
  match (Node.ofText? text).bind (Node.readAll? ofNode) with
  | none => .error (.malformedYaml "no configuration document")
  | some c => c.validate.map fun _ => c

end Config

end Pagewise
