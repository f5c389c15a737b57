import WorkBridge.Json.Record
import WorkBridge.Node.Error

/-!
What a node sends over a connection: responses to requests, items of subscriptions, the end
of a subscription, and notifications of other kinds.

A message is taken for the first of these that it has the shape of.  Several messages may
come as one array.
-/

namespace WorkBridge.Rpc

open Json (Draft Decoder Record field)

/-- What tells a request from every other on its connection. -/
inductive Id
  | null
  | number (n : Nat)
  | text (s : String)
deriving DecidableEq, Inhabited

/-- What tells a subscription from every other on its connection. -/
inductive SubscriptionKey
  | number (n : Nat)
  | text (s : String)
deriving DecidableEq, Inhabited

def SubscriptionKey.toJson : SubscriptionKey → Json
  | .number n => .int n
  | .text s => .string s

inductive Message
  | response (id : Id) (r : Except Node.CallError Draft)
  | item (key : SubscriptionKey) (payload : Draft)
  /-- A subscription has failed and ends. -/
  | failure (key : SubscriptionKey)
  | other
deriving Inhabited

/-! ### Parts of messages -/

/-- A value that is handed on as it is written. -/
def unread : Decoder Draft := fun _ d => do
  Json.skip d
  pure d

def SubscriptionKey.decode : Decoder SubscriptionKey
  | _, .string (.ok s) => .ok (.text s)
  | depth, d => .number <$> Decoder.unsigned depth d

def Id.decode : Decoder Id
  | _, .null => .ok .null
  | _, .string (.ok s) => .ok (.text s)
  | depth, d => .number <$> Decoder.unsigned depth d

/-- The mark of the protocol, in the one version that there is. -/
def mark : Decoder Unit
  | _, .string (.ok s) => if s = "2.0" then .ok () else .error .mismatched
  | _, d => .error (Json.mismatch d)

/-- A value that may be `null`. -/
def optional {α : Type} (decode : Decoder α) : Decoder (Option α)
  | _, .null => .ok none
  | depth, d => some <$> decode depth d

namespace CallError

def record : Record Node.CallError where
  blank := { code := 0, text := "" }
  fields := [
    { field "code" (Decoder.integer Int32.minValue.toInt Int32.maxValue.toInt)
        (fun v e => { e with code := v }) with required := true },
    { field "message" Decoder.string (fun v e => { e with text := v }) with required := true },
    field "data" (optional Json.ofDraft) fun v e => { e with data := v }]

/-- Whether a draft has no members but those of a refusal. -/
def isPlain : Draft → Bool
  | .object members _ => members.all fun (k, _) => match k with
    | .ok name => (record.field? name).isSome
    | .error _ => false
  | _ => true

def decode : Decoder Node.CallError := fun depth d =>
  if isPlain d then record.decode depth d else .error .mismatched

end CallError

/-! ### Responses -/

structure ResponseParts where
  id : Id := .null
  result : Option Draft := none
  error : Option Node.CallError := none
deriving Inhabited

def ResponseParts.record : Record ResponseParts where
  blank := {}
  fields := [
    field "jsonrpc" (optional mark) fun _ r => r,
    field "result" unread fun v r => { r with result := some v },
    field "error" CallError.decode fun v r => { r with error := some v },
    { field "id" Id.decode (fun v r => { r with id := v }) with required := true }]

/-- A response has either a result or an error. -/
def response? (d : Draft) : Option Message :=
  match d with
  | .object _ _ =>
    match ResponseParts.record.decode Json.maxDepth d with
    | .ok { id, result := some v, error := none } => some (.response id (.ok v))
    | .ok { id, result := none, error := some e } => some (.response id (.error e))
    | _ => none
  | _ => none

/-! ### Notifications -/

/-- A notification with parameters of some shape. -/
def notification {α : Type} [Inhabited α] (params : Decoder α) (needsParams : Bool) : Record α where
  blank := default
  fields := [
    { field "jsonrpc" mark (fun _ r => r) with required := true },
    { field "method" Decoder.string (fun _ r => r) with required := true },
    { field "params" params (fun v _ => v) with required := needsParams }]

/-- A subscription's key together with a member of the given name. -/
def keyed (name : String) : Record (SubscriptionKey × Draft) where
  blank := (.number 0, .null)
  fields := [
    { field "subscription" SubscriptionKey.decode (fun v p => (v, p.2)) with required := true },
    { field name unread (fun v p => (p.1, v)) with required := true }]

instance : Inhabited Draft := ⟨.null⟩

def item? (d : Draft) : Option Message :=
  match (notification (keyed "result").decode true).decode Json.maxDepth d with
  | .ok (key, payload) => some (.item key payload)
  | .error _ => none

def failure? (d : Draft) : Option Message :=
  match (notification (keyed "error").decode true).decode Json.maxDepth d with
  | .ok (key, _) => some (.failure key)
  | .error _ => none

def other? (d : Draft) : Option Message :=
  match (notification Json.ofDraft false).decode Json.maxDepth d with
  | .ok _ => some .other
  | .error _ => none

/-! ### Messages -/

/-- A message on its own. -/
def Message.single? (d : Draft) : Option Message :=
  response? d <|> item? d <|> failure? d <|> other? d

/-- A message among others: the failure of a subscription does not count there. -/
def Message.element? (d : Draft) : Option Message :=
  response? d <|> item? d <|> other? d

/-- What a text on a connection says. -/
inductive Frame
  | single (m : Message)
  /-- The messages up to the first that is none, and whether there is one. -/
  | batch (ms : List Message) (isBroken : Bool)
  | broken

/-- The messages in a list up to the first that is none. -/
def Frame.elements : List Draft → List Message × Bool
  | [] => ([], false)
  | d :: rest =>
    match Message.element? d with
    | some m =>
      let (ms, isBroken) := elements rest
      (m :: ms, isBroken)
    | none => ([], true)

def Frame.read (text : String) : Frame :=
  let document := Json.Document.read text
  if document.trailing then .broken
  else
    match document.root with
    | .object members snag =>
      match Message.single? (.object members snag) with
      | some m => .single m
      | none => .broken
    | .array items none =>
      match Json.skipItems items with
      | .ok () =>
        let (ms, isBroken) := elements items
        .batch ms isBroken
      | .error _ => .broken
    | _ => .broken

end WorkBridge.Rpc
