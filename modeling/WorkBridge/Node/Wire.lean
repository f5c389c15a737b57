import WorkBridge.Json.TypedField
import WorkBridge.Json.Writer

/-!
What a node answers: its state, the state of its block graph, an estimate of the network's
hash rate, a block template, and the empty notification of a new template.

Each type has a record, which reads it, and `toJson`, which writes every field of it; those
that are asked for have a shape, which says what is wrong where nothing can be read.  Record and
shape are made from one list of fields.  The difficulty is a binary64 number whatever it is written
as; the block of a template is any JSON and is handed on as it came.
-/

namespace WorkBridge.Node

open Json

/-- The state of a node. -/
structure Info where
  p2pId : String := ""
  mempoolSize : Nat := 0
  serverVersion : String := ""
  isUtxoIndexed : Bool := false
  isSynced : Bool := false
deriving DecidableEq, Inhabited

/-- The state of a node's block graph. -/
structure DagInfo where
  networkName : String := ""
  blockCount : Nat := 0
  headerCount : Nat := 0
  tipHashes : List String := []
  difficulty : Binary64 := Binary64.zero
  pastMedianTime : Int := 0
  virtualParentHashes : List String := []
  pruningPointHash : String := ""
  virtualDaaScore : Nat := 0
deriving DecidableEq, Inhabited

/-- An estimate of the hashes that the network computes in a second. -/
structure HashRate where
  hashesPerSecond : Nat
deriving DecidableEq, Inhabited

/-- A block to be mined, and whether the node that made it was synced. -/
structure Template where
  block : Json
  isSynced : Bool := false
deriving Inhabited

/-- News that a new block template can be had. -/
structure NewTemplate where
deriving DecidableEq, Inhabited

namespace Info

def fields : List (TypedField Info) := [
  { name := "p2pId", wanted := .string, store := fun v r => { r with p2pId := v } },
  { name := "mempoolSize", wanted := .unsigned, store := fun v r => { r with mempoolSize := v } },
  { name := "serverVersion", wanted := .string, store := fun v r => { r with serverVersion := v } },
  { name := "isUtxoIndexed", wanted := .bool, store := fun v r => { r with isUtxoIndexed := v } },
  { name := "isSynced", wanted := .bool, store := fun v r => { r with isSynced := v } }]

def record : Record Info := .ofFields fields {}

def shape : Shape := .ofFields "NodeInfo" fields

def toJson (r : Info) : Json := .object [
  ("p2pId", .string r.p2pId),
  ("mempoolSize", .int r.mempoolSize),
  ("serverVersion", .string r.serverVersion),
  ("isUtxoIndexed", .bool r.isUtxoIndexed),
  ("isSynced", .bool r.isSynced)]

end Info

namespace DagInfo

def fields : List (TypedField DagInfo) := [
  { name := "networkName", wanted := .string, store := fun v r => { r with networkName := v } },
  { name := "blockCount", wanted := .unsigned, store := fun v r => { r with blockCount := v } },
  { name := "headerCount", wanted := .unsigned, store := fun v r => { r with headerCount := v } },
  { name := "tipHashes", wanted := .strings, store := fun v r => { r with tipHashes := v } },
  { name := "difficulty", wanted := .real, store := fun v r => { r with difficulty := v } },
  { name := "pastMedianTime", wanted := .signed
    store := fun v r => { r with pastMedianTime := v } },
  { name := "virtualParentHashes", wanted := .strings
    store := fun v r => { r with virtualParentHashes := v } },
  { name := "pruningPointHash", wanted := .string
    store := fun v r => { r with pruningPointHash := v } },
  { name := "virtualDaaScore", wanted := .unsigned
    store := fun v r => { r with virtualDaaScore := v } }]

def record : Record DagInfo := .ofFields fields {}

def shape : Shape := .ofFields "BlockDagInfo" fields

def toJson (r : DagInfo) : Json := .object [
  ("networkName", .string r.networkName),
  ("blockCount", .int r.blockCount),
  ("headerCount", .int r.headerCount),
  ("tipHashes", .array (r.tipHashes.map .string)),
  ("difficulty", .float r.difficulty),
  ("pastMedianTime", .int r.pastMedianTime),
  ("virtualParentHashes", .array (r.virtualParentHashes.map .string)),
  ("pruningPointHash", .string r.pruningPointHash),
  ("virtualDaaScore", .int r.virtualDaaScore)]

end DagInfo

namespace HashRate

def fields : List (TypedField HashRate) := [
  { name := "networkHashesPerSecond", wanted := .unsigned, store := fun v _ => ⟨v⟩
    required := true }]

def record : Record HashRate := .ofFields fields ⟨0⟩

def shape : Shape := .ofFields "NetworkHashRate" fields

def toJson (r : HashRate) : Json := .object [("networkHashesPerSecond", .int r.hashesPerSecond)]

end HashRate

namespace Template

def fields : List (TypedField Template) := [
  { name := "block", wanted := .any, store := fun v r => { r with block := v }, required := true },
  { name := "isSynced", wanted := .bool, store := fun v r => { r with isSynced := v } }]

def record : Record Template := .ofFields fields { block := .null }

def shape : Shape := .ofFields "BlockTemplate" fields

def toJson (r : Template) : Json := .object [
  ("block", r.block),
  ("isSynced", .bool r.isSynced)]

end Template

namespace NewTemplate

def record : Record NewTemplate where
  blank := ⟨⟩
  fields := []

def toJson (_ : NewTemplate) : Json := .object []

end NewTemplate

end WorkBridge.Node
