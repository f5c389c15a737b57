import Mathlib.Algebra.Ring.Int.Defs
import WorkBridge.Node.Wire
import WorkBridge.Proofs.Json.Record

/-!
The answers that are read from texts, field by field.
-/

namespace WorkBridge.Node

open Json

/-- What a node can be asked for. -/
inductive Kind
  | info
  | dagInfo
  | hashRate
  | template
deriving DecidableEq

namespace Kind

abbrev Value : Kind → Type
  | .info => Info
  | .dagInfo => DagInfo
  | .hashRate => HashRate
  | .template => Template

def record : (k : Kind) → Record k.Value
  | .info => Info.record
  | .dagInfo => DagInfo.record
  | .hashRate => HashRate.record
  | .template => Template.record

def toJson : (k : Kind) → k.Value → Json
  | .info => Info.toJson
  | .dagInfo => DagInfo.toJson
  | .hashRate => HashRate.toJson
  | .template => Template.toJson

def read (k : Kind) (text : String) : Except Fault k.Value := decodeWith k.record.decode text

/-- The fields in the order in which they are declared. -/
def places : (k : Kind) → List (Place k.Value)
  | .info => [
    ⟨"p2pId", .string, fun i => .string i.p2pId, some (.string "")⟩,
    ⟨"mempoolSize", .unsigned, fun i => .int i.mempoolSize, some (.int 0)⟩,
    ⟨"serverVersion", .string, fun i => .string i.serverVersion, some (.string "")⟩,
    ⟨"isUtxoIndexed", .bool, fun i => .bool i.isUtxoIndexed, some (.bool false)⟩,
    ⟨"isSynced", .bool, fun i => .bool i.isSynced, some (.bool false)⟩]
  | .dagInfo => [
    ⟨"networkName", .string, fun d => .string d.networkName, some (.string "")⟩,
    ⟨"blockCount", .unsigned, fun d => .int d.blockCount, some (.int 0)⟩,
    ⟨"headerCount", .unsigned, fun d => .int d.headerCount, some (.int 0)⟩,
    ⟨"tipHashes", .strings, fun d => .array (d.tipHashes.map .string), some (.array [])⟩,
    ⟨"difficulty", .real, fun d => .float d.difficulty, some (.float .zero)⟩,
    ⟨"pastMedianTime", .signed, fun d => .int d.pastMedianTime, some (.int 0)⟩,
    ⟨"virtualParentHashes", .strings, fun d => .array (d.virtualParentHashes.map .string),
      some (.array [])⟩,
    ⟨"pruningPointHash", .string, fun d => .string d.pruningPointHash, some (.string "")⟩,
    ⟨"virtualDaaScore", .unsigned, fun d => .int d.virtualDaaScore, some (.int 0)⟩]
  | .hashRate => [
    ⟨"networkHashesPerSecond", .unsigned, fun r => .int r.hashesPerSecond, none⟩]
  | .template => [
    ⟨"block", .any, fun t => t.block, none⟩,
    ⟨"isSynced", .bool, fun t => .bool t.isSynced, some (.bool false)⟩]

theorem toJson_eq (k : Kind) (v : k.Value) : k.toJson v = .object (members k.places v) := by
  cases k <;> rfl

def fields : (k : Kind) → List (TypedField k.Value)
  | .info => Info.fields
  | .dagInfo => DagInfo.fields
  | .hashRate => HashRate.fields
  | .template => Template.fields

theorem keeps (k : Kind) : List.Forall₂ (TypedField.Keeps k.places) k.fields k.places := by
  cases k with
  | info =>
    refine .cons ⟨rfl, rfl, rfl, fun _ _ => rfl, ?_⟩ <| .cons ⟨rfl, rfl, rfl, fun _ _ => rfl, ?_⟩ <|
      .cons ⟨rfl, rfl, rfl, fun _ _ => rfl, ?_⟩ <| .cons ⟨rfl, rfl, rfl, fun _ _ => rfl, ?_⟩ <|
      .cons ⟨rfl, rfl, rfl, fun _ _ => rfl, ?_⟩ .nil
    all_goals
      intro a s
      simp [places]
  | dagInfo =>
    refine .cons ⟨rfl, rfl, rfl, fun _ _ => rfl, ?_⟩ <| .cons ⟨rfl, rfl, rfl, fun _ _ => rfl, ?_⟩ <|
      .cons ⟨rfl, rfl, rfl, fun _ _ => rfl, ?_⟩ <| .cons ⟨rfl, rfl, rfl, fun _ _ => rfl, ?_⟩ <|
      .cons ⟨rfl, rfl, rfl, fun _ _ => rfl, ?_⟩ <| .cons ⟨rfl, rfl, rfl, fun _ _ => rfl, ?_⟩ <|
      .cons ⟨rfl, rfl, rfl, fun _ _ => rfl, ?_⟩ <| .cons ⟨rfl, rfl, rfl, fun _ _ => rfl, ?_⟩ <|
      .cons ⟨rfl, rfl, rfl, fun _ _ => rfl, ?_⟩ .nil
    all_goals
      intro a s
      simp [places]
  | hashRate =>
    refine .cons ⟨rfl, rfl, rfl, fun _ _ => rfl, ?_⟩ .nil
    intro a s
    simp [places]
  | template =>
    refine .cons ⟨rfl, rfl, rfl, fun _ _ => rfl, ?_⟩ <| .cons ⟨rfl, rfl, rfl, fun _ _ => rfl, ?_⟩ .nil
    all_goals
      intro a s
      simp [places]

theorem record_fields (k : Kind) : k.record.fields = k.fields.map TypedField.field := by
  cases k <;> rfl

/-- The declarations and the reading agree on every field. -/
theorem mirrors (k : Kind) : Mirrors k.record k.places where
  fields := by
    rw [record_fields]
    exact fits_of_keeps k.keeps
  nodup := by cases k <;> decide
  blank := by
    cases k with
    | info => simp [places, record, Info.record, Record.ofFields]
    | dagInfo => simp [places, record, DagInfo.record, Record.ofFields]
    | hashRate => simp [places]
    | template => simp [places, record, Template.record, Record.ofFields]
  ext s t h := by
    have hstrings : Function.Injective (List.map Json.string) :=
      List.map_injective_iff.mpr fun _ _ h => Json.string.inj h
    cases k <;> cases s <;> cases t <;> simp_all [places, hstrings.eq_iff]

/-- Members that no field has the name of do not count. -/
def known (k : Kind) (m : List (String × Json)) : List (String × Json) := Json.known k.places m

variable {k : Kind} {text : String} {m : List (String × Json)} {vs : List Json}

theorem read_eq_decode {v : Json} (k : Kind) (h : IsText v text) :
    ∃ d, Draft.Tells d v ∧ k.read text = k.record.decode maxDepth d := by
  obtain ⟨d, hd, hread⟩ := read_of_isText h
  refine ⟨d, hd, ?_⟩
  rw [read, decodeWith, hread]
  cases k.record.decode maxDepth d <;> rfl

/-- An object is settled by the places of its fields. -/
theorem read_object (k : Kind) (ht : IsText (.object m) text)
    (hdepth : (Json.object (k.known m)).depth ≤ maxDepth) : Settles k.places m (k.read text) := by
  obtain ⟨d, hd, hread⟩ := k.read_eq_decode ht
  rw [hread]
  cases hd with
  | object hm =>
    rw [depth] at hdepth
    exact k.mirrors.decode_object hm (Nat.le_of_succ_le_succ hdepth)

/-- An array that is not too long is settled as an object with the names of the first fields. -/
theorem read_array (k : Kind) (ht : IsText (.array vs) text)
    (hdepth : (Json.array vs).depth ≤ maxDepth) (hlength : vs.length ≤ k.places.length) :
    Settles k.places (named k.places vs) (k.read text) := by
  obtain ⟨d, hd, hread⟩ := k.read_eq_decode ht
  rw [hread]
  cases hd with
  | array hds =>
    rw [depth] at hdepth
    exact k.mirrors.decode_array hds (Nat.le_of_succ_le_succ hdepth) hlength

theorem read_array_ne_ok (k : Kind) (ht : IsText (.array vs) text)
    (hlength : k.places.length < vs.length) (v : k.Value) : k.read text ≠ .ok v := by
  obtain ⟨d, hd, hread⟩ := k.read_eq_decode ht
  rw [hread]
  cases hd with
  | array hds =>
    rw [← k.mirrors.fields.length_eq, ← hds.length_eq] at hlength
    exact ofItems_ne_ok hlength none _ v

/-- A record whose fields hold what they want is read from any text of what is written for it. -/
theorem read_of_isText_toJson {v : k.Value} (ht : IsText (k.toJson v) text)
    (hdepth : (k.toJson v).depth ≤ maxDepth)
    (h : ∀ p ∈ k.places,
      p.wanted.takes (p.shown v) = true ∧ p.wanted.stored (p.shown v) = p.shown v) :
    k.read text = .ok v := by
  rw [toJson_eq] at ht hdepth
  have hknown : k.known (members k.places v) = members k.places v := known_members
  have hnot : ¬Refuses k.places (members k.places v) :=
    not_refuses_members k.mirrors.nodup fun p hp => (h p hp).1
  obtain ⟨w, hread, hmade⟩ := (k.read_object ht (by rwa [hknown])).2 hnot
  have hself : MadeOf k.places (members k.places v) v := madeOf_members fun p hp => (h p hp).2
  rw [hread, k.mirrors.ext w v fun p hp => hmade.shown_eq hnot hself hp]

end Kind
end WorkBridge.Node
