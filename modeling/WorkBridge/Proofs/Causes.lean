import Mathlib.Data.List.Chain
import WorkBridge.Log
import WorkBridge.Manager.Error
import WorkBridge.Stats.Error

/-!
What is behind an error, and what its text says of it.

A `Fault` is an error of any layer.  It has at most one source, the error of a lower layer that it
came from, and its chain is that source, the source's own and so on.  An error that is reported as
it is stands for the one in it: it has that one's source, and is no link of the chain itself.
`text_chain` says that the causes which every error tells are the texts of its chain.

A text ends in the text of its source (`endsIn_source`), so all texts of a chain are at the end of
the text that it starts from: `endsIn_of_mem_causes`.
-/

namespace WorkBridge

/-- A text has another one at its end. -/
def EndsIn (text tail : String) : Prop := tail.toList <:+ text.toList

theorem endsIn_append (head tail : String) : EndsIn (head ++ tail) tail := by
  rw [EndsIn, String.toList_append]
  exact List.suffix_append _ _

theorem EndsIn.refl (text : String) : EndsIn text text := List.suffix_rfl

theorem EndsIn.trans {a b c : String} (hab : EndsIn a b) (hbc : EndsIn b c) : EndsIn a c :=
  List.IsSuffix.trans hbc hab

instance : IsTrans String EndsIn := ⟨fun _ _ _ => EndsIn.trans⟩

/-- An error of any layer. -/
inductive Fault
  | call (e : Node.CallError)
  /-- A text is not of the shape that was asked for. -/
  | shape (text : String)
  | url (e : Url.ParseError)
  | config (e : Config.Error)
  | rpc (e : Node.RpcError)
  | client (e : Node.ClientError)
  | node (e : Node.Error)
  | stats (e : Stats.Error)
  | manager (e : Manager.Error)

namespace Fault

def text : Fault → String
  | .call e => e.message
  | .shape text => text
  | .url e => e.message
  | .config e => e.message
  | .rpc e => e.message
  | .client e => e.message
  | .node e => e.message
  | .stats e => e.message
  | .manager e => e.message

/-- The causes that an error tells of itself. -/
def causes : Fault → List String
  | .rpc e => e.causes
  | .client e => e.causes
  | .node e => e.causes
  | .stats e => e.causes
  | .manager e => e.causes
  | _ => []

def ofRpc? : Node.RpcError → Option Fault
  | .call e => some (.call e)
  | .parse text => some (.shape text)
  | _ => none

def ofClient? : Node.ClientError → Option Fault
  | .rpc e => ofRpc? e
  | .invalidAddress e => some (.url e)
  | .disconnected => none

def ofNode? (e : Node.Error) : Option Fault := e.source?.map .client

/-- The error that an error came from. -/
def source? : Fault → Option Fault
  | .rpc e => ofRpc? e
  | .client e => ofClient? e
  | .node e => ofNode? e
  | .stats e => e.source?.map .client
  | .manager (.invalidConfig e) => some (.config e)
  | .manager (.node e) => ofNode? e
  | _ => none

/-- How many errors there may be behind one. -/
def depth : Fault → Nat
  | .rpc _ => 1
  | .client _ => 1
  | .node _ => 2
  | .stats _ => 2
  | .manager _ => 2
  | _ => 0

variable {e s : Fault}

theorem depth_of_ofRpc? {r : Node.RpcError} (h : ofRpc? r = some s) : s.depth = 0 := by
  cases r <;> cases h <;> rfl

theorem depth_of_ofClient? {c : Node.ClientError} (h : ofClient? c = some s) : s.depth = 0 := by
  cases c with
  | rpc r => exact depth_of_ofRpc? h
  | invalidAddress u => cases h; rfl
  | disconnected => cases h

theorem depth_of_ofNode? {n : Node.Error} (h : ofNode? n = some s) : s.depth = 1 := by
  obtain ⟨c, -, rfl⟩ := Option.map_eq_some_iff.mp h
  rfl

theorem depth_source (h : e.source? = some s) : s.depth < e.depth := by
  cases e with
  | rpc r => exact (depth_of_ofRpc? h).trans_lt Nat.one_pos
  | client c => exact (depth_of_ofClient? h).trans_lt Nat.one_pos
  | node n => exact (depth_of_ofNode? h).trans_lt Nat.one_lt_two
  | stats x =>
    obtain ⟨c, -, rfl⟩ := Option.map_eq_some_iff.mp h
    exact Nat.one_lt_two
  | manager m =>
    cases m with
    | invalidConfig c => cases h; exact Nat.two_pos
    | node n => exact (depth_of_ofNode? h).trans_lt Nat.one_lt_two
    | alreadyStarted => cases h
  | _ => cases h

/-- The errors behind one, nearest first. -/
def chain (e : Fault) : List Fault :=
  match _h : e.source? with
  | some s => s :: s.chain
  | none => []
termination_by e.depth
decreasing_by exact depth_source _h

theorem chain_of_some (h : e.source? = some s) : e.chain = s :: s.chain := by
  rw [chain]
  split
  · rename_i s' h'
    rw [Option.some.inj (h'.symm.trans h)]
  · rename_i h'
    cases h'.symm.trans h

theorem chain_of_none (h : e.source? = none) : e.chain = [] := by
  rw [chain]
  split
  · rename_i s' h'
    cases h'.symm.trans h
  · rfl

/-- The chain of an error only depends on its source. -/
theorem chain_congr (e e' : Fault) (h : e.source? = e'.source?) : e.chain = e'.chain := by
  cases hs : e'.source? with
  | none => rw [chain_of_none hs, chain_of_none (h.trans hs)]
  | some s => rw [chain_of_some hs, chain_of_some (h.trans hs)]

/-! ### The causes are the texts of the chain -/

theorem text_chain_of_some (h : e.source? = some s) :
    e.chain.map text = s.text :: s.chain.map text := by
  rw [chain_of_some h, List.map_cons]

theorem text_chain_of_none (h : e.source? = none) : e.chain.map text = [] := by
  rw [chain_of_none h, List.map_nil]

theorem text_chain_rpc (r : Node.RpcError) : (rpc r).chain.map text = r.causes := by
  cases r with
  | call c => rw [text_chain_of_some rfl, text_chain_of_none rfl]; rfl
  | parse t => rw [text_chain_of_some rfl, text_chain_of_none rfl]; rfl
  | _ => exact text_chain_of_none rfl

theorem text_chain_client (c : Node.ClientError) : (client c).chain.map text = c.causes := by
  cases c with
  | rpc r =>
    rw [chain_congr (client (.rpc r)) (rpc r) rfl]
    exact text_chain_rpc r
  | invalidAddress u => rw [text_chain_of_some rfl, text_chain_of_none rfl]; rfl
  | disconnected => exact text_chain_of_none rfl

theorem text_chain_of_client {c : Node.ClientError} (h : e.source? = some (client c)) :
    e.chain.map text = c.message :: c.causes := by
  rw [text_chain_of_some h, text_chain_client]
  rfl

theorem text_chain_node (n : Node.Error) : (node n).chain.map text = n.causes := by
  cases n with
  | notConnected => exact text_chain_of_none rfl
  | cancelled => exact text_chain_of_none rfl
  | connection a c => exact text_chain_of_client (c := c) rfl
  | rpc a c => exact text_chain_of_client (c := c) rfl
  | registration c => exact text_chain_of_client (c := c) rfl
  | blockTemplate c => exact text_chain_of_client (c := c) rfl

theorem text_chain_stats (x : Stats.Error) : (stats x).chain.map text = x.causes := by
  cases x with
  | notConnected => exact text_chain_of_none rfl
  | noTipHashes => exact text_chain_of_none rfl
  | dagInfo c => exact text_chain_of_client (c := c) rfl
  | hashRate c => exact text_chain_of_client (c := c) rfl

theorem text_chain_manager (m : Manager.Error) : (manager m).chain.map text = m.causes := by
  cases m with
  | invalidConfig c =>
    rw [text_chain_of_some rfl, text_chain_of_none rfl]
    rfl
  | node n =>
    rw [chain_congr (manager (.node n)) (node n) rfl]
    exact text_chain_node n
  | alreadyStarted => exact text_chain_of_none rfl

theorem text_chain (e : Fault) : e.chain.map text = e.causes := by
  cases e with
  | rpc r => exact text_chain_rpc r
  | client c => exact text_chain_client c
  | node n => exact text_chain_node n
  | stats x => exact text_chain_stats x
  | manager m => exact text_chain_manager m
  | _ => exact text_chain_of_none rfl

/-! ### A text ends in the texts behind it -/

theorem endsIn_ofRpc? {r : Node.RpcError} (h : ofRpc? r = some s) : EndsIn r.message s.text := by
  cases r with
  | call c => cases h; exact EndsIn.refl _
  | parse t => cases h; exact endsIn_append _ _
  | _ => cases h

theorem endsIn_ofClient? {c : Node.ClientError} (h : ofClient? c = some s) :
    EndsIn c.message s.text := by
  cases c with
  | rpc r => exact endsIn_ofRpc? h
  | invalidAddress u => cases h; exact endsIn_append _ _
  | disconnected => cases h

theorem endsIn_ofNode? {n : Node.Error} (h : ofNode? n = some s) : EndsIn n.message s.text := by
  cases n with
  | notConnected => cases h
  | cancelled => cases h
  | _ => cases h; exact endsIn_append _ _

theorem endsIn_source (h : e.source? = some s) : EndsIn e.text s.text := by
  cases e with
  | rpc r => exact endsIn_ofRpc? h
  | client c => exact endsIn_ofClient? h
  | node n => exact endsIn_ofNode? h
  | stats x =>
    cases x with
    | notConnected => cases h
    | noTipHashes => cases h
    | _ => cases h; exact endsIn_append _ _
  | manager m =>
    cases m with
    | invalidConfig c => cases h; exact endsIn_append _ _
    | node n => exact endsIn_ofNode? h
    | alreadyStarted => cases h
  | _ => cases h

theorem isChain_texts (e : Fault) : List.IsChain EndsIn (e.text :: e.chain.map text) := by
  induction e using chain.induct with
  | case1 e s h ih =>
    rw [text_chain_of_some h]
    exact List.isChain_cons_cons.mpr ⟨endsIn_source h, ih⟩
  | case2 e h =>
    rw [text_chain_of_none h]
    exact List.isChain_singleton _

theorem isChain_causes (e : Fault) : List.IsChain EndsIn (e.text :: e.causes) :=
  text_chain e ▸ isChain_texts e

theorem endsIn_of_mem_causes {cause : String} (h : cause ∈ e.causes) : EndsIn e.text cause :=
  (isChain_causes e).rel_cons h

/-- An address that cannot be read, two layers up. -/
example :
    (manager (.node (.connection ⟨"ws://"⟩ (.invalidAddress .emptyHost)))).text =
        "failed to connect to node @ ws://: invalid node address: empty host" ∧
      (manager (.node (.connection ⟨"ws://"⟩ (.invalidAddress .emptyHost)))).causes =
        ["invalid node address: empty host", "empty host"] := by
  decide

end Fault

/-! ### Errors in log entries -/

variable {P : Fault → Prop} {l : LogEntry}

/-- What an entry says under `err` is the text of such a fault. -/
def LogEntry.Reports (P : Fault → Prop) (l : LogEntry) : Prop :=
  ∀ t, ("err", t) ∈ l.fields → ∃ e, P e ∧ t = e.text

theorem LogEntry.reports_of_forall (h : ∀ p ∈ l.fields, p.1 ≠ "err") : l.Reports P :=
  fun _ ht => absurd rfl (h _ ht)

/-- An entry with one error, and fields of other names around it. -/
theorem LogEntry.reports_of_error (before : List (String × String))
    {after : List (String × String)} {e : Fault} (he : P e)
    (hl : l.fields = before ++ ("err", e.text) :: after)
    (ho : ∀ p ∈ before ++ after, p.1 ≠ "err") : l.Reports P := by
  intro t ht
  rw [hl, List.mem_append, List.mem_cons] at ht
  obtain ht | ht | ht := ht
  · exact absurd rfl (ho _ (List.mem_append_left _ ht))
  · exact ⟨e, he, congrArg Prod.snd ht⟩
  · exact absurd rfl (ho _ (List.mem_append_right _ ht))

/-- All entries among some outputs report such faults, where they report any. -/
def AllReport {α : Type} (logged? : α → Option LogEntry) (P : Fault → Prop)
    (out : List α) : Prop :=
  ∀ o ∈ out, ∀ l, logged? o = some l → l.Reports P

namespace AllReport

variable {α : Type} {logged? : α → Option LogEntry} {out rest : List α} {o : α}

theorem nil : AllReport logged? P [] := nofun

theorem append (h : AllReport logged? P out) (hr : AllReport logged? P rest) :
    AllReport logged? P (out ++ rest) := List.forall_mem_append.mpr ⟨h, hr⟩

theorem log (ho : logged? o = some l) (hl : l.Reports P) (h : AllReport logged? P out) :
    AllReport logged? P (o :: out) := by
  refine List.forall_mem_cons.mpr ⟨fun m hm => ?_, h⟩
  rw [ho] at hm
  exact Option.some.inj hm ▸ hl

theorem cons (ho : logged? o = none) (h : AllReport logged? P out) :
    AllReport logged? P (o :: out) := by
  refine List.forall_mem_cons.mpr ⟨fun m hm => ?_, h⟩
  rw [ho] at hm
  cases hm

end AllReport
end WorkBridge
