import Mathlib.Data.List.Induction
import WorkBridge.Feed.Step

/-!
Runs of a feed and what is seen of them.

A run is a list of stimuli, in any order and with anything in the answers.  Its history names
each stimulus together with the point at which it found the feed, and after it what the feed
did about it, in order.
-/

namespace WorkBridge.Feed

open Node (ClientId)

/-- A feed before its first turn. -/
def start (settings : Settings) : Feed := { settings }

/-- The feed after a run. -/
def after (f : Feed) (ss : List Stimulus) : Feed := ss.foldl (fun f s => (f.step s).1) f

inductive Event
  | happened (point : Point) (s : Stimulus)
  | did (o : Output)

def history (f : Feed) : List Stimulus → List Event
  | [] => []
  | s :: rest => .happened f.point s :: (f.step s).2.map .did ++ history (f.step s).1 rest

theorem after_nil (f : Feed) : f.after [] = f := rfl

theorem after_cons (f : Feed) (s : Stimulus) (ss : List Stimulus) :
    f.after (s :: ss) = (f.step s).1.after ss := rfl

theorem after_append (f : Feed) (ss ts : List Stimulus) :
    f.after (ss ++ ts) = (f.after ss).after ts := List.foldl_append

theorem after_snoc (f : Feed) (ss : List Stimulus) (s : Stimulus) :
    f.after (ss ++ [s]) = ((f.after ss).step s).1 := after_append f ss [s]

theorem history_append (f : Feed) (ss ts : List Stimulus) :
    f.history (ss ++ ts) = f.history ss ++ (f.after ss).history ts := by
  induction ss generalizing f with
  | nil => rfl
  | cons s ss ih =>
    rw [List.cons_append, history, history, ih, after_cons, List.append_assoc]

theorem history_snoc (f : Feed) (ss : List Stimulus) (s : Stimulus) :
    f.history (ss ++ [s]) =
      f.history ss ++ .happened (f.after ss).point s :: ((f.after ss).step s).2.map .did := by
  rw [history_append, history, history, List.append_nil]

/-- What holds at the beginning and is kept by every step holds after every run. -/
theorem after_induction {settings : Settings} {P : Feed → Prop} (h₀ : P (start settings))
    (hs : ∀ f s, P f → P (f.step s).1) (ss : List Stimulus) : P ((start settings).after ss) := by
  induction ss using List.reverseRecOn with
  | nil => exact h₀
  | append_singleton ss s ih => rw [after_snoc]; exact hs _ s ih

namespace Output

/-- Whether an output only tells of what goes on. -/
def isRemark : Output → Bool
  | .log _ => true
  | .update _ => true
  | _ => false

end Output

namespace Event

/-- Whether the handler of new work is called. -/
def isWork : Event → Bool
  | .did (.work _) => true
  | _ => false

def isPush : Event → Bool
  | .did (.work .push) => true
  | _ => false

/-- Whether a notification comes. -/
def isNotice : Event → Bool
  | .happened _ .notify => true
  | _ => false

/-- Whether the node has answered a sync check, one way or the other. -/
def isAnswer : Event → Bool
  | .happened .checking (.turn _ _ (some (.info _))) => true
  | _ => false

/-- Whether the node has answered to a sync check that it is synced. -/
def isSyncedAnswer : Event → Bool
  | .happened .checking (.turn _ _ (some (.info (.ok info)))) => info.isSynced
  | _ => false

/-- Whether the feed stays where it is, for all that is seen, and asks for nothing. -/
def within (p : Point) : Event → Bool
  | .happened q _ => q = p
  | .did o => o.isRemark

end Event
end WorkBridge.Feed
