import WorkBridge.Dialogue.World
import WorkBridge.Proofs.Link.Silence

/-!
What a forwarder makes of the items of its stream.

Items come and the stream ends at any time between the turns of the forwarder.  Of the items that
came before the end it takes one after another, each with one call of the handler (`takes`), and
takes them all if it gets turns enough (`takes_all`).
-/

namespace WorkBridge.Link.Forwarder

open Dialogue.World (itemOf)

/-- What happens to a forwarder whose registration is not ended. -/
inductive Stimulus
  | item (payload : Json.Draft)
  /-- No item comes any more. -/
  | ended
  | turn (b : Branch)

def Stimulus.isEnd : Stimulus → Bool
  | .ended => true
  | _ => false

def step (f : Forwarder) : Stimulus → Forwarder × List Output
  | .item payload => (f.push (itemOf payload), [])
  | .ended => ({ f with ended := true }, [])
  | .turn b => f.turn b

def after (f : Forwarder) (ss : List Stimulus) : Forwarder := ss.foldl (fun f s => (f.step s).1) f

def outputs (f : Forwarder) : List Stimulus → List Output
  | [] => []
  | s :: rest => (f.step s).2 ++ outputs (f.step s).1 rest

/-- The items that come, up to the end of the stream. -/
def items : List Stimulus → List Item
  | [] => []
  | .item payload :: rest => itemOf payload :: items rest
  | .ended :: _ => []
  | .turn _ :: rest => items rest

variable {f : Forwarder}

theorem outputs_append (f : Forwarder) (ss ts : List Stimulus) :
    f.outputs (ss ++ ts) = f.outputs ss ++ (f.after ss).outputs ts := by
  induction ss generalizing f with
  | nil => rfl
  | cons s ss ih =>
    rw [List.cons_append, outputs, outputs, ih, List.append_assoc]
    rfl

theorem ended_after (f : Forwarder) (ss : List Stimulus) :
    (f.after ss).ended = (f.ended || ss.any Stimulus.isEnd) := by
  induction ss generalizing f with
  | nil => simp [after]
  | cons s ss ih =>
    have hstep : (f.step s).1.ended = (f.ended || s.isEnd) := by
      cases s with
      | item payload =>
        unfold step push
        dsimp only
        split <;> simp [Stimulus.isEnd]
      | ended => simp [step, Stimulus.isEnd]
      | turn b => exact (ended_turn f b).trans (Bool.or_false _).symm
    show ((f.step s).1.after ss).ended = _
    rw [ih, hstep, List.any_cons, Bool.or_assoc]

theorem cancelled_after (f : Forwarder) (ss : List Stimulus) :
    (f.after ss).cancelled = f.cancelled := by
  induction ss generalizing f with
  | nil => rfl
  | cons s ss ih =>
    have hstep : (f.step s).1.cancelled = f.cancelled := by
      cases s with
      | item payload =>
        unfold step push
        dsimp only
        split <;> rfl
      | ended => rfl
      | turn b => exact cancelled_turn f b
    exact (ih _).trans hstep

/-- Every item is a call of the handler. -/
theorem count_handle (is : List Item) {rest : List Output} (h : .handle ∉ rest) :
    (is.flatMap dispatch ++ rest).count .handle = is.length := by
  induction is with
  | nil => exact List.count_eq_zero_of_not_mem h
  | cons i is ih =>
    rw [List.flatMap_cons, List.append_assoc, List.count_append, ih]
    cases i <;> exact Nat.add_comm 1 is.length

/-- A forwarder that has stopped at the end of its stream does nothing any more. -/
theorem stays_stopped (hr : f.running = false) (he : f.ended = true) (ss : List Stimulus) :
    f.after ss = f ∧ f.outputs ss = [] := by
  induction ss with
  | nil => exact ⟨rfl, rfl⟩
  | cons s ss ih =>
    have hstep : f.step s = (f, []) := by
      cases s with
      | item payload => simp [step, push, he]
      | ended => simp [step, ← he]
      | turn b => simp [step, turn, hr]
    refine ⟨?_, ?_⟩
    · show (f.step s).1.after ss = f
      rw [hstep]
      exact ih.1
    · rw [outputs, hstep]
      exact ih.2

/-- What a forwarder makes of some items: it takes them in their order, and has stopped only if it
has taken them all and knows that no more come. -/
def Takes (is : List Item) (g : Forwarder) (out : List Output) : Prop :=
  ∃ taken, is = taken ++ g.queue ∧
    out = taken.flatMap dispatch ++ (if g.running then [] else [.closed]) ∧
    (g.running = false → g.queue = [] ∧ g.ended = true)

/-- The items that wait and those that come are taken in their order. -/
theorem takes (hc : f.cancelled = false) (hr : f.running = true) (ss : List Stimulus) :
    Takes (f.queue ++ if f.ended then [] else items ss) (f.after ss) (f.outputs ss) := by
  induction ss generalizing f with
  | nil => exact ⟨[], by simp [items, after], by simp [outputs, after, hr], by simp [after, hr]⟩
  | cons s ss ih =>
    obtain ⟨queue, ended, cancelled, running⟩ := f
    cases hc
    cases hr
    cases s with
    | item payload =>
      cases ended with
      | true => exact ih rfl rfl
      | false =>
        have hrest := ih (f := ⟨queue ++ [itemOf payload], false, false, true⟩) rfl rfl
        have hitems : queue ++ [itemOf payload] ++ items ss =
            queue ++ items (.item payload :: ss) := by simp [items]
        show Takes (queue ++ items (.item payload :: ss)) _ _
        rw [← hitems]
        exact hrest
    | ended =>
      have hitems : (if ended then [] else items (.ended :: ss)) = ([] : List Item) := by
        cases ended <;> rfl
      have hrest := ih (f := ⟨queue, true, false, true⟩) rfl rfl
      rw [hitems]
      exact hrest
    | turn b =>
      cases b with
      | cancellation => exact ih (f := ⟨queue, ended, false, true⟩) rfl rfl
      | stream =>
        cases queue with
        | cons item rest =>
          obtain ⟨taken, his, hout, hstop⟩ := ih (f := ⟨rest, ended, false, true⟩) rfl rfl
          refine ⟨item :: taken, congrArg (item :: ·) his, ?_, hstop⟩
          rw [List.flatMap_cons, List.append_assoc]
          exact congrArg (dispatch item ++ ·) hout
        | nil =>
          cases ended with
          | false => exact ih (f := ⟨[], false, false, true⟩) rfl rfl
          | true =>
            obtain ⟨hafter, hout⟩ := stays_stopped (f := ⟨[], true, false, false⟩) rfl rfl ss
            have hafter' : after ⟨[], true, false, true⟩ (.turn .stream :: ss) =
                ⟨[], true, false, false⟩ := hafter
            have hout' : outputs ⟨[], true, false, true⟩ (.turn .stream :: ss) = [.closed] :=
              congrArg ([Output.closed] ++ ·) hout
            rw [hafter', hout']
            exact ⟨[], rfl, rfl, fun _ => ⟨rfl, rfl⟩⟩

/-- With turns enough it takes all that wait, and sees the end of the stream. -/
theorem takes_waiting (hc : f.cancelled = false) (hr : f.running = true) :
    f.outputs (List.replicate (f.queue.length + 1) (.turn .stream)) =
      f.queue.flatMap dispatch ++ if f.ended then [.closed] else [] := by
  obtain ⟨queue, ended, cancelled, running⟩ := f
  cases hc
  cases hr
  induction queue with
  | nil => cases ended <;> rfl
  | cons item rest ih =>
    rw [List.length_cons, List.replicate_succ, outputs, List.flatMap_cons, List.append_assoc, ← ih]
    rfl

/-- So a fresh forwarder takes every item once. -/
theorem takes_all (ss : List Stimulus) :
    let f := ({} : Forwarder).after ss
    outputs {} (ss ++ List.replicate (f.queue.length + 1) (.turn .stream)) =
      (items ss).flatMap dispatch ++ if ss.any Stimulus.isEnd then [.closed] else [] := by
  intro f
  have hended : f.ended = ss.any Stimulus.isEnd := ended_after {} ss
  obtain ⟨taken, his, hout, hstop⟩ := takes (f := {}) rfl rfl ss
  have hitems : items ss = taken ++ f.queue := his
  have hout' : outputs {} ss = taken.flatMap dispatch ++ (if f.running then [] else [.closed]) :=
    hout
  rw [outputs_append, show after {} ss = f from rfl, hout', hitems, ← hended]
  cases hr : f.running with
  | true =>
    have hrest : f.outputs (List.replicate (f.queue.length + 1) (.turn .stream)) =
        f.queue.flatMap dispatch ++ if f.ended then [.closed] else [] :=
      takes_waiting (cancelled_after {} ss) hr
    rw [hrest, List.flatMap_append, if_pos rfl, List.append_nil, List.append_assoc]
  | false =>
    obtain ⟨hqueue, he⟩ := hstop hr
    have hqueue' : f.queue = [] := hqueue
    have he' : f.ended = true := he
    rw [(stays_stopped hr he _).2, hqueue', he']
    simp

end WorkBridge.Link.Forwarder
