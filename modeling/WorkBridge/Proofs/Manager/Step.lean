import WorkBridge.Manager

/-!
What can happen to a manager.

`step_moved` says all that an event can do to it.  A start is launched where its wait ends well,
which is only ever with an answer that the node is synced (`synced_of_done`).
-/

namespace WorkBridge

open Node (ClientId)

/-! ### The wait of a start -/

namespace Sync.Wait

variable {w : Wait} {t : Turn} {c : ClientId}

/-- The wait has not ended. -/
def Open (w : Wait) : Prop := ∀ r, w.point ≠ .done r

theorem judge_synced {m : Monitor} {r : Except Node.ClientError Node.Info}
    (h : m.judge r = .synced) : ∃ info, r = .ok info ∧ info.isSynced = true := by
  cases r with
  | ok info =>
    refine ⟨info, rfl, ?_⟩
    cases hs : info.isSynced with
    | true => rfl
    | false => simp [Monitor.judge, hs] at h
  | error e =>
    unfold Monitor.judge at h
    dsimp only at h
    split at h <;> cases h

theorem ask_point (w : Wait) (slot : Option ClientId) :
    (slot = none ∧ w.ask slot = (w.finish (.error .notConnected), [])) ∨
      ∃ c, slot = some c ∧ w.ask slot = ({ w with point := .asking c }, [.ask c]) := by
  cases slot with
  | none => exact .inl ⟨rfl, rfl⟩
  | some c => exact .inr ⟨c, rfl, rfl⟩

/-- A wait only ends well with an answer that the node is synced. -/
theorem synced_of_done (hw : w.Open) (h : (w.step t).1.point = .done (.ok ())) :
    ∃ c info, w.point = .asking c ∧ t.answer = some (.ok info) ∧ info.isSynced = true := by
  unfold step at h
  split at h
  · rcases ask_point w t.slot with ⟨-, ha⟩ | ⟨c, -, ha⟩ <;> simp [ha, finish] at h
  · rename_i c hp
    split at h
    · exact absurd h (hw _)
    · rename_i r ha
      split at h
      · rename_i hj
        obtain ⟨info, rfl, hs⟩ := judge_synced hj
        exact ⟨c, info, hp, ha, hs⟩
      · simp [finish] at h
      · split at h <;> simp [finish] at h
  · split at h
    · simp [finish] at h
    · split at h
      · rcases ask_point w t.slot with ⟨-, ha⟩ | ⟨c, -, ha⟩ <;> simp [ha, finish] at h
      · exact absurd h (hw _)
  · rename_i r hp
    exact absurd hp (hw r)

/-- A question that is under way was under way before, or is asked now of the client in the
slot. -/
theorem asked_of_asking (h : (w.step t).1.point = .asking c) :
    w.point = .asking c ∨ t.slot = some c ∧ .ask c ∈ (w.step t).2 := by
  have asks (out : List Output) (hs : (w.ask t.slot).1.point = .asking c) :
      t.slot = some c ∧ .ask c ∈ out ++ (w.ask t.slot).2 := by
    rcases ask_point w t.slot with ⟨-, ha⟩ | ⟨c', hslot, ha⟩
    · simp [ha, finish] at hs
    · rw [ha] at hs ⊢
      cases hs
      exact ⟨hslot, by simp⟩
  unfold step at h ⊢
  split at h
  · exact .inr (asks _ h)
  · rename_i c' hp
    split at h
    · exact .inl h
    · split at h
      · cases h
      · cases h
      · split at h <;> cases h
  · split at h
    · cases h
    · split at h
      · rename_i hc hn
        refine .inr ?_
        rw [if_neg hc, if_pos hn]
        exact asks [] h
      · exact .inl h
  · exact .inl h

end Sync.Wait

/-! ### The manager -/

namespace Manager

/-- What comes only while a call waits for it. -/
def ignores (m : Manager) : Event → Prop
  | .turn _ => ∀ token wait, m.call ≠ .starting token wait
  | .joined _ _ => m.call ≠ .joining
  | .closed => m.call ≠ .closing
  | _ => False

inductive Moved (m : Manager) : Event → Manager × List Output → Prop
  | ignored (e : Event) (he : m.ignores e) : Moved m e (m, [])
  | refused (token : Token) (ht : m.token.isSome = true) :
    Moved m (.start token) (m, [.started (.error .alreadyStarted)])
  | begun (token : Token) (ht : m.token = none) :
    Moved m (.start token) ({ m with token := some token, call := .starting token m.wait }, [])
  | gaveUp : Moved m .giveUp ({ m with call := .idle }, [])
  | waits (t : Sync.Wait.Turn) (token : Token) (wait : Sync.Wait)
      (hc : m.call = .starting token wait) (hw : (wait.step t).1.Open) :
    Moved m (.turn t)
      ({ m with call := .starting token (wait.step t).1 }, (wait.step t).2.map .ofWait)
  | failed (t : Sync.Wait.Turn) (token : Token) (wait : Sync.Wait) (e : Node.Error)
      (hc : m.call = .starting token wait) (hw : (wait.step t).1.point = .done (.error e)) :
    Moved m (.turn t)
      ({ m with call := .idle }, (wait.step t).2.map .ofWait ++ [.started (.error (.node e))])
  | launched (t : Sync.Wait.Turn) (token : Token) (wait : Sync.Wait)
      (hc : m.call = .starting token wait) (hw : (wait.step t).1.point = .done (.ok ())) :
    Moved m (.turn t)
      ((m.launch token).1, (wait.step t).2.map .ofWait ++ (m.launch token).2)
  | shutDown : Moved m .shutDown m.shutDown
  | joined (t : Task) (broken : Bool) (hc : m.call = .joining) :
    Moved m (.joined t broken) (m.joined t broken)
  | closed (hc : m.call = .closing) :
    Moved m .closed
      ({ m with call := .idle }, [.log (entry .info "Node manager stopped" []), .stopped])

theorem step_moved (m : Manager) (e : Event) : Moved m e (m.step e) := by
  cases e with
  | start token =>
    unfold step start
    dsimp only
    split
    · exact .refused token ‹_›
    · rename_i ht
      exact .begun token (by simpa using ht)
  | shutDown => exact .shutDown
  | giveUp => exact .gaveUp
  | turn t =>
    unfold step
    dsimp only
    split
    · rename_i token wait hc
      unfold proceed
      dsimp only
      split
      · exact .launched t token wait hc ‹_›
      · exact .failed t token wait _ hc ‹_›
      · rename_i hok herr
        refine (List.append_nil ((wait.step t).2.map Output.ofWait)).symm ▸
          Moved.waits t token wait hc ?_
        intro r hr
        cases r with
        | ok u => exact hok hr
        | error e => exact herr e hr
    · exact .ignored _ ‹_›
  | joined t broken =>
    unfold step
    dsimp only
    split
    · exact .joined t broken ‹_›
    · exact .ignored _ ‹_›
  | closed =>
    unfold step
    dsimp only
    split
    · exact .closed ‹_›
    · exact .ignored _ ‹_›

/-- Shutting down closes the connection at once where there is no task left, and waits for the
ends of the tasks otherwise. -/
theorem closeAfterTasks_cases (m : Manager) :
    (m.tasks = [] ∧ m.closeAfterTasks = ({ m with call := .closing }, [.close])) ∨
      (m.tasks ≠ [] ∧ m.closeAfterTasks = ({ m with call := .joining }, [])) := by
  unfold closeAfterTasks
  cases ht : m.tasks with
  | nil => exact .inl ⟨rfl, rfl⟩
  | cons t ts => exact .inr ⟨nofun, rfl⟩

theorem stopped_mem {e : Event} {m : Manager} (h : .stopped ∈ (m.step e).2) :
    e = .closed ∧ m.call = .closing := by
  have hm := m.step_moved e
  generalize m.step e = r at hm h
  have waited {out : List Sync.Wait.Output} : .stopped ∉ out.map Output.ofWait := by
    intro ho
    obtain ⟨o, -, ho⟩ := List.mem_map.mp ho
    cases o <;> cases ho
  cases hm with
  | ignored e he => cases h
  | refused token ht => simp at h
  | begun token ht => cases h
  | gaveUp => cases h
  | waits t token wait hc hw => exact absurd h waited
  | failed t token wait e hc hw => simp [waited] at h
  | launched t token wait hc hw => simp [waited, launch] at h
  | shutDown =>
    rcases m.closeAfterTasks_cases with ⟨-, hc⟩ | ⟨-, hc⟩ <;>
    · rw [shutDown, hc] at h
      cases m.token <;> simp at h
  | joined t broken hc =>
    rcases closeAfterTasks_cases { m with tasks := m.tasks.erase t } with ⟨-, hm⟩ | ⟨-, hm⟩ <;>
    · rw [joined, hm] at h
      cases broken <;> simp at h
  | closed hc => exact ⟨rfl, hc⟩

end Manager
end WorkBridge
