import WorkBridge.Proofs.Metrics.Reading

/-!
What a registry shows of requests.

The counters of a kind of request, at a node, show how many ended in success and in failure
(`requests_total`), and the histogram has a sample for each of them and one more for each client
that was made (`requests_samples`).
-/

namespace WorkBridge.Metrics

variable {reg : Registry} {k k' : Key} {n : Nat} {b b' : Bool} {m m' : Method} {node node' : String}

namespace Registry

/-- How many samples a histogram has. -/
def samples (reg : Registry) (k : Key) : Nat :=
  match reg.reading? k with
  | some (.histogram n) => n
  | _ => 0

theorem Shows.samples_eq (h : Shows .histogram reg k n) : reg.samples k = n := by
  unfold samples
  rcases h with h | ⟨h, rfl⟩ <;> rw [h]

theorem Shows.sample (h : Shows .histogram reg k n) :
    Shows .histogram (reg.sample k) k (n + 1) := by
  refine .inl ((reading?_touch ..).trans ?_)
  rcases h with h | ⟨h, rfl⟩ <;> simp [h]

/-- Nothing is added to a counter. -/
theorem Shows.count_zero (h : Counts reg k n) (k' : Key) : Counts (reg.count k' 0) k n := by
  by_cases hk : k = k'
  · subst hk
    exact h.count 0
  · exact h.congr (reading?_count_of_ne hk 0 reg)

end Registry

open Registry

/-! ### Keys -/

theorem label_injective : Function.Injective Method.label := by
  intro m m' h
  cases m <;> cases m' <;> first | rfl | exact absurd h (by decide)

theorem rpcLabels_inj : rpcLabels m node = rpcLabels m' node' ↔ m = m' ∧ node = node' := by
  simp [rpcLabels, label_injective.eq_iff]

theorem durationKey_inj : durationKey m node = durationKey m' node' ↔ m = m' ∧ node = node' := by
  simp [durationKey, rpcLabels_inj]

theorem requestsKey_inj :
    requestsKey b m node = requestsKey b' m' node' ↔ b = b' ∧ m = m' ∧ node = node' := by
  cases b <;> cases b' <;> simp [requestsKey, rpcLabels_inj]

theorem requestsKey_ne_durationKey : requestsKey b m node ≠ durationKey m' node' := by
  cases b <;> simp [requestsKey, durationKey]

theorem requestsKey_mem (b : Bool) (m : Method) (node : String) :
    requestsKey b m node ∈ methodKeys node m := by
  cases b <;> simp [methodKeys]

theorem durationKey_mem (m : Method) (node : String) : durationKey m node ∈ methodKeys node m := by
  simp [methodKeys]

namespace Update

/-- Whether an update tells of requests to a node. -/
def concerns (node : String) : Update → Bool
  | .request _ node' _ => node' = node
  | .clientZero node' => node' = node
  | _ => false

variable {u : Update}

/-- The metrics of requests are touched by nothing else. -/
theorem methodKeys_not_mem (hr : ∀ m node b, u ≠ .request m node b)
    (hz : ∀ node, u ≠ .clientZero node) (hk : k ∈ methodKeys node m) : k ∉ u.keys := by
  have hn : k.name ∉ ["bridge_node_connected", "bridge_node_reconnects_total",
      "bridge_work_ready_total", "bridge_block_template_push_enabled", "bridge_network_hashrate",
      "bridge_network_block_count", "bridge_network_difficulty", "bridge_info"] := by
    simp only [methodKeys, List.mem_cons, List.not_mem_nil, or_false] at hk
    rcases hk with rfl | rfl | rfl <;> simp [requestsKey, durationKey]
  intro hu
  cases u with
  | request m' node' b' => exact hr m' node' b' rfl
  | clientZero node' => exact hz node' rfl
  | _ =>
    refine hn ?_
    simp only [keys, List.mem_cons, List.not_mem_nil, or_false] at hu
    rcases hu with rfl | rfl | rfl <;> simp [connectedKey, reconnectsKey, workReadyKey,
      pushEnabledKey, hashrateKey, blockCountKey, difficultyKey, infoKey]

theorem reading?_methodKeys (hr : ∀ m node b, u ≠ .request m node b)
    (hz : ∀ node, u ≠ .clientZero node) (hk : k ∈ methodKeys node m) (reg : Registry) :
    (u.apply reg).reading? k = reg.reading? k :=
  reading?_apply (methodKeys_not_mem hr hz hk) reg

/-! ### Counters -/

theorem counts_zeroMethods (h : Counts reg (requestsKey b m node) n) (node' : String)
    (ms : List Method) : Counts (ms.foldl (zeroMethod node') reg) (requestsKey b m node) n := by
  induction ms generalizing reg with
  | nil => exact h
  | cons m' ms ih =>
    exact ih (((h.count_zero _).count_zero _).congr
      (reading?_sample_of_ne requestsKey_ne_durationKey _))

theorem requests_counts_apply (h : Counts reg (requestsKey b m node) n) (u : Update) :
    Counts (u.apply reg) (requestsKey b m node) (n + [u].count (.request m node b)) := by
  cases u with
  | request m' node' b' =>
    refine .congr ?_ (reading?_sample_of_ne requestsKey_ne_durationKey _)
    by_cases hk : requestsKey b m node = requestsKey b' m' node'
    · obtain ⟨rfl, rfl, rfl⟩ := requestsKey_inj.mp hk
      simpa using h.count 1
    · have hu : Update.request m' node' b' ≠ .request m node b := by
        rintro ⟨⟩
        exact hk rfl
      simpa [List.count_singleton, hu] using h.congr (reading?_count_of_ne hk 1 reg)
  | clientZero node' =>
    exact ((counts_zeroMethods h node' _).count_zero _).count_zero _
  | _ => exact h.congr (reading?_methodKeys (by simp) (by simp) (requestsKey_mem b m node) reg)

theorem requests_total (us : List Update) (b : Bool) (m : Method) (node : String) :
    Registry.total (us.foldl apply []) (requestsKey b m node) = us.count (.request m node b) := by
  suffices h : Counts (us.foldl apply []) (requestsKey b m node) (us.count (.request m node b)) from
    h.total_eq
  induction us using List.reverseRecOn with
  | nil => exact .inr ⟨rfl, rfl⟩
  | append_singleton us u ih =>
    rw [List.foldl_append, List.count_append]
    exact requests_counts_apply ih u

/-! ### Histograms -/

/-- Whether an update adds a sample for requests of a kind to a node. -/
def samples (m : Method) (node : String) : Update → Bool
  | .request m' node' _ => m' = m && node' = node
  | .clientZero node' => node' = node
  | _ => false

theorem shows_zeroMethods (h : Shows .histogram reg (durationKey m node) n) (node' : String)
    (ms : List Method) : Shows .histogram (ms.foldl (zeroMethod node') reg) (durationKey m node)
      (n + if node' = node then ms.count m else 0) := by
  induction ms generalizing reg n with
  | nil => simpa using h
  | cons m' ms ih =>
    have hc : Shows .histogram ((reg.count (requestsKey true m' node') 0).count
        (requestsKey false m' node') 0) (durationKey m node) n :=
      (h.congr (reading?_count_of_ne requestsKey_ne_durationKey.symm 0 _)).congr
        (reading?_count_of_ne requestsKey_ne_durationKey.symm 0 _)
    by_cases hk : durationKey m node = durationKey m' node'
    · obtain ⟨rfl, rfl⟩ := durationKey_inj.mp hk
      have hs := ih hc.sample
      simpa [zeroMethod, Nat.add_assoc, Nat.add_comm 1] using hs
    · have hs := ih (hc.congr (reading?_sample_of_ne hk _))
      refine cast (congrArg _ ?_) hs
      split
      · rename_i hn
        have hm : m' ≠ m := fun hm => hk (durationKey_inj.mpr ⟨hm.symm, hn.symm⟩)
        rw [List.count_cons_of_ne hm]
      · rfl

theorem shows_apply (h : Shows .histogram reg (durationKey m node) n) (u : Update) :
    Shows .histogram (u.apply reg) (durationKey m node) (n + [u].countP (samples m node)) := by
  cases u with
  | request m' node' b' =>
    have hc : Shows .histogram (reg.count (requestsKey b' m' node') 1) (durationKey m node) n :=
      h.congr (reading?_count_of_ne requestsKey_ne_durationKey.symm 1 _)
    by_cases hk : durationKey m node = durationKey m' node'
    · obtain ⟨rfl, rfl⟩ := durationKey_inj.mp hk
      simpa [samples, apply] using hc.sample
    · have hs : ¬(m' = m ∧ node' = node) := fun hs =>
        hk (durationKey_inj.mpr ⟨hs.1.symm, hs.2.symm⟩)
      simpa [samples, apply, List.countP_singleton, hs] using hc.congr (reading?_sample_of_ne hk _)
  | clientZero node' =>
    have hz := shows_zeroMethods h node' Method.all
    have hm : Method.all.count m = 1 := by cases m <;> decide
    have hs : [Update.clientZero node'].countP (samples m node) =
        if node' = node then 1 else 0 := by simp [samples, List.countP_singleton]
    rw [hm] at hz
    rw [hs]
    exact (hz.congr (reading?_count_of_ne (by simp [durationKey, reconnectsKey]) 0 _)).congr
      (reading?_count_of_ne (by simp [durationKey, reconnectsKey]) 0 _)
  | _ => exact h.congr (reading?_methodKeys (by simp) (by simp) (durationKey_mem m node) reg)

theorem requests_samples (us : List Update) (m : Method) (node : String) :
    Registry.samples (us.foldl apply []) (durationKey m node) = us.countP (samples m node) := by
  suffices h : Shows .histogram (us.foldl apply []) (durationKey m node)
      (us.countP (samples m node)) from h.samples_eq
  induction us using List.reverseRecOn with
  | nil => exact .inr ⟨rfl, rfl⟩
  | append_singleton us u ih =>
    rw [List.foldl_append, List.countP_append]
    exact shows_apply ih u

end Update
end WorkBridge.Metrics
