import CveManagement.Webhooks.Deliveries

/-!
# What overlapping workers cannot do

The lock of a delivery runs out after a minute, and a slow task may still be at work when the
delivery is claimed again. What bounds the POSTs is `attempts`: every claim counts it up, no
statement counts it down, and a claim makes one task, which makes one POST at most. So the tasks
of a delivery are no more than its `attempts` (`CveManagement.WebhookQueue.Sound`), whatever they
do and however long they take. And no statement takes `delivered_at` back.
-/

namespace CveManagement

namespace WebhookQueue

open Trajectory

/-- **The tasks are accounted for.** -/
structure Sound (s : WebhookQueue) : Prop where
  attempts_le : ∀ d ∈ s.deliveries.rows, d.attempts ≤ d.maxAttempts
  tasks_le : ∀ d ∈ s.deliveries.rows,
    (s.tasks.map DeliveryTask.deliveryId).count d.id ≤ d.attempts
  posts_le : ∀ t ∈ s.tasks, t.posts + t.actions.count .post ≤ 1
  known : ∀ t ∈ s.tasks, ∃ d ∈ s.deliveries.rows,
    d.id = t.deliveryId ∧ d.maxAttempts = t.maxAttempts

/-- **What the queue keeps**: of each delivery, the POSTs and the attempts are in bounds. -/
def Bounded (s : WebhookQueue) : Prop :=
  ∀ d ∈ s.deliveries.rows, s.posts d.id ≤ d.maxAttempts ∧ d.attempts ≤ d.maxAttempts

/-- The delivery is done. -/
def Delivered (s : WebhookQueue) (id : ℕ) : Prop :=
  ∃ d, s.deliveries.get? id = some d ∧ d.deliveredAt.isSome = true

section Step

variable {s : WebhookQueue} {d : WebhookDelivery} {t t' : DeliveryTask} {i id : ℕ} {now : Instant}
  {jitter : Jitter} {order : RowOrder WebhookDelivery} {locked : ℕ → Bool}

/-- The tasks of a delivery make one POST each at most. -/
theorem posts_le_count (h : ∀ t ∈ s.tasks, t.posts + t.actions.count .post ≤ 1) (id : ℕ) :
    s.posts id ≤ (s.tasks.map DeliveryTask.deliveryId).count id := by
  have hone : ∀ n ∈ (s.tasks.filter fun t => t.deliveryId == id).map DeliveryTask.posts, n ≤ 1 := by
    intro n hn
    obtain ⟨t, ht, rfl⟩ := List.mem_map.mp hn
    have hle := h t (List.mem_of_mem_filter ht)
    omega
  have hsum := List.sum_le_card_nsmul _ 1 hone
  rw [List.length_map, smul_eq_mul, mul_one] at hsum
  rw [posts, List.count_eq_countP, List.countP_map, List.countP_eq_length_filter]
  exact hsum

/-- **Soundness bounds the POSTs.** -/
theorem Sound.bounded (h : Sound s) : Bounded s := fun d hd =>
  ⟨((posts_le_count h.posts_le d.id).trans (h.tasks_le d hd)).trans (h.attempts_le d hd),
    h.attempts_le d hd⟩

/-! ### The claim -/

/-- **What is picked is due.** -/
theorem of_mem_pick (h : d ∈ s.pick now order locked) :
    d ∈ s.deliveries.rows ∧ d.due now = true := by
  have hmem : d ∈ order.arrange (s.deliveries.select fun d => d.due now && !locked d.id) :=
    (List.mem_insertionSort _).mp (List.mem_of_mem_take h)
  obtain ⟨hrow, hcond⟩ := Table.mem_select.mp ((order.perm _).mem_iff.mp hmem)
  exact ⟨hrow, (Bool.and_eq_true_iff.mp hcond).1⟩

theorem due_iff : d.due now = true ↔ d.deliveredAt = none ∧ d.attempts < d.maxAttempts ∧
    d.scheduledAt ≤ now ∧ ∀ t, d.lockedUntil = some t → t ≤ now := by
  simp only [WebhookDelivery.due, Bool.and_eq_true, Option.isNone_iff_eq_none, decide_eq_true_eq,
    Option.all_eq_true, and_assoc]

/-- A delivery is picked once. -/
theorem nodup_pick (s : WebhookQueue) (now : Instant) (order : RowOrder WebhookDelivery)
    (locked : ℕ → Bool) : ((s.pick now order locked).map WebhookDelivery.id).Nodup := by
  have hperm := ((List.perm_insertionSort (fun a b => WebhookDelivery.before a b = true)
    (order.arrange (s.deliveries.select fun d => d.due now && !locked d.id))).trans
    (order.perm _)).map WebhookDelivery.id
  have hselect : ((s.deliveries.select fun d => d.due now && !locked d.id).map
      WebhookDelivery.id).Nodup :=
    s.deliveries.nodup.sublist (List.filter_sublist.map _)
  exact (hperm.nodup_iff.mpr hselect).sublist ((List.take_sublist _ _).map _)

/-- A row after a claim: counted up if it was picked, and as it was if not. -/
theorem mem_update_claim (hd : d ∈ (s.deliveries.update
    (fun d => ((s.pick now order locked).map WebhookDelivery.id).contains d.id)
    (WebhookDelivery.claim now)).rows) :
    (∃ r ∈ s.pick now order locked, d = (WebhookDelivery.claim now).set r) ∨
      d ∈ s.deliveries.rows ∧ d.id ∉ (s.pick now order locked).map WebhookDelivery.id := by
  obtain ⟨r, hr, rfl⟩ := Table.mem_update.mp hd
  by_cases hpicked : r.id ∈ (s.pick now order locked).map WebhookDelivery.id
  · rw [if_pos (by simpa using hpicked)]
    obtain ⟨r', hr', hid⟩ := List.mem_map.mp hpicked
    rw [Table.eq_of_key (of_mem_pick hr').1 hr hid] at hr'
    exact .inl ⟨r, hr', rfl⟩
  · rw [if_neg (by simpa using hpicked)]
    exact .inr ⟨hr, hpicked⟩

theorem sound_claim (h : Sound s) (env : ℕ → AttemptEnv) :
    Sound (step s (.claim now order locked env)) := by
  have hids : ((s.pick now order locked).map (newTask env)).map DeliveryTask.deliveryId =
      (s.pick now order locked).map WebhookDelivery.id := by
    rw [List.map_map]
    rfl
  refine ⟨fun d hd => ?_, fun d hd => ?_, fun t ht => ?_, fun t ht => ?_⟩
  · rcases mem_update_claim hd with ⟨r, hr, rfl⟩ | ⟨hd, -⟩
    · exact (due_iff.mp (of_mem_pick hr).2).2.1
    · exact h.attempts_le d hd
  · rw [step, List.map_append, hids, List.count_append]
    rcases mem_update_claim hd with ⟨r, hr, rfl⟩ | ⟨hd, hnot⟩
    · -- one more task, and one more attempt
      have hold := h.tasks_le r (of_mem_pick hr).1
      have hnew := List.nodup_iff_count_le_one.mp (nodup_pick s now order locked) r.id
      exact add_le_add hold hnew
    · rw [List.count_eq_zero_of_not_mem hnot]
      exact h.tasks_le d hd
  · rcases List.mem_append.mp ht with ht | ht
    · exact h.posts_le t ht
    · obtain ⟨r, -, rfl⟩ := List.mem_map.mp ht
      have hone := count_post_attemptDelivery (env r.id)
      exact (Nat.zero_add _).trans_le hone
  · have hkeep : ∀ r ∈ s.deliveries.rows,
        ∃ d ∈ (step s (.claim now order locked env)).deliveries.rows,
          d.id = r.id ∧ d.maxAttempts = r.maxAttempts := by
      intro r hr
      refine ⟨_, Table.mem_update.mpr ⟨r, hr, rfl⟩, ?_⟩
      split_ifs
      · exact ⟨rfl, rfl⟩
      · exact ⟨rfl, rfl⟩
    rcases List.mem_append.mp ht with ht | ht
    · obtain ⟨r, hr, hid, hmax⟩ := h.known t ht
      obtain ⟨d, hd, hdr, hdmax⟩ := hkeep r hr
      exact ⟨d, hd, hdr.trans hid, hdmax.trans hmax⟩
    · obtain ⟨r, hr, rfl⟩ := List.mem_map.mp ht
      exact hkeep r (of_mem_pick hr).1

/-! ### The tasks -/

/-- A statement that does not count attempts keeps the queue sound. -/
theorem sound_update (h : Sound s) (c : Table.Assignment WebhookDelivery.id)
    (hc : ∀ d, (c.set d).attempts = d.attempts ∧ (c.set d).maxAttempts = d.maxAttempts) :
    Sound (s.update id c) := by
  have hrow : ∀ d' ∈ (s.update id c).deliveries.rows, ∃ d ∈ s.deliveries.rows,
      d'.id = d.id ∧ d'.attempts = d.attempts ∧ d'.maxAttempts = d.maxAttempts := by
    intro d' hd'
    obtain ⟨d, hd, rfl⟩ := Table.mem_update.mp hd'
    refine ⟨d, hd, ?_⟩
    split_ifs
    · exact ⟨c.key_set d, hc d⟩
    · exact ⟨rfl, rfl, rfl⟩
  refine ⟨fun d' hd' => ?_, fun d' hd' => ?_, h.posts_le, fun t ht => ?_⟩
  · obtain ⟨d, hd, -, hattempts, hmax⟩ := hrow d' hd'
    rw [hattempts, hmax]
    exact h.attempts_le d hd
  · obtain ⟨d, hd, hid, hattempts, -⟩ := hrow d' hd'
    rw [hid, hattempts]
    exact h.tasks_le d hd
  · obtain ⟨d, hd, hid, hmax⟩ := h.known t ht
    refine ⟨_, Table.mem_update.mpr ⟨d, hd, rfl⟩, ?_⟩
    split_ifs
    · exact ⟨(c.key_set d).trans hid, (hc d).2.trans hmax⟩
    · exact ⟨hid, hmax⟩

/-- A task that goes on for the same delivery keeps the queue sound, if it makes no POST too
many. -/
theorem sound_setTask (h : Sound s) (hi : s.tasks[i]? = some t)
    (hid : t'.deliveryId = t.deliveryId) (hmax : t'.maxAttempts = t.maxAttempts)
    (hposts : t'.posts + t'.actions.count .post ≤ 1) : Sound (s.setTask i t') := by
  have hids : (s.setTask i t').tasks.map DeliveryTask.deliveryId =
      s.tasks.map DeliveryTask.deliveryId := by
    rw [setTask, List.map_set, hid]
    refine List.ext_getElem? fun k => ?_
    rw [List.getElem?_set]
    split_ifs with hk hlt
    · rw [← hk, List.getElem?_map, hi]
      rfl
    · rw [← hk, List.getElem?_eq_none (not_lt.mp hlt)]
    · rfl
  have hmem : ∀ u ∈ (s.setTask i t').tasks, u = t' ∨ u ∈ s.tasks := fun u hu =>
    (List.mem_or_eq_of_mem_set hu).symm
  refine ⟨h.attempts_le, fun d hd => ?_, fun u hu => ?_, fun u hu => ?_⟩
  · rw [hids]
    exact h.tasks_le d hd
  · rcases hmem u hu with rfl | hu
    · exact hposts
    · exact h.posts_le u hu
  · rcases hmem u hu with rfl | hu
    · rw [hid, hmax]
      exact h.known t (List.mem_of_getElem? hi)
    · exact h.known u hu

theorem sound_perform (h : Sound s) (t : DeliveryTask) (a : DeliveryAction) :
    Sound (s.perform t now jitter a) := by
  cases a with
  | post => exact h
  | markSuccess statusCode responseBody => exact sound_update h _ fun _ => ⟨rfl, rfl⟩
  | recordFailure statusCode error responseBody => exact sound_update h _ fun _ => ⟨rfl, rfl⟩
  | bumpWebhook error => exact h

theorem tasks_perform (s : WebhookQueue) (t : DeliveryTask) (a : DeliveryAction) :
    (s.perform t now jitter a).tasks = s.tasks := by
  cases a <;> rfl

theorem sound_enqueue (h : Sound s) (webhookId maxAttempts : ℕ) (now : Instant) :
    Sound (step s (.enqueue webhookId maxAttempts now)) := by
  refine ⟨fun d hd => ?_, fun d hd => ?_, h.posts_le, fun t ht => ?_⟩
  · rcases List.mem_append.mp hd with hd | hd
    · exact h.attempts_le d hd
    · rw [List.mem_singleton.mp hd]
      exact Nat.zero_le _
  · rcases List.mem_append.mp hd with hd | hd
    · exact h.tasks_le d hd
    · -- the id is new, and no task has it
      have hfresh : s.deliveries.seq ∉ s.tasks.map DeliveryTask.deliveryId := by
        intro hmem
        obtain ⟨t, ht, hid⟩ := List.mem_map.mp hmem
        obtain ⟨r, hr, hrid, -⟩ := h.known t ht
        exact absurd (s.deliveries.key_lt r hr) (by omega)
      rw [List.mem_singleton.mp hd]
      exact (List.count_eq_zero_of_not_mem hfresh).le
  · obtain ⟨d, hd, hid⟩ := h.known t ht
    exact ⟨d, List.mem_append_left _ hd, hid⟩

/-- **What an action does**: nothing, if there is no task or none of its actions is left; or what
the action does to the table, and the task goes on. -/
theorem step_act_cases (s : WebhookQueue) (i : ℕ) (now : Instant) (jitter : Jitter) :
    step s (.act i now jitter) = s ∨
      ∃ t a rest, s.tasks[i]? = some t ∧ t.actions = a :: rest ∧
        step s (.act i now jitter) = (s.perform t now jitter a).setTask i (t.advance a rest) := by
  rw [step]
  cases hi : s.tasks[i]? with
  | none => exact .inl rfl
  | some t =>
    cases hactions : t.actions with
    | nil =>
      simp only [hactions]
      exact .inl trivial
    | cons a rest =>
      simp only [hactions]
      exact .inr ⟨t, a, rest, rfl, hactions, rfl⟩

/-- **Every step keeps the tasks accounted for.** -/
theorem sound_step (s : WebhookQueue) (e : Event) (h : Sound s) : Sound (step s e) := by
  cases e with
  | enqueue webhookId maxAttempts now => exact sound_enqueue h webhookId maxAttempts now
  | claim now order locked env => exact sound_claim h env
  | act i now jitter =>
    rcases step_act_cases s i now jitter with hs | ⟨t, a, rest, hi, hactions, hs⟩
    · rw [hs]
      exact h
    · rw [hs]
      have hle := h.posts_le t (List.mem_of_getElem? hi)
      have hi' : (s.perform t now jitter a).tasks[i]? = some t := by
        rw [tasks_perform]
        exact hi
      refine sound_setTask (sound_perform h t a) hi' rfl rfl ?_
      -- a POST that is made is no longer to be made
      rw [hactions, List.count_cons] at hle
      simp only [beq_iff_eq] at hle
      simp only [DeliveryTask.advance]
      omega
  | raise i error =>
    rw [step]
    cases hi : s.tasks[i]? with
    | none => exact h
    | some t =>
      have hle := h.posts_le t (List.mem_of_getElem? hi)
      refine sound_setTask h hi ?_ ?_ ?_
      · unfold DeliveryTask.raise
        split_ifs <;> rfl
      · unfold DeliveryTask.raise
        split_ifs <;> rfl
      · unfold DeliveryTask.raise
        split_ifs
        · simp only [List.count_nil]
          omega
        · simp only [List.count_singleton, reduceCtorEq, beq_iff_eq, if_false]
          omega
  | crash i =>
    rw [step]
    cases hi : s.tasks[i]? with
    | none => exact h
    | some t =>
      have hle := h.posts_le t (List.mem_of_getElem? hi)
      refine sound_setTask h hi rfl rfl ?_
      simp only [List.count_nil]
      omega

/-! ### Delivered deliveries -/

/-- A statement that does not clear `delivered_at` keeps what is delivered. -/
theorem delivered_table {table : Table WebhookDelivery WebhookDelivery.id}
    {p : WebhookDelivery → Bool} {c : Table.Assignment WebhookDelivery.id}
    (hc : ∀ d, d.deliveredAt.isSome = true → (c.set d).deliveredAt.isSome = true)
    (h : ∃ d, table.get? id = some d ∧ d.deliveredAt.isSome = true) :
    ∃ d, (table.update p c).get? id = some d ∧ d.deliveredAt.isSome = true := by
  obtain ⟨d, hd, hsome⟩ := h
  refine ⟨_, by rw [Table.get?_update, hd, Option.map_some], ?_⟩
  split_ifs
  · exact hc d hsome
  · exact hsome

/-- **No step takes a delivery back.** -/
theorem delivered_step (s : WebhookQueue) (e : Event) (h : Delivered s id) :
    Delivered (step s e) id := by
  cases e with
  | enqueue webhookId maxAttempts now =>
    obtain ⟨d, hd, hsome⟩ := h
    have hlt := s.deliveries.key_lt d (Table.get?_eq_some.mp hd).1
    rw [(Table.get?_eq_some.mp hd).2] at hlt
    have hget := Table.get?_insert s.deliveries (WebhookDelivery.new webhookId maxAttempts now)
      (fun _ => rfl) id
    rw [if_neg (Nat.ne_of_lt hlt)] at hget
    exact ⟨d, hget.trans hd, hsome⟩
  | claim now order locked env => exact delivered_table (fun _ hsome => hsome) h
  | act i now jitter =>
    rcases step_act_cases s i now jitter with hs | ⟨t, a, rest, -, -, hs⟩
    · rw [hs]
      exact h
    · rw [hs]
      cases a with
      | post => exact h
      | markSuccess statusCode responseBody => exact delivered_table (fun _ _ => rfl) h
      | recordFailure statusCode error responseBody =>
        exact delivered_table (fun _ hsome => hsome) h
      | bumpWebhook error => exact h
  | raise i error =>
    rw [step]
    cases s.tasks[i]? with
    | none => exact h
    | some t => exact h
  | crash i =>
    rw [step]
    cases s.tasks[i]? with
    | none => exact h
    | some t => exact h

/-- **What is delivered is not claimed.** -/
theorem not_mem_claims (h : Delivered s id) (e : Event) : id ∉ s.claims e := by
  cases e with
  | claim now order locked env =>
    intro hmem
    obtain ⟨r, hr, hid⟩ := List.mem_map.mp hmem
    obtain ⟨hrow, hdue⟩ := of_mem_pick hr
    obtain ⟨d, hd, hsome⟩ := h
    rw [← hid, Table.get?_of_mem hrow] at hd
    rw [← Option.some.inj hd, (due_iff.mp hdue).1] at hsome
    exact absurd hsome (by decide)
  | _ => exact List.not_mem_nil

end Step

theorem sound_start : Sound start :=
  ⟨fun _ h => absurd h List.not_mem_nil, fun _ h => absurd h List.not_mem_nil,
    fun _ h => absurd h List.not_mem_nil, fun _ h => absurd h List.not_mem_nil⟩

theorem sound_run (l : List Event) : Sound (run step start l) :=
  (throughout_of_step sound_step sound_start l).last

/-- **Deliveries are bounded, and stay delivered**: in every run, in every state, the POSTs made
for a delivery and its attempts are at most its `max_attempts`; and once it is delivered it stays
so and is not claimed again. -/
theorem bounded_throughout (l : List Event) :
    Throughout step Bounded start l ∧
      ∀ l₁ l₂, l = l₁ ++ l₂ → ∀ id, Delivered (run step start l₁) id →
        Throughout step (fun s => Delivered s id) (run step start l₁) l₂ ∧
          AllSteps step (fun s e => id ∉ s.claims e) (run step start l₁) l₂ := by
  refine ⟨(throughout_of_step sound_step sound_start l).mono fun _ h => h.bounded, ?_⟩
  intro l₁ l₂ _ id h
  have hstays := throughout_of_step (fun s e hs => delivered_step s e hs) h l₂
  exact ⟨hstays, hstays.allSteps fun s e hs => not_mem_claims hs e⟩

end WebhookQueue

end CveManagement
