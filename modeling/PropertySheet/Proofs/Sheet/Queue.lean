import PropertySheet.Proofs.Sheet.Tokens

/-!
# What is in the queue is still wanted

A request waits in two places: in the queue until the application takes it, and among the pending
ones until its response comes. A call that empties the sheet clears both. Leaving the creation of a
service forgets its pending requests only, so one that is still in the queue is handed over although
nobody waits for its response any more.

`SparesQueue` rules such calls out. `taken_are_pending` says that then whatever the application
takes is pending, and that no weaker condition would do. An application that takes the requests
after each call meets it at once, as the queue is then empty.
-/

namespace PropertySheet

instance (t : Token) : ∀ op : Operation, Decidable (op.Answers t)
  | .complete r => inferInstanceAs (Decidable (r.token = t))
  | .load _ _ _ | .clear | .destroy | .saveRow | .cancelEdit | .resize _ | .setGroup _ | .select _
  | .activate | .deleteSelected | .goToService | .showTooltip | .openNamePrompt | .addProperty _
  | .takeRequests | .takeEvents | .handleKey _ => .isFalse id

namespace Sheet

variable {s : Sheet}

instance (s : Sheet) : ∀ op, Decidable (s.ClosesCreation op)
  | .handleKey k => inferInstanceAs (Decidable (s.destroyed = false ∧ s.notice = none ∧
      s.creation?.isSome ∧ k.code = .esc))
  | .complete r => inferInstanceAs (Decidable (∃ p ∈ s.pending.get? r.token, p.ends r = true))
  | .load _ _ _ | .clear | .destroy | .saveRow | .cancelEdit | .resize _ | .setGroup _ | .select _
  | .activate | .deleteSelected | .goToService | .showTooltip | .openNamePrompt | .addProperty _
  | .takeRequests | .takeEvents => .isFalse id

instance (t : Token) (p : Purpose) (s : Sheet) (op : Operation) : Decidable (LetsWait t p s op) :=
  inferInstanceAs (Decidable (¬ op.Answers t ∧
    ¬ (op.empties = true ∨ p.servesCreation = true ∧ s.ClosesCreation op)))

/-- Every queued request is pending. -/
def QueuePending (s : Sheet) : Prop := ∀ q ∈ s.requests, ∃ p, s.pending.get? q.token = some p

/-- A call lets what is pending in the queue wait, or it drops the queue as well. -/
def SparesQueue (s : Sheet) (op : Operation) : Prop :=
  op.empties ∨ ∀ q ∈ s.requests, ∀ p ∈ s.pending.get? q.token, LetsWait q.token p s op

instance (s : Sheet) (op : Operation) : Decidable (s.SparesQueue op) :=
  inferInstanceAs (Decidable (op.empties = true ∨
    ∀ q ∈ s.requests, ∀ p ∈ s.pending.get? q.token, LetsWait q.token p s op))

/-- Nothing can be dropped from an empty queue. -/
theorem sparesQueue_of_nil (h : s.requests = []) (op : Operation) : s.SparesQueue op := by
  right
  rw [h]
  exact fun _ hq => nomatch hq

theorem letsWait_takeRequests (t : Token) (p : Purpose) (s : Sheet) :
    LetsWait t p s .takeRequests := by
  simp [LetsWait, Operation.Answers, Drops, Operation.empties, ClosesCreation]

/-- Only Esc and responses drop anything from a queue alone. -/
theorem cases_of_not_sparesQueue {op : Operation} (h : ¬ s.SparesQueue op) :
    s.requests ≠ [] ∧ ((∃ k, op = .handleKey k ∧ k.code = .esc) ∨ ∃ r, op = .complete r) := by
  refine ⟨fun hnil => h (sparesQueue_of_nil hnil op), ?_⟩
  cases op with
  | complete r => exact .inr ⟨r, rfl⟩
  | handleKey k =>
    by_cases hcloses : s.ClosesCreation (.handleKey k)
    · exact .inl ⟨k, rfl, hcloses.2.2.2⟩
    · exact absurd (.inr fun q _ p _ => letsWait_of_isPlain rfl hcloses q.token p) h
  | takeRequests => exact absurd (.inr fun q _ p _ => letsWait_takeRequests q.token p s) h
  | load _ _ _ | clear | destroy => exact absurd (.inl rfl) h
  | _ => exact absurd (.inr fun q _ p _ => letsWait_of_isPlain rfl id q.token p) h

/-! ## One call -/

/-- A pending request is pending after a call exactly if the call lets it wait. -/
theorem pending_apply_iff (hfresh : s.traffic.Fresh) {q : Request} {p : Purpose}
    (hp : s.pending.get? q.token = some p) (op : Operation) :
    (∃ p', (s.apply op).pending.get? q.token = some p') ↔ LetsWait q.token p s op := by
  have hold : q.token ∉ s.issues op := fun hnew =>
    absurd (hfresh _ _ hp) (eq_nextToken_of_mem_issues hnew ▸ Nat.lt_irrefl _)
  constructor
  · rintro ⟨p', hp'⟩
    obtain ⟨hbefore, hwait⟩ := (get?_pending_apply s op p' hold).mp hp'
    obtain rfl := Option.some.inj (hp.symm.trans hbefore)
    exact hwait
  · intro hwait
    exact ⟨p, (get?_pending_apply s op p hold).mpr ⟨hp, hwait⟩⟩

/-- The queue goes on with pending requests alone exactly if the call spares it. -/
theorem queuePending_apply_iff (hfresh : s.traffic.Fresh) (h : s.QueuePending) (op : Operation) :
    (s.apply op).QueuePending ↔ s.SparesQueue op := by
  rcases s.queue_cases op with ⟨hop, hnil⟩ | ⟨hempties, -, hqueue⟩
  · -- nothing is left in the queue, and no call of this kind drops anything from it alone
    refine iff_of_true ?_ ?_
    · rw [QueuePending, hnil]
      exact fun _ hq => nomatch hq
    · rcases hop with hempties | rfl
      · exact .inl hempties
      · exact .inr fun q _ p _ => letsWait_takeRequests q.token p s
  · rw [QueuePending, hqueue, SparesQueue, hempties]
    constructor
    · intro hafter
      refine .inr fun q hq p hp => ?_
      exact (pending_apply_iff hfresh hp op).mp (hafter q (List.mem_append_left _ hq))
    · rintro (hfalse | hwait) q hq
      · cases hfalse
      · rcases List.mem_append.mp hq with hq | hq
        · obtain ⟨p, hp⟩ := h q hq
          exact (pending_apply_iff hfresh hp op).mpr (hwait q hq p hp)
        · -- it has just been made
          exact Option.isSome_iff_exists.mp
            (isSome_pending_of_mem_issues (List.mem_map_of_mem (f := Request.token) hq))

/-! ## Every run -/

theorem queuePending_of_reachable (h : Reachable SparesQueue s) :
    s.traffic.Fresh ∧ s.QueuePending := by
  induction h with
  | new config => exact ⟨fresh_ofConfig config, fun _ hq => nomatch hq⟩
  | step _ hop ih => exact ⟨fresh_apply ih.1 _, (queuePending_apply_iff ih.1 ih.2 _).mpr hop⟩

/-- While no call drops a request that is still in the queue, whatever the application takes is
pending; and the first call that does lets it take one that is not. Such a call is Esc or a
response, and it comes before the queue is taken. -/
theorem taken_are_pending (h : Reachable SparesQueue s) :
    (∀ q ∈ s.takeRequests.2, ∃ p, s.pending.get? q.token = some p) ∧
    ∀ op, ((∀ q ∈ (s.apply op).takeRequests.2,
          ∃ p, (s.apply op).pending.get? q.token = some p) ↔ s.SparesQueue op) ∧
      (¬ s.SparesQueue op → s.requests ≠ [] ∧
        ((∃ k, op = .handleKey k ∧ k.code = .esc) ∨ ∃ r, op = .complete r)) := by
  obtain ⟨hfresh, hqueue⟩ := queuePending_of_reachable h
  exact ⟨hqueue, fun op => ⟨queuePending_apply_iff hfresh hqueue op, cases_of_not_sparesQueue⟩⟩

/-- A type of service is offered and chosen. -/
def orderingRun : List Operation := [
  .load [("Cache", none)]
    (.ofList [("Cache",
      { name := "Cache", allowableValues := some [], serviceType := some "org.Cache" })])
    .empty,
  .handleKey { code := .enter },
  .handleKey { code := .down },
  .handleKey { code := .enter },
  .takeRequests,
  .complete (.serviceTypes 0 (.ok [{ name := "org.CacheImpl" }])),
  .handleKey { code := .enter }]

theorem taken_are_pending_orderingRun :
    let s := (ofConfig { dialogContainer := some "main" }).run orderingRun
    Reachable SparesQueue s ∧
    s.takeRequests.2 = [.createService 1 .controller "org.CacheImpl"] ∧
    (∃ p, s.pending.get? 1 = some p) ∧ ¬ s.SparesQueue (.handleKey { code := .esc }) := by
  have hallowed : AllowedAlong SparesQueue (ofConfig { dialogContainer := some "main" })
      orderingRun := by decide +kernel
  have hreachable := Reachable.run (.new _) hallowed
  have htaken : ((ofConfig { dialogContainer := some "main" }).run orderingRun).takeRequests.2 =
      [.createService 1 .controller "org.CacheImpl"] := by decide +kernel
  refine ⟨hreachable, htaken, ?_, by decide +kernel⟩
  exact (taken_are_pending hreachable).1 (.createService 1 .controller "org.CacheImpl")
    (htaken ▸ List.mem_singleton_self _)

/-- The user leaves the dialog before the application takes the request, which it then carries out:
a service is created that nobody waits for. -/
theorem not_taken_are_pending_leavingRun :
    let s := (ofConfig { dialogContainer := some "main" }).run
      (orderingRun ++ [.handleKey { code := .esc }])
    .createService 1 .controller "org.CacheImpl" ∈ s.takeRequests.2 ∧ s.dialog = none ∧
      s.pending.get? 1 = none := by
  decide +kernel

end Sheet

end PropertySheet
