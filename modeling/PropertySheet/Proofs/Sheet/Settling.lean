import PropertySheet.Proofs.Sheet.Formatted
import PropertySheet.Proofs.Sheet.Provenance

/-!
# Answering comes to an end

An application that only answers goes in rounds: it takes the queue, answers every request in it and
brings the responses back, in any order. A response may make the sheet ask again, so that a round
can leave requests for the next one.

It does so in one place only. A new service is followed by a lookup of the property that it is for
(`complete_asks`), and a lookup is followed by nothing. So the first round leaves lookups in the
queue at most, and the second one leaves nothing (`settles_in_two_rounds`).
-/

namespace PropertySheet

/-! ## Rounds -/

/-- A request that is answered, and the backend that answers it. Every request has a backend of its
own: nothing is assumed of how the responses hang together, and each may be a success or a
failure. -/
structure Reply where
  request : Request
  backend : Backend Id

namespace Reply

def response (a : Reply) : Response := (a.backend.dispatch a.request).run

@[simp]
theorem token_response (a : Reply) : a.response.token = a.request.token :=
  a.backend.token_dispatch a.request

end Reply

/-- What an application answers in each of its rounds: every request that it has taken, once, in an
order of its own. -/
structure Answering where
  answers : Nat → List Request → List Reply
  perm : ∀ (round : Nat) (queue : List Request), ((answers round queue).map (·.request)).Perm queue

namespace Sheet

/-- The sheet after responses, the first one first. -/
def completeAll (s : Sheet) (rs : List Response) : Sheet := rs.foldl complete s

/-- The sheet after a round: the queue is taken, and the responses come. -/
def round (s : Sheet) (answers : List Reply) : Sheet :=
  s.takeRequests.1.completeAll (answers.map (·.response))

end Sheet

/-- The sheet after a number of rounds. -/
def Answering.after (a : Answering) (s : Sheet) : Nat → Sheet
  | 0 => s
  | n + 1 => (a.after s n).round (a.answers n (a.after s n).requests)

/-- Whether a request is made because another one has been answered. -/
def Purpose.followsUp : Purpose → Bool
  | .refreshDescriptor _ _ => true
  | _ => false

namespace Sheet

variable {s : Sheet}

/-! ## One response -/

/-- A response makes the sheet ask for something only if it brings a new service. What the sheet
asks for then follows up on it. -/
theorem complete_asks (s : Sheet) (r : Response) :
    (s.complete r).requests = s.requests ∨
    ∃ q p, s.pending.get? r.token = some .createService ∧ p.followsUp ∧ q.token = s.nextToken ∧
      (s.complete r).requests = s.requests ++ [q] ∧
      (s.complete r).pending.get? s.nextToken = some p := by
  show (s.complete r).traffic.requests = s.requests ∨ ∃ q p, _ ∧ _ ∧ _ ∧
    (s.complete r).traffic.requests = s.requests ++ [q] ∧
    (s.complete r).traffic.pending.get? s.nextToken = some p
  have hx := s.exchange_complete r
  generalize (s.complete r).traffic = y at hx
  cases hx with
  | emptied h => cases h
  | stale _ => exact .inl rfl
  | called _ h _ _ => cases h
  | replaced h _ => cases h
  | answered hp hy =>
    cases hy with
    | idle _ _ => exact .inl rfl
    | offered d t types _ _ _ _ _ => exact .inl rfl
    | closed _ => exact .inl rfl
    | created d t service hpurpose _ _ _ =>
      right
      refine ⟨.resolveDescriptor s.nextToken d.property, .refreshDescriptor d.rowId service.id, ?_,
        rfl, rfl, rfl, ?_⟩
      · rw [hp, hpurpose]
      · show (SortedMap.insert _ s.nextToken _).get? s.nextToken = _
        rw [SortedMap.get?_insert, if_pos rfl]

/-- Without a service that is about to be created, nothing new is asked for. -/
theorem requests_complete (h : ∀ t, s.pending.get? t ≠ some .createService) (r : Response) :
    (s.complete r).requests = s.requests := by
  rcases s.complete_asks r with hsame | ⟨_, _, hp, -⟩
  · exact hsame
  · exact absurd hp (h r.token)

theorem mem_requests_complete {q : Request} (hq : q ∈ s.requests) (r : Response) :
    q ∈ (s.complete r).requests := by
  rcases s.complete_asks r with hsame | ⟨_, _, -, -, -, hadded, -⟩
  · rw [hsame]
    exact hq
  · rw [hadded]
    exact List.mem_append_left _ hq

/-- What is pending after a response was pending before, under another token, or it follows up and
is in the queue. -/
theorem pending_complete {r : Response} {t : Token} {p : Purpose}
    (h : (s.complete r).pending.get? t = some p) :
    t ≠ r.token ∧ s.pending.get? t = some p ∨
    p.followsUp ∧ ∃ q ∈ (s.complete r).requests, q.token = t := by
  by_cases hnew : t ∈ s.issues (.complete r)
  · -- the token is the one that the sheet has just given out
    right
    obtain rfl := eq_nextToken_of_mem_issues hnew
    rcases s.complete_asks r with hsame | ⟨q, p', -, hfollows, htoken, hadded, hp'⟩
    · have hnone : s.issues (.complete r) = [] := by
        show ((s.complete r).requests.drop s.requests.length).map (·.token) = []
        simp [hsame]
      rw [hnone] at hnew
      cases hnew
    · obtain rfl := Option.some.inj (hp'.symm.trans h)
      refine ⟨hfollows, q, ?_, htoken⟩
      rw [hadded]
      exact List.mem_append_right _ (List.mem_singleton_self q)
  · left
    obtain ⟨hp, hwaits, -⟩ := (get?_pending_apply s (.complete r) p hnew).mp h
    exact ⟨fun ht => hwaits ht.symm, hp⟩

/-! ## All responses of a round -/

/-- Whatever is pending is answered by one of some responses, or it follows up and is in the
queue. -/
def AnsweredBy (s : Sheet) (rs : List Response) : Prop :=
  ∀ t p, s.pending.get? t = some p →
    (∃ r ∈ rs, r.token = t) ∨ p.followsUp ∧ ∃ q ∈ s.requests, q.token = t

theorem AnsweredBy.complete {r : Response} {rs : List Response} (h : s.AnsweredBy (r :: rs)) :
    (s.complete r).AnsweredBy rs := by
  intro t p hp
  rcases pending_complete hp with ⟨hne, hbefore⟩ | hqueued
  · rcases h t p hbefore with ⟨r', hr', rfl⟩ | ⟨hfollows, q, hq, htoken⟩
    · rcases List.mem_cons.mp hr' with rfl | hr'
      · exact absurd rfl hne
      · exact .inl ⟨r', hr', rfl⟩
    · exact .inr ⟨hfollows, q, mem_requests_complete hq r, htoken⟩
  · exact .inr hqueued

theorem AnsweredBy.completeAll {rs : List Response} (h : s.AnsweredBy rs) :
    (s.completeAll rs).AnsweredBy [] := by
  induction rs generalizing s with
  | nil => exact h
  | cons r rs ih => exact ih h.complete

/-- Only lookups that follow up are pending. -/
def OnlyFollowsUp (s : Sheet) : Prop := ∀ t p, s.pending.get? t = some p → p.followsUp

theorem OnlyFollowsUp.ne_createService (h : s.OnlyFollowsUp) (t : Token) :
    s.pending.get? t ≠ some .createService := by
  intro hp
  cases h t _ hp

theorem OnlyFollowsUp.complete (h : s.OnlyFollowsUp) (r : Response) :
    (s.complete r).OnlyFollowsUp := by
  intro t p hp
  rcases pending_complete hp with ⟨-, hbefore⟩ | ⟨hfollows, -⟩
  · exact h t p hbefore
  · exact hfollows

/-- Nothing follows upon a lookup that follows up. -/
theorem OnlyFollowsUp.requests_completeAll (h : s.OnlyFollowsUp) (rs : List Response) :
    (s.completeAll rs).requests = s.requests := by
  induction rs generalizing s with
  | nil => rfl
  | cons r rs ih => exact (ih (h.complete r)).trans (requests_complete h.ne_createService r)

/-! ## Whole rounds -/

/-- The request of everything that is pending is still in the queue. -/
def PendingQueued (s : Sheet) : Prop :=
  ∀ t p, s.pending.get? t = some p → ∃ q ∈ s.requests, q.token = t

/-- With an empty queue nothing can be pending any more. -/
theorem PendingQueued.hasPending_eq_false (h : s.PendingQueued) (hnil : s.requests = []) :
    s.hasPending = false := by
  have hnone : s.pending = .empty := by
    refine SortedMap.ext_get? fun t => ?_
    cases hp : s.pending.get? t with
    | none => rfl
    | some p =>
      obtain ⟨q, hq, -⟩ := h t p hp
      rw [hnil] at hq
      cases hq
  rw [hasPending, hnone]
  rfl

/-- After a round nothing but follow-ups is pending, and their requests are in the queue. -/
theorem PendingQueued.round (h : s.PendingQueued) {answers : List Reply}
    (hall : (answers.map (·.request)).Perm s.requests) :
    (s.round answers).PendingQueued ∧ (s.round answers).OnlyFollowsUp := by
  have hanswered : s.takeRequests.1.AnsweredBy (answers.map (·.response)) := by
    intro t p hp
    obtain ⟨q, hq, rfl⟩ := h t p hp
    obtain ⟨a, ha, rfl⟩ := List.mem_map.mp (hall.mem_iff.mpr hq)
    exact .inl ⟨a.response, List.mem_map_of_mem ha, a.token_response⟩
  have hafter : ∀ t p, (s.round answers).pending.get? t = some p →
      p.followsUp ∧ ∃ q ∈ (s.round answers).requests, q.token = t := by
    intro t p hp
    rcases hanswered.completeAll t p hp with ⟨r, hr, -⟩ | hqueued
    · cases hr
    · exact hqueued
  exact ⟨fun t p hp => (hafter t p hp).2, fun t p hp => (hafter t p hp).1⟩

/-- A round that answers nothing but follow-ups leaves an empty queue. -/
theorem OnlyFollowsUp.requests_round (h : s.OnlyFollowsUp) (answers : List Reply) :
    (s.round answers).requests = [] :=
  requests_completeAll (s := s.takeRequests.1) h _

/-- What the first round leaves behind, every further round does. -/
theorem PendingQueued.after (h : s.PendingQueued) (a : Answering) (n : Nat) :
    (a.after s n).PendingQueued ∧ (0 < n → (a.after s n).OnlyFollowsUp) := by
  induction n with
  | zero => exact ⟨h, fun hpos => absurd hpos (Nat.lt_irrefl 0)⟩
  | succ n ih =>
    obtain ⟨hqueued, hfollows⟩ := ih.1.round (a.perm n (a.after s n).requests)
    exact ⟨hqueued, fun _ => hfollows⟩

/-- An application that takes the queue, answers every request and brings the responses back, round
after round, has emptied the queue for good after two rounds, whatever it answers and in whatever
order. As soon as the queue is empty, nothing is pending. At first the request of everything that is
pending must be in the queue; requests that nobody waits for any more may be there too. -/
theorem settles_in_two_rounds (a : Answering) (h : s.PendingQueued) :
    (∀ n, 2 ≤ n → (a.after s n).requests = []) ∧
    ∀ n, (a.after s n).requests = [] → (a.after s n).hasPending = false := by
  constructor
  · intro n hn
    obtain ⟨m, rfl⟩ : ∃ m, n = m + 1 := ⟨n - 1, by omega⟩
    exact ((h.after a m).2 (by omega)).requests_round _
  · intro n hnil
    exact (h.after a n).1.hasPending_eq_false hnil

/-- One backend answers everything, the newest request first. -/
def newestFirst (b : Backend Id) : Answering where
  answers _ queue := (queue.map fun q => ⟨q, b⟩).reverse
  perm _ queue := by
    rw [List.map_reverse, List.map_map, Function.comp_def, List.map_id']
    exact queue.reverse_perm

/-- A property is asked for and a type of service is chosen before the queue is taken. The request
for the types is still in it. -/
def untakenRun : List Operation :=
  .load [("Cache", none)]
    (.ofList [("Cache",
      { name := "Cache", allowableValues := some [], serviceType := some "org.Cache" })])
    .empty :: askingForX ++
  [.handleKey { code := .enter }, .handleKey { code := .down }, .handleKey { code := .enter },
    .complete (.serviceTypes 1 (.ok [{ name := "org.CacheImpl" }])), .handleKey { code := .enter }]

/-- The new service is looked up in the second round. -/
theorem settles_in_two_rounds_untakenRun :
    let s := (ofConfig { dialogContainer := some "main" }).run untakenRun
    let a := newestFirst Hosting.oneTypeEach
    s.PendingQueued ∧ s.pending.toList = [(0, .addProperty "x"), (2, .createService)] ∧
    s.requests.map (·.token) = [0, 1, 2] ∧
    (a.after s 1).requests = [.resolveDescriptor 3 "Cache"] ∧
    (a.after s 2).requests = [] ∧ (a.after s 2).hasPending = false := by
  intro s a
  have hpending : s.pending.toList = [(0, .addProperty "x"), (2, .createService)] := by
    decide +kernel
  have htokens : s.requests.map (·.token) = [0, 1, 2] := by decide +kernel
  have hqueued : s.PendingQueued := by
    intro t p hp
    have hmem : (t, p) ∈ s.pending.toList := SortedMap.mem_toList_iff.mpr hp
    have ht : t ∈ s.requests.map (·.token) := by
      rw [hpending] at hmem
      rw [htokens]
      simp only [List.mem_cons, Prod.mk.injEq, List.not_mem_nil, or_false] at hmem
      rcases hmem with ⟨rfl, -⟩ | ⟨rfl, -⟩
      · decide
      · decide
    obtain ⟨q, hq, htoken⟩ := List.mem_map.mp ht
    exact ⟨q, hq, htoken⟩
  obtain ⟨hempty, hsettled⟩ := settles_in_two_rounds a hqueued
  have hnil := hempty 2 (Nat.le_refl 2)
  exact ⟨hqueued, hpending, htokens, by decide +kernel, hnil, hsettled 2 hnil⟩

end Sheet

end PropertySheet
