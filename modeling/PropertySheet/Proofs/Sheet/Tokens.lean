import PropertySheet.Proofs.Sheet.Traffic

/-!
# A request is answered once

Every request has a token, and the response comes back under it. `issued` lists the tokens of the
requests that a sequence of calls makes and `handedOver` those that the application collects: no
token occurs twice, since none of the calls ever sets the counter back.

A request is `Outstanding` after a sequence of calls if one of them made it and every later one let
it wait: none brought a response to it, emptied the sheet, or closed the creation of a service that
it serves. `complete_ne_iff_outstanding` says that a response changes the sheet exactly if its
request is outstanding. A response that is late, repeated or forged leaves the whole sheet as it is.
-/

namespace PropertySheet

/-! ## Tokens of pending requests -/

namespace Traffic

/-- Tokens are given out in order: what is pending has a token of before. -/
def Fresh (x : Traffic) : Prop := ∀ t p, x.pending.get? t = some p → t < x.nextToken

theorem Fresh.ask {x : Traffic} (hx : x.Fresh) (p : Purpose) (q : Request) : (x.ask p q).Fresh := by
  intro t p' hp
  show t < x.nextToken + 1
  rw [Traffic.ask, SortedMap.get?_insert] at hp
  split at hp
  next ht => exact ht ▸ Nat.lt_succ_self _
  · exact Nat.lt_succ_of_lt (hx t p' hp)

theorem Fresh.step {x y : Traffic} (hx : x.Fresh) (h : Step x y) : y.Fresh := by
  cases h with
  | idle => exact hx
  | ask p q _ _ _ => exact hx.ask p q
  | move d d' _ _ => exact hx
  | create d _ _ _ _ => exact Fresh.ask (x := x.showing d.startCreating) hx _ _

theorem Fresh.close {x : Traffic} (hx : x.Fresh) : x.close.Fresh := by
  intro t p hp
  rw [Traffic.close, SortedMap.get?_filter, Option.filter_eq_some_iff] at hp
  exact hx t p hp.1

theorem Fresh.answer {x : Traffic} (hx : x.Fresh) (t : Token) : (x.answer t).Fresh := by
  intro t' p hp
  rw [Traffic.answer, SortedMap.get?_erase] at hp
  split at hp
  · cases hp
  · exact hx t' p hp

theorem Fresh.settled {p : Purpose} {r : Response} {x y : Traffic} (hx : x.Fresh)
    (h : Settled p r x y) : y.Fresh := by
  cases h with
  | idle _ _ => exact hx
  | offered d _ types _ _ _ _ _ => exact hx
  | created d _ service _ _ _ _ =>
    exact Fresh.ask (x := x.showing (d.serviceCreated service.id)) hx _ _
  | closed _ => exact hx.close

end Traffic

namespace Sheet

theorem fresh_apply {s : Sheet} (h : s.traffic.Fresh) (op : Operation) :
    (s.apply op).traffic.Fresh := by
  have hx := s.exchange_apply op
  generalize (s.apply op).traffic = y at hx
  cases hx with
  | emptied _ => exact fun t p hp => nomatch hp
  | taken => exact h
  | stale _ => exact h
  | answered _ hy => exact (h.answer _).settled hy
  | left _ => exact h.close
  | @started _ _ d _ _ _ _ _ _ _ => exact Traffic.Fresh.ask (x := s.traffic.showing d) h _ _
  | called _ _ _ hy => exact h.step hy
  | replaced _ hy =>
    obtain ⟨x, rfl | rfl, hy⟩ := hy
    · exact h.step hy
    · exact Traffic.Fresh.step (x := s.traffic.showing none) h hy

theorem fresh_ofConfig (config : SheetConfig) : (ofConfig config).traffic.Fresh :=
  fun _ _ hp => nomatch hp

theorem fresh_run {s : Sheet} (h : s.traffic.Fresh) (ops : List Operation) :
    (s.run ops).traffic.Fresh :=
  run_invariant (P := fun s => s.traffic.Fresh) (fun _ op h => fresh_apply h op) h ops

end Sheet

/-! ## At most one request a call -/

namespace Traffic

/-- Nothing was asked for between two moments, and nothing forgotten, or one thing was asked for. -/
inductive Adds (x y : Traffic) : Prop
  | none : y.nextToken = x.nextToken → y.pending = x.pending → y.requests = x.requests → Adds x y
  | one (p : Purpose) (q : Request) :
      q.token = x.nextToken → y.nextToken = x.nextToken + 1 →
      y.pending = x.pending.insert x.nextToken p → y.requests = x.requests ++ [q] → Adds x y

/-- The requests that one moment has in the queue behind those of another. -/
def newRequests (x y : Traffic) : List Request := y.requests.drop x.requests.length

/-- The tokens of the requests that one moment has in the queue behind those of another. -/
def newTokens (x y : Traffic) : List Token :=
  (y.requests.drop x.requests.length).map (·.token)

theorem Step.adds {x y : Traffic} (h : Step x y) : Adds x y := by
  cases h with
  | idle => exact .none rfl rfl rfl
  | ask p q _ hq _ => exact .one p q hq rfl rfl rfl
  | move d d' _ _ => exact .none rfl rfl rfl
  | create d _ _ _ _ => exact .one _ _ rfl rfl rfl rfl

/-- The creation of a service begins with a request. -/
theorem adds_start (x : Traffic) (d : ServiceDialog) {q : Request} (hq : q.token = x.nextToken) :
    Adds x ((x.showing d).ask .serviceTypes q) := .one _ q hq rfl rfl rfl

theorem Replaced.adds {x y : Traffic} (h : Replaced x y) : Adds x y := by
  obtain ⟨x', hx', hstep⟩ := h
  have hsame : x'.nextToken = x.nextToken ∧ x'.pending = x.pending ∧ x'.requests = x.requests := by
    rcases hx' with rfl | rfl
    · exact ⟨rfl, rfl, rfl⟩
    · exact ⟨rfl, rfl, rfl⟩
  obtain ⟨htoken, hpending, hrequests⟩ := hsame
  cases hstep.adds with
  | none h1 h2 h3 => exact .none (h1.trans htoken) (h2.trans hpending) (h3.trans hrequests)
  | one p q hq h1 h2 h3 =>
    rw [htoken] at hq h1 h2
    rw [hpending] at h2
    rw [hrequests] at h3
    exact .one p q hq h1 h2 h3

theorem Settled.adds {p : Purpose} {r : Response} {x y : Traffic} (h : Settled p r x y) :
    p.ends r ∧ y = x.close ∨ p.ends r = false ∧ Adds x y := by
  cases h with
  | idle _ hends => exact .inr ⟨hends, .none rfl rfl rfl⟩
  | offered d _ types _ _ _ _ hends => exact .inr ⟨hends, .none rfl rfl rfl⟩
  | created d _ service _ _ _ hends => exact .inr ⟨hends, .one _ _ rfl rfl rfl rfl⟩
  | closed hends => exact .inl ⟨hends, rfl⟩

theorem Adds.newTokens_eq {x y : Traffic} (h : Adds x y) :
    newTokens x y = [] ∧ y.nextToken = x.nextToken ∨
      newTokens x y = [x.nextToken] ∧ y.nextToken = x.nextToken + 1 := by
  cases h with
  | none htoken _ hrequests => simp [newTokens, htoken, hrequests]
  | one p q hq htoken _ hrequests => simp [newTokens, htoken, hrequests, hq]

theorem Adds.requests_eq {x y : Traffic} (h : Adds x y) :
    y.requests = x.requests ++ newRequests x y := by
  cases h with
  | none _ _ hrequests => simp [newRequests, hrequests]
  | one p q _ _ _ hrequests => simp [newRequests, hrequests]

/-- What is asked for is pending. -/
theorem Adds.isSome_pending {x y : Traffic} (h : Adds x y) {t : Token} (ht : t ∈ newTokens x y) :
    (y.pending.get? t).isSome := by
  cases h with
  | none _ _ hrequests => simp [newTokens, hrequests] at ht
  | one p q hq _ hpending hrequests =>
    obtain rfl : t = x.nextToken := by simpa [newTokens, hrequests, hq] using ht
    simp [hpending, SortedMap.get?_insert]

/-- Requests of before keep waiting. -/
theorem Adds.get?_pending {x y : Traffic} (h : Adds x y) {t : Token} (ht : t ∉ newTokens x y) :
    y.pending.get? t = x.pending.get? t := by
  cases h with
  | none _ hpending _ => rw [hpending]
  | one p q hq _ hpending hrequests =>
    have hne : x.nextToken ≠ t := by
      rintro rfl
      simp [newTokens, hrequests, hq] at ht
    rw [hpending, SortedMap.get?_insert, if_neg hne]

end Traffic

/-! ## Issued tokens -/

namespace Sheet

/-- The requests that a call makes. -/
def makes (s : Sheet) (op : Operation) : List Request := s.traffic.newRequests (s.apply op).traffic

/-- The requests that a sequence of calls makes, in order. -/
def made (s : Sheet) : List Operation → List Request
  | [] => []
  | op :: ops => s.makes op ++ (s.apply op).made ops

/-- The tokens of the requests that a call makes. -/
def issues (s : Sheet) (op : Operation) : List Token := s.traffic.newTokens (s.apply op).traffic

/-- The tokens of the requests that a sequence of calls makes, in order. -/
def issued (s : Sheet) : List Operation → List Token
  | [] => []
  | op :: ops => s.issues op ++ (s.apply op).issued ops

theorem map_token_makes (s : Sheet) (op : Operation) : (s.makes op).map (·.token) = s.issues op := rfl

theorem map_token_made (s : Sheet) (ops : List Operation) :
    (s.made ops).map (·.token) = s.issued ops := by
  induction ops generalizing s with
  | nil => rfl
  | cons op ops ih => rw [made, List.map_append, map_token_makes, ih, issued]

/-- The tokens of the requests that the application collects with a call. -/
def handsOver (s : Sheet) : Operation → List Token
  | .takeRequests => s.takeRequests.2.map (·.token)
  | _ => []

/-- The tokens of the requests that the application collects along a sequence of calls. -/
def handedOver (s : Sheet) : List Operation → List Token
  | [] => []
  | op :: ops => s.handsOver op ++ (s.apply op).handedOver ops

/-- A call makes no request, or one under the next token. -/
theorem issues_cases (s : Sheet) (op : Operation) :
    s.issues op = [] ∧ (s.apply op).nextToken = s.nextToken ∨
    s.issues op = [s.nextToken] ∧ (s.apply op).nextToken = s.nextToken + 1 := by
  show _ ∧ (s.apply op).traffic.nextToken = s.nextToken ∨
    _ ∧ (s.apply op).traffic.nextToken = s.nextToken + 1
  rw [issues]
  have hx := s.exchange_apply op
  generalize (s.apply op).traffic = y at hx
  cases hx with
  | emptied _ => exact .inl ⟨by simp [Traffic.newTokens, Traffic.emptied], rfl⟩
  | taken => exact .inl ⟨by simp [Traffic.newTokens, Traffic.taken], rfl⟩
  | stale _ => exact .inl ⟨by simp [Traffic.newTokens], rfl⟩
  | answered _ hy =>
    rcases hy.adds with ⟨_, rfl⟩ | ⟨_, hadds⟩
    · exact .inl ⟨by simp [Traffic.newTokens, Traffic.close, Traffic.answer], rfl⟩
    · exact hadds.newTokens_eq
  | left _ => exact .inl ⟨by simp [Traffic.newTokens, Traffic.close], rfl⟩
  | started _ _ _ _ _ _ _ => exact (s.traffic.adds_start _ rfl).newTokens_eq
  | called _ _ _ hy => exact hy.adds.newTokens_eq
  | replaced _ hy => exact hy.adds.newTokens_eq

theorem nextToken_le_of_mem_issued {s : Sheet} {ops : List Operation} {t : Token}
    (h : t ∈ s.issued ops) : s.nextToken ≤ t := by
  induction ops generalizing s with
  | nil => cases h
  | cons op ops ih =>
    rcases List.mem_append.mp h with h | h
    · rcases s.issues_cases op with ⟨hnil, _⟩ | ⟨hone, _⟩
      · rw [hnil] at h
        cases h
      · rw [hone, List.mem_singleton] at h
        exact Nat.le_of_eq h.symm
    · have hle := ih h
      rcases s.issues_cases op with ⟨_, hnext⟩ | ⟨_, hnext⟩
      · rwa [hnext] at hle
      · rw [hnext] at hle
        exact Nat.le_of_succ_le hle

/-- Tokens grow along a run. -/
theorem issued_pairwise (s : Sheet) (ops : List Operation) : (s.issued ops).Pairwise (· < ·) := by
  induction ops generalizing s with
  | nil => exact .nil
  | cons op ops ih =>
    rw [issued]
    rcases s.issues_cases op with ⟨hnil, _⟩ | ⟨hone, hnext⟩
    · rw [hnil]
      exact ih _
    · rw [hone]
      refine List.pairwise_cons.mpr ⟨?_, ih _⟩
      intro t ht
      have hle := nextToken_le_of_mem_issued ht
      rw [hnext] at hle
      exact Nat.lt_of_succ_le hle

/-- A call leaves nothing in the queue, since it empties the sheet or hands the queue over; or it
appends to the queue. -/
theorem queue_cases (s : Sheet) (op : Operation) :
    (op.empties ∨ op = .takeRequests) ∧ (s.apply op).requests = [] ∨
    op.empties = false ∧ op ≠ .takeRequests ∧
      (s.apply op).requests = s.requests ++ s.makes op := by
  show _ ∧ (s.apply op).traffic.requests = [] ∨
    _ ∧ _ ∧ (s.apply op).traffic.requests = s.traffic.requests ++ _
  rw [makes]
  have hkept : ∀ x : Traffic, x.requests = s.traffic.requests →
      x.requests = s.traffic.requests ++ s.traffic.newRequests x := by
    intro x hx
    simp [Traffic.newRequests, hx]
  have hx := s.exchange_apply op
  generalize (s.apply op).traffic = y at hx
  cases hx with
  | emptied h => exact .inl ⟨.inl h, rfl⟩
  | taken => exact .inl ⟨.inr rfl, rfl⟩
  | stale _ => exact .inr ⟨rfl, nofun, hkept _ rfl⟩
  | answered _ hy =>
    rcases hy.adds with ⟨_, rfl⟩ | ⟨_, hadds⟩
    · exact .inr ⟨rfl, nofun, hkept _ rfl⟩
    · exact .inr ⟨rfl, nofun, hadds.requests_eq⟩
  | left _ => exact .inr ⟨rfl, nofun, hkept _ rfl⟩
  | started _ _ _ _ _ _ _ => exact .inr ⟨rfl, nofun, (s.traffic.adds_start _ rfl).requests_eq⟩
  | called _ hplain _ hy =>
    refine .inr ⟨Operation.empties_of_isPlain hplain, ?_, hy.adds.requests_eq⟩
    rintro rfl
    cases hplain
  | replaced hdialog hy =>
    have hplain := Operation.isPlain_of_handlesDialog hdialog
    refine .inr ⟨Operation.empties_of_isPlain hplain, ?_, hy.adds.requests_eq⟩
    rintro rfl
    cases hplain

theorem handsOver_sublist (s : Sheet) (op : Operation) :
    (s.handsOver op).Sublist (s.requests.map (·.token)) := by
  cases op <;> first | exact List.Sublist.refl _ | exact List.nil_sublist _

theorem handsOver_eq_nil (s : Sheet) {op : Operation} (h : op ≠ .takeRequests) :
    s.handsOver op = [] := by
  cases op <;> first | rfl | exact absurd rfl h

/-- What the application collects was in the queue at first or has been issued since. -/
theorem handedOver_sublist (s : Sheet) (ops : List Operation) :
    (s.handedOver ops).Sublist (s.requests.map (·.token) ++ s.issued ops) := by
  -- the queue at the start is part of the statement, so that the induction can pass it on
  induction ops generalizing s with
  | nil => exact List.nil_sublist _
  | cons op ops ih =>
    have hrest := ih (s.apply op)
    rw [handedOver, issued]
    rcases s.queue_cases op with ⟨-, hempty⟩ | ⟨-, htakes, hqueue⟩
    · rw [hempty, List.map_nil, List.nil_append] at hrest
      exact (s.handsOver_sublist op).append (hrest.trans (List.sublist_append_right _ _))
    · rw [s.handsOver_eq_nil htakes, List.nil_append]
      rwa [hqueue, List.map_append, map_token_makes, List.append_assoc] at hrest

/-! ## Outstanding requests -/

end Sheet

/-- A call brings a response under a token. -/
def Operation.Answers (t : Token) : Operation → Prop
  | .complete r => r.token = t
  | _ => False

namespace Sheet

/-- A call drops the requests of a purpose: it empties the sheet, or it closes the creation of a
service that they serve. -/
def Drops (s : Sheet) (p : Purpose) (op : Operation) : Prop :=
  op.empties ∨ p.servesCreation ∧ s.ClosesCreation op

/-- A call lets a request wait: it neither brings its response nor drops it. -/
def LetsWait (t : Token) (p : Purpose) (s : Sheet) (op : Operation) : Prop :=
  ¬ op.Answers t ∧ ¬ s.Drops p op

/-- A sequence of calls made a request under a token and has let it wait since. -/
def Outstanding (s : Sheet) (ops : List Operation) (t : Token) (p : Purpose) : Prop :=
  ∃ before op after, ops = before ++ op :: after ∧ t ∈ (s.run before).issues op ∧
    ((s.run before).apply op).pending.get? t = some p ∧
    AllowedAlong (LetsWait t p) ((s.run before).apply op) after

theorem not_outstanding_nil (s : Sheet) (t : Token) (p : Purpose) : ¬ s.Outstanding [] t p := by
  rintro ⟨before, op, after, h, _⟩
  simp at h

theorem outstanding_cons_iff (s : Sheet) (op : Operation) (ops : List Operation) (t : Token)
    (p : Purpose) :
    s.Outstanding (op :: ops) t p ↔
      (t ∈ s.issues op ∧ (s.apply op).pending.get? t = some p ∧
        AllowedAlong (LetsWait t p) (s.apply op) ops) ∨
      (s.apply op).Outstanding ops t p := by
  constructor
  · rintro ⟨before, op', after, h, hrest⟩
    cases before with
    | nil =>
      obtain ⟨rfl, rfl⟩ := List.cons.inj h
      exact .inl hrest
    | cons first before =>
      obtain ⟨rfl, rfl⟩ := List.cons.inj h
      exact .inr ⟨before, op', after, rfl, hrest⟩
  · rintro (h | ⟨before, op', after, rfl, hrest⟩)
    · exact ⟨[], op, ops, rfl, h⟩
    · exact ⟨op :: before, op', after, rfl, hrest⟩

theorem letsWait_of_isPlain {s : Sheet} {op : Operation} (hplain : op.isPlain)
    (hcloses : ¬ s.ClosesCreation op) (t : Token) (p : Purpose) : s.LetsWait t p op := by
  refine ⟨?_, ?_⟩
  · cases op <;> first | exact id | cases hplain
  · rintro (hempties | ⟨_, h⟩)
    · rw [Operation.empties_of_isPlain hplain] at hempties
      cases hempties
    · exact hcloses h

/-- A request that a call did not make is pending after it if it was before and the call let it
wait. -/
theorem get?_pending_apply (s : Sheet) (op : Operation) {t : Token} (p : Purpose)
    (ht : t ∉ s.issues op) :
    (s.apply op).pending.get? t = some p ↔ s.pending.get? t = some p ∧ s.LetsWait t p op := by
  show (s.apply op).traffic.pending.get? t = some p ↔ s.traffic.pending.get? t = some p ∧ _
  rw [issues] at ht
  have hx := s.exchange_apply op
  generalize (s.apply op).traffic = y at hx ht
  cases hx with
  | emptied h =>
    constructor
    · intro hp
      cases hp
    · rintro ⟨_, _, hdrops⟩
      exact absurd (.inl h) hdrops
  | taken => exact (and_iff_left ⟨id, by simp [Drops, Operation.empties, ClosesCreation]⟩).symm
  | @stale r hnone =>
    refine (and_iff_left_of_imp fun hp => ⟨?_, ?_⟩).symm
    · rintro rfl
      exact nomatch hnone.symm.trans hp
    · rintro (h | ⟨_, p', hp', _⟩)
      · cases h
      · exact nomatch hnone.symm.trans hp'
  | @answered r p' _ hp' hy =>
    have hcloses : s.ClosesCreation (.complete r) ↔ p'.ends r := by
      constructor
      · rintro ⟨p'', hp'', hends⟩
        exact Option.some.inj (hp'.symm.trans hp'') ▸ hends
      · exact fun hends => ⟨p', hp', hends⟩
    have hwait : s.LetsWait t p (.complete r) ↔
        r.token ≠ t ∧ ¬ (p.servesCreation ∧ p'.ends r) := by
      simp [LetsWait, Operation.Answers, Drops, Operation.empties, hcloses]
    rw [hwait]
    -- a response that ends the creation drops what serves it, any other only its own request
    rcases hy.adds with ⟨hends, rfl⟩ | ⟨hends, hadds⟩
    · rw [Traffic.get?_pending_close, Traffic.get?_pending_answer]
      simp [hends, and_assoc, and_left_comm]
    · rw [hadds.get?_pending ht, Traffic.get?_pending_answer]
      simp [hends, and_comm]
  | left hleft =>
    rw [Traffic.get?_pending_close]
    simp [LetsWait, Operation.Answers, Drops, Operation.empties, hleft]
  | started hnone _ _ _ _ _ _ =>
    rw [(s.traffic.adds_start _ rfl).get?_pending ht]
    exact (and_iff_left (letsWait_of_isPlain rfl (by simp [ClosesCreation, hnone]) t p)).symm
  | called _ hplain hcloses hy =>
    rw [hy.adds.get?_pending ht]
    exact (and_iff_left (letsWait_of_isPlain hplain hcloses t p)).symm
  | replaced hdialog hy =>
    rw [hy.adds.get?_pending ht]
    have hplain := Operation.isPlain_of_handlesDialog hdialog
    refine (and_iff_left (letsWait_of_isPlain hplain ?_ t p)).symm
    cases op <;> first | exact id | cases hdialog

theorem eq_nextToken_of_mem_issues {s : Sheet} {op : Operation} {t : Token} (h : t ∈ s.issues op) :
    t = s.nextToken := by
  rcases s.issues_cases op with ⟨hnil, _⟩ | ⟨hone, _⟩
  · rw [hnil] at h
    cases h
  · rwa [hone, List.mem_singleton] at h

theorem nextToken_le_apply (s : Sheet) (op : Operation) : s.nextToken ≤ (s.apply op).nextToken := by
  rcases s.issues_cases op with ⟨_, hnext⟩ | ⟨_, hnext⟩
  · exact Nat.le_of_eq hnext.symm
  · rw [hnext]
    exact Nat.le_succ _

theorem nextToken_le_run (s : Sheet) (ops : List Operation) : s.nextToken ≤ (s.run ops).nextToken :=
  run_invariant (P := fun t => s.nextToken ≤ t.nextToken)
    (fun t op h => Nat.le_trans h (t.nextToken_le_apply op)) (Nat.le_refl _) ops

/-- What is in the queue has a token of before. -/
theorem token_lt_apply {s : Sheet} (h : ∀ q ∈ s.requests, q.token < s.nextToken) (op : Operation) :
    ∀ q ∈ (s.apply op).requests, q.token < (s.apply op).nextToken := by
  intro q hq
  rcases s.queue_cases op with ⟨_, hnil⟩ | ⟨_, _, hqueue⟩
  · rw [hnil] at hq
    cases hq
  rw [hqueue] at hq
  rcases List.mem_append.mp hq with hold | hnew
  · exact Nat.lt_of_lt_of_le (h q hold) (s.nextToken_le_apply op)
  · have hmem : q.token ∈ s.issues op := by
      rw [← s.map_token_makes op]
      exact List.mem_map_of_mem hnew
    rcases s.issues_cases op with ⟨hnil, _⟩ | ⟨hone, hnext⟩
    · rw [hnil] at hmem
      cases hmem
    · rw [hone, List.mem_singleton] at hmem
      rw [hmem, hnext]
      exact Nat.lt_succ_self _

theorem token_lt_run {s : Sheet} (h : ∀ q ∈ s.requests, q.token < s.nextToken)
    (ops : List Operation) : ∀ q ∈ (s.run ops).requests, q.token < (s.run ops).nextToken :=
  run_invariant (P := fun s => ∀ q ∈ s.requests, q.token < s.nextToken)
    (fun _ op h => token_lt_apply h op) h ops

/-- A request is pending once it is made. -/
theorem isSome_pending_of_mem_issues {s : Sheet} {op : Operation} {t : Token}
    (ht : t ∈ s.issues op) : ((s.apply op).pending.get? t).isSome := by
  show ((s.apply op).traffic.pending.get? t).isSome
  rw [issues] at ht
  have hx := s.exchange_apply op
  generalize (s.apply op).traffic = y at hx ht
  cases hx with
  | emptied _ => simp [Traffic.newTokens, Traffic.emptied] at ht
  | taken => simp [Traffic.newTokens, Traffic.taken] at ht
  | stale _ => simp [Traffic.newTokens] at ht
  | answered _ hy =>
    rcases hy.adds with ⟨_, rfl⟩ | ⟨_, hadds⟩
    · simp [Traffic.newTokens, Traffic.close, Traffic.answer] at ht
    · exact hadds.isSome_pending ht
  | left _ => simp [Traffic.newTokens, Traffic.close] at ht
  | started _ _ _ _ _ _ _ => exact (s.traffic.adds_start _ rfl).isSome_pending ht
  | called _ _ _ hy => exact hy.adds.isSome_pending ht
  | replaced _ hy => exact hy.adds.isSome_pending ht

/-- Nothing is pending under a token before it is issued. -/
theorem get?_pending_of_mem_issues {s : Sheet} (hs : s.traffic.Fresh) {op : Operation} {t : Token}
    (ht : t ∈ s.issues op) : s.pending.get? t = none := by
  cases hp : s.pending.get? t with
  | none => rfl
  | some p => exact absurd (hs t p hp) (eq_nextToken_of_mem_issues ht ▸ Nat.lt_irrefl _)

/-- A token of before that is not pending will never be again. -/
theorem get?_pending_run_eq_none {s : Sheet} {t : Token} (hold : t < s.nextToken)
    (hnone : s.pending.get? t = none) (ops : List Operation) :
    (s.run ops).pending.get? t = none := by
  induction ops generalizing s with
  | nil => exact hnone
  | cons op ops ih =>
    refine ih (Nat.lt_of_lt_of_le hold (s.nextToken_le_apply op)) ?_
    have ht : t ∉ s.issues op := fun ht =>
      absurd hold (eq_nextToken_of_mem_issues ht ▸ Nat.lt_irrefl _)
    cases hp : (s.apply op).pending.get? t with
    | none => rfl
    | some p => exact nomatch hnone.symm.trans ((get?_pending_apply s op p ht).mp hp).1

/-- What is pending after a sequence of calls was pending before and could wait, or was issued
since. -/
theorem get?_pending_run {s : Sheet} (hs : s.traffic.Fresh) (ops : List Operation) (t : Token)
    (p : Purpose) :
    (s.run ops).pending.get? t = some p ↔
      (s.pending.get? t = some p ∧ AllowedAlong (LetsWait t p) s ops) ∨ s.Outstanding ops t p := by
  induction ops generalizing s with
  | nil => simp [not_outstanding_nil, AllowedAlong]
  | cons op ops ih =>
    rw [run_cons, ih (fresh_apply hs op), outstanding_cons_iff, ← or_assoc]
    refine or_congr_left ?_
    -- either the first call issued the token, or what was pending before decides
    by_cases ht : t ∈ s.issues op
    · simp [ht, get?_pending_of_mem_issues hs ht]
    · rw [get?_pending_apply s op p ht]
      simp [ht, AllowedAlong, and_assoc]

/-- After a response nothing is pending under its token. -/
theorem get?_pending_complete {s : Sheet} (hs : s.traffic.Fresh) (r : Response) :
    (s.complete r).pending.get? r.token = none := by
  cases hp : (s.complete r).pending.get? r.token with
  | none => rfl
  | some p =>
    by_cases ht : r.token ∈ s.issues (.complete r)
    · -- without a request there is no response to settle, so nothing is issued
      have hsame : s.complete r = s := by simp [complete, get?_pending_of_mem_issues hs ht]
      rw [hsame, get?_pending_of_mem_issues hs ht] at hp
      cases hp
    · exact absurd rfl ((get?_pending_apply s (.complete r) p ht).mp hp).2.1

/-- A response changes a sheet exactly if its request is pending. -/
theorem complete_ne_iff {s : Sheet} (hs : s.traffic.Fresh) (r : Response) :
    s.complete r ≠ s ↔ ∃ p, s.pending.get? r.token = some p := by
  cases hp : s.pending.get? r.token with
  | none => simp [complete, hp]
  | some p =>
    refine iff_of_true ?_ ⟨p, rfl⟩
    intro heq
    have hgone := get?_pending_complete hs r
    rw [heq, hp] at hgone
    cases hgone

/-- Of a new sheet, a response changes anything exactly while its request is outstanding. -/
theorem complete_ne_iff_outstanding (config : SheetConfig) (ops : List Operation) (r : Response) :
    ((ofConfig config).run ops).complete r ≠ (ofConfig config).run ops ↔
      ∃ p, (ofConfig config).Outstanding ops r.token p := by
  rw [complete_ne_iff (fresh_run (fresh_ofConfig config) ops)]
  refine exists_congr fun p => ?_
  rw [get?_pending_run (fresh_ofConfig config)]
  exact or_iff_right fun h => nomatch h.1

/-- Once a response has changed a sheet, no further response under its token does. -/
theorem complete_eq_self_of_answered {s : Sheet} (hs : s.traffic.Fresh) {r r' : Response}
    (htoken : r'.token = r.token) (h : s.complete r ≠ s) (ops : List Operation) :
    ((s.complete r).run ops).complete r' = (s.complete r).run ops := by
  obtain ⟨p, hp⟩ := (complete_ne_iff hs r).mp h
  have hold : r.token < (s.complete r).nextToken :=
    Nat.lt_of_lt_of_le (hs r.token p hp) (s.nextToken_le_apply (.complete r))
  have hnone := get?_pending_run_eq_none hold (get?_pending_complete hs r) ops
  rw [complete, htoken, hnone]

/-- Whatever the order of calls and responses: no token is issued twice or collected twice, a
response changes the sheet exactly while its request is outstanding, and no second response under
one token does. -/
theorem tokens_nodup_and_answered_once (config : SheetConfig) (ops : List Operation) :
    ((ofConfig config).issued ops).Nodup ∧ ((ofConfig config).handedOver ops).Nodup ∧
    (∀ r : Response,
      ((ofConfig config).run ops).complete r ≠ (ofConfig config).run ops ↔
        ∃ p, (ofConfig config).Outstanding ops r.token p) ∧
    (∀ (before after : List Operation) (r r' : Response),
      ops = before ++ .complete r :: after → r'.token = r.token →
      ((ofConfig config).run before).complete r ≠ (ofConfig config).run before →
      ((ofConfig config).run ops).complete r' = (ofConfig config).run ops) := by
  have hissued : ((ofConfig config).issued ops).Nodup :=
    (issued_pairwise _ ops).imp Nat.ne_of_lt
  refine ⟨hissued, (handedOver_sublist _ ops).nodup hissued, ?_, ?_⟩
  · exact complete_ne_iff_outstanding config ops
  · rintro before after r r' rfl htoken hchanged
    rw [run_append, run_cons]
    exact complete_eq_self_of_answered (fresh_run (fresh_ofConfig config) before) htoken hchanged
      after

end Sheet

end PropertySheet
