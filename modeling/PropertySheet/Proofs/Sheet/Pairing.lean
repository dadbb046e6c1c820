import Mathlib.Data.List.Induction
import PropertySheet.Proofs.Sheet.Noninterference
import PropertySheet.Proofs.Sheet.Provenance

/-!
# Requests fit their purposes, and responses their requests

A sheet notes what it asked for in two places: the request goes into the queue, and its purpose
under the same token into the pending ones. Here the two are held together. `CallsFor` says which
request belongs to a purpose, and `Paired` that whatever is pending has such a request among those
that the sheet has made; every call keeps this (`paired_apply`).

A backend answers a request of the right kind with a response of the right kind, whatever it does on
the way (`Backend.returns_dispatch`). So a sheet that is given nothing but the responses of backends
never finds one that does not fit (`requests_fit_purposes`).
-/

namespace PropertySheet

/-- The property of the row of an id. -/
def Sheet.propertyOf? (s : Sheet) (id : Nat) : Option String :=
  (s.store.findById? id).map (·.property)

/-! ## What belongs to a purpose -/

theorem Purpose.CallsFor.mono {names names' : Nat → Option String} {p : Purpose} {q : Request}
    (h : p.CallsFor names q)
    (hnames : ∀ id name, names id = some name → names' id = some name) : p.CallsFor names' q := by
  -- the names of rows count for one purpose only
  cases p <;> cases q <;> first | exact hnames _ _ h | exact h

/-- Whatever a computation returns has a property. -/
def Returns {m : Type → Type} [Monad m] {α : Type} (P : α → Prop) (x : m α) : Prop :=
  ∃ y : m { a // P a }, Subtype.val <$> y = x

theorem returns_bind_pure {m : Type → Type} [Monad m] [LawfulMonad m] {α β : Type} {P : β → Prop}
    (x : m α) {f : α → β} (h : ∀ a, P (f a)) : Returns P (do return f (← x)) :=
  ⟨do return ⟨f (← x), h _⟩, by simp⟩

theorem Returns.run {α : Type} {P : α → Prop} {x : Id α} (h : Returns P x) : P x.run := by
  obtain ⟨y, rfl⟩ := h
  exact y.run.property

/-- A backend answers a request under its token, and as the purpose expects. -/
theorem Backend.returns_dispatch {m : Type → Type} [Monad m] [LawfulMonad m] (b : Backend m)
    {names : Nat → Option String} {p : Purpose} {q : Request} (h : p.CallsFor names q) :
    Returns (fun r => r.token = q.token ∧ p.expects r) (b.dispatch q) := by
  cases p with
  | addProperty name =>
    cases q with
    | resolveDescriptor t property => exact returns_bind_pure _ fun _ => ⟨rfl, rfl⟩
    | _ => cases h
  | serviceTypes =>
    cases q with
    | listServiceTypes t serviceType => exact returns_bind_pure _ fun _ => ⟨rfl, rfl⟩
    | _ => cases h
  | createService =>
    cases q with
    | createService t scope typeName => exact returns_bind_pure _ fun _ => ⟨rfl, rfl⟩
    | _ => cases h
  | refreshDescriptor rowId service =>
    cases q with
    | resolveDescriptor t property => exact returns_bind_pure _ fun _ => ⟨rfl, rfl⟩
    | _ => cases h
  | goToService =>
    cases q with
    | goToService t id unsaved => exact returns_bind_pure _ fun _ => ⟨rfl, rfl⟩
    | _ => cases h

/-! ## Purposes and requests in pairs -/

namespace Traffic

/-- What is pending has its request among those that have been made, and the dialog that creates a
service is for a property that its row has. -/
structure Paired (names : Nat → Option String) (x : Traffic) (made : List Request) : Prop where
  pending : ∀ t p, x.pending.get? t = some p → ∃ q ∈ made, q.token = t ∧ p.CallsFor names q
  creation : ∀ d, x.creation = some d → names d.rowId = some d.property

variable {names names' : Nat → Option String} {x y : Traffic} {made made' : List Request}

theorem paired_emptied (x : Traffic) : x.emptied.Paired names made where
  pending _ _ hp := nomatch hp
  creation _ hd := nomatch hd

theorem Paired.mono (h : x.Paired names made)
    (hnames : ∀ id name, names id = some name → names' id = some name)
    (hmade : ∀ q ∈ made, q ∈ made') : x.Paired names' made' := by
  refine ⟨fun t p hp => ?_, fun d hd => hnames _ _ (h.creation d hd)⟩
  obtain ⟨q, hq, ht, hcalls⟩ := h.pending t p hp
  exact ⟨q, hmade q hq, ht, hcalls.mono hnames⟩

theorem Paired.showing (h : x.Paired names made) {c : Option ServiceDialog}
    (hc : ∀ d, c = some d → names d.rowId = some d.property) : (x.showing c).Paired names made :=
  ⟨h.pending, hc⟩

/-- Fewer requests are pending. -/
theorem Paired.answer (h : x.Paired names made) (t : Token) : (x.answer t).Paired names made :=
  ⟨fun t' p hp => h.pending t' p (get?_pending_answer.mp hp).2, h.creation⟩

theorem Paired.close (h : x.Paired names made) : x.close.Paired names made :=
  ⟨fun t p hp => h.pending t p (get?_pending_close.mp hp).1, fun _ hd => nomatch hd⟩

/-- Nothing is asked for since an earlier moment. -/
theorem Paired.idle (h : y.Paired names made) (hsame : y.requests = x.requests) :
    y.Paired names (made ++ newRequests x y) := by
  have hnone : newRequests x y = [] := by simp [newRequests, hsame]
  rw [hnone, List.append_nil]
  exact h

/-- One thing is asked for since an earlier moment. -/
theorem Paired.ask (h : y.Paired names made) (hsame : y.requests = x.requests) {p : Purpose}
    {q : Request} (hq : q.token = y.nextToken) (hcalls : p.CallsFor names q) :
    (y.ask p q).Paired names (made ++ newRequests x (y.ask p q)) := by
  have hone : newRequests x (y.ask p q) = [q] := by simp [newRequests, Traffic.ask, hsame]
  rw [hone]
  refine ⟨fun t p' hp => ?_, h.creation⟩
  rw [Traffic.ask, SortedMap.get?_insert] at hp
  split at hp
  next ht =>
    obtain rfl := Option.some.inj hp
    exact ⟨q, by simp, hq.trans ht, hcalls⟩
  · obtain ⟨q', hq', hrest⟩ := h.pending t p' hp
    exact ⟨q', List.mem_append_left _ hq', hrest⟩

theorem Paired.step (h : x.Paired names made) (hy : Step x y) :
    y.Paired names (made ++ newRequests x y) := by
  cases hy with
  | idle => exact h.idle rfl
  | ask p q _ hq hcalls => exact h.ask rfl hq (hcalls names)
  | move d d' hd hcourse =>
    refine (h.showing fun d₀ hd₀ => ?_).idle rfl
    obtain rfl := Option.some.inj hd₀
    rw [hcourse.rowId, hcourse.property]
    exact h.creation d hd
  | create d scope typeName hd _ =>
    refine (h.showing fun d₀ hd₀ => ?_).ask rfl rfl trivial
    obtain rfl := Option.some.inj hd₀
    exact h.creation d hd

theorem Paired.replaced (h : x.Paired names made) (hy : Replaced x y) :
    y.Paired names (made ++ newRequests x y) := by
  obtain ⟨x', rfl | rfl, hstep⟩ := hy
  · exact h.step hstep
  · have hhidden : (x.showing none).Paired names made := h.showing fun _ hd => nomatch hd
    exact hhidden.step hstep

/-- The property of a new service is asked for in the name of its row. -/
theorem Paired.settled (h : x.Paired names made) {p : Purpose} {r : Response}
    (hy : Settled p r x y) : y.Paired names (made ++ newRequests x y) := by
  cases hy with
  | idle _ _ => exact h.idle rfl
  | offered d t types _ _ hd _ _ =>
    refine (h.showing fun d₀ hd₀ => ?_).idle rfl
    obtain rfl := Option.some.inj hd₀
    exact h.creation d hd
  | created d t service _ _ hd _ =>
    refine (h.showing fun d₀ hd₀ => ?_).ask rfl rfl (h.creation d hd)
    obtain rfl := Option.some.inj hd₀
    exact h.creation d hd
  | closed _ => exact h.close.idle rfl

end Traffic

namespace Sheet

open Traffic

variable {s : Sheet} {made : List Request}

/-! ## Rows keep their properties -/

theorem propertyOf?_eq_some_iff (h : s.store.Indexed) {id : Nat} {name : String} :
    s.propertyOf? id = some name ↔ ∃ r ∈ s.rows, r.id = id ∧ r.property = name := by
  rw [propertyOf?, Option.map_eq_some_iff]
  constructor
  · rintro ⟨r, hr, hname⟩
    obtain ⟨hmem, hid⟩ := h.findById?_eq_some_iff.mp hr
    exact ⟨r, hmem, hid, hname⟩
  · rintro ⟨r, hmem, hid, hname⟩
    exact ⟨r, h.findById?_eq_some_iff.mpr ⟨hmem, hid⟩, hname⟩

/-- A row goes on under its id and its name until the sheet is emptied. -/
theorem propertyOf?_apply (h : s.store.Indexed) {op : Operation} (hop : op.empties = false)
    {id : Nat} {name : String} (hname : s.propertyOf? id = some name) :
    (s.apply op).propertyOf? id = some name := by
  obtain ⟨r, hr, hid, hproperty⟩ := (propertyOf?_eq_some_iff h).mp hname
  have hnext := succeeds_apply h hop
  obtain ⟨r', hr', hbecomes⟩ := hnext.forth r hr
  exact (propertyOf?_eq_some_iff hnext.indexed).mpr
    ⟨r', hr', hbecomes.id.trans hid, hbecomes.property.trans hproperty⟩

/-- An editor is on a row of its property. -/
def EditsRow (s : Sheet) : Prop := ∀ e, s.editor = some e → s.propertyOf? e.rowId = some e.property

theorem editsRow_run (config : SheetConfig) (ops : List Operation) :
    ((ofConfig config).run ops).EditsRow := by
  -- what conceals secrets says so of every editor
  have hkept := run_invariant (P := fun s => Indistinguishable s s) (fun _ op h => h.step (.same op))
    (indistinguishable_ofConfig config) ops
  obtain ⟨names, -, hconceals, -⟩ := hkept
  intro e he
  obtain ⟨r, hr, hid, hproperty, -⟩ := hconceals.edited e he
  exact (propertyOf?_eq_some_iff hconceals.indexed).mpr ⟨r, hr, hid, hproperty⟩

/-! ## All operations -/

/-- Every call notes for what it asks, and keeps what has been noted. -/
theorem paired_apply (hidx : s.store.Indexed) (hedits : s.EditsRow)
    (h : s.traffic.Paired s.propertyOf? made) (op : Operation) :
    (s.apply op).traffic.Paired (s.apply op).propertyOf? (made ++ s.makes op) := by
  rw [makes]
  have hx := s.exchange_apply op
  cases hempties : op.empties with
  | true =>
    generalize (s.apply op).traffic = y at hx
    cases hx with
    | emptied _ => exact paired_emptied _
    | called _ hplain _ _ => cases hempties.symm.trans (Operation.empties_of_isPlain hplain)
    | replaced hdialog _ =>
      have hplain := Operation.isPlain_of_handlesDialog hdialog
      cases hempties.symm.trans (Operation.empties_of_isPlain hplain)
    | _ => cases hempties
  | false =>
    -- the names of before serve as well, since rows keep them
    suffices hbefore : (s.apply op).traffic.Paired s.propertyOf?
        (made ++ newRequests s.traffic (s.apply op).traffic) from
      hbefore.mono (fun _ _ => propertyOf?_apply hidx hempties) fun _ hq => hq
    generalize (s.apply op).traffic = y at hx
    cases hx with
    | emptied h => cases hempties.symm.trans h
    | taken =>
      have htaken : s.traffic.taken.Paired s.propertyOf? made := ⟨h.pending, h.creation⟩
      exact htaken.mono (fun _ _ hname => hname) fun _ hq => List.mem_append_left _ hq
    | stale _ => exact h.idle rfl
    | answered _ hy => exact (h.answer _).settled hy
    | left _ => exact h.close.idle rfl
    | @started k e d _ he hrow hproperty _ _ _ =>
      refine (h.showing fun d₀ hd₀ => ?_).ask rfl rfl trivial
      obtain rfl := Option.some.inj hd₀
      have hsame := e.sameRow_handleKey k
      rw [hrow, hproperty, hsame.rowId, hsame.property]
      exact hedits e he
    | called _ _ _ hy => exact h.step hy
    | replaced _ hy => exact h.replaced hy

theorem made_append (s : Sheet) (xs ys : List Operation) :
    s.made (xs ++ ys) = s.made xs ++ (s.run xs).made ys := by
  induction xs generalizing s with
  | nil => rfl
  | cons op xs ih => rw [List.cons_append, made, made, ih, List.append_assoc, run_cons]

/-- Whatever has happened, what is pending has its request among those made since the sheet is
new. -/
theorem paired_run (config : SheetConfig) (ops : List Operation) :
    ((ofConfig config).run ops).traffic.Paired ((ofConfig config).run ops).propertyOf?
      ((ofConfig config).made ops) := by
  -- the last call is taken off, since the states before it are those of a run as well
  induction ops using List.reverseRecOn with
  | nil => exact paired_emptied (ofConfig config).traffic
  | append_singleton ops op ih =>
    have hidx := indexed_run (s := ofConfig config) RowStore.indexed_empty ops
    rw [made_append, run_append]
    simpa [made] using paired_apply hidx (editsRow_run config ops) ih op

/-- No two requests that are made share a token. -/
theorem filter_made_of_mem {config : SheetConfig} {ops : List Operation} {q : Request}
    (hq : q ∈ (ofConfig config).made ops) :
    ((ofConfig config).made ops).filter (·.token = q.token) = [q] := by
  have hnodup : (((ofConfig config).made ops).map (·.token)).Nodup := by
    rw [map_token_made]
    exact (issued_pairwise _ ops).imp Nat.ne_of_lt
  exact filter_key_eq_singleton hnodup hq

end Sheet

namespace Hosting

open Sheet

/-! ## Responses of backends -/

theorem sheet_run_start (config : SheetConfig) (steps : List HostStep) :
    ((start config).run steps).sheet = (ofConfig config).run (steps.map (·.operation)) :=
  sheet_run _ steps

/-- What the application has taken or may take has been made. -/
theorem mem_made_of_mem_requests (config : SheetConfig) (steps : List HostStep) {q : Request}
    (hq : q ∈ ((start config).run steps).requests) :
    q ∈ (ofConfig config).made (steps.map (·.operation)) := by
  induction steps using List.reverseRecOn with
  | nil => cases hq
  | append_singleton steps x ih =>
    rw [List.map_append, made_append, List.mem_append, ← sheet_run_start]
    rw [run_append, requests, List.mem_append] at hq
    have hcollects : ∀ q ∈ ((start config).run steps).sheet.collects x.operation,
        q ∈ ((start config).run steps).sheet.requests := by
      cases x.operation <;> simp [collects]
    rcases hq with hq | hq
    · -- it was taken before, or from the queue
      rcases List.mem_append.mp hq with hq | hq
      · exact .inl (ih (List.mem_append_left _ hq))
      · exact .inl (ih (List.mem_append_right _ (hcollects q hq)))
    · -- it was in the queue before, or has just been made
      replace hq : q ∈ (((start config).run steps).sheet.apply x.operation).requests := hq
      rcases ((start config).run steps).sheet.queue_cases x.operation with
        ⟨-, hempty⟩ | ⟨-, -, hadded⟩
      · rw [hempty] at hq
        cases hq
      · rw [hadded, List.mem_append] at hq
        refine hq.imp (fun hq => ih (List.mem_append_right _ hq)) fun hq => ?_
        simpa [made] using hq

/-- Where only backends answer, whatever they do, a response fits. -/
theorem fits_of_dispatched (config : SheetConfig) (steps : List HostStep) {x : HostStep}
    (hx : ((start config).run steps).Dispatched x) :
    ((start config).run steps).sheet.Fits x.operation := by
  cases x with
  | call op =>
    cases op with
    | complete r => exact hx.elim
    | _ => trivial
  | answer q b =>
    show (((start config).run steps).sheet.pending.get? (b.dispatch q).run.token).all
      (·.expects (b.dispatch q).run)
    rw [Backend.token_dispatch, sheet_run_start]
    cases hp : ((ofConfig config).run (steps.map (·.operation))).pending.get? q.token with
    | none => rfl
    | some p =>
      obtain ⟨q', hq', htoken, hcalls⟩ := (paired_run config _).pending q.token p hp
      -- the request that is answered is the one that is pending
      have hown := filter_made_of_mem (mem_made_of_mem_requests config steps
        (mem_requests_of_taken hx))
      have hmem : q' ∈ ((ofConfig config).made (steps.map (·.operation))).filter
          (·.token = q.token) := by
        simp [hq', htoken]
      rw [hown, List.mem_singleton] at hmem
      obtain rfl := hmem
      exact (b.returns_dispatch hcalls).run.2

/-- Whatever has been called: each pending request was made once and is of the kind that its purpose
calls for, and any backend answers it under its token and as expected. So while backends give the
responses, none of them fails to fit. -/
theorem requests_fit_purposes (config : SheetConfig) :
    (∀ (ops : List Operation) (t : Token) (p : Purpose),
      ((ofConfig config).run ops).pending.get? t = some p →
      ∃ q, ((ofConfig config).made ops).filter (·.token = t) = [q] ∧
        p.CallsFor ((ofConfig config).run ops).propertyOf? q ∧
        ∀ (m : Type → Type) [Monad m] [LawfulMonad m] (b : Backend m),
          Returns (fun r => r.token = t ∧ p.expects r) (b.dispatch q)) ∧
    ∀ steps : List HostStep, Along Dispatched (start config) steps →
      Along (fun h x => h.sheet.Fits x.operation) (start config) steps := by
  constructor
  · intro ops t p hp
    obtain ⟨q, hq, rfl, hcalls⟩ := (paired_run config ops).pending t p hp
    exact ⟨q, filter_made_of_mem hq, hcalls, fun m _ _ b => b.returns_dispatch hcalls⟩
  · intro steps hsteps
    rw [along_iff] at hsteps ⊢
    intro before x after hsplit
    exact fits_of_dispatched config before (hsteps before x after hsplit)

/-- A service is created for the first property, which is then looked up again. -/
def refreshingRun : List HostStep :=
  loadTwoServices :: creationKeys ++
  [.answer (.listServiceTypes 0 "org.Cache") oneTypeEach, .call (.handleKey { code := .enter }),
    .call .takeRequests, .answer (.createService 1 .controller "org.CacheImpl") oneTypeEach,
    .call .takeRequests]

theorem requests_fit_purposes_refreshingRun :
    Along Dispatched (start { dialogContainer := some "main" }) refreshingRun ∧
    Along (fun h x => h.sheet.Fits x.operation) (start { dialogContainer := some "main" })
      refreshingRun ∧
    ((ofConfig { dialogContainer := some "main" }).run
      (refreshingRun.map (·.operation))).pending.get? 2 = some (.refreshDescriptor 0 "svc-1") ∧
    ((ofConfig { dialogContainer := some "main" }).made
      (refreshingRun.map (·.operation))).filter (·.token = 2) =
        [.resolveDescriptor 2 "Cache"] := by
  obtain ⟨hpaired, hfits⟩ := requests_fit_purposes { dialogContainer := some "main" }
  have hdispatched : Along Dispatched (start { dialogContainer := some "main" }) refreshingRun := by
    decide +kernel
  have hpending : ((ofConfig { dialogContainer := some "main" }).run
      (refreshingRun.map (·.operation))).pending.get? 2 = some (.refreshDescriptor 0 "svc-1") := by
    decide +kernel
  have hproperty : ((ofConfig { dialogContainer := some "main" }).run
      (refreshingRun.map (·.operation))).propertyOf? 0 = some "Cache" := by
    decide +kernel
  refine ⟨hdispatched, hfits _ hdispatched, hpending, ?_⟩
  obtain ⟨q, hq, hcalls, -⟩ := hpaired _ _ _ hpending
  have hmade : q ∈ [q] := List.mem_singleton_self q
  rw [← hq, List.mem_filter] at hmade
  cases q with
  | resolveDescriptor t property =>
    obtain rfl := Option.some.inj (hcalls.symm.trans hproperty)
    obtain rfl : t = 2 := of_decide_eq_true hmade.2
    exact hq
  | _ => cases hcalls

end Hosting

end PropertySheet
