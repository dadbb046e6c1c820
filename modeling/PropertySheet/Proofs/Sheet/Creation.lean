import PropertySheet.Proofs.Sheet.Tokens

/-!
# What the creation of a service waits for

The dialog that creates a service goes through stages, and in each of them but one it waits for one
response. `AwaitsStage` says that the pending requests which serve the creation are exactly what the
open dialog waits for: none without the dialog, one in each waiting stage, none while the user
chooses, and then there is something to choose from.

`awaitsStage_of_reachable` establishes it for every interleaving of calls, keys and responses, as
long as dialogs come and go by keys and responses (`ByKeys`) and a response is of the kind that its
request calls for (`Fits`). So the dialog never waits for a response that cannot come, and no
response to it is outstanding once it is gone. Both conditions are needed: a call that shows another
dialog over the creation leaves its requests pending, and a response of the wrong kind uses one up.
-/

namespace PropertySheet

/-! ## The requests that serve the creation -/

namespace Traffic

/-- The pending requests that serve the creation of a service. -/
def serving (x : Traffic) : SortedMap Token Purpose := x.pending.filter fun _ p => p.servesCreation

theorem get?_serving (x : Traffic) (t : Token) :
    x.serving.get? t = (x.pending.get? t).filter (·.servesCreation) :=
  SortedMap.get?_filter _ _ _

theorem get?_serving_of_serves {x : Traffic} {t : Token} {p : Purpose}
    (hp : x.pending.get? t = some p) (hs : p.servesCreation) : x.serving.get? t = some p := by
  simp [get?_serving, hp, hs]

@[simp]
theorem serving_showing (x : Traffic) (c : Option ServiceDialog) :
    (x.showing c).serving = x.serving := rfl

/-- A request of another purpose does not count. It replaces none that does, since its token is
new. -/
theorem serving_ask_of_not_serves {x : Traffic} {p : Purpose} (q : Request) (hx : x.Fresh)
    (hp : p.servesCreation = false) : (x.ask p q).serving = x.serving := by
  apply SortedMap.ext_get?
  intro t
  rw [get?_serving, get?_serving, ask, SortedMap.get?_insert]
  split
  next ht =>
    subst ht
    have hnone : x.pending.get? x.nextToken = none := by
      cases hget : x.pending.get? x.nextToken with
      | none => rfl
      | some p' => exact absurd (hx _ _ hget) (Nat.lt_irrefl _)
    simp [hnone, Option.filter, hp]
  · rfl

theorem serving_ask_of_serves (x : Traffic) {p : Purpose} (q : Request) (hp : p.servesCreation) :
    (x.ask p q).serving = x.serving.insert x.nextToken p := by
  apply SortedMap.ext_get?
  intro t
  rw [get?_serving, ask, SortedMap.get?_insert, SortedMap.get?_insert, get?_serving]
  split
  · simp [hp]
  · rfl

theorem serving_answer (x : Traffic) (t : Token) : (x.answer t).serving = x.serving.erase t := by
  apply SortedMap.ext_get?
  intro t'
  rw [get?_serving, answer, SortedMap.get?_erase, SortedMap.get?_erase, get?_serving]
  split <;> rfl

theorem serving_close (x : Traffic) : x.close.serving = .empty := by
  apply SortedMap.ext_get?
  intro t
  rw [get?_serving, close, SortedMap.get?_filter, SortedMap.get?_empty]
  cases x.pending.get? t with
  | none => rfl
  | some p => cases hp : p.servesCreation <;> simp [Option.filter, hp]

end Traffic

/-! ## Each stage waits for its response -/

namespace Traffic

/-- The requests that serve the creation are what the dialog waits for. -/
def AwaitsStage (x : Traffic) : Prop :=
  match x.creation with
  | none => x.serving.toList = []
  | some d =>
    match d.stage with
    | .loadingTypes => ∃ t, x.serving.toList = [(t, .serviceTypes)]
    | .choosing => x.serving.toList = [] ∧ d.types ≠ []
    | .creating => ∃ t, x.serving.toList = [(t, .createService)]
    | .refreshing =>
      ∃ t id, d.created = some id ∧ x.serving.toList = [(t, .refreshDescriptor d.rowId id)]

theorem toList_insert_of_nil {m : SortedMap Token Purpose} (h : m.toList = []) (t : Token)
    (p : Purpose) : (m.insert t p).toList = [(t, p)] := by
  show SortedMap.insertEntry t p m.toList = [(t, p)]
  rw [h]
  rfl

/-- The dialog is open while a request serves it. -/
theorem AwaitsStage.creation_isSome {x : Traffic} (h : x.AwaitsStage) {t : Token} {p : Purpose}
    (hp : x.serving.get? t = some p) : ∃ d, x.creation = some d := by
  cases hc : x.creation with
  | some d => exact ⟨d, rfl⟩
  | none =>
    have hmem : (t, p) ∈ x.serving.toList := SortedMap.mem_toList_iff.mpr hp
    rw [AwaitsStage, hc] at h
    rw [h] at hmem
    cases hmem

/-- Of the requests that serve the dialog there is one at most: after its response there is none. -/
theorem AwaitsStage.serving_answer {x : Traffic} (h : x.AwaitsStage) {t : Token} {p : Purpose}
    (hp : x.serving.get? t = some p) : (x.answer t).serving.toList = [] := by
  have hmem : (t, p) ∈ x.serving.toList := SortedMap.mem_toList_iff.mpr hp
  have hlist : ∃ e, x.serving.toList = [e] := by
    obtain ⟨d, hd⟩ := h.creation_isSome hp
    rw [AwaitsStage, hd] at h
    dsimp only at h
    split at h
    · obtain ⟨t', h⟩ := h
      exact ⟨_, h⟩
    · rw [h.1] at hmem
      cases hmem
    · obtain ⟨t', h⟩ := h
      exact ⟨_, h⟩
    · obtain ⟨t', id, _, h⟩ := h
      exact ⟨_, h⟩
  obtain ⟨e, he⟩ := hlist
  rw [he, List.mem_singleton] at hmem
  rw [Traffic.serving_answer]
  show x.serving.toList.filter (fun e => e.1 ≠ t) = []
  rw [he, ← hmem]
  simp

/-- The response to a request of another purpose changes nothing for the dialog. -/
theorem AwaitsStage.answer_of_not_serves {x : Traffic} (h : x.AwaitsStage) {t : Token}
    {p : Purpose} (hp : x.pending.get? t = some p) (hs : p.servesCreation = false) :
    (x.answer t).AwaitsStage := by
  have hsame : (x.answer t).serving = x.serving := by
    rw [Traffic.serving_answer]
    apply SortedMap.ext_get?
    intro t'
    rw [SortedMap.get?_erase]
    split
    next ht =>
      subst ht
      rw [get?_serving, hp]
      simp [Option.filter, hs]
    · rfl
  rw [AwaitsStage, hsame]
  exact h

theorem AwaitsStage.step {x y : Traffic} (hx : x.Fresh) (h : x.AwaitsStage) (hy : Step x y) :
    y.AwaitsStage := by
  cases hy with
  | idle => exact h
  | ask p q hp _ _ =>
    rw [AwaitsStage, serving_ask_of_not_serves q hx hp]
    exact h
  | move d d' hsome hcourse =>
    rw [AwaitsStage, hsome] at h
    rw [AwaitsStage, serving_showing]
    simp only [showing, hcourse.stage, hcourse.types, hcourse.created, hcourse.rowId]
    exact h
  | create d _ _ hsome hstage =>
    rw [AwaitsStage, hsome] at h
    simp only [hstage] at h
    rw [AwaitsStage, serving_ask_of_serves _ _ rfl]
    exact ⟨_, toList_insert_of_nil h.1 _ _⟩

/-- The creation of a service begins where none is going on. -/
theorem AwaitsStage.start {x : Traffic} (h : x.AwaitsStage) (hnone : x.creation = none)
    {d : ServiceDialog} (hstage : d.stage = .loadingTypes) (q : Request) :
    ((x.showing d).ask .serviceTypes q).AwaitsStage := by
  rw [AwaitsStage, hnone] at h
  rw [AwaitsStage, serving_ask_of_serves _ _ rfl]
  simp only [Traffic.ask, showing, hstage]
  exact ⟨_, toList_insert_of_nil h _ _⟩

theorem awaitsStage_close (x : Traffic) : x.close.AwaitsStage := by
  rw [AwaitsStage, serving_close]
  rfl

/-- The stage after a response is the one that its request was for. -/
theorem AwaitsStage.settled {x y : Traffic} {r : Response} {p : Purpose} (h : x.AwaitsStage)
    (hp : x.pending.get? r.token = some p) (hfits : p.expects r)
    (hy : Settled p r (x.answer r.token) y) : y.AwaitsStage := by
  cases hy with
  | closed _ => exact awaitsStage_close _
  | idle hcase _ =>
    cases hs : p.servesCreation with
    | false => exact h.answer_of_not_serves hp hs
    | true =>
      -- the dialog is open and the response fits, so it cannot have been idle
      obtain ⟨d, hd⟩ := h.creation_isSome (get?_serving_of_serves hp hs)
      rcases hcase with hcase | hcase | hcase
      · rw [hs] at hcase
        cases hcase
      · rw [answer, hd] at hcase
        cases hcase
      · rw [hfits] at hcase
        cases hcase
  | offered d _ types hpurpose _ hsome htypes _ =>
    subst hpurpose
    have hnil := h.serving_answer (get?_serving_of_serves hp rfl)
    rw [AwaitsStage]
    refine ⟨hnil, ?_⟩
    intro hsorted
    -- sorting the types loses none
    have hlength := congrArg List.length hsorted
    rw [ServiceDialog.typesLoaded, List.length_mergeSort] at hlength
    exact htypes (List.length_eq_zero_iff.mp hlength)
  | created d _ service hpurpose _ hsome _ =>
    subst hpurpose
    have hnil := h.serving_answer (get?_serving_of_serves hp rfl)
    rw [AwaitsStage, serving_ask_of_serves _ _ rfl]
    exact ⟨_, service.id, rfl, toList_insert_of_nil hnil _ _⟩

end Traffic

/-! ## All interleavings -/

namespace Sheet

/-- The pending requests that serve the creation of a service. -/
def creationRequests (s : Sheet) : List (Token × Purpose) :=
  s.pending.toList.filter fun e => e.2.servesCreation

/-- The requests that serve the creation of a service are what the open dialog waits for. -/
def AwaitsStage (s : Sheet) : Prop :=
  match s.dialog with
  | some (.createService d) =>
    match d.stage with
    | .loadingTypes => ∃ t, s.creationRequests = [(t, .serviceTypes)]
    | .choosing => s.creationRequests = [] ∧ d.types ≠ []
    | .creating => ∃ t, s.creationRequests = [(t, .createService)]
    | .refreshing =>
      ∃ t id, d.created = some id ∧ s.creationRequests = [(t, .refreshDescriptor d.rowId id)]
  | _ => s.creationRequests = []

theorem awaitsStage_iff_traffic (s : Sheet) : s.AwaitsStage ↔ s.traffic.AwaitsStage := by
  have hserving : s.traffic.serving.toList = s.creationRequests := rfl
  rw [AwaitsStage, Traffic.AwaitsStage, hserving, traffic, creation?]
  cases s.dialog with
  | none => rfl
  | some d => cases d <;> rfl

theorem awaitsStage_apply {s : Sheet} (hfresh : s.traffic.Fresh) (h : s.traffic.AwaitsStage)
    {op : Operation} (hop : s.ByKeysFitting op) : (s.apply op).traffic.AwaitsStage := by
  obtain ⟨hkeys, hfits⟩ := hop
  have hx := s.exchange_apply op
  generalize (s.apply op).traffic = y at hx
  cases hx with
  | emptied _ => rfl
  | taken => exact h
  | stale _ => exact h
  | @answered r p _ hp hy =>
    rw [Fits, hp] at hfits
    exact h.settled hp hfits hy
  | left _ => exact Traffic.awaitsStage_close _
  | started hnone _ _ _ _ _ hstage => exact h.start hnone hstage _
  | called _ _ _ hy => exact h.step hfresh hy
  | replaced hdialog _ =>
    -- the one case that would leave requests without their dialog
    rw [ByKeys, hdialog] at hkeys
    cases hkeys

/-- Whatever the order of calls, keys and responses, the dialog that creates a service waits for
exactly the requests of its stage. -/
theorem awaitsStage_of_reachable {s : Sheet} (h : Reachable ByKeysFitting s) : s.AwaitsStage := by
  suffices s.traffic.Fresh ∧ s.traffic.AwaitsStage from (awaitsStage_iff_traffic s).mpr this.2
  induction h with
  | new config => exact ⟨fresh_ofConfig config, rfl⟩
  | step _ hop ih => exact ⟨fresh_apply ih.1 _, awaitsStage_apply ih.1 ih.2 hop⟩

/-- A property whose value is a service, and the keys and responses that create one for it. -/
def creatingRun : List Operation := [
  .load [("Cache", none)]
    (.ofList [("Cache",
      { name := "Cache", allowableValues := some [], serviceType := some "org.CacheClient" })])
    .empty,
  .handleKey { code := .enter },
  .handleKey { code := .down },
  .handleKey { code := .enter },
  .complete (.serviceTypes 0 (.ok [{ name := "org.LocalCache" }])),
  .handleKey { code := .enter },
  .complete (.serviceCreated 1 (.ok { id := "svc-1", componentId := "svc-1" }))]

theorem awaitsStage_creatingRun :
    let s := (ofConfig { dialogContainer := some "main" }).run creatingRun
    AllowedAlong ByKeysFitting (ofConfig { dialogContainer := some "main" }) creatingRun ∧
    Reachable ByKeysFitting s ∧ s.creation?.map (·.stage) = some .refreshing ∧ s.AwaitsStage := by
  have hallowed : AllowedAlong ByKeysFitting (ofConfig { dialogContainer := some "main" })
      creatingRun := by decide +kernel
  have hreachable := Reachable.run (.new _) hallowed
  exact ⟨hallowed, hreachable, by decide +kernel, awaitsStage_of_reachable hreachable⟩

end Sheet

end PropertySheet
