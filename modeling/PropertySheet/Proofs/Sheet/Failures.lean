import PropertySheet.Proofs.Sheet.Formatted
import PropertySheet.Proofs.Sheet.Traffic

/-!
# What a failed request leaves behind

A request may come back with a failure. Then the sheet tells of it, and gives up what the request
was for: a request that serves the creation of a service takes the dialog down with it, and the
requests that serve it too, while any other is forgotten alone. `settle_of_failure` brings the five
purposes down to these two cases.

Nothing else changes. Rows, descriptors, histories, the open editor, the grid and the queued
requests are what they were (`intact_of_failure`).
-/

namespace PropertySheet

/-- The failure that a response brings. -/
def Response.failure? : Response → Option Failure
  | .descriptor _ (.error e) | .serviceTypes _ (.error e) | .serviceCreated _ (.error e)
  | .serviceLocated _ (.error e) => some e
  | _ => none

namespace Sheet

variable {s : Sheet} {p : Purpose} {r : Response} {e : Failure}

/-- A failure ends the creation of a service if the request served it, and is reported at any
rate. -/
theorem settle_of_failure (s : Sheet) (hfits : p.expects r) (hfailed : r.failure? = some e) :
    s.settle p r = if p.servesCreation then s.creationFailed e else s.reportFailure e := by
  cases r with
  | descriptor t result | serviceTypes t result | serviceCreated t result
  | serviceLocated t result =>
    cases result with
    | ok value => cases hfailed
    | error e' =>
      obtain rfl := Option.some.inj hfailed
      -- a purpose that calls for another kind of response does not fit
      cases p <;> first | rfl | cases hfits

theorem complete_of_failure (hp : s.pending.get? r.token = some p) (hfits : p.expects r)
    (hfailed : r.failure? = some e) : s.complete r =
      if p.servesCreation then { s with pending := s.pending.erase r.token }.creationFailed e
      else { s with pending := s.pending.erase r.token }.reportFailure e := by
  rw [complete, hp]
  exact settle_of_failure _ hfits hfailed

/-- What is pending when the creation of a service has failed: what was, but for the requests that
served it. -/
theorem get?_pending_creationFailed (s : Sheet) (e : Failure) (t : Token) :
    (s.creationFailed e).pending.get? t = (s.pending.get? t).filter fun q => !q.servesCreation :=
  SortedMap.get?_filter _ _ _

theorem creation?_creationFailed (s : Sheet) (e : Failure) :
    (s.creationFailed e).creation? = none :=
  congrArg Traffic.creation (s.traffic_creationFailed e)

/-- Another dialog than the one that creates a service stays open. -/
theorem dialog_creationFailed (h : s.creation? = none) (e : Failure) :
    (s.creationFailed e).dialog = s.dialog := by
  unfold creationFailed reportFailure showNotice emit closeCreation
  dsimp only
  split
  next d hd =>
    rw [creation?, hd] at h
    cases h
  · rfl

/-- A pending request that fails leaves the sheet as it is, except that it is no longer pending and
that a notice shows the failure and one event tells of it. If it served the creation of a service,
that is over: its dialog is closed and nothing that is pending serves it, and all other requests
stay pending. If not, the dialog and all other requests stay. -/
theorem intact_of_failure (hp : s.pending.get? r.token = some p) (hfits : p.expects r)
    (hfailed : r.failure? = some e) :
    let n := Notice.failure e.message
    let u := s.complete r
    u = { s with
      dialog := u.dialog, pending := u.pending, notice := some n,
      events := s.events ++ [.notice n] } ∧
    n.severity = .error ∧ u.pending.get? r.token = none ∧
    (p.servesCreation = true →
      u.creation? = none ∧ (s.creation? = none → u.dialog = s.dialog) ∧
      (∀ t q, u.pending.get? t = some q → q.servesCreation = false) ∧
      ∀ t q, t ≠ r.token → q.servesCreation = false →
        (u.pending.get? t = some q ↔ s.pending.get? t = some q)) ∧
    (p.servesCreation = false →
      u.dialog = s.dialog ∧ ∀ t, t ≠ r.token → u.pending.get? t = s.pending.get? t) := by
  intro n u
  have hu : u = if p.servesCreation
      then { s with pending := s.pending.erase r.token }.creationFailed e
      else { s with pending := s.pending.erase r.token }.reportFailure e :=
    complete_of_failure hp hfits hfailed
  clear_value u
  have hanswered : (s.pending.erase r.token).get? r.token = none := by
    rw [SortedMap.get?_erase, if_pos rfl]
  have hother : ∀ t, t ≠ r.token → (s.pending.erase r.token).get? t = s.pending.get? t := by
    intro t ht
    rw [SortedMap.get?_erase, if_neg ht.symm]
  by_cases hserves : p.servesCreation = true
  · rw [if_pos hserves] at hu
    have hpending : ∀ t, u.pending.get? t =
        ((s.pending.erase r.token).get? t).filter fun q => !q.servesCreation := by
      intro t
      rw [hu, get?_pending_creationFailed]
    refine ⟨by rw [hu]; rfl, rfl, by rw [hpending, hanswered]; rfl, fun _ => ?_, fun hnot => ?_⟩
    · refine ⟨by rw [hu, creation?_creationFailed], fun hnone => ?_, fun t q hq => ?_, ?_⟩
      · rw [hu]
        exact dialog_creationFailed (s := { s with pending := s.pending.erase r.token }) hnone e
      · rw [hpending, Option.filter_eq_some_iff] at hq
        simpa using hq.2
      · intro t q ht hq
        rw [hpending, hother t ht, Option.filter_eq_some_iff]
        simp [hq]
    · exact absurd hserves (Bool.eq_false_iff.mp hnot)
  · rw [if_neg hserves] at hu
    subst hu
    exact ⟨rfl, rfl, hanswered, fun hserves' => absurd hserves' hserves, fun _ => ⟨rfl, hother⟩⟩

/-- Two properties are asked for, a service is followed and another one is about to be created. Then
the first property is added, so that an editor is open underneath the dialog. -/
def crowdedRun : List Operation :=
  .load [("Cache", some "svc-1")]
    (.ofList [("Cache",
      { name := "Cache", allowableValues := some [{ value := "svc-1" }],
        serviceType := some "org.CacheClient" })])
    .empty :: askingForX ++
  [.addProperty "y", .goToService, .handleKey { code := .enter }, .handleKey { code := .down },
    .handleKey { code := .enter }, .complete (.descriptor 0 (.ok { name := "x" }))]

/-- The types of service cannot be listed. The dialog closes, and all else goes on. -/
theorem intact_of_failure_crowdedRun :
    let config : SheetConfig := { dialogContainer := some "main", supportsNavigation := true }
    let s := (ofConfig config).run crowdedRun
    let r : Response := .serviceTypes 3 (.error .missingFile)
    let n := Notice.failure Failure.missingFile.message
    let u := s.complete r
    s.pending.toList =
      [(1, .addProperty "y"), (2, .goToService), (3, .serviceTypes)] ∧
    s.creation?.isSome ∧ Purpose.serviceTypes.expects r ∧ r.failure? = some .missingFile ∧
    u.pending.toList = [(1, .addProperty "y"), (2, .goToService)] ∧
    u.editor.map (·.property) = some "x" ∧
    u = { s with
      dialog := u.dialog, pending := u.pending, notice := some n,
      events := s.events ++ [.notice n] } ∧
    u.pending.get? r.token = none ∧ u.creation? = none := by
  intro config s r n u
  have hp : s.pending.get? 3 = some .serviceTypes := by decide +kernel
  obtain ⟨hintact, -, hgone, hserving, -⟩ :=
    intact_of_failure (r := r) (e := .missingFile) hp rfl rfl
  exact ⟨by decide +kernel, by decide +kernel, rfl, rfl, by decide +kernel, by decide +kernel,
    hintact, hgone, (hserving rfl).1⟩

end Sheet

end PropertySheet
