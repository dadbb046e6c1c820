import PropertySheet.Proofs.Sheet.EditLock
import PropertySheet.Proofs.Sheet.Hosting

/-!
# Where offered types and created services come from

The dialog that creates a service offers types, and a row takes the service that has been created.
Neither the types nor the service say which dialog had asked for them, so that they are the dialog's
own has to follow from the order of events.

A dialog is told from another one by its time: it is open from the step that opened it on, and as
long as it stays open it is the same dialog (`Since`). `Offered`, `Ordered` and `Created` tell the
story of the types and of the service in these terms. `offered_and_created_by_own_dialog` says that
every dialog in which the user chooses has such a story, and so has every service that is about to
be written into a row, whatever the order of responses.

One thing has to be excluded: a call that puts another dialog over the creation of a service leaves
its requests pending (`Sheet.KeepsCreation`). `not_offered_overlaidRun` shows what happens then: the next
dialog offers the types that the one before it had asked for.
-/

namespace PropertySheet

theorem Sheet.complete_of_refreshDescriptor {s : Sheet} {t : Token} {rowId : Nat} {id : String}
    (hp : s.pending.get? t = some (.refreshDescriptor rowId id)) (d : Descriptor) :
    s.complete (.descriptor t (.ok d)) =
      ({ s with pending := s.pending.erase t } : Sheet).descriptorRefreshed rowId id d := by
  simp only [complete, Response.token, hp, settle]

/-- The response that the creation of a service waits for at last writes the service into the row
of the request, and changes no other row. -/
theorem Sheet.rows_complete_of_refreshDescriptor {s : Sheet} (hidx : s.store.Indexed) {t : Token}
    {rowId : Nat} {id : String} (hp : s.pending.get? t = some (.refreshDescriptor rowId id))
    (d : Descriptor) :
    (s.complete (.descriptor t (.ok d))).rows =
      s.rows.map (RowStore.patchAt rowId { value := some (some id) }) := by
  rw [complete_of_refreshDescriptor hp, descriptorRefreshed]
  dsimp only
  split
  next hnone => exact (RowStore.Indexed.map_patchAt_of_none hidx hnone _).symm
  next r _ =>
    show (updateRow _ rowId _).rows = s.rows.map _
    rw [rows_updateRow]
    · rfl
    · exact hidx

namespace Hosting

/-! ## The story of a dialog -/

/-- The dialog that creates a service is open, now and after each of a sequence of steps. -/
def StaysOpen (h : Hosting) : List HostStep → Prop
  | [] => h.sheet.creation?.isSome
  | x :: steps => h.sheet.creation?.isSome ∧ (h.apply x).StaysOpen steps

/-- Something happened in a step, and the dialog that was open after the step still is. -/
def Since (h : Hosting) (steps : List HostStep) (happened : List HostStep → HostStep → Prop) :
    Prop :=
  ∃ before x after, steps = before ++ x :: after ∧ happened before x ∧
    ((h.run before).apply x).StaysOpen after

/-- A step makes a request. -/
def Asks (h : Hosting) (x : HostStep) (q : Request) : Prop :=
  (h.apply x).sheet.requests = h.sheet.requests ++ [q]

/-- A step opens the dialog that creates a service, for the row and the type of service of a dialog,
and asks for the types under a token. -/
structure Opens (h : Hosting) (x : HostStep) (d : ServiceDialog) (t : Token) : Prop where
  closed : h.sheet.creation? = none
  opened : ∃ d₀, (h.apply x).sheet.creation? = some d₀ ∧ d₀.rowId = d.rowId ∧
    d₀.serviceType = d.serviceType
  asks : h.Asks x (.listServiceTypes t d.serviceType)

/-- The open dialog was opened for its row and its type of service, with a request under a token. -/
def Opened (h : Hosting) (steps : List HostStep) (d : ServiceDialog) (t : Token) : Prop :=
  h.Since steps fun before x => (h.run before).Opens x d t

/-- The types of the open dialog are the answer to the request that it made when it was opened. -/
def Offered (h : Hosting) (steps : List HostStep) (d : ServiceDialog) : Prop :=
  h.Since steps fun before x => ∃ t b types,
    x = .answer (.listServiceTypes t d.serviceType) b ∧ h.Opened before d t ∧
    b.serviceTypes d.serviceType = .ok types ∧ d.types = (d.typesLoaded types).types

/-- The open dialog has asked for a service, after it had offered types. -/
def Ordered (h : Hosting) (steps : List HostStep) (rowId : Nat) (q : Request) : Prop :=
  h.Since steps fun before x =>
    ∃ d : ServiceDialog, d.rowId = rowId ∧ h.Offered before d ∧ (h.run before).Asks x q

/-- A service was created at the request of the dialog that was open then, which had been opened for
a row. -/
def Created (h : Hosting) (steps : List HostStep) (rowId : Nat) (id : String) : Prop :=
  ∃ before after t scope typeName, ∃ b : Backend Id, ∃ service,
    steps = before ++ .answer (.createService t scope typeName) b :: after ∧
    h.Ordered before rowId (.createService t scope typeName) ∧
    b.createService scope typeName = .ok service ∧ service.id = id

variable {h : Hosting} {steps : List HostStep} {x : HostStep}

theorem staysOpen_concat {u : Hosting} (hsteps : u.StaysOpen steps)
    (hx : ((u.run steps).apply x).sheet.creation?.isSome) : u.StaysOpen (steps ++ [x]) := by
  induction steps generalizing u with
  | nil => exact ⟨hsteps, hx⟩
  | cons first rest ih => exact ⟨hsteps.1, ih hsteps.2 hx⟩

/-- What happened before still has happened, if the dialog is still open. -/
theorem Since.concat {happened : List HostStep → HostStep → Prop} (hs : h.Since steps happened)
    (hx : ((h.run steps).apply x).sheet.creation?.isSome) : h.Since (steps ++ [x]) happened := by
  obtain ⟨before, first, after, rfl, hhappened, hopen⟩ := hs
  refine ⟨before, first, after ++ [x], by simp, hhappened, staysOpen_concat hopen ?_⟩
  simpa using hx

/-- It may have happened just now. -/
theorem since_concat_self {happened : List HostStep → HostStep → Prop} (hx : happened steps x)
    (hopen : ((h.run steps).apply x).sheet.creation?.isSome) : h.Since (steps ++ [x]) happened :=
  ⟨steps, x, [], rfl, hx, hopen⟩

theorem Since.imp {happened happened' : List HostStep → HostStep → Prop}
    (hs : h.Since steps happened) (himp : ∀ before x, happened before x → happened' before x) :
    h.Since steps happened' := by
  obtain ⟨before, first, after, hsteps, hhappened, hopen⟩ := hs
  exact ⟨before, first, after, hsteps, himp _ _ hhappened, hopen⟩

variable {d d' : ServiceDialog}

/-- Only the row and the type of service of the dialog count. -/
theorem Opened.congr {t : Token} (ho : h.Opened steps d t) (hrow : d'.rowId = d.rowId)
    (htype : d'.serviceType = d.serviceType) : h.Opened steps d' t := by
  refine Since.imp ho fun before x hopens => ?_
  obtain ⟨d₀, hd₀, hrow₀, htype₀⟩ := hopens.opened
  exact ⟨hopens.closed, ⟨d₀, hd₀, hrow₀.trans hrow.symm, htype₀.trans htype.symm⟩,
    htype ▸ hopens.asks⟩

theorem Offered.congr (ho : h.Offered steps d) (hrow : d'.rowId = d.rowId)
    (htype : d'.serviceType = d.serviceType) (htypes : d'.types = d.types) :
    h.Offered steps d' := by
  refine Since.imp ho ?_
  rintro before x ⟨t, b, types, rfl, hopened, hanswer, hlist⟩
  exact ⟨t, b, types, by rw [htype], hopened.congr hrow htype, by rw [htype]; exact hanswer,
    htypes.trans hlist⟩

theorem Created.concat {rowId : Nat} {id : String} (hc : h.Created steps rowId id) :
    h.Created (steps ++ [x]) rowId id := by
  obtain ⟨before, after, t, scope, typeName, b, service, rfl, hrest⟩ := hc
  exact ⟨before, after ++ [x], t, scope, typeName, b, service, by simp, hrest⟩

/-! ## Traffic with a story -/

/-- What a sheet waits for and offers has its story, in which the requests still to be answered are
among those that have been made. -/
structure Explains (h : Hosting) (steps : List HostStep) (x : Traffic) (made : List Request) :
    Prop where
  opened : ∀ d, x.creation = some d → ∃ t, h.Opened steps d t
  asked : ∀ t, x.pending.get? t = some .serviceTypes →
    ∃ d, x.creation = some d ∧ h.Opened steps d t ∧ .listServiceTypes t d.serviceType ∈ made
  offered : ∀ d, x.creation = some d → d.stage = .choosing → h.Offered steps d
  ordered : ∀ t, x.pending.get? t = some .createService →
    ∃ d scope typeName, x.creation = some d ∧
      h.Ordered steps d.rowId (.createService t scope typeName) ∧
      .createService t scope typeName ∈ made
  created : ∀ t rowId id, x.pending.get? t = some (.refreshDescriptor rowId id) →
    h.Created steps rowId id

variable {y : Traffic} {made made' : List Request}

/-- Without the dialog and its requests there is no story to tell. -/
theorem explains_of_closed (hnone : y.creation = none)
    (hpending : ∀ t p, y.pending.get? t = some p → p.servesCreation = false) :
    h.Explains steps y made where
  opened _ hd := nomatch hnone.symm.trans hd
  asked t hp := nomatch hpending t _ hp
  offered _ hd := nomatch hnone.symm.trans hd
  ordered t hp := nomatch hpending t _ hp
  created t _ _ hp := nomatch hpending t _ hp

theorem explains_emptied : h.Explains steps y.emptied made :=
  explains_of_closed rfl fun _ _ hp => nomatch hp

theorem explains_close : h.Explains steps y.close made :=
  explains_of_closed rfl fun _ _ hp => (Traffic.get?_pending_close.mp hp).2

/-- One more step leaves the story as it is while the dialog stays open. -/
theorem Explains.concat (he : h.Explains steps y made)
    (hopen : y.creation.isSome → ((h.run steps).apply x).sheet.creation?.isSome)
    (hmade : ∀ q ∈ made, q ∈ made') : h.Explains (steps ++ [x]) y made' where
  opened d hd := by
    obtain ⟨t, ht⟩ := he.opened d hd
    exact ⟨t, Since.concat ht (hopen (by simp [hd]))⟩
  asked t hp := by
    obtain ⟨d, hd, ht, hq⟩ := he.asked t hp
    exact ⟨d, hd, Since.concat ht (hopen (by simp [hd])), hmade _ hq⟩
  offered d hd hstage := Since.concat (he.offered d hd hstage) (hopen (by simp [hd]))
  ordered t hp := by
    obtain ⟨d, scope, typeName, hd, ht, hq⟩ := he.ordered t hp
    exact ⟨d, scope, typeName, hd, Since.concat ht (hopen (by simp [hd])), hmade _ hq⟩
  created t rowId id hp := (he.created t rowId id hp).concat

/-- The dialog goes on, and it offers what it did or has its own story of what it offers. -/
theorem Explains.showing (he : h.Explains steps y made) (hd : y.creation = some d)
    (hrow : d'.rowId = d.rowId) (htype : d'.serviceType = d.serviceType)
    (hoffered : d'.stage = .choosing → h.Offered steps d') :
    h.Explains steps (y.showing d') made where
  opened d₁ hd₁ := by
    obtain rfl := Option.some.inj hd₁
    obtain ⟨t, ht⟩ := he.opened d hd
    exact ⟨t, ht.congr hrow htype⟩
  asked t hp := by
    obtain ⟨d₁, hd₁, ht, hq⟩ := he.asked t hp
    obtain rfl := Option.some.inj (hd.symm.trans hd₁)
    exact ⟨d', rfl, ht.congr hrow htype, htype ▸ hq⟩
  offered d₁ hd₁ hstage := by
    obtain rfl := Option.some.inj hd₁
    exact hoffered hstage
  ordered t hp := by
    obtain ⟨d₁, scope, typeName, hd₁, ht, hq⟩ := he.ordered t hp
    obtain rfl := Option.some.inj (hd.symm.trans hd₁)
    exact ⟨d', scope, typeName, rfl, hrow ▸ ht, hq⟩
  created := he.created

/-- A request is made that has its story. -/
theorem Explains.ask (he : h.Explains steps y made) {p : Purpose} (q : Request)
    (htypes : p ≠ .serviceTypes)
    (hordered : p = .createService → ∃ d scope typeName, y.creation = some d ∧
      h.Ordered steps d.rowId (.createService y.nextToken scope typeName) ∧
      .createService y.nextToken scope typeName ∈ made)
    (hcreated : ∀ rowId id, p = .refreshDescriptor rowId id → h.Created steps rowId id) :
    h.Explains steps (y.ask p q) made where
  opened := he.opened
  asked t hp := by
    rw [Traffic.ask, SortedMap.get?_insert] at hp
    split at hp
    · exact absurd (Option.some.inj hp) htypes
    · exact he.asked t hp
  offered := he.offered
  ordered t hp := by
    rw [Traffic.ask, SortedMap.get?_insert] at hp
    split at hp
    next ht => exact ht ▸ hordered (Option.some.inj hp)
    · exact he.ordered t hp
  created t rowId id hp := by
    rw [Traffic.ask, SortedMap.get?_insert] at hp
    split at hp
    · exact hcreated rowId id (Option.some.inj hp)
    · exact he.created t rowId id hp

/-- A request is no longer waited for. -/
theorem Explains.answer (he : h.Explains steps y made) (t : Token) :
    h.Explains steps (y.answer t) made where
  opened := he.opened
  asked t' hp := he.asked t' (Traffic.get?_pending_answer.mp hp).2
  offered := he.offered
  ordered t' hp := he.ordered t' (Traffic.get?_pending_answer.mp hp).2
  created t' rowId id hp := he.created t' rowId id (Traffic.get?_pending_answer.mp hp).2

/-- The dialog is opened by the last step. Nothing can have been asked for it before. -/
theorem Explains.start (he : h.Explains steps y made) (hnone : y.creation = none) {q : Request}
    (hopens : (h.run steps).Opens x d y.nextToken) (hstage : d.stage = .loadingTypes)
    (hopen : ((h.run steps).apply x).sheet.creation?.isSome)
    (hmade : .listServiceTypes y.nextToken d.serviceType ∈ made') :
    h.Explains (steps ++ [x]) ((y.showing d).ask .serviceTypes q) made' := by
  have hopened : h.Opened (steps ++ [x]) d y.nextToken := since_concat_self hopens hopen
  refine ⟨?_, ?_, ?_, ?_, ?_⟩
  · intro d₁ hd₁
    obtain rfl := Option.some.inj hd₁
    exact ⟨_, hopened⟩
  · intro t hp
    rw [Traffic.ask, SortedMap.get?_insert] at hp
    split at hp
    next ht => exact ⟨d, rfl, ht ▸ hopened, ht ▸ hmade⟩
    · obtain ⟨d₁, hd₁, _⟩ := he.asked t hp
      cases hnone.symm.trans hd₁
  · intro d₁ hd₁ hchoosing
    obtain rfl := Option.some.inj hd₁
    cases hstage.symm.trans hchoosing
  · intro t hp
    rw [Traffic.ask, SortedMap.get?_insert] at hp
    split at hp
    · cases hp
    · obtain ⟨d₁, _, _, hd₁, _⟩ := he.ordered t hp
      cases hnone.symm.trans hd₁
  · intro t rowId id hp
    rw [Traffic.ask, SortedMap.get?_insert] at hp
    split at hp
    · cases hp
    · exact (he.created t rowId id hp).concat

/-! ## What a step does to the story -/

/-- A call, or the response to a request that has been taken, and no other dialog over the creation
of a service. -/
def Orderly (h : Hosting) (x : HostStep) : Prop :=
  h.Dispatched x ∧ h.sheet.KeepsCreation x.operation

instance (h : Hosting) (x : HostStep) : Decidable (h.Orderly x) :=
  inferInstanceAs (Decidable (h.Dispatched x ∧ h.sheet.KeepsCreation x.operation))

/-- The story so far. -/
structure Explained (h : Hosting) (steps : List HostStep) : Prop where
  numbered : (h.run steps).Numbered
  explains : h.Explains steps (h.run steps).sheet.traffic (h.run steps).requests

/-- A call that does not begin or leave the creation of a service. -/
theorem Explained.step (he : h.Explained steps)
    (hx : x.operation.empties = false) {z : Traffic}
    (hz : ((h.run steps).apply x).sheet.traffic = z)
    (hstep : Traffic.Step (h.run steps).sheet.traffic z) :
    h.Explains (steps ++ [x]) z ((h.run steps).apply x).requests := by
  have hmade : ∀ q ∈ (h.run steps).requests, q ∈ ((h.run steps).apply x).requests :=
    fun q hq => mem_requests_apply hx hq
  have hshown : ((h.run steps).apply x).sheet.creation? = z.creation :=
    congrArg Traffic.creation hz
  have hqueue : ((h.run steps).apply x).sheet.requests = z.requests := congrArg Traffic.requests hz
  have hcarry : (∀ d, (h.run steps).sheet.traffic.creation = some d → z.creation.isSome) →
      h.Explains (steps ++ [x]) (h.run steps).sheet.traffic ((h.run steps).apply x).requests := by
    intro hopen
    refine he.explains.concat (fun hsome => ?_) hmade
    obtain ⟨d, hd⟩ := Option.isSome_iff_exists.mp hsome
    rw [hshown]
    exact hopen d hd
  cases hstep with
  | idle => exact hcarry fun d hd => by simp [hd]
  | ask p q hp _ _ =>
    refine (hcarry fun d hd => ?_).ask q ?_ ?_ ?_
    · simp [Traffic.ask, hd]
    · rintro rfl
      cases hp
    · rintro rfl
      cases hp
    · rintro rowId id rfl
      cases hp
  | move d d' hd hcourse =>
    have hopen : ((h.run steps).apply x).sheet.creation?.isSome := by
      rw [hshown]
      rfl
    refine (hcarry fun _ _ => rfl).showing hd hcourse.rowId hcourse.serviceType fun hstage => ?_
    have hoffered := he.explains.offered d hd (hcourse.stage.symm.trans hstage)
    exact Offered.congr (Since.concat hoffered hopen) hcourse.rowId hcourse.serviceType
      hcourse.types
  | create d scope typeName hd hstage =>
    have hopen : ((h.run steps).apply x).sheet.creation?.isSome := by
      rw [hshown]
      rfl
    have hordered : h.Ordered (steps ++ [x]) d.rowId
        (.createService (h.run steps).sheet.nextToken scope typeName) :=
      since_concat_self ⟨d, rfl, he.explains.offered d hd hstage, hqueue⟩ hopen
    refine Explains.ask (y := (h.run steps).sheet.traffic.showing d.startCreating)
      ((hcarry fun _ _ => rfl).showing hd rfl rfl ?_) _ ?_ ?_ ?_
    · rintro ⟨⟩
    · rintro ⟨⟩
    · intro _
      refine ⟨d.startCreating, scope, typeName, rfl, hordered, ?_⟩
      rw [requests, hqueue]
      exact List.mem_append_right _ (List.mem_append_right _ (List.mem_singleton_self _))
    · rintro _ _ ⟨⟩

/-- A response to a request that is waited for. -/
theorem Explained.answered (he : h.Explained steps) {q : Request} {b : Backend Id}
    (hq : q ∈ (h.run steps).taken) {p : Purpose}
    (hp : (h.run steps).sheet.pending.get? q.token = some p) {z : Traffic}
    (hz : ((h.run steps).apply (.answer q b)).sheet.traffic = z)
    (hsettled : Traffic.Settled p (b.dispatch q).run
      ((h.run steps).sheet.traffic.answer q.token) z) :
    h.Explains (steps ++ [.answer q b]) z ((h.run steps).apply (.answer q b)).requests := by
  have hmade : ∀ q' ∈ (h.run steps).requests,
      q' ∈ ((h.run steps).apply (.answer q b)).requests := fun q' hq' =>
    mem_requests_apply (x := .answer q b) rfl hq'
  have hshown : ((h.run steps).apply (.answer q b)).sheet.creation? = z.creation :=
    congrArg Traffic.creation hz
  have hcarry : (∀ d, (h.run steps).sheet.traffic.creation = some d → z.creation.isSome) →
      h.Explains (steps ++ [.answer q b]) ((h.run steps).sheet.traffic.answer q.token)
        ((h.run steps).apply (.answer q b)).requests := by
    intro hopen
    refine (he.explains.concat (fun hsome => ?_) hmade).answer _
    obtain ⟨d, hd⟩ := Option.isSome_iff_exists.mp hsome
    rw [hshown]
    exact hopen d hd
  cases hsettled with
  | idle _ _ => exact hcarry fun d hd => by simp [Traffic.answer, hd]
  | closed _ => exact explains_close
  | offered d t types hpurpose hresponse hd _ _ =>
    subst hpurpose
    have hopen : ((h.run steps).apply (.answer q b)).sheet.creation?.isSome := by
      rw [hshown]
      rfl
    -- the request under this token is the one that this dialog made
    obtain ⟨d₁, hd₁, hopened, hasked⟩ := he.explains.asked _ hp
    obtain rfl := Option.some.inj (hd₁.symm.trans hd)
    have hown := he.numbered.eq_of_token_eq (mem_requests_of_taken hq) hasked rfl
    rw [hown, Backend.dispatch_listServiceTypes] at hresponse
    have hlist : b.serviceTypes d₁.serviceType = .ok types :=
      (Response.serviceTypes.inj hresponse).2
    refine (hcarry fun _ _ => rfl).showing hd rfl rfl fun _ => ?_
    exact since_concat_self
      ⟨q.token, b, types, by rw [hown]; rfl, hopened.congr rfl rfl, hlist, rfl⟩
      hopen
  | created d t service hpurpose hresponse hd _ =>
    subst hpurpose
    obtain ⟨d₁, scope, typeName, hd₁, hordered, hasked⟩ := he.explains.ordered _ hp
    obtain rfl := Option.some.inj (hd₁.symm.trans hd)
    have hown := he.numbered.eq_of_token_eq (mem_requests_of_taken hq) hasked rfl
    rw [hown, Backend.dispatch_createService] at hresponse
    have hservice : b.createService scope typeName = .ok service :=
      (Response.serviceCreated.inj hresponse).2
    refine Explains.ask
      (y := ((h.run steps).sheet.traffic.answer q.token).showing (d₁.serviceCreated service.id))
      ((hcarry fun _ _ => rfl).showing hd rfl rfl ?_) _ ?_ ?_ ?_
    · rintro ⟨⟩
    · rintro ⟨⟩
    · rintro ⟨⟩
    · intro rowId id hrefresh
      obtain ⟨rfl, rfl⟩ := Purpose.refreshDescriptor.inj hrefresh
      exact ⟨steps, [], q.token, scope, typeName, b, service, by rw [← hown], hordered, hservice,
        rfl⟩

theorem Explained.concat (he : h.Explained steps) (hx : (h.run steps).Orderly x) :
    h.Explained (steps ++ [x]) := by
  have hrun : h.run (steps ++ [x]) = (h.run steps).apply x := by simp
  refine ⟨hrun ▸ he.numbered.apply x, ?_⟩
  rw [hrun]
  obtain ⟨hdispatched, hkeeps⟩ := hx
  have hexchange := (h.run steps).sheet.exchange_apply x.operation
  generalize hz : ((h.run steps).sheet.apply x.operation).traffic = z at hexchange
  replace hz : ((h.run steps).apply x).sheet.traffic = z := hz
  rw [hz]
  have hsame : x.operation.empties = false → z.creation = (h.run steps).sheet.traffic.creation →
      h.Explains (steps ++ [x]) (h.run steps).sheet.traffic ((h.run steps).apply x).requests := by
    intro hempties hcreation
    refine he.explains.concat (fun hsome => ?_) fun q hq => mem_requests_apply hempties hq
    have hshown : ((h.run steps).apply x).sheet.creation? = z.creation :=
      congrArg Traffic.creation hz
    rw [hshown, hcreation]
    exact hsome
  cases x with
  | answer q b =>
    generalize hop : HostStep.operation (.answer q b) = op at hexchange
    cases hop
    cases hexchange with
    | emptied hempties => cases hempties
    | stale _ => exact hsame rfl rfl
    | answered hp hsettled =>
      rw [Backend.token_dispatch] at hp hsettled
      exact he.answered hdispatched hp hz hsettled
    | called _ hplain _ _ => cases hplain
    | replaced hdialog _ => cases hdialog
  | call op =>
    cases hexchange with
    | emptied _ => exact explains_emptied
    | taken =>
      have hcarried := hsame rfl rfl
      exact ⟨hcarried.opened, hcarried.asked, hcarried.offered, hcarried.ordered, hcarried.created⟩
    | stale _ => exact hdispatched.elim
    | answered _ _ => exact hdispatched.elim
    | left _ => exact explains_close
    | @started k e d hnone _ _ _ _ _ hstage =>
      have hshown : ((h.run steps).apply (.call (.handleKey k))).sheet.creation? = some d :=
        congrArg Traffic.creation hz
      have hasks : (h.run steps).Asks (.call (.handleKey k))
          (.listServiceTypes (h.run steps).sheet.nextToken d.serviceType) :=
        congrArg Traffic.requests hz
      refine he.explains.start hnone ⟨hnone, ⟨d, hshown, rfl, rfl⟩, hasks⟩ hstage
        (by rw [hshown]; rfl) ?_
      rw [requests, hasks]
      exact List.mem_append_right _ (List.mem_append_right _ (List.mem_singleton_self _))
    | called _ hplain _ hstep => exact he.step (Operation.empties_of_isPlain hplain) hz hstep
    | replaced hdialog hreplaced =>
      have hempties := Operation.empties_of_isPlain (Operation.isPlain_of_handlesDialog hdialog)
      refine he.step hempties hz (hreplaced.step_of_keeps fun hopen => ?_)
      rw [← hz]
      exact hkeeps hdialog hopen

theorem explained_start (config : SheetConfig) : (start config).Explained [] :=
  ⟨numbered_start config, explains_of_closed rfl fun _ _ hp => nomatch hp⟩

theorem Explained.run (he : h.Explained steps) {more : List HostStep}
    (hmore : Along Orderly (h.run steps) more) : h.Explained (steps ++ more) := by
  induction more generalizing steps with
  | nil => simpa using he
  | cons x more ih =>
    have hnext := he.concat hmore.1
    have hrest : Along Orderly (h.run (steps ++ [x])) more := by simpa using hmore.2
    simpa using ih hnext hrest

/-! ## Every order of responses -/

/-- Whatever the order in which requests are taken and answered: a dialog in which the user chooses
offers the answer to its own request, which was for its type of service; and a service that a
response is to write into a row was created at the request of a dialog opened for that row. -/
theorem offered_and_created_by_own_dialog (config : SheetConfig) (steps : List HostStep)
    (hsteps : Along Orderly (start config) steps) :
    let s := ((start config).run steps).sheet
    (∀ d, s.creation? = some d → d.stage = .choosing → (start config).Offered steps d) ∧
    ∀ t rowId id, s.pending.get? t = some (.refreshDescriptor rowId id) →
      (start config).Created steps rowId id ∧
      ∀ d, (s.complete (.descriptor t (.ok d))).rows =
        s.rows.map (RowStore.patchAt rowId { value := some (some id) }) := by
  have hexplained : (start config).Explained steps := (explained_start config).run hsteps
  have hidx : ((start config).run steps).sheet.store.Indexed := by
    rw [sheet_run]
    exact Sheet.indexed_run RowStore.indexed_empty _
  refine ⟨hexplained.explains.offered, ?_⟩
  intro t rowId id hp
  exact ⟨hexplained.explains.created t rowId id hp,
    Sheet.rows_complete_of_refreshDescriptor hidx hp⟩

/-- A backend that knows one type of service for each interface. -/
def oneTypeEach : Backend Id where
  descriptor name := pure (.ok { name })
  serviceTypes serviceType := pure (.ok [{ name := serviceType ++ "Impl" }])
  createService _ _ := pure (.ok { id := "svc-1", componentId := "svc-1" })
  service id := pure (.ok { id, componentId := id })

/-- Two properties whose values are services of different types, with the first one selected. -/
def loadTwoServices : HostStep := .call (.load [("Cache", none), ("Lookup", none)]
  (.ofList [
    ("Cache", { name := "Cache", allowableValues := some [], serviceType := some "org.Cache" }),
    ("Lookup", { name := "Lookup", allowableValues := some [], serviceType := some "org.Lookup" })])
  .empty)

/-- The keys that open the editor of the selected property and choose to create a service. -/
def creationKeys : List HostStep := [
  .call (.handleKey { code := .enter }),
  .call (.handleKey { code := .down }),
  .call (.handleKey { code := .enter }),
  .call .takeRequests]

/-- The user leaves one creation and begins another. The response to the first comes late. -/
def lateTypesRun : List HostStep :=
  loadTwoServices :: creationKeys ++
  [.call (.handleKey { code := .esc }), .call (.handleKey { code := .down })] ++ creationKeys ++
  [.answer (.listServiceTypes 0 "org.Cache") oneTypeEach,
    .answer (.listServiceTypes 1 "org.Lookup") oneTypeEach]

theorem offered_lateTypesRun :
    Along Orderly (start { dialogContainer := some "main" }) lateTypesRun ∧
    ∃ d, ((start { dialogContainer := some "main" }).run lateTypesRun).sheet.creation? = some d ∧
      d.types.map (·.name) = ["org.LookupImpl"] ∧
      (start { dialogContainer := some "main" }).Offered lateTypesRun d := by
  have horderly : Along Orderly (start { dialogContainer := some "main" }) lateTypesRun := by
    decide +kernel
  obtain ⟨hoffered, _⟩ := offered_and_created_by_own_dialog _ _ horderly
  have hopen : (((start { dialogContainer := some "main" }).run lateTypesRun).sheet.creation?.map
      fun d => (d.stage, d.types.map (·.name))) = some (.choosing, ["org.LookupImpl"]) := by
    decide +kernel
  obtain ⟨d, hd, hstage⟩ := Option.map_eq_some_iff.mp hopen
  obtain ⟨hchoosing, htypes⟩ := Prod.mk.inj hstage
  exact ⟨horderly, d, hd, htypes, hoffered d hd hchoosing⟩

/-- A call puts the tooltip over the first creation, which is thereby gone, but not its request. -/
def overlaidRun : List HostStep :=
  loadTwoServices :: creationKeys ++
  [.call .showTooltip, .call (.handleKey { code := .esc }), .call (.handleKey { code := .down })] ++
  creationKeys ++ [.answer (.listServiceTypes 0 "org.Cache") oneTypeEach]

/-- The second dialog offers the types that the first one had asked for. -/
theorem not_offered_overlaidRun :
    Along Dispatched (start { dialogContainer := some "main" }) overlaidRun ∧
    ∃ d, ((start { dialogContainer := some "main" }).run overlaidRun).sheet.creation? = some d ∧
      d.stage = .choosing ∧ d.serviceType = "org.Lookup" ∧
      d.types.map (·.name) = ["org.CacheImpl"] ∧
      ¬ (start { dialogContainer := some "main" }).Offered overlaidRun d := by
  refine ⟨by decide +kernel, ?_⟩
  have hopen : (((start { dialogContainer := some "main" }).run overlaidRun).sheet.creation?.map
      fun d => (d.stage, d.serviceType, d.types.map (·.name))) =
      some (.choosing, "org.Lookup", ["org.CacheImpl"]) := by
    decide +kernel
  obtain ⟨d, hd, hshown⟩ := Option.map_eq_some_iff.mp hopen
  simp only [Prod.mk.injEq] at hshown
  obtain ⟨hstage, htype, htypes⟩ := hshown
  refine ⟨d, hd, hstage, htype, htypes, ?_⟩
  -- the only answer of the run is to a request for another type of service
  rintro ⟨before, x, after, hsplit, ⟨t, b, types, rfl, _⟩, _⟩
  have hmem : HostStep.answer (.listServiceTypes t d.serviceType) b ∈ overlaidRun := by
    rw [hsplit]
    simp
  rw [htype] at hmem
  simp [overlaidRun, loadTwoServices, creationKeys] at hmem

end Hosting

end PropertySheet
