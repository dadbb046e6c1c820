import Mathlib.Data.List.Induction
import PropertySheet.Proofs.Sheet.Creation
import PropertySheet.Proofs.Sheet.EditLock

/-!
# One service for each dialog

The dialog that creates a service lists the types on offer and lets the user choose one. A service
that is asked for twice would exist twice, and nobody would know of the first one, so a dialog must
not ask again, however often the user presses Enter and whatever responses arrive.

`dialogStep_apply` says what a call can make of the dialog. Its stages go one way
(`DialogStep.hasOrdered`), since types are waited for in the first of them only
(`Traffic.Steady.stage_eq`). So the list stays what it was when it came, in the order of short
names, and the highlight is on one of its entries (`Highlights`). `created_once_as_chosen` puts this
together, for a dialog from any moment to any later one at which it is still open
(`CreationStays`). A call that puts another dialog over it has to be excluded, as its requests would
outlive it (`KeepsCreation`).
-/

namespace PropertySheet

/-! ## The list of types -/

/-- A list of types as it is shown: in the order of short names, and those of one short name in
their order of before. -/
structure ListsTypes (types shown : List ServiceType) : Prop where
  perm : shown.Perm types
  sorted : shown.Pairwise fun a b => a.shortName ≤ b.shortName
  stable : ∀ name, shown.filter (·.shortName = name) = types.filter (·.shortName = name)

namespace ServiceDialog

theorem shortNameLe_iff {a b : ServiceType} : shortNameLe a b ↔ a.shortName ≤ b.shortName := by
  rw [shortNameLe, Bool.not_eq_true', decide_eq_false_iff_not, String.not_lt]

theorem listsTypes_typesLoaded (d : ServiceDialog) (types : List ServiceType) :
    ListsTypes types (d.typesLoaded types).types := by
  have htrans : ∀ a b c : ServiceType, shortNameLe a b → shortNameLe b c → shortNameLe a c := by
    simp only [shortNameLe_iff]
    exact fun _ _ _ => String.le_trans
  have htotal : ∀ a b : ServiceType, shortNameLe a b || shortNameLe b a := by
    intro a b
    rw [Bool.or_eq_true, shortNameLe_iff, shortNameLe_iff]
    exact String.le_total _ _
  have hperm : (types.mergeSort shortNameLe).Perm types := List.mergeSort_perm _ _
  refine ⟨hperm, ?_, fun name => ?_⟩
  · exact (List.pairwise_mergeSort htrans htotal types).imp shortNameLe_iff.mp
  · -- the types of one short name are in order already, so sorting keeps them as they are
    have hordered : (types.filter (·.shortName = name)).Pairwise fun a b => shortNameLe a b := by
      refine List.pairwise_of_forall_mem_list fun a ha b hb => shortNameLe_iff.mpr ?_
      have ha' : a.shortName = name := of_decide_eq_true (List.mem_filter.mp ha).2
      have hb' : b.shortName = name := of_decide_eq_true (List.mem_filter.mp hb).2
      exact ha'.trans hb'.symm ▸ String.le_refl _
    have hsub := (List.sublist_mergeSort htrans htotal hordered List.filter_sublist).filter
      (·.shortName = name)
    rw [List.filter_filter] at hsub
    simp only [Bool.and_self] at hsub
    exact (hsub.eq_of_length (hperm.filter _).length_eq.symm).symm

/-! ## The highlight -/

/-- Types are listed in every stage but the first, and then one of them is highlighted. -/
structure Highlights (d : ServiceDialog) : Prop where
  listed : d.types = [] ↔ d.stage = .loadingTypes
  valid : d.types ≠ [] → d.place < d.types.length

theorem Highlights.types_ne_nil {d : ServiceDialog} (h : d.Highlights)
    (hstage : d.stage ≠ .loadingTypes) : d.types ≠ [] := fun hnil => hstage (h.listed.mp hnil)

/-- The entry that an arrow key takes the highlight to: the neighbour, if there is one. -/
def placeAfter (d : ServiceDialog) : KeyCode → Nat
  | .up => d.place - 1
  | .down => min (d.place + 1) (d.types.length - 1)
  | _ => d.place

/-- The list stays, and so does the highlight, unless an arrow key moves it. -/
structure Moves (d : ServiceDialog) (op : Operation) (d' : ServiceDialog) : Prop where
  types : d'.types = d.types
  place : d'.place = d.place ∨ ∃ k, op = .handleKey k ∧ d'.place = d.placeAfter k.code

/-- Where the user chooses, the arrow keys move the highlight and do nothing else. -/
theorem handleKey_of_arrow {d : ServiceDialog} (h : d.Highlights) (hstage : d.stage = .choosing)
    {k : Key} (hk : k.code = .up ∨ k.code = .down) :
    d.handleKey k = ({ d with place := d.placeAfter k.code }, .changed) := by
  have hlisted : d.types ≠ [] := h.types_ne_nil (by simp [hstage])
  have hvalid := h.valid hlisted
  rcases hk with hk | hk
  · simp [handleKey, hk, hstage, hlisted, placeAfter]
  · have hplace : (if d.place + 1 < d.types.length then d.place + 1 else d.place) =
        min (d.place + 1) (d.types.length - 1) := by
      split
      · omega
      · omega
    simp [handleKey, hk, hstage, hlisted, placeAfter, hplace]

/-- No other key moves the highlight. -/
theorem handleKey_fst_of_not_arrow (d : ServiceDialog) {k : Key} (hup : k.code ≠ .up)
    (hdown : k.code ≠ .down) : (d.handleKey k).1 = d := by
  unfold handleKey
  split
  · rfl
  · split
    · rfl
    · split
      next h => exact absurd h hup
      next h => exact absurd h hdown
      · split <;> rfl
      · rfl

theorem sameCourse_handleKey (d : ServiceDialog) (k : Key) :
    Traffic.SameCourse d (d.handleKey k).1 := by
  rcases d.handleKey_cases k with ⟨_, hk⟩ | ⟨_, _, _, hk⟩ | ⟨_, hcourse, _⟩
  · rw [hk]
    exact ⟨rfl, rfl, rfl, rfl, rfl, rfl⟩
  · rw [hk]
    exact ⟨rfl, rfl, rfl, rfl, rfl, rfl⟩
  · exact hcourse

theorem handleKey_fst {d : ServiceDialog} (h : d.Highlights) (k : Key) :
    (d.handleKey k).1 = d ∨ (d.handleKey k).1 = { d with place := d.placeAfter k.code } := by
  by_cases harrow : k.code = .up ∨ k.code = .down
  · by_cases hstage : d.stage = .choosing
    · rw [handleKey_of_arrow h hstage harrow]
      exact .inr rfl
    · left
      have hesc : k.code ≠ .esc := by rcases harrow with hk | hk <;> simp [hk]
      simp [handleKey, hesc, hstage]
  · rw [not_or] at harrow
    exact .inl (d.handleKey_fst_of_not_arrow harrow.1 harrow.2)

theorem Highlights.handleKey {d : ServiceDialog} (h : d.Highlights) (k : Key) :
    (d.handleKey k).1.Highlights := by
  rcases handleKey_fst h k with hsame | hmoved
  · rwa [hsame]
  · rw [hmoved]
    refine ⟨h.listed, fun hlisted => ?_⟩
    have hvalid := h.valid hlisted
    show d.placeAfter k.code < d.types.length
    unfold placeAfter
    split
    · omega
    · omega
    · exact hvalid

theorem highlights_typesLoaded (d : ServiceDialog) {types : List ServiceType} (h : types ≠ []) :
    (d.typesLoaded types).Highlights := by
  have hlength : 0 < (d.typesLoaded types).types.length := by
    rw [typesLoaded, List.length_mergeSort]
    exact List.length_pos_iff.mpr h
  refine ⟨iff_of_false ?_ ?_, fun _ => hlength⟩
  · exact List.length_pos_iff.mp hlength
  · intro hstage
    cases hstage

/-- A key that creates a service is Enter, in the stage in which the user chooses, and it creates
one of the highlighted type. -/
theorem exists_of_create {d : ServiceDialog} {k : Key} {typeName : String}
    (h : (d.handleKey k).2 = .create typeName) :
    k.code = .enter ∧ d.stage = .choosing ∧
      (∃ t, d.highlighted? = some t ∧ t.name = typeName) ∧ (d.handleKey k).1 = d := by
  revert h
  unfold handleKey
  split
  · exact nofun
  · split
    · exact nofun
    next hstage =>
      have hchoosing : d.stage = .choosing := by
        by_contra hne
        exact hstage (.inl hne)
      split
      · exact nofun
      · exact nofun
      next hk =>
        split
        next t ht =>
          intro h
          cases h
          exact ⟨hk, hchoosing, ⟨t, ht, rfl⟩, rfl⟩
        · exact nofun
      · exact nofun

end ServiceDialog

namespace Sheet

/-! ## What a call makes of the dialog -/

/-- What a call makes of the dialog that creates a service, if that is open after the call. -/
inductive DialogStep (s : Sheet) : Operation → ServiceDialog → Prop
  | kept {op : Operation} {d : ServiceDialog} : s.creation? = some d → DialogStep s op d
  | opened {k : Key} (rowId : Nat) (property serviceType : String) :
      s.creation? = none → DialogStep s (.handleKey k) { rowId, property, serviceType }
  | moved {k : Key} {d : ServiceDialog} :
      s.creation? = some d → DialogStep s (.handleKey k) (d.handleKey k).1
  | ordered {k : Key} {d : ServiceDialog} {t : ServiceType} :
      s.creation? = some d → k.code = .enter → d.stage = .choosing → d.highlighted? = some t →
      (s.handleKey k).1.requests =
        s.requests ++ [.createService s.nextToken (.ofGroup? s.groupId) t.name] →
      DialogStep s (.handleKey k) d.startCreating
  | offered {d : ServiceDialog} {t : Token} {types : List ServiceType} :
      s.creation? = some d → s.pending.get? t = some .serviceTypes → types ≠ [] →
      DialogStep s (.complete (.serviceTypes t (.ok types))) (d.typesLoaded types)
  | created {d : ServiceDialog} {t : Token} {service : Service} :
      s.creation? = some d → s.pending.get? t = some .createService →
      DialogStep s (.complete (.serviceCreated t (.ok service))) (d.serviceCreated service.id)

variable {s : Sheet} {d d' : ServiceDialog}

/-- Where the dialog is closed, no step of the traffic opens it. -/
theorem not_step_of_creation {u : Sheet} (hnone : s.creation? = none) (h : u.creation? = some d') :
    ¬ Traffic.Step s.traffic u.traffic := by
  intro hstep
  obtain ⟨d, hd, _⟩ := hstep.creation_row h
  exact nomatch hnone.symm.trans hd

/-- The dialog opens with a key in the editor, and lists nothing yet. -/
theorem dialogStep_handleKey_of_none (hnone : s.creation? = none) {k : Key}
    (h : (s.handleKey k).1.creation? = some d') : DialogStep s (.handleKey k) d' := by
  have hstep := not_step_of_creation hnone h
  unfold handleKey at h hstep
  split at h
  · exact nomatch hnone.symm.trans h
  next hdestroyed =>
    rw [if_neg hdestroyed] at hstep
    split at h
    · exact nomatch hnone.symm.trans h
    next hnotice =>
      simp only [hnotice] at hstep
      split at h
      next dialog hdialog =>
        simp only [hdialog] at hstep
        cases dialog with
        | createService d =>
          rw [creation?, hdialog] at hnone
          cases hnone
        | namePrompt p => exact absurd (s.step_handlePromptKey p k hdialog) hstep
        | detail v =>
          rw [handleDialogKey] at h
          split at h
          · cases h
          · exact nomatch hnone.symm.trans h
        | tooltip t => cases h
      next hdialog =>
        simp only [hdialog] at hstep
        split at h
        next e he =>
          simp only [he] at hstep
          rcases s.handleEditorKey_traffic e k with hstep' | ⟨serviceType, hstart⟩
          · exact absurd hstep' hstep
          · rw [hstart] at h
            obtain rfl := Option.some.inj h
            exact .opened _ _ _ hnone
        next he =>
          simp only [he] at hstep
          exact absurd (s.step_handleGridKey k hnone) hstep

/-- Keys are for the open dialog, unless there is a notice over it. -/
theorem handleKey_of_creation (hd : s.creation? = some d) (hdestroyed : s.destroyed = false)
    (hnotice : s.notice = none) (k : Key) : (s.handleKey k).1 = s.handleCreationKey d k := by
  simp [handleKey, hdestroyed, hnotice, dialog_eq_of_creation? hd, handleDialogKey]

theorem dialogStep_handleKey {k : Key} (h : (s.handleKey k).1.creation? = some d') :
    DialogStep s (.handleKey k) d' := by
  cases hd : s.creation? with
  | none => exact dialogStep_handleKey_of_none hd h
  | some d =>
    cases hdestroyed : s.destroyed with
    | true =>
      simp only [handleKey, hdestroyed, if_true] at h
      exact .kept h
    | false =>
      cases hnotice : s.notice with
      | some n =>
        simp only [handleKey, hdestroyed, hnotice] at h
        exact .kept h
      | none =>
        have hkey := handleKey_of_creation hd hdestroyed hnotice k
        rw [hkey, handleCreationKey] at h
        dsimp only at h
        split at h
        next typeName hcreate =>
          obtain ⟨henter, hstage, ⟨t, ht, rfl⟩, hsame⟩ := ServiceDialog.exists_of_create hcreate
          obtain rfl := Option.some.inj h
          rw [hsame]
          refine .ordered hd henter hstage ht ?_
          simp only [hkey, handleCreationKey, hcreate]
          rfl
        next =>
          have hclosed := traffic_closeCreation
            { s with dialog := some (.createService (d.handleKey k).1) }
          have hnone : none = some d' := (congrArg Traffic.creation hclosed).symm.trans h
          cases hnone
        next =>
          obtain rfl := Option.some.inj h
          exact .moved hd
        next =>
          obtain rfl := Option.some.inj h
          exact .moved hd

theorem dialogStep_complete {r : Response} (h : (s.complete r).creation? = some d') :
    DialogStep s (.complete r) d' := by
  have hx := s.exchange_complete r
  replace h : (s.complete r).traffic.creation = some d' := h
  generalize (s.complete r).traffic = y at hx h
  cases hx with
  | emptied hempties => cases hempties
  | stale _ => exact .kept h
  | called _ hplain _ _ => cases hplain
  | replaced hdialog _ => cases hdialog
  | answered hp hy =>
    cases hy with
    | idle _ _ => exact .kept h
    | offered d t types hpurpose hr hd htypes _ =>
      subst hpurpose hr
      obtain rfl := Option.some.inj h
      exact .offered hd hp htypes
    | created d t service hpurpose hr hd _ =>
      subst hpurpose hr
      obtain rfl := Option.some.inj h
      exact .created hd hp
    | closed _ => cases h

/-- The types on offer have come, and the user may choose. -/
theorem complete_of_serviceTypes {t : Token} {types : List ServiceType}
    (hp : s.pending.get? t = some .serviceTypes) (hd : s.creation? = some d) (htypes : types ≠ []) :
    s.complete (.serviceTypes t (.ok types)) =
      { s with
        pending := s.pending.erase t
        dialog := some (.createService (d.typesLoaded types)) } := by
  simp [complete, Response.token, hp, settle, typesListed, htypes, dialog_eq_of_creation? hd]

/-- Calls that neither press a key nor bring a response leave the dialog as it is, if it is open
after them. -/
theorem creation?_of_call {op : Operation} (hkey : ∀ k, op ≠ .handleKey k)
    (hresponse : ∀ r, op ≠ .complete r) (h : (s.apply op).creation? = some d') :
    s.creation? = some d' := by
  have hsame : ∀ u : Sheet, u.traffic = s.traffic → u.creation? = some d' →
      s.creation? = some d' := fun u hu hd => (congrArg Traffic.creation hu).symm.trans hd
  cases op with
  | load values descriptors histories =>
    rw [apply, load] at h
    dsimp only at h
    split at h
    · cases h
    · cases h
  | clear => cases h
  | destroy => cases h
  | saveRow => exact hsame _ s.traffic_saveRow h
  | cancelEdit => exact h
  | resize area => exact h
  | setGroup groupId => exact h
  | select property => exact hsame _ (s.traffic_select property) h
  | deleteSelected => exact hsame _ s.traffic_deleteSelected h
  | takeRequests => exact h
  | takeEvents => exact h
  | handleKey k => exact absurd rfl (hkey k)
  | complete r => exact absurd rfl (hresponse r)
  | activate =>
    rw [apply, activate] at h
    split at h
    · exact h
    · split at h
      · split at h
        · cases h
        · exact h
      · exact hsame _ (s.traffic_openEditor _) h
  | goToService =>
    rw [apply, goToService] at h
    split at h
    · exact h
    · split at h
      · split at h
        · exact h
        · exact (congrArg Traffic.creation s.traffic_saveRow).symm.trans h
      · exact h
  | showTooltip =>
    rw [apply, showTooltip] at h
    split at h
    · exact h
    · split at h
      · exact h
      · cases h
  | openNamePrompt =>
    rw [apply, openNamePrompt] at h
    split at h
    · exact h
    · cases h
  | addProperty name =>
    rw [apply, addProperty] at h
    dsimp only at h
    split at h
    · exact h
    · split at h
      · split at h
        · split at h
          · cases h
          · have hnone : none = some d' :=
              (congrArg Traffic.creation (traffic_openEditor _ _)).symm.trans h
            cases hnone
        · cases h
      · cases h

/-- What any call makes of the dialog that creates a service. -/
theorem dialogStep_apply {op : Operation} (h : (s.apply op).creation? = some d') :
    DialogStep s op d' := by
  by_cases hkey : ∃ k, op = .handleKey k
  · obtain ⟨k, rfl⟩ := hkey
    exact dialogStep_handleKey h
  by_cases hresponse : ∃ r, op = .complete r
  · obtain ⟨r, rfl⟩ := hresponse
    exact dialogStep_complete h
  exact .kept (creation?_of_call (not_exists.mp hkey) (not_exists.mp hresponse) h)

end Sheet

/-! ## What the dialog waits for -/

/-- The stage of the dialog that waits for a request which serves it. -/
def Purpose.awaitedIn : Purpose → CreationStage
  | .serviceTypes => .loadingTypes
  | .createService => .creating
  | _ => .refreshing

theorem Purpose.awaitedIn_ne_choosing (p : Purpose) : p.awaitedIn ≠ .choosing := by
  cases p <;> exact nofun

namespace Traffic

variable {x y : Traffic} {t : Token} {p : Purpose}

/-- The dialog waits for a response that cannot come: one of the wrong kind has used up its
request. -/
structure Stranded (x : Traffic) : Prop where
  nothing : x.serving.toList = []
  waits : ∃ d, x.creation = some d ∧ d.stage ≠ .choosing

/-- The requests that serve the creation of a service are what the dialog waits for, as far as they
are not lost. -/
structure Steady (x : Traffic) : Prop where
  fresh : x.Fresh
  awaits : x.AwaitsStage ∨ x.Stranded

theorem mem_serving (hp : x.pending.get? t = some p) (hs : p.servesCreation) :
    (t, p) ∈ x.serving.toList :=
  SortedMap.mem_toList_iff.mpr (get?_serving_of_serves hp hs)

theorem Stranded.not_serves (h : x.Stranded) (hp : x.pending.get? t = some p) :
    p.servesCreation = false := by
  cases hs : p.servesCreation with
  | false => rfl
  | true =>
    have hmem := mem_serving hp hs
    rw [h.nothing] at hmem
    cases hmem

theorem Steady.awaitsStage (h : x.Steady) (hp : x.pending.get? t = some p)
    (hs : p.servesCreation) : x.AwaitsStage := by
  rcases h.awaits with hawaits | hstranded
  · exact hawaits
  · exact nomatch (hstranded.not_serves hp).symm.trans hs

/-- A request that serves the dialog is the one that its stage waits for. -/
theorem Steady.stage_eq (h : x.Steady) {d : ServiceDialog} (hd : x.creation = some d)
    (hp : x.pending.get? t = some p) (hs : p.servesCreation) : d.stage = p.awaitedIn := by
  have hmem := mem_serving hp hs
  have hawaits := h.awaitsStage hp hs
  rw [AwaitsStage, hd] at hawaits
  dsimp only at hawaits
  split at hawaits
  next hstage =>
    obtain ⟨t', hlist⟩ := hawaits
    rw [hlist, List.mem_singleton] at hmem
    cases hmem
    exact hstage
  next =>
    rw [hawaits.1] at hmem
    cases hmem
  next hstage =>
    obtain ⟨t', hlist⟩ := hawaits
    rw [hlist, List.mem_singleton] at hmem
    cases hmem
    exact hstage
  next hstage =>
    obtain ⟨t', id, _, hlist⟩ := hawaits
    rw [hlist, List.mem_singleton] at hmem
    cases hmem
    exact hstage

theorem Stranded.step (h : x.Stranded) (hx : x.Fresh) (hy : Step x y) : y.Stranded := by
  obtain ⟨d₀, hd₀, hstage₀⟩ := h.waits
  cases hy with
  | idle => exact h
  | ask p q hs _ _ =>
    refine ⟨?_, d₀, hd₀, hstage₀⟩
    rw [serving_ask_of_not_serves q hx hs]
    exact h.nothing
  | move d d' hd hcourse =>
    obtain rfl := Option.some.inj (hd₀.symm.trans hd)
    exact ⟨h.nothing, d', rfl, hcourse.stage ▸ hstage₀⟩
  | create d _ _ hd hstage =>
    obtain rfl := Option.some.inj (hd₀.symm.trans hd)
    exact absurd hstage hstage₀

/-- Whoever takes the response to a request away leaves the dialog waiting at worst. -/
theorem Steady.answer (h : x.Steady) (hp : x.pending.get? t = some p) :
    (x.answer t).AwaitsStage ∨ (x.answer t).Stranded := by
  cases hs : p.servesCreation with
  | true =>
    have hawaits := h.awaitsStage hp hs
    have hserving := get?_serving_of_serves hp hs
    obtain ⟨d, hd⟩ := hawaits.creation_isSome hserving
    refine .inr ⟨hawaits.serving_answer hserving, d, hd, ?_⟩
    rw [h.stage_eq hd hp hs]
    exact p.awaitedIn_ne_choosing
  | false =>
    rcases h.awaits with hawaits | hstranded
    · exact .inl (hawaits.answer_of_not_serves hp hs)
    · refine .inr ⟨?_, hstranded.waits⟩
      rw [Traffic.serving_answer]
      show x.serving.toList.filter (fun e => e.1 ≠ t) = []
      rw [hstranded.nothing]
      rfl

theorem Steady.settled {r : Response} (h : x.Steady) (hp : x.pending.get? r.token = some p)
    (hy : Settled p r (x.answer r.token) y) : y.AwaitsStage ∨ y.Stranded := by
  cases hy with
  | idle _ _ => exact h.answer hp
  | offered d t types hpurpose hr hd htypes hends =>
    subst hpurpose hr
    exact .inl ((h.awaitsStage hp rfl).settled hp rfl (.offered d t types rfl rfl hd htypes hends))
  | created d t service hpurpose hr hd hends =>
    subst hpurpose hr
    exact .inl ((h.awaitsStage hp rfl).settled hp rfl (.created d t service rfl rfl hd hends))
  | closed _ => exact .inl (awaitsStage_close _)

theorem Steady.step (h : x.Steady) (hy : Step x y) : y.AwaitsStage ∨ y.Stranded :=
  h.awaits.imp (·.step h.fresh hy) (·.step h.fresh hy)

end Traffic

namespace Sheet

variable {s : Sheet} {d d' : ServiceDialog} {op : Operation}

theorem steady_apply (h : s.traffic.Steady) (hop : s.KeepsCreation op) :
    (s.apply op).traffic.Steady := by
  refine ⟨fresh_apply h.fresh op, ?_⟩
  have hx := s.exchange_apply op
  have hkeeps : op.handlesDialog → s.traffic.creation.isSome →
      (s.apply op).traffic.creation.isSome := hop
  generalize (s.apply op).traffic = y at hx hkeeps
  cases hx with
  | emptied _ => exact .inl rfl
  | taken => exact h.awaits.imp id fun hs => ⟨hs.nothing, hs.waits⟩
  | stale _ => exact h.awaits
  | answered hp hy => exact h.settled hp hy
  | left _ => exact .inl (Traffic.awaitsStage_close _)
  | started hnone _ _ _ _ _ hstage =>
    rcases h.awaits with hawaits | ⟨_, d, hd, _⟩
    · exact .inl (hawaits.start hnone hstage _)
    · exact nomatch hnone.symm.trans hd
  | called _ _ _ hy => exact h.step hy
  | replaced hdialog hy => exact h.step (hy.step_of_keeps (hkeeps hdialog))

/-! ## The list and its highlight -/

/-- The dialog waits for what its stage calls for at most, and it highlights one of the types that
it lists. -/
structure WellListed (s : Sheet) : Prop where
  steady : s.traffic.Steady
  highlights : ∀ d, s.creation? = some d → d.Highlights

theorem wellListed_ofConfig (config : SheetConfig) : (ofConfig config).WellListed :=
  ⟨⟨fresh_ofConfig config, .inl rfl⟩, nofun⟩

theorem DialogStep.highlights (h : s.WellListed) (hstep : DialogStep s op d') :
    d'.Highlights := by
  cases hstep with
  | kept hd => exact h.highlights _ hd
  | opened _ _ _ _ => exact ⟨iff_of_true rfl rfl, fun hlisted => absurd rfl hlisted⟩
  | moved hd => exact (h.highlights _ hd).handleKey _
  | ordered hd _ hstage _ _ =>
    have hd := h.highlights _ hd
    exact ⟨iff_of_false (hd.types_ne_nil (by simp [hstage])) nofun, hd.valid⟩
  | offered _ _ htypes => exact ServiceDialog.highlights_typesLoaded _ htypes
  | created hd hp =>
    have hstage := h.steady.stage_eq hd hp rfl
    have hd := h.highlights _ hd
    exact ⟨iff_of_false (hd.types_ne_nil (by simp [hstage, Purpose.awaitedIn])) nofun, hd.valid⟩

theorem WellListed.apply (h : s.WellListed) (hop : s.KeepsCreation op) :
    (s.apply op).WellListed :=
  ⟨steady_apply h.steady hop, fun _ hd => (dialogStep_apply hd).highlights h⟩

theorem WellListed.run (h : s.WellListed) {ops : List Operation}
    (hops : AllowedAlong KeepsCreation s ops) : (s.run ops).WellListed := by
  induction ops generalizing s with
  | nil => exact h
  | cons op ops ih => exact ih (h.apply hops.1) hops.2

/-- Once types are listed, no call changes the list, and arrow keys alone move the highlight. -/
theorem DialogStep.moves (h : s.WellListed) (hd : s.creation? = some d) (hlisted : d.types ≠ [])
    (hstep : DialogStep s op d') : d.Moves op d' := by
  cases hstep with
  | kept hd' =>
    obtain rfl := Option.some.inj (hd.symm.trans hd')
    exact ⟨rfl, .inl rfl⟩
  | opened _ _ _ hnone => exact nomatch hnone.symm.trans hd
  | @moved k d₀ hd₀ =>
    obtain rfl := Option.some.inj (hd.symm.trans hd₀)
    rcases ServiceDialog.handleKey_fst (h.highlights _ hd) k with hsame | hmoved
    · rw [hsame]
      exact ⟨rfl, .inl rfl⟩
    · rw [hmoved]
      exact ⟨rfl, .inr ⟨k, rfl, rfl⟩⟩
  | ordered hd₀ _ _ _ _ =>
    obtain rfl := Option.some.inj (hd.symm.trans hd₀)
    exact ⟨rfl, .inl rfl⟩
  | offered hd₀ hp _ =>
    obtain rfl := Option.some.inj (hd.symm.trans hd₀)
    have hstage := h.steady.stage_eq hd hp rfl
    exact absurd ((h.highlights _ hd).listed.mpr hstage) hlisted
  | created hd₀ _ =>
    obtain rfl := Option.some.inj (hd.symm.trans hd₀)
    exact ⟨rfl, .inl rfl⟩

/-! ## One dialog -/

/-- The dialog that creates a service is open, now and after each of a sequence of calls. -/
def CreationStays (s : Sheet) : List Operation → Prop
  | [] => s.creation?.isSome
  | op :: ops => s.creation?.isSome ∧ (s.apply op).CreationStays ops

instance decidableCreationStays : ∀ (s : Sheet) (ops : List Operation),
    Decidable (s.CreationStays ops)
  | s, [] => inferInstanceAs (Decidable (s.creation?.isSome = true))
  | s, op :: ops =>
    @instDecidableAnd _ _ (inferInstanceAs (Decidable (s.creation?.isSome = true)))
      (decidableCreationStays (s.apply op) ops)

theorem CreationStays.isSome {ops : List Operation} (h : s.CreationStays ops) :
    s.creation?.isSome := by
  cases ops with
  | nil => exact h
  | cons op ops => exact h.1

theorem CreationStays.keeps {ops : List Operation} (h : s.CreationStays ops) :
    AllowedAlong KeepsCreation s ops := by
  induction ops generalizing s with
  | nil => trivial
  | cons op ops ih => exact ⟨fun _ _ => h.2.isSome, ih h.2⟩

theorem creationStays_concat {ops : List Operation} (h : s.CreationStays ops)
    (hop : (s.run (ops ++ [op])).creation?.isSome) : s.CreationStays (ops ++ [op]) := by
  induction ops generalizing s with
  | nil => exact ⟨h, hop⟩
  | cons first rest ih => exact ⟨h.1, ih h.2 hop⟩

/-- The open dialog shows the types of a response that it was waiting for. -/
def Lists (s : Sheet) (ops : List Operation) (shown : List ServiceType) : Prop :=
  ∃ first t types rest, ops = first ++ .complete (.serviceTypes t (.ok types)) :: rest ∧
    (s.run first).pending.get? t = some .serviceTypes ∧
    (s.run first).CreationStays (.complete (.serviceTypes t (.ok types)) :: rest) ∧
    ListsTypes types shown

theorem Lists.concat {ops : List Operation} {shown : List ServiceType} (h : s.Lists ops shown)
    (hop : (s.run (ops ++ [op])).creation?.isSome) : s.Lists (ops ++ [op]) shown := by
  obtain ⟨first, t, types, rest, rfl, hp, hopen, hshown⟩ := h
  refine ⟨first, t, types, rest ++ [op], by simp, hp, ?_, hshown⟩
  refine creationStays_concat hopen ?_
  simpa using hop

theorem lists_run (config : SheetConfig) {ops : List Operation}
    (hd : ((ofConfig config).run ops).creation? = some d) (hlisted : d.types ≠ []) :
    (ofConfig config).Lists ops d.types := by
  -- the last call is taken off: it lists the types, or they were listed before it
  induction ops using List.reverseRecOn generalizing d with
  | nil => cases hd
  | append_singleton ops op ih =>
    have hopen : ((ofConfig config).run (ops ++ [op])).creation?.isSome := by rw [hd]; rfl
    rw [run_append, run_cons, run_nil] at hd
    have hbefore : ∀ d₀, ((ofConfig config).run ops).creation? = some d₀ → d₀.types = d.types →
        (ofConfig config).Lists (ops ++ [op]) d.types := by
      intro d₀ hd₀ hsame
      rw [← hsame] at hlisted ⊢
      exact (ih hd₀ hlisted).concat hopen
    cases dialogStep_apply hd with
    | kept hd₀ => exact hbefore _ hd₀ rfl
    | opened _ _ _ _ => exact absurd rfl hlisted
    | @moved k d₀ hd₀ => exact hbefore _ hd₀ (d₀.sameCourse_handleKey k).types.symm
    | ordered hd₀ _ _ _ _ => exact hbefore _ hd₀ rfl
    | @offered d₀ t types hd₀ hp htypes =>
      have hopen₀ : ((ofConfig config).run ops).creation?.isSome := by rw [hd₀]; rfl
      rw [run_append] at hopen
      exact ⟨ops, t, types, [], rfl, hp, ⟨hopen₀, hopen⟩, d₀.listsTypes_typesLoaded types⟩
    | created hd₀ _ => exact hbefore _ hd₀ rfl

end Sheet

/-! ## Ordering a service -/

def Request.createsService : Request → Bool
  | .createService _ _ _ => true
  | _ => false

/-- A service has been ordered in the dialog. -/
def ServiceDialog.HasOrdered (d : ServiceDialog) : Prop :=
  d.stage = .creating ∨ d.stage = .refreshing

/-- A request for a service begins the stage that waits for it. -/
theorem Traffic.Step.startsCreating {x y : Traffic} (h : Step x y) {q : Request}
    (hq : q ∈ newRequests x y) (hcreates : q.createsService) :
    ∃ d, x.creation = some d ∧ d.stage = .choosing ∧ y.creation = some d.startCreating := by
  cases h with
  | idle => simp [newRequests] at hq
  | ask p q' hs _ hcalls =>
    have hnew : newRequests x (x.ask p q') = [q'] := List.drop_left
    rw [hnew, List.mem_singleton] at hq
    subst hq
    have hcalled := hcalls fun _ => none
    cases q with
    | createService t scope typeName => cases p <;> first | exact hcalled.elim | cases hs
    | _ => cases hcreates
  | move d d' _ _ => simp [newRequests, showing] at hq
  | create d _ _ hd hstage => exact ⟨d, hd, hstage, rfl⟩

namespace Sheet

variable {s : Sheet} {d d' : ServiceDialog} {op : Operation}

/-- The user presses Enter where types are listed to choose from: a service of the highlighted type
is ordered, in the group that is set. -/
def Orders (s : Sheet) (op : Operation) (scope : Scope) (typeName : String) : Prop :=
  ∃ k d t, op = .handleKey k ∧ k.code = .enter ∧ s.creation? = some d ∧ d.stage = .choosing ∧
    d.highlighted? = some t ∧ typeName = t.name ∧ scope = .ofGroup? s.groupId

theorem startsCreating_of_makes {q : Request} (hq : q ∈ s.makes op) (hcreates : q.createsService) :
    ∃ d, s.creation? = some d ∧ d.stage = .choosing ∧
      (s.apply op).creation? = some d.startCreating := by
  show ∃ d, s.traffic.creation = some d ∧ d.stage = .choosing ∧
    (s.apply op).traffic.creation = some d.startCreating
  rw [makes] at hq
  have hx := s.exchange_apply op
  generalize (s.apply op).traffic = y at hx hq
  cases hx with
  | emptied _ => simp [Traffic.newRequests, Traffic.emptied] at hq
  | taken => simp [Traffic.newRequests, Traffic.taken] at hq
  | stale _ => simp [Traffic.newRequests] at hq
  | answered _ hy =>
    cases hy with
    | idle _ _ => simp [Traffic.newRequests, Traffic.answer] at hq
    | offered _ _ _ _ _ _ _ _ =>
      simp [Traffic.newRequests, Traffic.answer, Traffic.showing] at hq
    | created _ _ _ _ _ _ _ =>
      simp [Traffic.newRequests, Traffic.answer, Traffic.showing, Traffic.ask] at hq
      rw [hq] at hcreates
      cases hcreates
    | closed _ => simp [Traffic.newRequests, Traffic.answer, Traffic.close] at hq
  | left _ => simp [Traffic.newRequests, Traffic.close] at hq
  | started _ _ _ _ _ _ _ =>
    simp [Traffic.newRequests, Traffic.showing, Traffic.ask] at hq
    rw [hq] at hcreates
    cases hcreates
  | called _ _ _ hy => exact hy.startsCreating hq hcreates
  | replaced _ hy =>
    obtain ⟨x, rfl | rfl, hy⟩ := hy
    · exact hy.startsCreating hq hcreates
    · obtain ⟨d, hd, _⟩ := hy.startsCreating hq hcreates
      cases hd

/-- Whoever asks for a service has the user's choice. -/
theorem orders_of_makes {t : Token} {scope : Scope} {typeName : String}
    (h : .createService t scope typeName ∈ s.makes op) : s.Orders op scope typeName := by
  obtain ⟨d, hd, hstage, hnext⟩ := startsCreating_of_makes h rfl
  generalize hd' : d.startCreating = d' at hnext
  have hcreating : d'.stage = .creating := hd' ▸ rfl
  -- of all that a call can make of the dialog, Enter alone brings it from one stage to the other
  cases dialogStep_apply hnext with
  | kept hd₀ =>
    obtain rfl := Option.some.inj (hd.symm.trans hd₀)
    exact nomatch hstage.symm.trans hcreating
  | opened _ _ _ hnone => exact nomatch hnone.symm.trans hd
  | @moved k d₀ hd₀ =>
    obtain rfl := Option.some.inj (hd.symm.trans hd₀)
    exact nomatch hstage.symm.trans ((d.sameCourse_handleKey k).stage.symm.trans hcreating)
  | @ordered k d₀ t' hd₀ henter hstage₀ ht hrequests =>
    have hmakes : s.makes (.handleKey k) =
        [.createService s.nextToken (.ofGroup? s.groupId) t'.name] := by
      show (s.handleKey k).1.requests.drop s.requests.length = _
      rw [hrequests, List.drop_left]
    rw [hmakes, List.mem_singleton] at h
    cases h
    exact ⟨k, d₀, t', rfl, henter, hd₀, hstage₀, ht, rfl, rfl⟩
  | offered _ _ _ => cases hcreating
  | created _ _ => cases hcreating

/-- What is ordered stays ordered. -/
theorem DialogStep.hasOrdered (h : s.WellListed) (hd : s.creation? = some d) (ho : d.HasOrdered)
    (hstep : DialogStep s op d') : d'.HasOrdered := by
  cases hstep with
  | kept hd₀ =>
    obtain rfl := Option.some.inj (hd.symm.trans hd₀)
    exact ho
  | opened _ _ _ hnone => exact nomatch hnone.symm.trans hd
  | @moved k d₀ hd₀ =>
    obtain rfl := Option.some.inj (hd.symm.trans hd₀)
    rw [ServiceDialog.HasOrdered, (d.sameCourse_handleKey k).stage]
    exact ho
  | ordered _ _ _ _ _ => exact .inl rfl
  | offered hd₀ hp _ =>
    have hstage := h.steady.stage_eq hd hp rfl
    rcases ho with ho | ho
    · exact nomatch hstage.symm.trans ho
    · exact nomatch hstage.symm.trans ho
  | created _ _ => exact .inr rfl

theorem filter_makes_of_hasOrdered (hd : s.creation? = some d) (ho : d.HasOrdered)
    (op : Operation) : (s.makes op).filter Request.createsService = [] := by
  refine List.filter_eq_nil_iff.mpr fun q hq hcreates => ?_
  obtain ⟨d₀, hd₀, hstage, _⟩ := startsCreating_of_makes hq hcreates
  obtain rfl := Option.some.inj (hd.symm.trans hd₀)
  rcases ho with ho | ho
  · exact nomatch hstage.symm.trans ho
  · exact nomatch hstage.symm.trans ho

/-- A dialog in which a service has been ordered orders no other one. -/
theorem filter_made_of_hasOrdered (h : s.WellListed) (hd : s.creation? = some d)
    (ho : d.HasOrdered) {ops : List Operation} (hopen : s.CreationStays ops) :
    (s.made ops).filter Request.createsService = [] := by
  induction ops generalizing s d with
  | nil => rfl
  | cons op ops ih =>
    obtain ⟨d', hd'⟩ := Option.isSome_iff_exists.mp hopen.2.isSome
    have ho' := (dialogStep_apply hd').hasOrdered h hd ho
    rw [made, List.filter_append, filter_makes_of_hasOrdered hd ho op, List.nil_append]
    exact ih (h.apply hopen.keeps.1) hd' ho' hopen.2

theorem length_makes_le (s : Sheet) (op : Operation) : (s.makes op).length ≤ 1 := by
  have hlength := congrArg List.length (s.map_token_makes op)
  rw [List.length_map] at hlength
  rw [hlength]
  rcases s.issues_cases op with ⟨hnil, _⟩ | ⟨hone, _⟩
  · simp [hnil]
  · simp [hone]

/-- While a dialog stays open, one service is asked for at most. -/
theorem length_filter_made_le (h : s.WellListed) {ops : List Operation}
    (hopen : s.CreationStays ops) :
    ((s.made ops).filter Request.createsService).length ≤ 1 := by
  induction ops generalizing s with
  | nil => exact Nat.zero_le 1
  | cons op ops ih =>
    rw [made, List.filter_append, List.length_append]
    have hnext := h.apply hopen.keeps.1
    by_cases hasks : ∃ q ∈ s.makes op, q.createsService
    · -- it is this call that asks, and none after it
      obtain ⟨q, hq, hcreates⟩ := hasks
      obtain ⟨d, _, _, hd'⟩ := startsCreating_of_makes hq hcreates
      rw [filter_made_of_hasOrdered hnext hd' (.inl rfl) hopen.2, List.length_nil]
      exact Nat.le_trans (List.length_filter_le _ _) (s.length_makes_le op)
    · have hnil : (s.makes op).filter Request.createsService = [] :=
        List.filter_eq_nil_iff.mpr fun q hq hcreates => hasks ⟨q, hq, hcreates⟩
      rw [hnil, List.length_nil, Nat.zero_add]
      exact ih hnext hopen.2

/-! ## One service of the highlighted type -/

/-- Take any stretch of a run in which a dialog that creates a service stays open, where no call has
put another dialog over such a one before; keys and responses cannot. One service is asked for at
most. If a call asks for one then, it is Enter in the stage in which the user chooses, and the
service has the highlighted type and belongs into the group that is set. What is listed is the
answer that the dialog had waited for, by short name, one of its entries is highlighted, no call
changes the list, and arrow keys alone move the highlight, to a neighbour. -/
theorem created_once_as_chosen (config : SheetConfig) {before during : List Operation}
    (hbefore : AllowedAlong KeepsCreation (ofConfig config) before)
    (hopen : ((ofConfig config).run before).CreationStays during) :
    let s := (ofConfig config).run before
    let u := s.run during
    ((s.made during).filter Request.createsService).length ≤ 1 ∧
    (∀ op t scope typeName, .createService t scope typeName ∈ u.makes op →
      u.Orders op scope typeName) ∧
    ∀ d, u.creation? = some d → d.types ≠ [] →
      (ofConfig config).Lists (before ++ during) d.types ∧ d.place < d.types.length ∧
      (∀ op d', (u.apply op).creation? = some d' → d.Moves op d') ∧
      ∀ k, u.destroyed = false → u.notice = none → d.stage = .choosing →
        k.code = .up ∨ k.code = .down →
        (u.handleKey k).1.creation? = some { d with place := d.placeAfter k.code } := by
  intro s u
  have hs : s.WellListed := (wellListed_ofConfig config).run hbefore
  have hu : u.WellListed := hs.run hopen.keeps
  refine ⟨length_filter_made_le hs hopen, fun _ _ _ _ => orders_of_makes, ?_⟩
  intro d hd hlisted
  have hhighlights := hu.highlights d hd
  refine ⟨?_, hhighlights.valid hlisted, ?_, ?_⟩
  · refine lists_run config ?_ hlisted
    rw [run_append]
    exact hd
  · exact fun op d' hd' => (dialogStep_apply hd').moves hu hd hlisted
  · intro k hdestroyed hnotice hstage harrow
    rw [handleKey_of_creation hd hdestroyed hnotice, handleCreationKey,
      ServiceDialog.handleKey_of_arrow hhighlights hstage harrow]
    rfl

/-- A property whose value is a service, and the keys that open the dialog for one. -/
def openingRun : List Operation := [
  .load [("Cache", none)]
    (.ofList [("Cache",
      { name := "Cache", allowableValues := some [], serviceType := some "org.Cache" })])
    .empty,
  .handleKey { code := .enter },
  .handleKey { code := .down },
  .handleKey { code := .enter }]

/-- Three types, the last two of which have one short name. -/
def threeTypes : List ServiceType :=
  [{ name := "org.MapCache" }, { name := "com.Cache" }, { name := "org.Cache" }]

/-- The types come, and the user goes to the second one in the list and presses Enter twice. -/
def enteringTwiceRun : List Operation := [
  .complete (.serviceTypes 0 (.ok threeTypes)),
  .handleKey { code := .down },
  .handleKey { code := .enter },
  .handleKey { code := .enter }]

theorem created_once_as_chosen_enteringTwiceRun :
    let s := (ofConfig { dialogContainer := some "main" }).run openingRun
    AllowedAlong KeepsCreation (ofConfig { dialogContainer := some "main" }) openingRun ∧
    s.CreationStays enteringTwiceRun ∧
    s.made enteringTwiceRun = [.createService 1 .controller "org.Cache"] ∧
    ((s.made enteringTwiceRun).filter Request.createsService).length ≤ 1 ∧
    ∃ d, (s.run enteringTwiceRun).creation? = some d ∧
      d.types.map (·.name) = ["com.Cache", "org.Cache", "org.MapCache"] ∧
      (ofConfig { dialogContainer := some "main" }).Lists (openingRun ++ enteringTwiceRun) d.types ∧
      d.place < d.types.length := by
  intro s
  have hbefore : AllowedAlong KeepsCreation (ofConfig { dialogContainer := some "main" })
      openingRun := by
    decide +kernel
  have hsorted : threeTypes.mergeSort ServiceDialog.shortNameLe =
      [{ name := "com.Cache" }, { name := "org.Cache" }, { name := "org.MapCache" }] := by
    have hmap : ServiceDialog.shortNameLe { name := "org.MapCache" } { name := "com.Cache" } =
        false := by
      decide +kernel
    have hcom : ServiceDialog.shortNameLe { name := "com.Cache" } { name := "org.Cache" } := by
      decide +kernel
    have horg : ServiceDialog.shortNameLe { name := "org.MapCache" } { name := "org.Cache" } =
        false := by
      decide +kernel
    simp [threeTypes, List.mergeSort, List.MergeSort.Internal.splitInTwo, hmap, hcom, horg]
  -- sorting does not compute by itself, so the response comes by its lemma
  have hoffered : s.complete (.serviceTypes 0 (.ok threeTypes)) = _ :=
    complete_of_serviceTypes (d := { rowId := 0, property := "Cache", serviceType := "org.Cache" })
      (by decide +kernel) (by decide +kernel) nofun
  rw [ServiceDialog.typesLoaded, hsorted] at hoffered
  have hopen : s.CreationStays enteringTwiceRun := by
    refine ⟨by decide +kernel, ?_⟩
    rw [apply, hoffered]
    decide +kernel
  have hmade : s.made enteringTwiceRun = [.createService 1 .controller "org.Cache"] := by
    rw [enteringTwiceRun, made, makes, apply, hoffered]
    decide +kernel
  have hshown : ((s.run enteringTwiceRun).creation?.map fun d => d.types.map (·.name)) =
      some ["com.Cache", "org.Cache", "org.MapCache"] := by
    rw [enteringTwiceRun, run_cons, apply, hoffered]
    decide +kernel
  obtain ⟨honce, _, hlists⟩ := created_once_as_chosen _ hbefore hopen
  obtain ⟨d, hd, htypes⟩ := Option.map_eq_some_iff.mp hshown
  have hlisted : d.types ≠ [] := by
    intro hnil
    rw [hnil] at htypes
    cases htypes
  obtain ⟨hlist, hplace, _⟩ := hlists d hd hlisted
  exact ⟨hbefore, hopen, hmade, honce, d, hd, htypes, hlist, hplace⟩

end Sheet

end PropertySheet
