import PropertySheet.Proofs.App.World

/-!
# Leaving with unsaved changes

The user follows a service while changes are unsaved, and the policy says what happens to them. The
host asks the server for up to three things then: the component, to know its newest revision, the
save of the changes against it, and the service. What the server answers is left open, so each of
them may fail, and the user may leave only if none of what came before has.

`leaving_follows_policy` says so of everything that may be exchanged: the service is given only
after the changes have been dealt with as the policy has it, a policy that keeps the user sends
nothing, and after the first failure nothing more is sent.
-/

namespace PropertySheet

open Json

namespace Client

variable {address clientId : String} {said : List RoundTrip}

theorem says_service_iff {id : String} {r : Except Failure Service} :
    ((talkingClient address clientId).service id).run.Says said r ↔
      (∃ e, (talkingClient address clientId).url ("controller-services/" ++ id) = .error e ∧
        said = [] ∧ r = .error e) ∨
      ∃ u answer, (talkingClient address clientId).url ("controller-services/" ++ id) = .ok u ∧
        said = [⟨{ url := u.withForm [] }, answer⟩] ∧
        r = read { url := u.withForm [] } Service.decoder answer :=
  says_request_iff (q := fun u => { url := u.withForm [] })

end Client

namespace Host

/-- All that has been exchanged is the save of changes: the newest revision has been fetched, and
then one PUT has set the changes against it, and nothing else, and has been accepted. -/
def SavedFirst (h : Host Talk) (changes : Changes) (said : List RoundTrip) : Prop :=
  ∃ (s : Snapshot) (u u' : Url) (a a' : Answer) (body : Value),
    said = [⟨Client.componentQuery u, some a⟩,
      ⟨{ method := .put, url := u', body := some body }, some a'⟩] ∧
    h.client.url h.component.path = .ok u ∧ a.entity? h.component.kind = some s ∧
    h.client.url s.component.path = .ok u' ∧ a'.isSuccess ∧
    savedVersion? body = some (.nat s.revision.version) ∧
    ∀ name, savedValue? body name = (changes.get? name).map .ofText?

variable {address clientId : String} {component : ComponentRef} {policy : UnsavedPolicy}
  {h : Host Talk} {said : List RoundTrip} {changes : Changes}

theorem Agreed.savedFirst (hagreed : h.Agreed changes said) :
    said = [] ∧ (changes.isEmpty ∨ h.policy = .discard) ∨
      h.policy = .save ∧ h.SavedFirst changes said := by
  cases hagreed with
  | unchanged hempty => exact .inl ⟨rfl, .inl hempty⟩
  | discarded hdiscard => exact .inl ⟨rfl, .inr hdiscard⟩
  | @saved u u' a a' s s' hsave hu ha hu' ha' =>
    refine .inr ⟨hsave, s, u, u', a, a', s.updateBody changes h.client.clientId, rfl, hu, ha, hu',
      Answer.isSuccess_of_entity? ha', s.savedVersion?_updateBody _ _, fun name => ?_⟩
    exact s.savedValue?_updateBody _ _ name

theorem agreed_of_proceed (hclient : h.client = talkingClient address clientId)
    (hsaid : (h.beforeLeaving changes).run.Says said (.ok .proceed)) : h.Agreed changes said := by
  obtain ⟨client, component, policy⟩ := h
  obtain rfl : client = talkingClient address clientId := hclient
  exact Talk.ends_iff.mp (ends_beforeLeaving changes) said _ hsaid rfl

theorem says_locate_iff {id : String} {result : Except Failure (Option Service)} :
    (h.backend.locate id).Says said result ↔
      ∃ r, (h.client.service id).run.Says said r ∧ result = r.map some := by
  show Talk.Says ((h.client.service id).run >>= fun r => pure (r.map some)) said result ↔ _
  rw [Talk.says_bind_iff]
  constructor
  · rintro ⟨first, r, second, rfl, hfirst, hsecond⟩
    obtain ⟨rfl, rfl⟩ := Talk.says_pure_iff.mp hsecond
    rw [List.append_nil]
    exact ⟨r, hfirst, rfl⟩
  · rintro ⟨r, hr, rfl⟩
    exact ⟨said, r, [], (List.append_nil said).symm, hr, .done _⟩

/-- A service that has been found was in the answer to the only request. -/
theorem exists_of_located (hclient : h.client = talkingClient address clientId) {id : String}
    {service : Service} (hsaid : (h.backend.locate id).Says said (.ok (some service))) :
    ∃ u a, said = [⟨{ url := u.withForm [] }, some a⟩] ∧
      h.client.url ("controller-services/" ++ id) = .ok u ∧
      Client.read { url := u.withForm [] } Service.decoder (some a) = .ok service := by
  obtain ⟨r, hr, hfound⟩ := says_locate_iff.mp hsaid
  obtain rfl : r = .ok service := by
    cases r with
    | ok s => cases hfound; rfl
    | error e => cases hfound
  rw [hclient] at hr ⊢
  rcases Client.says_service_iff.mp hr with ⟨e, -, -, hfailed⟩ | ⟨u, answer, hu, rfl, hread⟩
  · cases hfailed
  · cases answer with
    | none => cases hread
    | some a => exact ⟨u, a, rfl, hu, hread.symm⟩

/-! ## The decision to leave -/

/-- What is said after the decision depends on it: nothing more, unless the user may leave. -/
theorem says_leaveFor_some_iff {id : String} {result : Except Failure (Option Service)} :
    (h.backend.leaveFor id (some changes)).Says said result ↔
      ∃ first decision second, said = first ++ second ∧
        (h.beforeLeaving changes).run.Says first decision ∧
        match decision with
        | .error e => second = [] ∧ result = .error e
        | .ok .cancelled => second = [] ∧ result = .ok none
        | .ok .proceed => (h.backend.locate id).Says second result := by
  rw [Backend.leaveFor, Talk.says_bind_iff]
  refine exists_congr fun first => exists_congr fun decision => exists_congr fun second => ?_
  refine and_congr_right fun _ => and_congr_right fun _ => ?_
  cases decision with
  | error e => exact Talk.says_pure_iff
  | ok decision =>
    cases decision with
    | cancelled => exact Talk.says_pure_iff
    | proceed => exact Iff.rfl

/-- Under the policy that keeps the user where changes are unsaved, nothing is sent. -/
theorem says_beforeLeaving_of_cancel (hchanges : changes.isEmpty = false)
    (hpolicy : h.policy = .cancel) {decision : Except Failure LeaveDecision} :
    (h.beforeLeaving changes).run.Says said decision ↔ said = [] ∧ decision = .ok .cancelled := by
  simp only [beforeLeaving, hchanges, hpolicy]
  exact Talk.says_pure_iff

/-- Under the policy that saves changes, the component is fetched and the changes are saved, unless
the former fails. -/
theorem says_beforeLeaving_of_save (hchanges : changes.isEmpty = false) (hpolicy : h.policy = .save)
    {decision : Except Failure LeaveDecision} :
    (h.beforeLeaving changes).run.Says said decision ↔
      (∃ e, decision = .error e ∧ (h.client.component h.component).run.Says said (.error e)) ∨
      ∃ first s second, said = first ++ second ∧
        (h.client.component h.component).run.Says first (.ok s) ∧
        ∃ saved, (h.client.update s changes).run.Says second saved ∧
          decision = saved.map fun _ => .proceed := by
  have hcall : h.beforeLeaving changes = (do
      let s ← h.client.component h.component
      let _ ← h.client.update s changes
      return .proceed) := by
    simp only [beforeLeaving, hchanges, hpolicy]
    rfl
  rw [hcall, Call.says_bind_iff]
  refine or_congr Iff.rfl ?_
  refine exists_congr fun first => exists_congr fun s => exists_congr fun second => ?_
  refine and_congr_right fun _ => and_congr_right fun _ => ?_
  rw [Call.says_bind_iff]
  constructor
  · rintro (⟨e, rfl, hfailed⟩ | ⟨third, s', fourth, rfl, hsaved, hproceed⟩)
    · exact ⟨.error e, hfailed, rfl⟩
    · obtain ⟨rfl, rfl⟩ := Talk.says_pure_iff.mp hproceed
      rw [List.append_nil]
      exact ⟨.ok s', hsaved, rfl⟩
  · rintro ⟨saved, hsaved, rfl⟩
    cases saved with
    | error e => exact .inl ⟨e, rfl, hsaved⟩
    | ok s' => exact .inr ⟨second, s', [], (List.append_nil second).symm, hsaved, .done _⟩

/-! ## Everything that may be exchanged -/

/-- A service that is given has been looked up last, and there were no unsaved changes before, or
they were given up or saved. -/
theorem located_of_agreed (hclient : h.client = talkingClient address clientId)
    {id : String} {unsaved : Option Changes} {service : Service}
    (hsaid : (h.backend.leaveFor id unsaved).Says said (.ok (some service))) :
    ∃ before u a, said = before ++ [⟨{ url := u.withForm [] }, some a⟩] ∧
      h.client.url ("controller-services/" ++ id) = .ok u ∧
      Client.read { url := u.withForm [] } Service.decoder (some a) = .ok service ∧
      (before = [] ∧ (unsaved = none ∨
          ∃ changes, unsaved = some changes ∧ (changes.isEmpty ∨ h.policy = .discard)) ∨
        ∃ changes, unsaved = some changes ∧ h.policy = .save ∧ h.SavedFirst changes before) := by
  cases unsaved with
  | none =>
    obtain ⟨u, a, rfl, hu, hread⟩ := exists_of_located hclient hsaid
    exact ⟨[], u, a, rfl, hu, hread, .inl ⟨rfl, .inl rfl⟩⟩
  | some changes =>
    obtain ⟨before, decision, last, rfl, hbefore, hlast⟩ := says_leaveFor_some_iff.mp hsaid
    cases decision with
    | error e => cases hlast.2
    | ok decision =>
      cases decision with
      | cancelled => cases hlast.2
      | proceed =>
        obtain ⟨u, a, rfl, hu, hread⟩ := exists_of_located hclient hlast
        refine ⟨before, u, a, rfl, hu, hread, ?_⟩
        rcases (agreed_of_proceed hclient hbefore).savedFirst with ⟨rfl, hfree⟩ | hsaved
        · exact .inl ⟨rfl, .inr ⟨changes, rfl, hfree⟩⟩
        · exact .inr ⟨changes, rfl, hsaved⟩

/-- Whatever the server answers when the user follows a service. The service is given only if there
was nothing unsaved, or the policy gives up what is unsaved, or it saves that and the save has been
accepted first. Under the policy that keeps the user, nothing is sent while there are unsaved
changes. Under the one that saves, the component is fetched, then the changes are saved, and then
the service is looked up; the first of these that fails is the last, and its failure is the
result. -/
theorem leaving_follows_policy (hclient : h.client = talkingClient address clientId)
    {token : Token} {id : String} {unsaved : Option Changes} {r : Response}
    (hsaid : (h.backend.dispatch (.goToService token id unsaved)).Says said r) :
    ∃ result, r = .serviceLocated token result ∧
      (∀ service, result = .ok (some service) →
        ∃ before u a, said = before ++ [⟨{ url := u.withForm [] }, some a⟩] ∧
          h.client.url ("controller-services/" ++ id) = .ok u ∧
          Client.read { url := u.withForm [] } Service.decoder (some a) = .ok service ∧
          (before = [] ∧ (unsaved = none ∨
              ∃ changes, unsaved = some changes ∧ (changes.isEmpty ∨ h.policy = .discard)) ∨
            ∃ changes, unsaved = some changes ∧ h.policy = .save ∧
              h.SavedFirst changes before)) ∧
      ∀ changes, unsaved = some changes → changes.isEmpty = false →
        (h.policy = .cancel → said = [] ∧ result = .ok none) ∧
        (h.policy = .save → ∃ first fetched rest, said = first ++ rest ∧
          (h.client.component h.component).run.Says first fetched ∧
          match fetched with
          | .error e => rest = [] ∧ result = .error e
          | .ok s => ∃ second saved last, rest = second ++ last ∧
            (h.client.update s changes).run.Says second saved ∧
            match saved with
            | .error e => last = [] ∧ result = .error e
            | .ok _ => (h.backend.locate id).Says last result) := by
  obtain ⟨before, result, after, rfl, hleft, hresponse⟩ := Talk.says_bind_iff.mp hsaid
  obtain ⟨rfl, rfl⟩ := Talk.says_pure_iff.mp hresponse
  rw [List.append_nil]
  refine ⟨result, rfl, ?_, ?_⟩
  · rintro service rfl
    exact located_of_agreed hclient hleft
  · rintro changes rfl hchanges
    obtain ⟨first, decision, second, rfl, hfirst, hsecond⟩ := says_leaveFor_some_iff.mp hleft
    refine ⟨fun hcancel => ?_, fun hsave => ?_⟩
    · obtain ⟨rfl, rfl⟩ := (says_beforeLeaving_of_cancel hchanges hcancel).mp hfirst
      obtain ⟨rfl, hresult⟩ := hsecond
      exact ⟨rfl, hresult⟩
    · rcases (says_beforeLeaving_of_save hchanges hsave).mp hfirst with
        ⟨e, rfl, hfetched⟩ | ⟨fetching, s, saving, rfl, hfetched, saved, hsaved, rfl⟩
      · exact ⟨first, .error e, second, rfl, hfetched, hsecond⟩
      · refine ⟨fetching, .ok s, saving ++ second, List.append_assoc _ _ _, hfetched, ?_⟩
        refine ⟨saving, saved, second, rfl, hsaved, ?_⟩
        cases saved with
        | error e => exact hsecond
        | ok s' => exact hsecond

/-- A host that saves the changes of a reporting task. -/
def savingHost : Host Talk :=
  { client := talkingClient "http://h" "c", component := ⟨.reportingTask, "t"⟩, policy := .save }

/-- The service that a response gives. -/
def located? : Response → Option Service
  | .serviceLocated _ (.ok service) => service
  | _ => none

/-- The answers to the requests of a user who leaves with a change. -/
def leavingAnswers : List (Option Answer) := [
  some (World.taskAnswer 4),
  some (World.taskAnswer 5),
  some {
    status := 200
    body := Value.text
      (.object [("id", .string "svc"), ("component", .object [("id", .string "svc")])]) }]

/-- The change is saved before the service is looked up. -/
theorem leaving_follows_policy_leavingAnswers :
    ∃ before last service,
      (savingHost.backend.dispatch
        (.goToService 0 "svc" (some (.ofList [("a", none)])))).Says (before ++ [last])
          (.serviceLocated 0 (.ok (some service))) ∧
      savingHost.SavedFirst (.ofList [("a", none)]) before ∧ service.id = "svc" := by
  have hseen : ((savingHost.backend.dispatch
      (.goToService 0 "svc" (some (.ofList [("a", none)])))).answered? leavingAnswers).map
        (fun e => (e.1.length, (located? e.2).map (·.id))) = some (3, some "svc") := by
    decide +kernel
  obtain ⟨⟨said, r⟩, hended, hsummary⟩ := Option.map_eq_some_iff.mp hseen
  obtain ⟨hlength, hid⟩ := Prod.mk.inj hsummary
  obtain ⟨service, hservice, hname⟩ := Option.map_eq_some_iff.mp hid
  have hsaid := Talk.says_of_answered? hended
  obtain ⟨result, rfl, hlocated, -⟩ := leaving_follows_policy (h := savingHost) rfl hsaid
  obtain rfl : result = .ok (some service) := by
    cases result with
    | ok found => exact congrArg Except.ok hservice
    | error e => cases hservice
  obtain ⟨before, u, a, rfl, -, -, hbefore⟩ := hlocated service rfl
  rcases hbefore with ⟨rfl, -⟩ | ⟨changes, hchanges, -, hsaved⟩
  · cases hlength
  · obtain rfl := Option.some.inj hchanges
    exact ⟨before, _, service, hsaid, hsaved, hname⟩

end Host

end PropertySheet
