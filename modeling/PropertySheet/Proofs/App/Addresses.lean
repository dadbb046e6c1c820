import PropertySheet.Proofs.App.Talk
import PropertySheet.Proofs.Url.Below
import PropertySheet.Settings

/-!
# Ids in addresses

An id is put into the path of a request as it is, and what comes of the path is decided where the
whole is read as an address. So an id can be more than a name: it may end the path or climb out of
it, and two ids may come to the same address.

`IdCall.addressed_iff` says which ids are names and nothing else. A request for one of these goes to
the segment that the id is written as, in the place of its resource below the root, and nowhere
else. Two of them go to the same place only if a `%` makes one look like the other.
-/

namespace PropertySheet

open Url (segmentText)

/-- What has an id in an address. -/
inductive Resource where
  | component (kind : ComponentKind)
  | history
  | service
  | group
deriving DecidableEq, Repr

namespace Resource

/-- The path of a request for a resource by its id. -/
def path : Resource → String → String
  | .component kind, id => ComponentRef.path { kind, id }
  | .history, id => "flow/history/components/" ++ id
  | .service, id => "controller-services/" ++ id
  | .group, id => Scope.path (.group id)

/-- The segments before the id. -/
def collection : Resource → List String
  | .component kind => [kind.collection]
  | .history => ["flow", "history", "components"]
  | .service => ["controller-services"]
  | .group => ["process-groups"]

/-- The segments behind the id: the services of a group are a collection of their own. -/
def members : Resource → List String
  | .group => ["controller-services"]
  | _ => []

/-- The address of a resource, with the id as one segment. -/
def address (r : Resource) (root : Url) (id : String) : Url :=
  { root with
    path := root.path.dropLast ++ r.collection ++ segmentText id.toList :: r.members
    query := none, fragment := none }

/-- An id that is a name and nothing else. -/
def IsName (r : Resource) (id : String) : Prop := Url.Plain r.members.isEmpty id.toList

instance (r : Resource) (id : String) : Decidable (r.IsName id) :=
  inferInstanceAs (Decidable (Url.Plain _ _))

variable {r : Resource} {id : String} {root : String} {u : Url}

/-- A text that is a segment as it is. -/
def IsSegment (name : String) : Prop :=
  Url.Plain false name.toList ∧ segmentText name.toList = name

instance (name : String) : Decidable (IsSegment name) := inferInstanceAs (Decidable (_ ∧ _))

theorem isSegment_collection (r : Resource) : ∀ name ∈ r.collection, IsSegment name := by
  cases r with
  | component kind => cases kind <;> decide
  | _ => decide

theorem below_segments {names : List String} (h : ∀ name ∈ names, IsSegment name) (u : Url)
    (path : List String) (text : List Char) :
    u.below path ((names.flatMap fun name => name.toList ++ ['/']) ++ text) =
      u.below (path ++ names) text := by
  induction names generalizing path with
  | nil => rw [List.append_nil, List.flatMap_nil, List.nil_append]
  | cons name rest ih =>
    have hname := h name List.mem_cons_self
    rw [List.flatMap_cons, List.append_assoc, List.append_assoc, List.singleton_append,
      Url.below_segment hname.1, hname.2, ih fun s hs => h s (List.mem_cons_of_mem name hs),
      ← List.append_cons]

/-- A path is the collection, the id and what is behind it, with slashes between them. -/
theorem path_toList (r : Resource) (id : String) :
    (r.path id).toList = (r.collection.flatMap fun name => name.toList ++ ['/']) ++
      (id.toList ++ r.members.flatMap fun name => '/' :: name.toList) := by
  have hends : ∀ start : String, r.path id = start ++ id →
      start.toList = (r.collection.flatMap fun name => name.toList ++ ['/']) → r.members = [] →
      (r.path id).toList = (r.collection.flatMap fun name => name.toList ++ ['/']) ++
        (id.toList ++ r.members.flatMap fun name => '/' :: name.toList) := by
    intro start hpath hstart hmembers
    rw [hpath, String.toList_append, hstart, hmembers, List.flatMap_nil, List.append_nil]
  cases r with
  | component kind =>
    exact hends (kind.collection ++ "/") rfl (by cases kind <;> decide +kernel) rfl
  | history => exact hends "flow/history/components/" rfl (by decide +kernel) rfl
  | service => exact hends "controller-services/" rfl (by decide +kernel) rfl
  | group =>
    have hpath : group.path id = "process-groups/" ++ id ++ "/controller-services" := rfl
    have hstart : "process-groups/".toList =
        group.collection.flatMap fun name => name.toList ++ ['/'] := by decide +kernel
    have hmembers : "/controller-services".toList =
        group.members.flatMap fun name => '/' :: name.toList := by decide +kernel
    rw [hpath, String.toList_append, String.toList_append, hstart, hmembers, List.append_assoc]

/-- The id is read behind the segments of its collection. -/
theorem below_path (u : Url) (path : List String) (r : Resource) (id : String) :
    u.below path (r.path id).toList = u.below (path ++ r.collection)
      (id.toList ++ r.members.flatMap fun name => '/' :: name.toList) := by
  rw [path_toList, below_segments r.isSegment_collection]

theorem members_cases (r : Resource) : r.members = [] ∨ r.members = ["controller-services"] := by
  cases r with
  | group => exact .inr rfl
  | _ => exact .inl rfl

/-- A path below a root leads to the resource if its id is a name, and else not even its path does.
-/
theorem exists_address (hroot : Url.IsRoot root u) (r : Resource) (id : String) :
    ∃ v, Url.parse? (root ++ "/" ++ r.path id) = some v ∧
      (r.IsName id → v = r.address u id) ∧ (v.path = (r.address u id).path → r.IsName id) := by
  refine ⟨_, Url.parse?_below hroot (r.path id), ?_, ?_⟩
  · intro hname
    rw [below_path, address]
    unfold IsName at hname
    rcases r.members_cases with hmembers | hmembers
    · rw [hmembers] at hname ⊢
      show u.below _ (id.toList ++ []) = _
      rw [List.append_nil, Url.below_last hname]
    · rw [hmembers] at hname ⊢
      show u.below _ (id.toList ++ '/' :: "controller-services".toList) = _
      rw [Url.below_segment hname, Url.below_last (by decide), List.append_assoc]
      rfl
  · intro hpath
    rw [below_path, address] at hpath
    unfold IsName
    rcases r.members_cases with hmembers | hmembers
    · rw [hmembers] at hpath ⊢
      have htext : id.toList ++ [].flatMap (fun s : String => '/' :: s.toList) = id.toList :=
        List.append_nil _
      rw [htext] at hpath
      exact Url.plain_of_below_last hpath
    · rw [hmembers] at hpath ⊢
      have hplain : Url.Plain true "controller-services".toList := by decide
      exact Url.plain_of_below_segment hplain hpath

/-- Between slashes a segment has its place, so that it can be told from the whole. -/
theorem intercalate_cancel {xs zs : List (List Char)} {y y' : List Char}
    (h : ['/'].intercalate (xs ++ y :: zs) = ['/'].intercalate (xs ++ y' :: zs)) : y = y' := by
  induction xs with
  | nil =>
    cases zs with
    | nil => simpa using h
    | cons z zs =>
      rw [List.nil_append, List.nil_append, List.intercalate_cons_cons,
        List.intercalate_cons_cons] at h
      exact List.append_cancel_right (List.append_cancel_right h)
  | cons x xs ih =>
    have hne : ∀ w : List Char, xs ++ w :: zs ≠ [] := fun w => by simp
    rw [List.cons_append, List.cons_append, List.intercalate_cons_of_ne_nil (hne y),
      List.intercalate_cons_of_ne_nil (hne y')] at h
    exact ih (List.append_cancel_left h)

theorem id_eq_of_target_eq {id' : String} (hid : '%' ∉ id.toList) (hid' : '%' ∉ id'.toList)
    (h : (r.address u id).target = (r.address u id').target) : id = id' := by
  have hchars := congrArg String.toList h
  simp only [Url.target, Url.pathText, address, Url.marked, String.append_empty,
    String.toList_append, String.toList_intercalate, List.map_append, List.map_cons] at hchars
  have htext := intercalate_cancel (List.append_cancel_left hchars)
  have hencoded : Url.percentEncode Url.keptInPath id.toList =
      Url.percentEncode Url.keptInPath id'.toList := by
    simpa only [segmentText, String.toList_ofList] using htext
  exact String.toList_inj.mp
    (Url.eq_of_percentEncode_eq (fun _ => Url.lt_of_keptInPath) hid hid' hencoded)

end Resource

/-! ## Calls -/

/-- A call of the client that is given an id. -/
inductive IdCall where
  | component (c : ComponentRef)
  | update (s : Snapshot) (changes : Changes)
  | history (id : String)
  | service (id : String)
  | createService (groupId typeName : String)

namespace IdCall

/-- What the call is for. -/
def resource : IdCall → Resource
  | .component c => .component c.kind
  | .update s _ => .component s.component.kind
  | .history _ => .history
  | .service _ => .service
  | .createService _ _ => .group

def id : IdCall → String
  | .component c => c.id
  | .update s _ => s.component.id
  | .history id | .service id | .createService id _ => id

/-- What the call sends to an address. -/
def query (c : Client Talk) (u : Url) : IdCall → Query
  | .update s changes =>
    { method := .put, url := u, body := some (s.updateBody changes c.clientId) }
  | .createService _ typeName =>
    { method := .post, url := u, body := some (c.creationBody typeName) }
  | _ => { url := u.withForm [] }

theorem path_url_query (call : IdCall) (c : Client Talk) (u : Url) :
    (call.query c u).url.path = u.path := by
  cases call <;> rfl

theorem url_query (call : IdCall) (c : Client Talk) {u : Url} (h : u.query = none) :
    (call.query c u).url = u := by
  obtain ⟨secure, host, socket, path, query, fragment⟩ := u
  obtain rfl : query = none := h
  cases call <;> rfl

/-- What is said in the course of the call, whatever comes of it. -/
def Says (c : Client Talk) (said : List RoundTrip) : IdCall → Prop
  | .component ref => ∃ r, (c.component ref).run.Says said r
  | .update s changes => ∃ r, (c.update s changes).run.Says said r
  | .history id => ∃ r, (c.history id).run.Says said r
  | .service id => ∃ r, (c.service id).run.Says said r
  | .createService groupId typeName =>
    ∃ r, (c.createService (.group groupId) typeName).run.Says said r

/-- A call that consists of one request. -/
def Sends (c : Client Talk) (call : IdCall) (q : Query) : Prop :=
  ∀ said, call.Says c said ↔ ∃ answer, said = [⟨q, answer⟩]

theorem Sends.unique {c : Client Talk} {call : IdCall} {q q' : Query} (h : call.Sends c q)
    (h' : call.Sends c q') : q = q' := by
  obtain ⟨answer, hsaid⟩ := (h' [⟨q, none⟩]).mp ((h _).mpr ⟨none, rfl⟩)
  exact congrArg RoundTrip.query (List.cons.inj hsaid).1

section Talking

variable {α : Type} {address clientId : String} {said : List RoundTrip}

theorem exists_says_request_iff_of_url {path : String} {u : Url}
    (hurl : (talkingClient address clientId).url path = .ok u) {q : Url → Query}
    {d : Json.Decoder α} :
    (∃ r, (do
      let url ← liftM ((talkingClient address clientId).url path)
      (talkingClient address clientId).send (q url) d : Call Talk α).run.Says said r) ↔
      ∃ answer, said = [⟨q u, answer⟩] := by
  rw [Client.exists_says_request_iff, hurl]
  simp

theorem sends_query (call : IdCall) {u : Url}
    (hurl : (talkingClient address clientId).url (call.resource.path call.id) = .ok u) :
    call.Sends (talkingClient address clientId)
      (call.query (talkingClient address clientId) u) := by
  intro said
  cases call with
  | component c =>
    exact Call.exists_says_bind_liftM.trans
      (exists_says_request_iff_of_url (q := fun u => { url := u.withForm [] }) hurl)
  | update s changes =>
    exact Call.exists_says_bind_liftM.trans (exists_says_request_iff_of_url (q := fun u =>
      { method := .put, url := u, body := some (s.updateBody changes clientId) }) hurl)
  | history id => exact exists_says_request_iff_of_url (q := fun u => { url := u.withForm [] }) hurl
  | service id => exact exists_says_request_iff_of_url (q := fun u => { url := u.withForm [] }) hurl
  | createService groupId typeName =>
    exact exists_says_request_iff_of_url (q := fun u =>
      { method := .post, url := u
        body := some ((talkingClient address clientId).creationBody typeName) }) hurl

theorem sends_of_parse? (call : IdCall) {u : Url}
    (h : Url.parse? (Client.trimRoot address ++ "/" ++ call.resource.path call.id) = some u) :
    call.Sends (talkingClient address clientId)
      (call.query (talkingClient address clientId) u) := by
  have hroot : (talkingClient address clientId).root = Client.trimRoot address := rfl
  refine call.sends_query ?_
  rw [Client.url, hroot, h]

end Talking

/-- Whatever root the client has, a call for an id sends one request. It goes to the resource with
the id as one segment if the id is a name, and else not there. Requests for different names have
different targets, if no `%` in a name makes it look like another one. -/
theorem addressed_iff {address : String} {root : Url}
    (hroot : Url.IsRoot (Client.trimRoot address) root) (clientId : String) (call : IdCall) :
    ∃ q, call.Sends (talkingClient address clientId) q ∧
      (q.url = call.resource.address root call.id ↔ call.resource.IsName call.id) ∧
      ∀ (call' : IdCall) (q' : Query), call'.Sends (talkingClient address clientId) q' →
        call'.resource = call.resource →
        call.resource.IsName call.id → call'.resource.IsName call'.id →
        '%' ∉ call.id.toList → '%' ∉ call'.id.toList →
        q'.url.target = q.url.target → call'.id = call.id := by
  have hnamed : ∀ call : IdCall, ∃ q, call.Sends (talkingClient address clientId) q ∧
      (q.url = call.resource.address root call.id ↔ call.resource.IsName call.id) := by
    intro call
    obtain ⟨u, hparse, hname, hpath⟩ := Resource.exists_address hroot call.resource call.id
    refine ⟨_, call.sends_of_parse? hparse, fun heq => hpath ?_, fun h => ?_⟩
    · rw [← heq, path_url_query]
    · obtain rfl := hname h
      exact call.url_query _ rfl
  obtain ⟨q, hsends, hiff⟩ := hnamed call
  refine ⟨q, hsends, hiff, fun call' q' hsends' hsame hname hname' hplain hplain' htarget => ?_⟩
  obtain ⟨_, hsends'', hiff'⟩ := hnamed call'
  obtain rfl := hsends'.unique hsends''
  rw [hiff'.mpr hname', hiff.mpr hname, hsame] at htarget
  exact call.resource.id_eq_of_target_eq hplain' hplain htarget

/-- The root of a backend on this machine. -/
def localRoot : Url :=
  { secure := false, host := "localhost", socket := some 8080, path := ["api", ""] }

/-- Two services are asked for in places of their own, however many slashes end the address. -/
theorem addressed_iff_twoServices :
    Url.IsRoot (Client.trimRoot "http://localhost:8080/api//") localRoot ∧
      ∃ q q', (service "a b").Sends (talkingClient "http://localhost:8080/api//" "c") q ∧
        (service "a-b").Sends (talkingClient "http://localhost:8080/api//" "c") q' ∧
        q.url.target = "/api/controller-services/a%20b" ∧ q'.url.target ≠ q.url.target := by
  have hroot : Url.IsRoot (Client.trimRoot "http://localhost:8080/api//") localRoot :=
    ⟨by decide +kernel, rfl, rfl⟩
  obtain ⟨q, hsends, hiff, hdiffer⟩ := addressed_iff hroot "c" (service "a b")
  obtain ⟨q', hsends', -⟩ := addressed_iff hroot "c" (service "a-b")
  have hname : Resource.service.IsName "a b" := by decide
  have hname' : Resource.service.IsName "a-b" := by decide
  refine ⟨hroot, q, q', hsends, hsends', ?_, fun htarget => ?_⟩
  · rw [hiff.mpr hname]
    decide +kernel
  · exact absurd (hdiffer _ q' hsends' rfl hname hname' (by decide) (by decide) htarget) (by decide)

/-- Settings with an id that climbs out of its collection. -/
def climbingSettings : Settings :=
  { baseUrl := "http://localhost:8080/api"
    component := { kind := .reportingTask, id := "../processors/p-1" } }

/-- The settings are accepted, and what is asked for is a processor and no reporting task. -/
theorem not_addressed_climbingSettings :
    climbingSettings.fault? = none ∧
      ∃ q, (component climbingSettings.component).Sends
          (talkingClient climbingSettings.baseUrl "c") q ∧
        (component { kind := .processor, id := "p-1" }).Sends
          (talkingClient climbingSettings.baseUrl "c") q ∧
        q.url.target = "/api/processors/p-1" := by
  have hparse : ∀ id ∈ ["reporting-tasks/../processors/p-1", "processors/p-1"],
      Url.parse? (Client.trimRoot "http://localhost:8080/api" ++ "/" ++ id) =
        some { localRoot with path := ["api", "processors", "p-1"] } := by decide +kernel
  have hfirst := hparse "reporting-tasks/../processors/p-1" (by decide)
  have hsecond := hparse "processors/p-1" (by decide)
  refine ⟨by decide +kernel, _, sends_of_parse? _ hfirst, sends_of_parse? _ hsecond, ?_⟩
  decide +kernel

end IdCall

end PropertySheet
