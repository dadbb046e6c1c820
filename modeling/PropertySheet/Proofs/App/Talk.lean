import PropertySheet.App.Run

/-!
# Tasks as talks

A task waits for the server between its requests, and meanwhile the application goes on. To tell
such runs apart, a task is carried out in a monad of its own: a `Talk` has ended, or it has sent a
request and says how it goes on with the answer. Nothing is assumed of the server, so an answer is
any status with any text, or none.

`Talk.Ends` says of a talk that its result agrees with all that has been said until then, whatever
the server answers. `ends_bind` is the rule by which it is proved of a whole task, and the lemmas
about `Client` below are one for each kind of call. `Talk.Says` is one such end of a talk, with the
exchanges that lead to it.
-/

namespace PropertySheet

/-- A request that has been sent, and the answer to it if there was one. -/
structure RoundTrip where
  query : Query
  answer : Option Answer

/-- Work that has ended, or has sent a request and goes on with the answer. -/
inductive Talk (α : Type) where
  | done (a : α)
  | ask (q : Query) (next : Option Answer → Talk α)

namespace Talk

variable {α β : Type}

def bind : Talk α → (α → Talk β) → Talk β
  | .done a, f => f a
  | .ask q next, f => .ask q fun r => (next r).bind f

instance : Monad Talk where
  pure := .done
  bind := .bind

/-- The transport that leaves every request to the server. -/
def transport : Transport Talk := { send := fun q => .ask q .done }

/-! ## What a talk ends with -/

/-- However the requests are answered, what the talk ends with agrees with what has been said. -/
def Ends (post : List RoundTrip → α → Prop) : List RoundTrip → Talk α → Prop
  | said, .done a => post said a
  | said, .ask q next => ∀ r, (next r).Ends post (said ++ [⟨q, r⟩])

variable {post post' : List RoundTrip → α → Prop} {said : List RoundTrip} {t : Talk α}

@[simp]
theorem ends_done {a : α} : (Talk.done a).Ends post said ↔ post said a := Iff.rfl

@[simp]
theorem ends_pure {a : α} : (pure a : Talk α).Ends post said ↔ post said a := Iff.rfl

@[simp]
theorem ends_ask {q : Query} {next : Option Answer → Talk α} :
    (Talk.ask q next).Ends post said ↔ ∀ r, (next r).Ends post (said ++ [⟨q, r⟩]) := Iff.rfl

theorem Ends.imp (h : t.Ends post said) (himp : ∀ said a, post said a → post' said a) :
    t.Ends post' said := by
  induction t generalizing said with
  | done a => exact himp said a h
  | ask q next ih => exact fun r => ih r (h r)

theorem ends_of_forall (h : ∀ said a, post said a) : t.Ends post said := by
  induction t generalizing said with
  | done a => exact h said a
  | ask q next ih => exact fun r => ih r

/-- A talk that goes on with another one ends as the second does, after all that the first said. -/
theorem ends_bind {f : α → Talk β} {post : List RoundTrip → β → Prop} :
    (t >>= f).Ends post said ↔ t.Ends (fun said a => (f a).Ends post said) said := by
  induction t generalizing said with
  | done a => exact Iff.rfl
  | ask q next ih => exact forall_congr' fun r => ih r

/-- A way for the talk to end: what is said, and the result then. -/
inductive Says : Talk α → List RoundTrip → α → Prop
  | done (a : α) : Says (.done a) [] a
  | ask {q : Query} {next : Option Answer → Talk α} {said : List RoundTrip} {a : α}
      (r : Option Answer) : Says (next r) said a → Says (.ask q next) (⟨q, r⟩ :: said) a

/-- However the talk ends, its result agrees with what has been said. -/
theorem ends_iff : t.Ends post said ↔ ∀ more a, t.Says more a → post (said ++ more) a := by
  induction t generalizing said with
  | done a =>
    rw [ends_done]
    constructor
    · intro h more a' hsaid
      cases hsaid
      rwa [List.append_nil]
    · intro h
      simpa using h [] a (.done a)
  | ask q next ih =>
    rw [ends_ask]
    constructor
    · intro h more a hsaid
      cases hsaid with
      | ask r hrest => simpa using (ih r).mp (h r) _ a hrest
    · intro h r
      refine (ih r).mpr fun more a hrest => ?_
      simpa using h _ a (.ask r hrest)

-- Unfolded, it would run the talk, with every address that is parsed on the way.
attribute [irreducible] Ends

/-! ## The ways for a talk to end -/

theorem says_pure_iff {a b : α} : (pure a : Talk α).Says said b ↔ said = [] ∧ b = a := by
  constructor
  · intro h
    cases h
    exact ⟨rfl, rfl⟩
  · rintro ⟨rfl, rfl⟩
    exact .done b

theorem says_ask_done_iff {q : Query} {f : Option Answer → α} {a : α} :
    (Talk.ask q fun r => .done (f r)).Says said a ↔ ∃ r, said = [⟨q, r⟩] ∧ a = f r := by
  constructor
  · intro h
    cases h with
    | ask r hrest =>
      obtain ⟨rfl, rfl⟩ := says_pure_iff.mp hrest
      exact ⟨r, rfl, rfl⟩
  · rintro ⟨r, rfl, rfl⟩
    exact .ask r (.done _)

/-- What a talk says that goes on with another one: all that the first says, and then the second. -/
theorem says_bind_iff {f : α → Talk β} {b : β} :
    (t >>= f).Says said b ↔
      ∃ first a second, said = first ++ second ∧ t.Says first a ∧ (f a).Says second b := by
  constructor
  · intro h
    induction t generalizing said with
    | done a => exact ⟨[], a, said, rfl, .done a, h⟩
    | ask q next ih =>
      cases h with
      | ask r hrest =>
        obtain ⟨first, a, second, rfl, hfirst, hsecond⟩ := ih r hrest
        exact ⟨⟨q, r⟩ :: first, a, second, rfl, .ask r hfirst, hsecond⟩
  · rintro ⟨first, a, second, rfl, hfirst, hsecond⟩
    induction hfirst with
    | done a => exact hsecond
    | ask r _ ih => exact .ask r (ih hsecond)

/-- What is made of the result of a talk is no part of what is said. -/
theorem exists_says_bind_pure {f : α → β} :
    (∃ b, (t >>= fun a => pure (f a)).Says said b) ↔ ∃ a, t.Says said a := by
  constructor
  · rintro ⟨b, hb⟩
    obtain ⟨first, a, second, rfl, hfirst, hsecond⟩ := says_bind_iff.mp hb
    obtain ⟨rfl, -⟩ := says_pure_iff.mp hsecond
    rw [List.append_nil]
    exact ⟨a, hfirst⟩
  · rintro ⟨a, ha⟩
    exact ⟨f a, says_bind_iff.mpr
      ⟨said, a, [], (List.append_nil said).symm, ha, says_pure_iff.mpr ⟨rfl, rfl⟩⟩⟩

/-- The end that answers lead to, if they are as many as it takes. -/
def answered? : Talk α → List (Option Answer) → Option (List RoundTrip × α)
  | .done a, [] => some ([], a)
  | .ask q next, r :: answers => ((next r).answered? answers).map fun e => (⟨q, r⟩ :: e.1, e.2)
  | _, _ => none

theorem says_of_answered? {answers : List (Option Answer)} {a : α}
    (h : t.answered? answers = some (said, a)) : t.Says said a := by
  induction t generalizing answers said with
  | done b =>
    cases answers with
    | nil =>
      obtain ⟨rfl, rfl⟩ := Prod.mk.inj (Option.some.inj h)
      exact .done b
    | cons r answers => cases h
  | ask q next ih =>
    cases answers with
    | nil => cases h
    | cons r answers =>
      obtain ⟨⟨rest, b⟩, hrest, he⟩ := Option.map_eq_some_iff.mp h
      obtain ⟨rfl, rfl⟩ := Prod.mk.inj he
      exact .ask r (ih r hrest)

end Talk

/-! ## Calls -/

namespace Call

variable {α β : Type} {x : Call Talk α} {post : List RoundTrip → Except Failure β → Prop}
  {said : List RoundTrip}

/-- A result that needs no request. -/
theorem ends_liftM {r : Except Failure β} :
    (liftM r : Call Talk β).run.Ends post said ↔ post said r := by
  show Talk.Ends post said (pure r) ↔ _
  rw [Talk.ends_pure]

/-- A call that goes on with another one: the first failure is the failure of both. -/
theorem ends_bind {f : α → Call Talk β} :
    (x >>= f).run.Ends post said ↔ x.run.Ends (fun said r =>
      match r with
      | .ok a => (f a).run.Ends post said
      | .error e => post said (.error e)) said := by
  show Talk.Ends post said (x.run >>= ExceptT.bindCont f) ↔ _
  rw [Talk.ends_bind]
  refine Iff.of_eq (congrArg (x.run.Ends · said) ?_)
  funext said r
  cases r with
  | ok a => rfl
  | error e => exact propext Talk.ends_pure

/-- A call that goes on with a failure of another one. -/
theorem ends_tryCatch {x : Call Talk β} {f : Failure → Call Talk β} :
    (tryCatch x f).run.Ends post said ↔ x.run.Ends (fun said r =>
      match r with
      | .ok a => post said (.ok a)
      | .error e => (f e).run.Ends post said) said := by
  show Talk.Ends post said (x.run >>= _) ↔ _
  rw [Talk.ends_bind]
  refine Iff.of_eq (congrArg (x.run.Ends · said) ?_)
  funext said r
  cases r with
  | ok a => exact propext Talk.ends_pure
  | error e => rfl

theorem says_liftM_iff {r r' : Except Failure β} :
    (liftM r : Call Talk β).run.Says said r' ↔ said = [] ∧ r' = r := by
  show Talk.Says (pure r) said r' ↔ _
  rw [Talk.says_pure_iff]

/-- What a call says that goes on with another one: the first fails, or the second follows. -/
theorem says_bind_iff {f : α → Call Talk β} {r : Except Failure β} :
    (x >>= f).run.Says said r ↔
      (∃ e, r = .error e ∧ x.run.Says said (.error e)) ∨
      ∃ first a second, said = first ++ second ∧ x.run.Says first (.ok a) ∧
        (f a).run.Says second r := by
  show Talk.Says (x.run >>= ExceptT.bindCont f) said r ↔ _
  rw [Talk.says_bind_iff]
  constructor
  · rintro ⟨first, result, second, rfl, hfirst, hsecond⟩
    cases result with
    | ok a => exact .inr ⟨first, a, second, rfl, hfirst, hsecond⟩
    | error e =>
      obtain ⟨rfl, rfl⟩ := Talk.says_pure_iff.mp hsecond
      rw [List.append_nil]
      exact .inl ⟨e, rfl, hfirst⟩
  · rintro (⟨e, rfl, hfirst⟩ | ⟨first, a, second, rfl, hfirst, hsecond⟩)
    · exact ⟨said, .error e, [], (List.append_nil said).symm, hfirst, .done _⟩
    · exact ⟨first, .ok a, second, rfl, hfirst, hsecond⟩

/-- Nor is what is made of the result of a call. -/
theorem exists_says_bind_liftM {x : Call Talk α} {f : α → Except Failure β} :
    (∃ r, (x >>= fun a => liftM (f a)).run.Says said r) ↔ ∃ r, x.run.Says said r := by
  constructor
  · rintro ⟨r, hr⟩
    rcases says_bind_iff.mp hr with ⟨e, -, he⟩ | ⟨first, a, second, rfl, hfirst, hsecond⟩
    · exact ⟨.error e, he⟩
    · obtain ⟨rfl, -⟩ := says_liftM_iff.mp hsecond
      rw [List.append_nil]
      exact ⟨.ok a, hfirst⟩
  · rintro ⟨r, hr⟩
    cases r with
    | error e => exact ⟨.error e, says_bind_iff.mpr (.inl ⟨e, rfl, hr⟩)⟩
    | ok a =>
      exact ⟨f a, says_bind_iff.mpr (.inr ⟨said, a, [], (List.append_nil said).symm, hr,
        says_liftM_iff.mpr ⟨rfl, rfl⟩⟩)⟩

end Call

/-- The client of a backend, as a task uses it. -/
def talkingClient (address clientId : String) : Client Talk :=
  .ofAddress address clientId Talk.transport

namespace Client

variable {α : Type} {address clientId : String}

/-- What a request gives with an answer, or without one. -/
def read (q : Query) (d : Json.Decoder α) : Option Answer → Except Failure α
  | none => .error (.exchange (.noResponse q.url.text))
  | some a => accepted a >>= decoded d

theorem run_send (q : Query) (d : Json.Decoder α) :
    ((talkingClient address clientId).send q d).run = .ask q fun r => .done (read q d r) := by
  have hnext : ∀ r : Option Answer, (match r with
      | none => throw (.exchange (.noResponse q.url.text))
      | some a => liftM (accepted a >>= decoded d) : Call Talk α).run = .done (read q d r) := by
    intro r
    cases r with
    | none => rfl
    | some a => rfl
  exact congrArg (Talk.ask q) (funext hnext)

variable {post : List RoundTrip → Except Failure α → Prop} {said : List RoundTrip}

/-- A request below the root is sent to an address, unless there is no such address. -/
theorem ends_request {path : String} {q : Url → Query} {d : Json.Decoder α}
    (hbad : ∀ e, post said (.error e))
    (hread : ∀ u r, (talkingClient address clientId).url path = .ok u →
      post (said ++ [⟨q u, r⟩]) (read (q u) d r)) :
    (do
      let url ← liftM ((talkingClient address clientId).url path)
      (talkingClient address clientId).send (q url) d : Call Talk α).run.Ends post said := by
  rw [Call.ends_bind, Call.ends_liftM]
  cases hurl : (talkingClient address clientId).url path with
  | error e => exact hbad e
  | ok u =>
    show ((talkingClient address clientId).send (q u) d).run.Ends post said
    rw [run_send, Talk.ends_ask]
    intro r
    exact Talk.ends_done.mpr (hread u r hurl)

theorem ends_fetch {path : String} {pairs : List (String × String)} {d : Json.Decoder α}
    (hbad : ∀ e, post said (.error e))
    (hread : ∀ u r, (talkingClient address clientId).url path = .ok u →
      post (said ++ [⟨{ url := u.withForm pairs }, r⟩]) (read { url := u.withForm pairs } d r)) :
    ((talkingClient address clientId).fetch path pairs d).run.Ends post said :=
  ends_request (q := fun u => { url := u.withForm pairs }) hbad hread

theorem ends_submit {method : Method} {path : String} {body : Json.Value} {d : Json.Decoder α}
    (hbad : ∀ e, post said (.error e))
    (hread : ∀ u r, (talkingClient address clientId).url path = .ok u →
      post (said ++ [⟨{ method, url := u, body := some body }, r⟩])
        (read { method, url := u, body := some body } d r)) :
    ((talkingClient address clientId).submit method path body d).run.Ends post said :=
  ends_request (q := fun u => { method, url := u, body := some body }) hbad hread

/-- All that a request says: there is no address for it, or it is sent there. -/
theorem says_request_iff {path : String} {q : Url → Query} {d : Json.Decoder α}
    {r : Except Failure α} :
    (do
      let url ← liftM ((talkingClient address clientId).url path)
      (talkingClient address clientId).send (q url) d : Call Talk α).run.Says said r ↔
      (∃ e, (talkingClient address clientId).url path = .error e ∧ said = [] ∧ r = .error e) ∨
      ∃ u answer, (talkingClient address clientId).url path = .ok u ∧
        said = [⟨q u, answer⟩] ∧ r = read (q u) d answer := by
  rw [Call.says_bind_iff]
  simp only [Call.says_liftM_iff, run_send, Talk.says_ask_done_iff]
  constructor
  · rintro (⟨e, rfl, rfl, herror⟩ | ⟨_, u, _, rfl, ⟨rfl, hok⟩, answer, rfl, rfl⟩)
    · exact .inl ⟨e, herror.symm, rfl, rfl⟩
    · exact .inr ⟨u, answer, hok.symm, rfl, rfl⟩
  · rintro (⟨e, herror, rfl, rfl⟩ | ⟨u, answer, hok, rfl, rfl⟩)
    · exact .inl ⟨e, rfl, rfl, herror.symm⟩
    · exact .inr ⟨[], u, _, rfl, ⟨rfl, hok.symm⟩, answer, rfl, rfl⟩

theorem exists_says_request_iff {path : String} {q : Url → Query} {d : Json.Decoder α} :
    (∃ r, (do
      let url ← liftM ((talkingClient address clientId).url path)
      (talkingClient address clientId).send (q url) d : Call Talk α).run.Says said r) ↔
      (∃ e, (talkingClient address clientId).url path = .error e ∧ said = []) ∨
      ∃ u answer, (talkingClient address clientId).url path = .ok u ∧ said = [⟨q u, answer⟩] := by
  simp only [says_request_iff]
  constructor
  · rintro ⟨r, ⟨e, herror, rfl, -⟩ | ⟨u, answer, hok, rfl, -⟩⟩
    · exact .inl ⟨e, herror, rfl⟩
    · exact .inr ⟨u, answer, hok, rfl⟩
  · rintro (⟨e, herror, rfl⟩ | ⟨u, answer, hok, rfl⟩)
    · exact ⟨.error e, .inl ⟨e, herror, rfl, rfl⟩⟩
    · exact ⟨read (q u) d answer, .inr ⟨u, answer, hok, rfl, rfl⟩⟩

end Client

end PropertySheet
