import Mathlib.Data.List.Nodup
import PropertySheet.Backend
import PropertySheet.Proofs.Sheet.Tokens

/-!
# A sheet and the requests that its application has taken

An application calls the sheet, takes its requests from time to time, has some backend answer them
and brings the responses back, in any order. `Hosting` is a sheet beside the requests that have been
taken so far, and `HostStep` lists what may happen: a call, or the response of a backend to a
request. A backend is one per answer, so that nothing is assumed of how answers hang together.

No two requests share a token, whatever happens (`Numbered.apply`, `Numbered.eq_of_token_eq`), so a
response under the token of a request is the response to that request.
-/

namespace PropertySheet

/-- What happens to a sheet: a call from outside, or the response that a backend gives to a request
of the sheet. -/
inductive HostStep where
  | call (op : Operation)
  | answer (q : Request) (b : Backend Id)

/-- The call on the sheet that a step makes. -/
def HostStep.operation : HostStep → Operation
  | .call op => op
  | .answer q b => .complete (b.dispatch q).run

namespace Backend

@[simp]
theorem token_dispatch (b : Backend Id) (q : Request) : (b.dispatch q).run.token = q.token := by
  cases q <;> rfl

@[simp]
theorem dispatch_listServiceTypes (b : Backend Id) (t : Token) (serviceType : String) :
    (b.dispatch (.listServiceTypes t serviceType)).run =
      .serviceTypes t (b.serviceTypes serviceType).run := rfl

@[simp]
theorem dispatch_createService (b : Backend Id) (t : Token) (scope : Scope) (typeName : String) :
    (b.dispatch (.createService t scope typeName)).run =
      .serviceCreated t (b.createService scope typeName).run := rfl

end Backend

/-- The requests that a call hands over to the application. -/
def Sheet.collects (s : Sheet) : Operation → List Request
  | .takeRequests => s.requests
  | _ => []

theorem Sheet.map_token_collects (s : Sheet) (op : Operation) :
    (s.collects op).map (·.token) = s.handsOver op := by
  cases op <;> rfl

/-- A sheet, and the requests that its application has taken, oldest first. -/
structure Hosting where
  sheet : Sheet
  taken : List Request := []

namespace Hosting

/-- A new sheet. -/
def start (config : SheetConfig) : Hosting := { sheet := .ofConfig config }

/-- The requests that the application has taken or may take. -/
def requests (h : Hosting) : List Request := h.taken ++ h.sheet.requests

def apply (h : Hosting) (x : HostStep) : Hosting :=
  { sheet := h.sheet.apply x.operation, taken := h.taken ++ h.sheet.collects x.operation }

/-- What a sequence of steps leads to, the first one first. -/
def run (h : Hosting) (steps : List HostStep) : Hosting := steps.foldl apply h

@[simp]
theorem run_nil (h : Hosting) : h.run [] = h := rfl

@[simp]
theorem run_cons (h : Hosting) (x : HostStep) (steps : List HostStep) :
    h.run (x :: steps) = (h.apply x).run steps := rfl

@[simp]
theorem run_append (h : Hosting) (xs ys : List HostStep) :
    h.run (xs ++ ys) = (h.run xs).run ys := by
  simp [run, List.foldl_append]

theorem sheet_run (h : Hosting) (steps : List HostStep) :
    (h.run steps).sheet = h.sheet.run (steps.map (·.operation)) := by
  induction steps generalizing h with
  | nil => rfl
  | cons x steps ih => exact ih _

/-- Only requests that the application has taken are answered, and no response comes from
elsewhere. -/
def Dispatched (h : Hosting) : HostStep → Prop
  | .call (.complete _) => False
  | .call _ => True
  | .answer q _ => q ∈ h.taken

instance (h : Hosting) : ∀ x, Decidable (h.Dispatched x)
  | .call op => by
    cases op with
    | complete _ => exact .isFalse id
    | _ => exact .isTrue trivial
  | .answer q _ => inferInstanceAs (Decidable (q ∈ h.taken))

/-- Every step of a sequence is allowed in the state that it meets. -/
def Along (allowed : Hosting → HostStep → Prop) : Hosting → List HostStep → Prop
  | _, [] => True
  | h, x :: steps => allowed h x ∧ Along allowed (h.apply x) steps

instance decidableAlong {allowed : Hosting → HostStep → Prop}
    [∀ h x, Decidable (allowed h x)] :
    ∀ (h : Hosting) (steps : List HostStep), Decidable (Along allowed h steps)
  | _, [] => .isTrue trivial
  | h, x :: steps =>
    @instDecidableAnd _ _ (inferInstanceAs (Decidable (allowed h x)))
      (decidableAlong (h.apply x) steps)

/-- What is allowed along a sequence of steps is allowed wherever a part of it leads. -/
theorem along_iff {allowed : Hosting → HostStep → Prop} {h : Hosting} {steps : List HostStep} :
    Along allowed h steps ↔
      ∀ before x after, steps = before ++ x :: after → allowed (h.run before) x := by
  induction steps generalizing h with
  | nil => simp [Along]
  | cons x steps ih =>
    rw [Along, ih]
    constructor
    · rintro ⟨hx, hsteps⟩ before y after hsplit
      cases before with
      | nil =>
        obtain ⟨rfl, rfl⟩ := List.cons.inj hsplit
        exact hx
      | cons first before =>
        obtain ⟨rfl, rfl⟩ := List.cons.inj hsplit
        exact hsteps before y after rfl
    · intro hall
      refine ⟨hall [] x steps rfl, fun before y after hsplit => ?_⟩
      exact hall (x :: before) y after (by rw [hsplit, List.cons_append])

/-! ## Requests have tokens of their own -/

/-- Tokens increase along the requests, and the next one is beyond all of them. -/
structure Numbered (h : Hosting) : Prop where
  increasing : (h.requests.map (·.token)).Pairwise (· < ·)
  below : ∀ q ∈ h.requests, q.token < h.sheet.nextToken

theorem numbered_start (config : SheetConfig) : (start config).Numbered :=
  ⟨.nil, fun _ hq => nomatch hq⟩

/-- A step keeps some of the requests, or all of them, and may add one under the next token. -/
theorem tokens_apply (h : Hosting) (x : HostStep) :
    ((h.apply x).requests.map (·.token)).Sublist
      (h.requests.map (·.token) ++ h.sheet.issues x.operation) := by
  rw [requests, requests, apply, List.map_append, List.map_append, List.map_append,
    Sheet.map_token_collects, List.append_assoc, List.append_assoc]
  refine (List.append_sublist_append_left _).mpr ?_
  rcases h.sheet.queue_cases x.operation with ⟨-, hempty⟩ | ⟨-, htakes, hqueue⟩
  · rw [hempty, List.map_nil, List.append_nil]
    exact (h.sheet.handsOver_sublist _).trans (List.sublist_append_left _ _)
  · rw [h.sheet.handsOver_eq_nil htakes, hqueue, List.map_append, Sheet.map_token_makes,
      List.nil_append]

theorem Numbered.apply {h : Hosting} (hn : h.Numbered) (x : HostStep) : (h.apply x).Numbered := by
  have hbelow : ∀ t ∈ h.requests.map (·.token), t < h.sheet.nextToken := by
    intro t ht
    obtain ⟨q, hq, rfl⟩ := List.mem_map.mp ht
    exact hn.below q hq
  have hsub := h.tokens_apply x
  have hnew : ∀ q ∈ (h.apply x).requests,
      q.token ∈ h.requests.map (·.token) ++ h.sheet.issues x.operation := fun q hq =>
    hsub.subset (List.mem_map_of_mem hq)
  rcases h.sheet.issues_cases x.operation with ⟨hnil, hnext⟩ | ⟨hone, hnext⟩
  · rw [hnil, List.append_nil] at hsub hnew
    refine ⟨hn.increasing.sublist hsub, ?_⟩
    intro q hq
    show q.token < (h.sheet.apply x.operation).nextToken
    rw [hnext]
    exact hbelow _ (hnew q hq)
  · rw [hone] at hsub hnew
    refine ⟨(List.pairwise_append.mpr ⟨hn.increasing, List.pairwise_singleton _ _, ?_⟩).sublist hsub,
      ?_⟩
    · intro t ht t' ht'
      rw [List.mem_singleton] at ht'
      exact ht' ▸ hbelow t ht
    · intro q hq
      show q.token < (h.sheet.apply x.operation).nextToken
      rw [hnext]
      rcases List.mem_append.mp (hnew q hq) with hold | hlast
      · exact Nat.lt_succ_of_lt (hbelow _ hold)
      · rw [List.mem_singleton] at hlast
        exact hlast ▸ Nat.lt_succ_self _

theorem Numbered.eq_of_token_eq {h : Hosting} (hn : h.Numbered) {q q' : Request}
    (hq : q ∈ h.requests) (hq' : q' ∈ h.requests) (ht : q.token = q'.token) : q = q' :=
  List.inj_on_of_nodup_map (hn.increasing.imp Nat.ne_of_lt) hq hq' ht

theorem mem_requests_of_taken {h : Hosting} {q : Request} (hq : q ∈ h.taken) : q ∈ h.requests :=
  List.mem_append_left _ hq

/-- While the queue is not dropped, a request that has been made stays among those that the
application has taken or may take. -/
theorem mem_requests_apply {h : Hosting} {x : HostStep} (hx : x.operation.empties = false)
    {q : Request} (hq : q ∈ h.requests) : q ∈ (h.apply x).requests := by
  rcases List.mem_append.mp hq with hq | hq
  · exact List.mem_append_left _ (List.mem_append_left _ hq)
  · rcases h.sheet.queue_cases x.operation with ⟨hempties | htakes, -⟩ | ⟨-, -, hqueue⟩
    · exact nomatch hx.symm.trans hempties
    · -- what was in the queue has been taken
      refine List.mem_append_left _ (List.mem_append_right _ ?_)
      rwa [htakes]
    · rw [requests, apply, hqueue]
      exact List.mem_append_right _ (List.mem_append_left _ hq)

end Hosting

end PropertySheet
