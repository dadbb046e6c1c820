import Mathlib.Data.List.Nodup
import PropertySheet.Component.Snapshot
import PropertySheet.Json.Read

/-!
# Property names in an entity

A JSON text may repeat a key. Reading it binds the key once, in its first place, so in a value that
has been read the keys of each object are distinct (`distinct_of_parse?`). The properties of a
component are the members of such an object, which is why their names are distinct as well and a
sheet can load them (`Snapshot.properties_nodup`).
-/

namespace PropertySheet

namespace Json

/-- The keys of every object in a value are distinct. -/
inductive Value.Distinct : Value → Prop
  | null : Distinct .null
  | bool (b : Bool) : Distinct (.bool b)
  | number (n : Number) : Distinct (.number n)
  | string (s : String) : Distinct (.string s)
  | array {elements : List Value} : (∀ v ∈ elements, Distinct v) → Distinct (.array elements)
  | object {members : List (String × Value)} : (members.map (·.1)).Nodup →
      (∀ m ∈ members, Distinct m.2) → Distinct (.object members)

namespace Value

/-! ## Members -/

theorem mem_of_mem_setMember {k : String} {v : Value} {members : List (String × Value)}
    {m : String × Value} (hm : m ∈ setMember k v members) : m = (k, v) ∨ m ∈ members := by
  induction members with
  | nil => exact .inl (List.mem_singleton.mp hm)
  | cons first rest ih =>
    rw [setMember] at hm
    split at hm
    · rcases List.mem_cons.mp hm with rfl | hm
      · exact .inl rfl
      · exact .inr (List.mem_cons_of_mem _ hm)
    · rcases List.mem_cons.mp hm with rfl | hm
      · exact .inr List.mem_cons_self
      · exact (ih hm).imp_right (List.mem_cons_of_mem _)

/-- A key that is bound again takes no new place. -/
theorem nodup_keys_setMember {k : String} {v : Value} {members : List (String × Value)}
    (h : (members.map (·.1)).Nodup) : ((setMember k v members).map (·.1)).Nodup := by
  induction members with
  | nil => exact List.nodup_singleton k
  | cons first rest ih =>
    rw [List.map_cons, List.nodup_cons] at h
    obtain ⟨hfirst, hrest⟩ := h
    rw [setMember]
    split
    next hk =>
      subst hk
      exact List.nodup_cons.mpr ⟨hfirst, hrest⟩
    next hk =>
      refine List.nodup_cons.mpr ⟨fun hmem => ?_, ih hrest⟩
      obtain ⟨m, hm, hkey⟩ := List.mem_map.mp hmem
      rcases mem_of_mem_setMember hm with rfl | hm
      · exact hk hkey.symm
      · refine hfirst ?_
        rw [← show m.1 = first.1 from hkey]
        exact List.mem_map_of_mem hm

theorem mem_of_findMember {k : String} {v : Value} {members : List (String × Value)}
    (h : findMember k members = some v) : (k, v) ∈ members := by
  induction members with
  | nil => cases h
  | cons first rest ih =>
    rw [findMember] at h
    split at h
    next hk =>
      obtain rfl := Option.some.inj h
      rw [← hk]
      exact List.mem_cons_self
    · exact List.mem_cons_of_mem _ (ih h)

theorem Distinct.get? {v w : Value} {k : String} (h : v.Distinct) (hw : v.get? k = some w) :
    w.Distinct := by
  cases h with
  | object _ hmembers => exact hmembers _ (mem_of_findMember hw)
  | null | bool | number | string | array => cases hw

theorem Distinct.nodup_keys {v : Value} {members : List (String × Value)} (h : v.Distinct)
    (hmembers : v.asObject? = some members) : (members.map (·.1)).Nodup := by
  cases h with
  | object hnodup _ =>
    obtain rfl := Option.some.inj hmembers
    exact hnodup
  | null | bool | number | string | array => cases hmembers

end Value

/-! ## Reading -/

/-- What the three readers promise, with a given fuel. -/
structure ReadsDistinct (fuel : Nat) : Prop where
  value : ∀ {depth cs v rest}, readValue fuel depth cs = some (v, rest) → v.Distinct
  elements : ∀ {depth cs vs rest}, readElements fuel depth cs = some (vs, rest) →
    ∀ v ∈ vs, v.Distinct
  members : ∀ {depth sofar cs ms rest}, (Value.object sofar).Distinct →
    readMembers fuel depth sofar cs = some (ms, rest) → (Value.object ms).Distinct

theorem distinct_nil : (Value.object []).Distinct :=
  .object List.nodup_nil fun _ hm => nomatch hm

theorem distinct_setMember {k : String} {v : Value} {members : List (String × Value)}
    (h : (Value.object members).Distinct) (hv : v.Distinct) :
    (Value.object (Value.setMember k v members)).Distinct := by
  cases h with
  | object hnodup hmembers =>
    refine .object (Value.nodup_keys_setMember hnodup) fun m hm => ?_
    rcases Value.mem_of_mem_setMember hm with rfl | hm
    · exact hv
    · exact hmembers m hm

theorem ReadsDistinct.value_succ {fuel : Nat} (h : ReadsDistinct fuel) {depth : Nat}
    {cs : List Char} {v : Value} {rest : List Char}
    (hread : readValue (fuel + 1) depth cs = some (v, rest)) : v.Distinct := by
  unfold readValue at hread
  split at hread
  · cases hread
  · obtain ⟨_, _, hv⟩ := Option.map_eq_some_iff.mp hread
    cases hv
    exact .null
  · obtain ⟨_, _, hv⟩ := Option.map_eq_some_iff.mp hread
    cases hv
    exact .bool true
  · obtain ⟨_, _, hv⟩ := Option.map_eq_some_iff.mp hread
    cases hv
    exact .bool false
  · obtain ⟨_, _, hv⟩ := Option.bind_eq_some_iff.mp hread
    cases hv
    exact .string _
  · split at hread
    · cases hread
    · split at hread
      · cases hread
        exact .array fun _ hmem => nomatch hmem
      · obtain ⟨_, helements, hv⟩ := Option.bind_eq_some_iff.mp hread
        cases hv
        exact .array (h.elements helements)
  · split at hread
    · cases hread
    · split at hread
      · cases hread
        exact distinct_nil
      · obtain ⟨_, hmembers, hv⟩ := Option.bind_eq_some_iff.mp hread
        cases hv
        exact h.members distinct_nil hmembers
  · obtain ⟨_, _, hv⟩ := Option.bind_eq_some_iff.mp hread
    cases hv
    exact .number _

theorem ReadsDistinct.elements_succ {fuel : Nat} (h : ReadsDistinct fuel) {depth : Nat}
    {cs : List Char} {vs : List Value} {rest : List Char}
    (hread : readElements (fuel + 1) depth cs = some (vs, rest)) : ∀ v ∈ vs, v.Distinct := by
  rw [readElements] at hread
  obtain ⟨⟨v, after⟩, hv, hread⟩ := Option.bind_eq_some_iff.mp hread
  dsimp only at hread
  split at hread
  · cases hread
    intro w hw
    rw [List.mem_singleton.mp hw]
    exact h.value hv
  · obtain ⟨_, helements, hvs⟩ := Option.bind_eq_some_iff.mp hread
    cases hvs
    intro w hw
    rcases List.mem_cons.mp hw with rfl | hw
    · exact h.value hv
    · exact h.elements helements w hw
  · cases hread

theorem ReadsDistinct.members_succ {fuel : Nat} (h : ReadsDistinct fuel) {depth : Nat}
    {sofar : List (String × Value)} {cs : List Char} {ms : List (String × Value)}
    {rest : List Char} (hsofar : (Value.object sofar).Distinct)
    (hread : readMembers (fuel + 1) depth sofar cs = some (ms, rest)) :
    (Value.object ms).Distinct := by
  rw [readMembers] at hread
  split at hread
  · obtain ⟨⟨k, after⟩, _, hread⟩ := Option.bind_eq_some_iff.mp hread
    dsimp only at hread
    split at hread
    · obtain ⟨⟨v, after⟩, hv, hread⟩ := Option.bind_eq_some_iff.mp hread
      have hbound := distinct_setMember (k := String.ofList k) hsofar (h.value hv)
      dsimp only at hread
      split at hread
      · cases hread
        exact hbound
      · exact h.members hbound hread
      · cases hread
    · cases hread
  · cases hread

theorem readsDistinct (fuel : Nat) : ReadsDistinct fuel := by
  induction fuel with
  | zero =>
    refine ⟨fun hread => ?_, fun hread => ?_, fun _ hread => ?_⟩
    · rw [readValue] at hread
      cases hread
    · rw [readElements] at hread
      cases hread
    · rw [readMembers] at hread
      cases hread
  | succ fuel ih => exact ⟨ih.value_succ, ih.elements_succ, ih.members_succ⟩

/-- In a value that has been read from a text, the keys of each object are distinct. -/
theorem distinct_of_parse? {text : String} {v : Value} (h : Value.parse? text = some v) :
    v.Distinct := by
  rw [Value.parse?] at h
  split at h
  next hread =>
    split at h
    · obtain rfl := Option.some.inj h
      exact (readsDistinct _).value hread
    · cases h
  · cases h

end Json

/-! ## Properties of a component -/

open Json

theorem exists_of_bind_eq_ok {ε α β : Type} {x : Except ε α} {f : α → Except ε β} {b : β}
    (h : (x >>= f) = .ok b) : ∃ a, x = .ok a ∧ f a = .ok b := by
  cases x with
  | error e => cases h
  | ok a => exact ⟨a, rfl, h⟩

theorem eq_ok_of_toOption {ε α : Type} {x : Except ε α} {a : α} (h : x.toOption = some a) :
    x = .ok a := by
  cases x with
  | error e => cases h
  | ok b => exact congrArg Except.ok (Option.some.inj h)

namespace Snapshot

/-- The properties that the configuration of a component holds. -/
def propertiesOf (config : Value) : List (String × Option String) :=
  match (config.get? "properties").bind Value.asObject? with
  | none => []
  | some ms => ms.map fun m => (m.1, propertyValue m.2)

/-- Where the properties of a snapshot come from. -/
theorem properties_of_ofEntity {kind : ComponentKind} {entity : Value} {s : Snapshot}
    (hs : ofEntity kind entity = .ok s) :
    ∃ component, entity.get? "component" = some component ∧
      s.properties = propertiesOf (configOf kind component) := by
  unfold ofEntity at hs
  split at hs
  next component hcomponent =>
    split at hs
    next id _ =>
      have hlast : ∀ (revision : Revision) (d : Except Failure Descriptors),
          (d >>= fun descriptors => pure {
            component := ⟨kind, id⟩
            name := ((component.get? "name").bind Value.asString?).getD id
            revision
            parentGroupId := (component.get? "parentGroupId").bind Value.asString?
            properties := propertiesOf (configOf kind component)
            descriptors }) = Except.ok s →
          s.properties = propertiesOf (configOf kind component) := by
        intro revision d h
        obtain ⟨descriptors, _, h⟩ := exists_of_bind_eq_ok h
        cases h
        rfl
      refine ⟨component, hcomponent, ?_⟩
      -- with a revision or without, and with descriptors or without
      dsimp only at hs
      split at hs
      all_goals
        obtain ⟨revision, _, hs⟩ := exists_of_bind_eq_ok hs
        split at hs
        · exact hlast revision (pure .empty) hs
        · exact hlast revision _ hs
    · cases hs
  · cases hs

/-- The names of the properties of a component that has been read are distinct. -/
theorem properties_nodup {kind : ComponentKind} {entity : Value} {s : Snapshot}
    (hentity : entity.Distinct) (hs : ofEntity kind entity = .ok s) :
    (s.properties.map (·.1)).Nodup := by
  obtain ⟨component, hcomponent, hproperties⟩ := properties_of_ofEntity hs
  have hdistinct : component.Distinct := hentity.get? hcomponent
  have hconfig : (configOf kind component).Distinct := by
    rw [configOf]
    split
    · cases hget : component.get? "config" with
      | none => exact .null
      | some config => exact hdistinct.get? hget
    · exact hdistinct
  rw [hproperties, propertiesOf]
  split
  · exact List.nodup_nil
  next members hmembers =>
    obtain ⟨v, hv, hobject⟩ := Option.bind_eq_some_iff.mp hmembers
    rw [List.map_map]
    exact (hconfig.get? hv).nodup_keys hobject

end Snapshot

end PropertySheet
