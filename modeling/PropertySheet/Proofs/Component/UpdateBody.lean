import PropertySheet.Component.Snapshot

/-!
# The body of a save read back

The body of a save is an entity in the form in which components are fetched: the component with its
id, and the properties at the depth at which components of its kind keep them. Read as an entity of
that kind it gives back what it was made of: the component, the revision under the client's id, and
the changes in the order of their names (`ofEntity_updateBody`).

A property without a value is written as null, and every text as a text. Since only what is neither
becomes a text when it is read, each comes back as it was, whatever a text looks like
(`propertyValue_ofText?`).
-/

namespace PropertySheet

open Json

theorem Json.Decoder.nat64_nat (n : Nat) : Decoder.nat64 (.nat n) = .ok n := by
  rw [Value.nat, Decoder.nat64, if_pos (Int.natCast_nonneg n), Int.toNat_natCast]

/-- The revision of a client, as it is written, is read as it was. -/
theorem Revision.decoder_object (clientId : String) (version : Nat) :
    Revision.decoder (.object [("clientId", .string clientId), ("version", .nat version)]) =
      .ok { clientId := some clientId, version } := by
  have hclient : (Decoder.option Decoder.string) (.string clientId) = .ok (some clientId) := rfl
  have hversion := Decoder.nat64_nat version
  have hread : Record.ofValue "Revision"
      [.of "clientId" (Decoder.option Decoder.string), .of "version" Decoder.nat64]
      (.object [("clientId", .string clientId), ("version", .nat version)]) =
        .ok ⟨[("clientId", .string clientId), ("version", .nat version)], .missingField⟩ := rfl
  rw [Revision.decoder, hread]
  simp only [bind, Except.bind, pure, Except.pure, Record.withDefault, Value.findMember, hclient,
    hversion, if_true, String.reduceEq, if_false]

namespace Snapshot

/-! ## Properties -/

/-- No value and every text are read as they are written. -/
theorem propertyValue_ofText? (value : Option String) : propertyValue (.ofText? value) = value := by
  cases value with
  | none => rfl
  | some text => rfl

/-- The members that hold properties. -/
def membersOf (properties : List (String × Option String)) : List (String × Value) :=
  properties.map fun e => (e.1, .ofText? e.2)

theorem map_propertyValue_membersOf (properties : List (String × Option String)) :
    (membersOf properties).map (fun m => (m.1, propertyValue m.2)) = properties := by
  rw [membersOf, List.map_map]
  refine List.map_id'' (fun e => ?_) properties
  exact Prod.ext rfl (propertyValue_ofText? e.2)

/-! ## The component in a body -/

/-- A component that says nothing but its id and some properties, at the depth of its kind. -/
def bare (c : ComponentRef) (properties : Value) : Value :=
  if c.kind.nestsConfig then
    .object [("id", .string c.id), ("config", .object [("properties", properties)])]
  else .object [("id", .string c.id), ("properties", properties)]

/-- What is read in such a component: the id, and the properties where they are looked for in a
component of its kind. -/
theorem get?_bare (c : ComponentRef) (properties : Value) :
    (bare c properties).get? "id" = some (.string c.id) ∧
    (bare c properties).get? "name" = none ∧
    (bare c properties).get? "parentGroupId" = none ∧
    (configOf c.kind (bare c properties)).get? "properties" = some properties ∧
    (configOf c.kind (bare c properties)).get? "descriptors" = none := by
  rw [configOf, bare]
  cases c.kind.nestsConfig with
  | true => exact ⟨rfl, rfl, rfl, rfl, rfl⟩
  | false => exact ⟨rfl, rfl, rfl, rfl, rfl⟩

/-! ## The whole body -/

/-- The body of a save, read as an entity of the kind of its component. -/
theorem ofEntity_updateBody (s : Snapshot) (changes : Changes) (clientId : String) :
    ofEntity s.component.kind (s.updateBody changes clientId) = .ok {
      component := s.component
      name := s.component.id
      revision := { clientId := some clientId, version := s.revision.version }
      properties := changes.toList } := by
  obtain ⟨hid, hname, hgroup, hproperties, hdescriptors⟩ :=
    get?_bare s.component (.object (membersOf changes.toList))
  have hcomponent : (s.updateBody changes clientId).get? "component" =
      some (bare s.component (.object (membersOf changes.toList))) := rfl
  have hrevision : (s.updateBody changes clientId).get? "revision" =
      some (.object [("clientId", .string clientId), ("version", .nat s.revision.version)]) := rfl
  simp only [ofEntity, hcomponent, hrevision, hid, hname, hgroup, hproperties, hdescriptors,
    Revision.decoder_object, bind, pure]
  show Except.ok ({
    component := s.component
    name := s.component.id
    revision := { clientId := some clientId, version := s.revision.version }
    properties := (membersOf changes.toList).map fun m => (m.1, propertyValue m.2) } : Snapshot) = _
  rw [map_propertyValue_membersOf]

/-- The body of a save, read as an entity of the kind of its component, is the component under the
client's revision of it, with the changes as its properties: in the order of the names, each with
the text that it sets or with none, and no others. -/
theorem reads_back_updateBody (s : Snapshot) (changes : Changes) (clientId : String) :
    ∃ t, ofEntity s.component.kind (s.updateBody changes clientId) = .ok t ∧
      t.component = s.component ∧
      t.revision = { clientId := some clientId, version := s.revision.version } ∧
      t.properties = changes.toList ∧
      (t.properties.map (·.1)).Pairwise (· < ·) ∧
      ∀ name value, (name, value) ∈ t.properties ↔ changes.get? name = some value := by
  refine ⟨_, s.ofEntity_updateBody changes clientId, rfl, rfl, rfl, ?_, fun name value => ?_⟩
  · exact List.pairwise_map.mpr changes.sorted
  · exact SortedMap.mem_toList_iff

/-- Texts that look like other values stay texts. -/
example : ofEntity .processor (updateBody { component := ⟨.processor, "p"⟩, name := "Fetch" }
      (.ofList [("c", some "null"), ("b", some ""), ("a", none), ("d", some "3")]) "client") =
    .ok {
      component := ⟨.processor, "p"⟩
      name := "p"
      revision := { clientId := some "client" }
      properties := [("a", none), ("b", some ""), ("c", some "null"), ("d", some "3")] } := by
  rfl

end Snapshot

end PropertySheet
