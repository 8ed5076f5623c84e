import EnvDoctor.Proofs.Checker.Found
import EnvDoctor.Proofs.Json.Kinds
import EnvDoctor.Text.CharacterName

/-!
# The components that Docker lists

Where the version of the client is found, it is listed among the components whatever the section of
the server holds, with one exception: if a number other than zero or `true` stands in place of the
list of components, nothing is listed at all.
-/

namespace EnvDoctor.Docker

/-- A value that counts as present and has no members to go through. -/
def Unlistable : Value → Prop
  | .bool b => b = true
  | .int n => n ≠ 0
  | .real x => (x != 0) = true
  | _ => False

/-- In place of the components of the server stands a value without members. -/
def HasUnlistable (output : String) : Prop :=
  ∃ server v, section? "Server" (document output) = some server ∧
    Value.lookup "Components" server = some v ∧ Unlistable v

theorem members?_eq_none_iff {v : Value} (datum : Json.IsDatum v) :
    members? (some v) = none ↔ Unlistable v := by
  have emptied {P : Prop} [Decidable P] :
      (if P then none else some ([] : List Value)) = none ↔ P := by
    by_cases h : P <;> simp [h]
  cases datum with
  | null => simp [members?, Value.isTruthy, Unlistable]
  | bool b => exact emptied
  | int n => simp [members?, Value.isTruthy, Unlistable]
  | real x => exact emptied
  | text s => simp [members?, Unlistable]
  | list each => simp [members?, Unlistable]
  | table each => simp [members?, Unlistable]

theorem isDatum_document (output : String) : ∀ e ∈ document output, Json.IsDatum e.2 := by
  unfold document
  split
  next entries read =>
    cases Json.isDatum_of_read read with
    | table each => exact each
  next => simp

theorem isDatum_of_lookup {name : String} {entries : List (Value × Value)} {v : Value}
    (each : ∀ e ∈ entries, Json.IsDatum e.2) (found : Value.lookup name entries = some v) :
    Json.IsDatum v := by
  obtain ⟨e, first, rfl⟩ := Option.map_eq_some_iff.mp found
  exact each e (List.mem_of_find?_eq_some first)

theorem isDatum_section? {name : String} {entries inner : List (Value × Value)}
    (each : ∀ e ∈ entries, Json.IsDatum e.2) (found : section? name entries = some inner) :
    ∀ e ∈ inner, Json.IsDatum e.2 := by
  unfold section? at found
  split at found
  next entries' present =>
    cases found
    cases isDatum_of_lookup each present with
    | table inside => exact inside
  next => cases found

theorem members?_components_eq_none_iff (output : String) :
    members? ((section? "Server" (document output)).bind (Value.lookup "Components")) = none ↔
      HasUnlistable output := by
  have data := isDatum_document output
  constructor
  · intro unlisted
    cases present : (section? "Server" (document output)).bind (Value.lookup "Components") with
    | none =>
      rw [present] at unlisted
      cases unlisted
    | some v =>
      rw [present] at unlisted
      obtain ⟨server, isServer, found⟩ := Option.bind_eq_some_iff.mp present
      have datum := isDatum_of_lookup (isDatum_section? data isServer) found
      exact ⟨server, v, isServer, found, (members?_eq_none_iff datum).mp unlisted⟩
  · rintro ⟨server, v, isServer, found, unlistable⟩
    have datum := isDatum_of_lookup (isDatum_section? data isServer) found
    rw [isServer, Option.bind_some, found]
    exact (members?_eq_none_iff datum).mpr unlistable

/-- Where the components can be gone through, the version of the client is listed. -/
theorem exists_components? {output version : String}
    (client : clientVersion? output = some version) (listable : ¬ HasUnlistable output) :
    ∃ found, components? output = some found ∧ "Client" ∈ found.names := by
  rw [← members?_components_eq_none_iff, ← ne_eq, Option.ne_none_iff_exists'] at listable
  obtain ⟨members, listed⟩ := listable
  rw [clientVersion?] at client
  unfold components?
  simp only [listed, client, Option.map_some]
  refine ⟨_, rfl, ?_⟩
  apply Named.mem_names_ofList.mpr
  simp

theorem components?_of_hasUnlistable {output : String} (unlistable : HasUnlistable output) :
    components? output = none := by
  rw [← members?_components_eq_none_iff] at unlistable
  simp [components?, unlistable]

theorem extractComponents_docker_none {output : String} (lost : components? output = none) :
    extractComponents Builtin.docker.components output = .ok none := by
  change componentsOfFound ((components? output).map _) = _
  rw [lost]
  rfl

/-- Where something is listed, no name gets lost on the way to the outcome. -/
theorem exists_extractComponents_docker {output name : String} {found : Named String}
    (listed : components? output = some found) (among : name ∈ found.names) :
    ∃ components, extractComponents Builtin.docker.components output = .ok (some components) ∧
      name ∈ components.names := by
  change ∃ components, componentsOfFound ((components? output).map _) = _ ∧ _
  cases found with
  | nil => cases among
  | cons c rest =>
    rw [listed, Option.map_some, if_neg (by simp), componentsOfFound_record_texts c rest]
    exact ⟨_, rfl, Named.mem_names_ofList.mpr among⟩

section Names

variable [CharacterNames]

theorem extractVersion_of_clientVersion? {output written : String}
    (client : clientVersion? output = some written) :
    extractVersion Builtin.docker.rule output = versionOfFound (some (.text written)) := by
  change versionOfFound (some (((clientVersion? output).map Value.text).getD .null)) = _
  rw [client]
  rfl

theorem clientVersion?_of_extractVersion {output version : String}
    (extracted : extractVersion Builtin.docker.rule output = .ok (some version)) :
    ∃ written, clientVersion? output = some written := by
  change versionOfFound (some (((clientVersion? output).map Value.text).getD .null)) =
    .ok (some version) at extracted
  cases client : clientVersion? output with
  | none =>
    rw [client] at extracted
    cases extracted
  | some written => exact ⟨written, rfl⟩

/-- Where a version is found, the client is listed unless a value without members stands in place
of the components of the server. -/
theorem client_listed_iff {output version : String}
    (extracted : extractVersion Builtin.docker.rule output = .ok (some version)) :
    (∃ components, extractComponents Builtin.docker.components output = .ok (some components) ∧
      "Client" ∈ components.names) ↔ ¬ HasUnlistable output := by
  obtain ⟨written, client⟩ := clientVersion?_of_extractVersion extracted
  constructor
  · rintro ⟨components, listed, -⟩ unlistable
    rw [extractComponents_docker_none (components?_of_hasUnlistable unlistable)] at listed
    cases listed
  · intro listable
    obtain ⟨found, listed, among⟩ := exists_components? client listable
    exact exists_extractComponents_docker listed among

end Names

theorem client_listed_beside_malformed :
    ∃ components, extractComponents Builtin.docker.components
        "\x7b\"Client\":\x7b\"Version\":\"28\"\x7d,\"Server\":\x7b\"Components\":[7,\"\"]\x7d\x7d" =
      .ok (some components) ∧ "Client" ∈ components.names := by
  have extracted : extractVersion Builtin.docker.rule
      "\x7b\"Client\":\x7b\"Version\":\"28\"\x7d,\"Server\":\x7b\"Components\":[7,\"\"]\x7d\x7d" =
      .ok (some "28") :=
    (extractVersion_of_clientVersion? (by decide +kernel : clientVersion? _ = some "28")).trans rfl
  apply (client_listed_iff extracted).mpr
  rw [← members?_components_eq_none_iff, ← Option.isNone_iff_eq_none]
  decide +kernel

theorem client_hidden_by_number :
    extractVersion Builtin.docker.rule
        "\x7b\"Client\":\x7b\"Version\":\"28\"\x7d,\"Server\":\x7b\"Components\":5\x7d\x7d" =
      .ok (some "28") ∧
    ¬ ∃ components, extractComponents Builtin.docker.components
        "\x7b\"Client\":\x7b\"Version\":\"28\"\x7d,\"Server\":\x7b\"Components\":5\x7d\x7d" =
      .ok (some components) ∧ "Client" ∈ components.names := by
  constructor
  · exact (extractVersion_of_clientVersion?
      (by decide +kernel : clientVersion? _ = some "28")).trans rfl
  · rintro ⟨components, listed, -⟩
    rw [extractComponents_docker_none (by decide +kernel)] at listed
    cases listed

end EnvDoctor.Docker
