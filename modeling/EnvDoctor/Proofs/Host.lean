import EnvDoctor.Host.Usual
import EnvDoctor.Proofs.Files.Rereading

/-!
# What is relied on of hosts

A host runs scripts and knows where the configurations of a user are kept. What is relied on is
stated here, and the usual host has it.
-/

namespace EnvDoctor

/-- A line that begins with a bracket assigns nothing. -/
theorem Script.exists_read_eq_error (s : List Char) : ∃ fault, read ('[' :: s) = .error fault := by
  have noSpace : isSpace '[' = false := by decide
  have noPart : Text.isIdentifierPart '[' = false := by decide +kernel
  have refused : statement ('[' :: s) = .error (.malformed ('[' :: s).length) := by
    simp [statement, noPart, Text.isIdentifier]
  have stopped : statements (('[' :: s).length + 1) ('[' :: s) =
      .error (.malformed ('[' :: s).length) := by
    simp [statements, noSpace, skipComment, isIndented, refused]
    rfl
  exact ⟨_, bind_eq_error_iff.mpr (.inl stopped)⟩

namespace Host

/-- A script fails that begins with a list of a name which nothing has yet, whatever comes after.
Comments are left out, as they might change how the text is encoded. -/
def RefusesUnassigned (host : Host) : Prop :=
  ∀ (place : String) (content : List UInt8) (rest : List Char), '#' ∉ rest →
    Text.Utf8.decode content = .ok ("[requirements]\n".toList ++ rest) →
    ∃ complaint, host.runScript place content = .raises complaint

theorem refusesUnassigned_usual : RefusesUnassigned usual := by
  intro place content rest _ decoded
  obtain ⟨tail, first⟩ : ∃ tail,
      Text.normalizeNewlines ("[requirements]\n".toList ++ rest) = '[' :: tail := ⟨_, rfl⟩
  obtain ⟨fault, refused⟩ := Script.exists_read_eq_error tail
  refine ⟨fault.message (Path.ofText place).lastName ('[' :: tail), ?_⟩
  change runLiterals place content = _
  unfold runLiterals
  rw [decoded]
  dsimp only
  rw [first, if_neg (by simp), refused]

/-- The directory for configurations is named from the root if the home directory is: a setting that
is not named so does not count. -/
def IgnoresRelative (host : Host) : Prop :=
  ∀ setting home : String, home.startsWith "/" = true →
    (host.configDirectory setting home).startsWith "/" = true

theorem ignoresRelative_usual : IgnoresRelative usual := by
  intro setting home absolute
  apply Workspace.startsWith_joined
  split
  next set => exact set
  next => exact Workspace.startsWith_joined absolute ".config"

end Host

end EnvDoctor
