import EnvDoctor.Proofs.Json.Continuation
import EnvDoctor.Proofs.Json.Kinds

/-!
# Blanks around documents

A document is read as it is without the blanks around it if these are blanks of JSON, and is not
read with any other blank.
-/

namespace EnvDoctor.Json

theorem isBlank_of_isSpace {c : Char} (space : isSpace c = true) : Text.isBlank c = true := by
  simp only [isSpace, Bool.or_eq_true, beq_iff_eq] at space
  rcases space with ((rfl | rfl) | rfl) | rfl <;> decide

variable {before t after : List Char}

/-- Blanks of JSON in front of a text are skipped up to its first character. -/
theorem skipSpace_append_append {c : Char} (first : t.head? = some c)
    (visible : Text.isBlank c = false) (spaces : ∀ c ∈ before, isSpace c = true) :
    skipSpace (before ++ t ++ after) = t ++ after := by
  obtain ⟨rest, rfl⟩ := List.head?_eq_some_iff.mp first
  rw [List.append_assoc]
  apply (Text.takeWhile_append_of_stops spaces _).2
  intro d head
  obtain rfl : c = d := Option.some.inj head
  by_contra space
  rw [isBlank_of_isSpace (Bool.not_eq_false _ ▸ space)] at visible
  cases visible

variable {v : Value} (visible : ∀ c ∈ t.head?, Text.isBlank c = false) (done : read t = .ok v)

include visible done

theorem exists_value_of_read : ∃ c rest, t.head? = some c ∧ Text.isBlank c = false ∧
    value (2 * t.length + 2) t = .ok (v, rest) ∧ skipSpace rest = [] := by
  obtain ⟨-, rest, whole, ended⟩ := read_eq_ok_iff.mp done
  cases t with
  | nil => exact absurd rfl (ne_nil_of_value whole)
  | cons c t =>
    have seen := visible c rfl
    have same : skipSpace ([] ++ c :: t ++ []) = c :: t ++ [] :=
      skipSpace_append_append rfl seen (List.forall_mem_nil _)
    rw [List.nil_append, List.append_nil] at same
    rw [same] at whole
    exact ⟨c, rest, rfl, seen, whole, ended⟩

/-- A document is read the same with blanks of JSON around it. -/
theorem read_padded (spaces : ∀ c ∈ before ++ after, isSpace c = true) :
    read (before ++ t ++ after) = .ok v := by
  obtain ⟨inFront, behind⟩ := List.forall_mem_append.mp spaces
  obtain ⟨c, rest, first, seen, whole, ended⟩ := exists_value_of_read visible done
  have blank : ∀ c ∈ after.head?, Text.isBlank c = true :=
    fun c head => isBlank_of_isSpace (behind c (List.mem_of_mem_head? head))
  refine read_eq_ok_iff.mpr ⟨?_, rest ++ after, ?_, ?_⟩
  · cases before with
    | nil =>
      rw [List.nil_append, List.head?_append, first, Option.some_or, ← first]
      exact (read_eq_ok_iff.mp done).1
    | cons d before =>
      intro mark
      obtain rfl : d = '\uFEFF' := Option.some.inj mark
      exact absurd (inFront _ List.mem_cons_self) (by decide)
  · rw [skipSpace_append_append first seen inFront]
    exact (readsOn blank _).value _ _ _ _ (by simp; omega) whole
  · rw [skipSpace, List.dropWhile_eq_nil_iff] at ended ⊢
    exact List.forall_mem_append.mpr ⟨ended, behind⟩

/-- A document is not read with any other blank around it. -/
theorem isSpace_of_read {v' : Value} (blank : ∀ c ∈ before ++ after, Text.isBlank c = true)
    (padded : read (before ++ t ++ after) = .ok v') : ∀ c ∈ before ++ after, isSpace c = true := by
  obtain ⟨blankFront, blankBehind⟩ := List.forall_mem_append.mp blank
  obtain ⟨c, rest, first, seen, whole, -⟩ := exists_value_of_read visible done
  obtain ⟨-, rest', whole', ended⟩ := read_eq_ok_iff.mp padded
  have inFront : ∀ c ∈ before, isSpace c = true := by
    obtain ⟨run, others, rfl, spaces, stops⟩ := Text.exists_run isSpace before
    cases others with
    | nil => simpa using spaces
    | cons d others =>
      have skipped : skipSpace (run ++ d :: (others ++ t ++ after)) =
          d :: (others ++ t ++ after) := by
        apply (Text.takeWhile_append_of_stops spaces _).2
        exact fun c head => stops c head
      rw [List.append_assoc, List.append_assoc, List.cons_append, ← List.append_assoc,
        skipped] at whole'
      have blankFirst := blankFront d (by simp)
      rw [not_blank_of_value whole'] at blankFirst
      cases blankFirst
  have after' : ∀ c ∈ after.head?, Text.isBlank c = true :=
    fun c head => blankBehind c (List.mem_of_mem_head? head)
  have same := (readsOn after' _).value _ _ _ (2 * (before ++ t ++ after).length + 2)
    (by simp; omega) whole
  rw [skipSpace_append_append first seen inFront, same] at whole'
  cases whole'
  rw [skipSpace, List.dropWhile_eq_nil_iff] at ended
  exact List.forall_mem_append.mpr ⟨inFront, (List.forall_mem_append.mp ended).2⟩

end EnvDoctor.Json
