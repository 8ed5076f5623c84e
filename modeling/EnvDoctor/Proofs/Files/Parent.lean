import EnvDoctor.Files.Workspace
import EnvDoctor.Proofs.Text.Pieces
import Mathlib.Data.List.TakeWhile

/-!
# Parents of paths

The parent of a path has the names of the path but the last, starts where the path starts, and has
no slash at its end unless it is the root. So going from a path to its parent again and again takes
its names away one by one.
-/

namespace EnvDoctor.Workspace

def nameFields (s : List Char) : List (List Char) :=
  Text.fields (· == '/') s

/-- A path without a slash at its end, or of slashes alone. -/
def Bare (s : List Char) : Prop :=
  (∀ c ∈ s, c = '/') ∨ s.getLast? ≠ some '/'

theorem nameFields_of_forall_slash {s : List Char} (slashes : ∀ c ∈ s, c = '/') :
    nameFields s = [] := by
  have separate : ∀ c ∈ s, (c == '/') = true := fun c hc => beq_iff_eq.mpr (slashes c hc)
  have whole := Text.fields_append_of_forall separate []
  rw [List.nil_append] at whole
  rw [nameFields, whole]
  simp [Text.fields]

variable (s : List Char)

/-- A path before its last name, with the slashes there. -/
def beforeLast : List Char :=
  (s.reverse.dropWhile (· != '/')).reverse

def lastField : List Char :=
  (s.reverse.takeWhile (· != '/')).reverse

def withoutSlashes : List Char :=
  (s.reverse.dropWhile (· == '/')).reverse

theorem beforeLast_append_lastField : beforeLast s ++ lastField s = s :=
  Text.dropWhile_reverse_append _ s

theorem slash_not_mem_lastField : '/' ∉ lastField s := by
  intro member
  have differs : ('/' != '/') = true :=
    Text.forall_of_mem_reverse_takeWhile (p := fun c => c != '/') (s := s) '/' member
  exact absurd differs (by decide)

/-- There is nothing before the last name, or a slash stands in front of it. -/
theorem beforeLast_cases : beforeLast s = [] ∨ ∃ b, beforeLast s = b ++ ['/'] := by
  rcases List.eq_nil_or_concat (beforeLast s) with none | ⟨b, c, some⟩
  · exact .inl none
  · have stops : (c != '/') = false :=
      Text.not_of_getLast?_dropWhile (p := fun c => c != '/') (s := s) (by
        change (beforeLast s).getLast? = _
        simp [some])
    obtain rfl : c = '/' := by simpa using stops
    exact .inr ⟨b, by rw [some, List.concat_eq_append]⟩

theorem splitPath_eq :
    splitPath s = (if (withoutSlashes (beforeLast s)).isEmpty then beforeLast s
      else withoutSlashes (beforeLast s), lastField s) := by
  have head : s.take (s.length - (lastField s).length) = beforeLast s := by
    have whole := beforeLast_append_lastField s
    have length : s.length = (beforeLast s).length + (lastField s).length := by
      rw [← List.length_append, whole]
    rw [length, Nat.add_sub_cancel]
    calc s.take (beforeLast s).length
        = (beforeLast s ++ lastField s).take (beforeLast s).length := by rw [whole]
      _ = beforeLast s := List.take_left
  have unfolded : splitPath s = (if (withoutSlashes (s.take (s.length - (lastField s).length))).isEmpty
      then s.take (s.length - (lastField s).length)
      else withoutSlashes (s.take (s.length - (lastField s).length)), lastField s) := rfl
  rw [unfolded, head]

/-- The parent is what stands before the last name, less slashes at its end. -/
theorem exists_slashes_of_parent :
    ∃ slashes, beforeLast s = (splitPath s).1 ++ slashes ∧ ∀ c ∈ slashes, c = '/' := by
  rw [splitPath_eq]
  dsimp only
  split
  next => exact ⟨[], by simp, by simp⟩
  next =>
    refine ⟨_, (Text.dropWhile_reverse_append (· == '/') (beforeLast s)).symm, ?_⟩
    intro c hc
    exact beq_iff_eq.mp (Text.forall_of_mem_reverse_takeWhile (p := (· == '/')) c hc)

theorem bare_parent : Bare (splitPath s).1 := by
  rw [splitPath_eq]
  dsimp only
  split
  next empty =>
    refine .inl fun c hc => ?_
    have whole := Text.dropWhile_reverse_append (· == '/') (beforeLast s)
    have none : ((beforeLast s).reverse.dropWhile (· == '/')).reverse = [] :=
      List.isEmpty_iff.mp empty
    rw [none, List.nil_append] at whole
    rw [← whole] at hc
    exact beq_iff_eq.mp (Text.forall_of_mem_reverse_takeWhile (p := (· == '/')) c hc)
  next =>
    refine .inr fun last => ?_
    have stops := Text.not_of_getLast?_dropWhile (p := (· == '/')) last
    exact absurd stops (by decide)

theorem nameFields_parent : nameFields (splitPath s).1 = nameFields (beforeLast s) := by
  obtain ⟨slashes, before, all⟩ := exists_slashes_of_parent s
  rw [before]
  exact (Text.fields_append_of_forall (fun c hc => beq_iff_eq.mpr (all c hc)) _).symm

/-- Splitting a path at its slashes gives the last name last, and before it the names of the
parent. -/
theorem splitOn_slash : ∃ front, Text.splitOn '/' s = front ++ [lastField s] ∧
    front.filter (!·.isEmpty) = nameFields (splitPath s).1 := by
  have whole := beforeLast_append_lastField s
  have single : Text.splitOn '/' (lastField s) = [lastField s] := by
    apply Text.splitWhere_of_forall_not
    intro c hc
    rw [beq_eq_false_iff_ne]
    rintro rfl
    exact slash_not_mem_lastField s hc
  rw [nameFields_parent]
  rcases beforeLast_cases s with none | ⟨b, some⟩
  · rw [none, List.nil_append] at whole
    rw [whole] at single
    rw [none, whole]
    exact ⟨[], single, rfl⟩
  · refine ⟨Text.splitOn '/' b, ?_, ?_⟩
    · calc Text.splitOn '/' s
          = Text.splitOn '/' (b ++ '/' :: lastField s) := by
            rw [some, List.append_assoc, List.singleton_append] at whole
            exact congrArg (Text.splitOn '/') whole.symm
        _ = Text.splitOn '/' b ++ Text.splitOn '/' (lastField s) :=
            Text.splitWhere_append_cons (by simp) _ _
        _ = Text.splitOn '/' b ++ [lastField s] := by rw [single]
    · rw [some, nameFields, Text.fields_append_of_forall (by simp)]
      rfl

theorem exists_append_parent : ∃ rest, s = (splitPath s).1 ++ rest := by
  obtain ⟨slashes, before, -⟩ := exists_slashes_of_parent s
  refine ⟨slashes ++ lastField s, ?_⟩
  rw [← List.append_assoc, ← before, beforeLast_append_lastField]

/-- Only a path of slashes alone has an empty last name, unless there is a slash at its end. -/
theorem forall_slash_of_lastField_eq_nil (bare : Bare s) (none : lastField s = []) :
    ∀ c ∈ s, c = '/' := by
  rcases bare with all | last
  · exact all
  · have whole := beforeLast_append_lastField s
    rw [none, List.append_nil] at whole
    rcases beforeLast_cases s with empty | ⟨b, some⟩
    · rw [← whole, empty]
      simp
    · rw [← whole, some] at last
      simp at last

theorem length_parent_lt (named : lastField s ≠ []) : (splitPath s).1.length < s.length := by
  obtain ⟨slashes, before, -⟩ := exists_slashes_of_parent s
  have whole := congrArg List.length (beforeLast_append_lastField s)
  have positive := List.length_pos_iff.mpr named
  rw [before, List.length_append, List.length_append] at whole
  omega

end EnvDoctor.Workspace
