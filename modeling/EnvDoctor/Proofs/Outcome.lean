import EnvDoctor.Files.Workspace

/-!
# Outcomes

What a computation that may fail gives, taken apart step by step: for one that only fails or gives
a value, and for an activity on the files, which leaves a workspace behind whether it fails or not.
-/

namespace EnvDoctor

section

variable {ε ε' α β : Type}

theorem bind_eq_ok_iff {x : Except ε α} {f : α → Except ε β} {b : β} :
    (x >>= f) = .ok b ↔ ∃ a, x = .ok a ∧ f a = .ok b := by
  cases x with
  | ok a => exact ⟨fun done => ⟨a, rfl, done⟩, fun ⟨_, same, done⟩ => Except.ok.inj same ▸ done⟩
  | error e => exact ⟨nofun, nofun⟩

theorem bind_eq_error_iff {x : Except ε α} {f : α → Except ε β} {e : ε} :
    (x >>= f) = .error e ↔ x = .error e ∨ ∃ a, x = .ok a ∧ f a = .error e := by
  cases x with
  | ok a =>
    constructor
    · exact fun failed => .inr ⟨a, rfl, failed⟩
    · rintro (failed | ⟨_, same, failed⟩)
      · cases failed
      · exact Except.ok.inj same ▸ failed
  | error e' =>
    constructor
    · exact fun failed => .inl (congrArg Except.error (Except.error.inj failed))
    · rintro (failed | ⟨_, same, -⟩)
      · exact congrArg Except.error (Except.error.inj failed)
      · cases same

theorem map_eq_ok_iff {x : Except ε α} {f : α → β} {b : β} :
    f <$> x = .ok b ↔ ∃ a, x = .ok a ∧ f a = b := by
  cases x <;> simp [Functor.map, Except.map]

theorem map_eq_error_iff {x : Except ε α} {f : α → β} {e : ε} :
    f <$> x = .error e ↔ x = .error e := by
  cases x <;> simp [Functor.map, Except.map]

theorem mapError_eq_ok_iff {x : Except ε α} {f : ε → ε'} {a : α} :
    x.mapError f = .ok a ↔ x = .ok a := by
  cases x with
  | ok b =>
    constructor
    · exact fun same => congrArg Except.ok (Except.ok.inj same)
    · exact fun same => congrArg Except.ok (Except.ok.inj same)
  | error e => exact ⟨nofun, nofun⟩

theorem mapError_eq_error_iff {x : Except ε α} {f : ε → ε'} {e' : ε'} :
    x.mapError f = .error e' ↔ ∃ e, x = .error e ∧ f e = e' := by
  cases x with
  | ok a => exact ⟨nofun, fun ⟨_, same, _⟩ => nomatch same⟩
  | error e =>
    constructor
    · exact fun same => ⟨e, rfl, Except.error.inj same⟩
    · rintro ⟨_, same, rfl⟩
      exact congrArg (fun e => Except.error (f e)) (Except.error.inj same)

theorem exists_ok_of_mapM {f : α → Except ε β} {xs : List α} {ys : List β}
    (done : xs.mapM f = .ok ys) {x : α} (among : x ∈ xs) : ∃ y, f x = .ok y := by
  induction xs generalizing ys with
  | nil => cases among
  | cons x' xs ih =>
    rw [List.mapM_cons] at done
    obtain ⟨y, first, done⟩ := bind_eq_ok_iff.mp done
    obtain ⟨others, more, -⟩ := bind_eq_ok_iff.mp done
    rcases List.mem_cons.mp among with rfl | among
    · exact ⟨y, first⟩
    · exact ih more among

theorem mem_mapM_iff {f : α → Except ε β} {xs : List α} {ys : List β} (done : xs.mapM f = .ok ys)
    {y : β} : y ∈ ys ↔ ∃ x ∈ xs, f x = .ok y := by
  induction xs generalizing ys with
  | nil =>
    cases done
    simp
  | cons x xs ih =>
    rw [List.mapM_cons] at done
    obtain ⟨z, first, done⟩ := bind_eq_ok_iff.mp done
    obtain ⟨others, more, same⟩ := bind_eq_ok_iff.mp done
    cases same
    simp [ih more, first, eq_comm]

/-- The first thing of a list that is not fine is at fault. -/
def FirstFaulty (fine faulty : α → Prop) (xs : List α) : Prop :=
  ∃ before x after, xs = before ++ x :: after ∧ (∀ y ∈ before, fine y) ∧ faulty x

theorem not_firstFaulty_nil {fine faulty : α → Prop} : ¬ FirstFaulty fine faulty [] := by
  rintro ⟨before, x, after, whole, -⟩
  cases before <;> cases whole

theorem FirstFaulty.imp {fine faulty other : α → Prop} {xs : List α}
    (weaker : ∀ x, faulty x → other x) : FirstFaulty fine faulty xs → FirstFaulty fine other xs :=
  fun ⟨before, x, after, whole, allFine, fault⟩ =>
    ⟨before, x, after, whole, allFine, weaker x fault⟩

theorem firstFaulty_cons_iff {fine faulty : α → Prop} {x : α} {xs : List α} :
    FirstFaulty fine faulty (x :: xs) ↔ faulty x ∨ fine x ∧ FirstFaulty fine faulty xs := by
  constructor
  · rintro ⟨before, y, after, whole, allFine, fault⟩
    cases before with
    | nil =>
      obtain ⟨rfl, rfl⟩ := List.cons.inj whole
      exact .inl fault
    | cons z before =>
      obtain ⟨rfl, rfl⟩ := List.cons.inj whole
      exact .inr ⟨allFine _ (by simp), before, y, after, rfl,
        fun u hu => allFine u (by simp [hu]), fault⟩
  · rintro (fault | ⟨isFine, before, y, after, rfl, allFine, fault⟩)
    · exact ⟨[], x, xs, rfl, by simp, fault⟩
    · refine ⟨x :: before, y, after, rfl, fun u hu => ?_, fault⟩
      rcases List.mem_cons.mp hu with rfl | hu
      · exact isFine
      · exact allFine u hu

/-- If everything is fine or at fault, all is fine or something comes first that is at fault. -/
theorem forall_or_firstFaulty {fine faulty : α → Prop} {xs : List α}
    (either : ∀ x ∈ xs, fine x ∨ faulty x) : (∀ x ∈ xs, fine x) ∨ FirstFaulty fine faulty xs := by
  induction xs with
  | nil => exact .inl (List.forall_mem_nil _)
  | cons x xs ih =>
    obtain ⟨first, others⟩ := List.forall_mem_cons.mp either
    rw [List.forall_mem_cons, firstFaulty_cons_iff]
    rcases first with isFine | fault
    · exact (ih others).imp (⟨isFine, ·⟩) fun later => .inr ⟨isFine, later⟩
    · exact .inr (.inl fault)

section Tests

variable {f : α → Except ε Bool} {xs : List α}

theorem allM_eq_true_iff : xs.allM f = .ok true ↔ ∀ x ∈ xs, f x = .ok true := by
  induction xs with
  | nil => exact iff_of_true rfl (List.forall_mem_nil _)
  | cons x xs ih =>
    rw [List.allM, List.forall_mem_cons, bind_eq_ok_iff]
    constructor
    · rintro ⟨b, first, rest⟩
      cases b with
      | true => exact ⟨first, ih.mp rest⟩
      | false => cases rest
    · rintro ⟨first, rest⟩
      exact ⟨true, first, ih.mpr rest⟩

theorem allM_eq_false_iff :
    xs.allM f = .ok false ↔ FirstFaulty (f · = .ok true) (f · = .ok false) xs := by
  induction xs with
  | nil => exact iff_of_false nofun not_firstFaulty_nil
  | cons x xs ih =>
    rw [List.allM, firstFaulty_cons_iff, bind_eq_ok_iff]
    constructor
    · rintro ⟨b, first, rest⟩
      cases b with
      | true => exact .inr ⟨first, ih.mp rest⟩
      | false => exact .inl first
    · rintro (fault | ⟨first, rest⟩)
      · exact ⟨false, fault, rfl⟩
      · exact ⟨true, first, ih.mpr rest⟩

theorem allM_eq_error_iff {e : ε} :
    xs.allM f = .error e ↔ FirstFaulty (f · = .ok true) (f · = .error e) xs := by
  induction xs with
  | nil => exact iff_of_false nofun not_firstFaulty_nil
  | cons x xs ih =>
    rw [List.allM, firstFaulty_cons_iff, bind_eq_error_iff]
    refine or_congr_right ⟨?_, ?_⟩
    · rintro ⟨b, first, rest⟩
      cases b with
      | true => exact ⟨first, ih.mp rest⟩
      | false => cases rest
    · rintro ⟨first, rest⟩
      exact ⟨true, first, ih.mpr rest⟩

theorem allM_congr {g : α → Except ε Bool} (same : ∀ x ∈ xs, f x = g x) :
    xs.allM f = xs.allM g := by
  induction xs with
  | nil => rfl
  | cons x xs ih =>
    obtain ⟨first, others⟩ := List.forall_mem_cons.mp same
    rw [List.allM, List.allM, first, ih others]

/-- Tests one after the other answer if each of them does. -/
theorem exists_allM_eq (answers : ∀ x ∈ xs, ∃ b, f x = .ok b) : ∃ b, xs.allM f = .ok b := by
  have either : ∀ x ∈ xs, f x = .ok true ∨ f x = .ok false := by
    intro x hx
    obtain ⟨b, answer⟩ := answers x hx
    cases b with
    | true => exact .inl answer
    | false => exact .inr answer
  rcases forall_or_firstFaulty either with all | fault
  · exact ⟨true, allM_eq_true_iff.mpr all⟩
  · exact ⟨false, allM_eq_false_iff.mpr fault⟩

/-- Tests one after the other, as far as they answer, tell whether all that they stand for holds. -/
theorem forall_iff_of_allM {P : α → Prop}
    (tells : ∀ x ∈ xs, ∀ b, f x = .ok b → (b = true ↔ P x)) {b : Bool} (done : xs.allM f = .ok b) :
    b = true ↔ ∀ x ∈ xs, P x := by
  cases b with
  | true =>
    have all := allM_eq_true_iff.mp done
    exact iff_of_true rfl fun x hx => (tells x hx true (all x hx)).mp rfl
  | false =>
    obtain ⟨before, x, after, rfl, -, fault⟩ := allM_eq_false_iff.mp done
    have among : x ∈ before ++ x :: after := by simp
    exact iff_of_false nofun fun all =>
      absurd ((tells x among false fault).mpr (all x among)) (by decide)

end Tests

end

namespace Workspace.Filing

variable {α β : Type}

/-- The result of an activity and the workspace that it leaves behind. -/
def outcome (x : Filing α) (w : Workspace) : Except FileError α × Workspace :=
  (ExceptT.run x).run w

@[simp]
theorem outcome_pure (a : α) (w : Workspace) : outcome (pure a) w = (.ok a, w) := rfl

@[simp]
theorem outcome_get (w : Workspace) : outcome get w = (.ok w, w) := rfl

theorem outcome_bind (x : Filing α) (f : α → Filing β) (w : Workspace) :
    outcome (x >>= f) w =
      match outcome x w with
      | (.ok a, w₁) => outcome (f a) w₁
      | (.error e, w₁) => (.error e, w₁) := by
  unfold outcome
  rw [ExceptT.run_bind, StateT.run_bind]
  rcases (ExceptT.run x).run w with ⟨r, w₁⟩
  cases r <;> rfl

theorem outcome_tryCatch (x : Filing α) (handle : FileError → Filing α) (w : Workspace) :
    outcome (tryCatch x handle) w =
      match outcome x w with
      | (.ok a, w₁) => (.ok a, w₁)
      | (.error e, w₁) => outcome (handle e) w₁ := by
  unfold outcome
  rw [ExceptT.run_tryCatch, StateT.run_bind]
  rcases (ExceptT.run x).run w with ⟨r, w₁⟩
  cases r <;> rfl

theorem outcome_change (path : String) (update : Workspace → Except FileFault Store)
    (w : Workspace) :
    outcome (change path update) w =
      match update w with
      | .ok store => (.ok (), { w with store })
      | .error fault => (.error ⟨fault, path⟩, w) := by
  unfold change
  rw [outcome_bind, outcome_get]
  dsimp only
  cases update w <;> rfl

end Workspace.Filing

end EnvDoctor
