import EnvDoctor.Json.Reader
import EnvDoctor.Proofs.Outcome

/-!
# What documents hold

A JSON document is read as a value of one of six kinds, and so is every part of it: it holds no
bytes, no times, no sets, and nothing that comes from a host.
-/

namespace EnvDoctor.Json

/-- The values that stand in documents. -/
inductive IsDatum : Value → Prop where
  | null : IsDatum .null
  | bool (b : Bool) : IsDatum (.bool b)
  | int (n : Int) : IsDatum (.int n)
  | real (x : Float) : IsDatum (.real x)
  | text (s : String) : IsDatum (.text s)
  | list {items : List Value} (each : ∀ v ∈ items, IsDatum v) : IsDatum (.list items)
  | table {entries : List (Value × Value)} (each : ∀ e ∈ entries, IsDatum e.2) :
      IsDatum (.table entries)

theorem isDatum_insert {key v : Value} {entries : List (Value × Value)} (datum : IsDatum v)
    (each : ∀ e ∈ entries, IsDatum e.2) : ∀ e ∈ Value.insert key v entries, IsDatum e.2 := by
  induction entries with
  | nil =>
    intro e among
    rw [List.mem_singleton.mp among]
    exact datum
  | cons first rest ih =>
    obtain ⟨isFirst, others⟩ := List.forall_mem_cons.mp each
    intro e among
    rw [Value.insert] at among
    split at among
    next =>
      rcases List.mem_cons.mp among with rfl | among
      · exact datum
      · exact others e among
    next =>
      rcases List.mem_cons.mp among with rfl | among
      · exact isFirst
      · exact ih others e among

theorem isDatum_tableOf {entries : List (Value × Value)} (each : ∀ e ∈ entries, IsDatum e.2) :
    IsDatum (.tableOf entries) := by
  have set (before : List (Value × Value)) (data : ∀ e ∈ before, IsDatum e.2) :
      ∀ e ∈ entries.foldl (fun acc e => Value.insert e.1 e.2 acc) before, IsDatum e.2 := by
    induction entries generalizing before with
    | nil => exact data
    | cons first rest ih =>
      obtain ⟨isFirst, others⟩ := List.forall_mem_cons.mp each
      exact ih others _ (isDatum_insert isFirst data)
  exact .table (set [] (by simp))

theorem isDatum_of_number {s rest : List Char} {v : Value} (read : number s = .ok (v, rest)) :
    IsDatum v := by
  unfold number at read
  dsimp only at read
  split at read
  next => cases read
  next =>
    split at read
    next =>
      split at read
      next => cases read
      next =>
        cases read
        exact .int _
    next =>
      cases read
      exact .real _

theorem isDatum_of_scalar {s rest : List Char} {v : Value} (read : scalar s = .ok (v, rest)) :
    IsDatum v := by
  have words : ∀ w ∈ wordValues, IsDatum w.2 := by
    simp only [wordValues, List.forall_mem_cons]
    exact ⟨.null, .bool _, .bool _, .real _, .real _, .real _, nofun⟩
  unfold scalar at read
  dsimp only at read
  split at read
  next word found =>
    cases read
    obtain ⟨w, among, begins⟩ := List.exists_of_findSome?_eq_some found
    obtain ⟨_, -, same⟩ := Option.map_eq_some_iff.mp begins
    cases same
    exact words w among
  next => exact isDatum_of_number read

/-- What is read of a value, of the members of an object and of the elements of an array. -/
structure ReadsData (fuel : Nat) : Prop where
  value : ∀ s v rest, value fuel s = .ok (v, rest) → IsDatum v
  members : ∀ s entries rest, members fuel s = .ok (entries, rest) → ∀ e ∈ entries, IsDatum e.2
  elements : ∀ s items rest, elements fuel s = .ok (items, rest) → ∀ v ∈ items, IsDatum v

theorem readsData (fuel : Nat) : ReadsData fuel := by
  induction fuel with
  | zero => exact ⟨nofun, nofun, nofun⟩
  | succ fuel ih =>
    constructor
    case value =>
      intro s v rest read
      unfold value at read
      split at read
      next => cases read
      next => cases read
      next =>
        obtain ⟨_, -, done⟩ := bind_eq_ok_iff.mp read
        cases done
        exact .text _
      next fuel' _ same =>
        obtain rfl : fuel = fuel' := Nat.succ.inj same
        split at read
        next =>
          cases read
          exact .table nofun
        next =>
          obtain ⟨⟨entries, _⟩, inside, done⟩ := bind_eq_ok_iff.mp read
          cases done
          exact isDatum_tableOf (ih.members _ _ _ inside)
      next fuel' _ same =>
        obtain rfl : fuel = fuel' := Nat.succ.inj same
        split at read
        next =>
          cases read
          exact .list nofun
        next =>
          obtain ⟨⟨items, _⟩, inside, done⟩ := bind_eq_ok_iff.mp read
          cases done
          exact .list (ih.elements _ _ _ inside)
      next => exact isDatum_of_scalar read
    case members =>
      intro s entries rest read
      unfold members at read
      split at read
      next => cases read
      next fuel' _ same =>
        obtain rfl : fuel = fuel' := Nat.succ.inj same
        obtain ⟨⟨key, _⟩, -, read⟩ := bind_eq_ok_iff.mp read
        dsimp only at read
        split at read
        next =>
          obtain ⟨⟨v, _⟩, first, read⟩ := bind_eq_ok_iff.mp read
          have datum := ih.value _ _ _ first
          dsimp only at read
          split at read
          next =>
            cases read
            exact List.forall_mem_singleton.mpr datum
          next =>
            obtain ⟨⟨more, _⟩, others, done⟩ := bind_eq_ok_iff.mp read
            cases done
            exact List.forall_mem_cons.mpr ⟨datum, ih.members _ _ _ others⟩
          next => cases read
        next => cases read
      next => cases read
    case elements =>
      intro s items rest read
      unfold elements at read
      obtain ⟨⟨v, _⟩, first, read⟩ := bind_eq_ok_iff.mp read
      have datum := ih.value _ _ _ first
      dsimp only at read
      split at read
      next =>
        cases read
        exact List.forall_mem_singleton.mpr datum
      next =>
        obtain ⟨⟨more, _⟩, others, done⟩ := bind_eq_ok_iff.mp read
        cases done
        exact List.forall_mem_cons.mpr ⟨datum, ih.elements _ _ _ others⟩
      next => cases read

theorem read_eq_ok_iff {s : List Char} {v : Value} :
    read s = .ok v ↔ s.head? ≠ some '\uFEFF' ∧
      ∃ rest, value (2 * s.length + 2) (skipSpace s) = .ok (v, rest) ∧ skipSpace rest = [] := by
  unfold read
  split
  next => simp [failAt]
  next other =>
    have noMark : s.head? ≠ some '\uFEFF' := by
      intro mark
      obtain ⟨rest, whole⟩ := List.head?_eq_some_iff.mp mark
      exact other rest whole
    rw [bind_eq_ok_iff]
    constructor
    · rintro ⟨⟨w, rest⟩, first, done⟩
      dsimp only at done
      split at done
      next ended =>
        cases done
        exact ⟨noMark, rest, first, ended⟩
      next => cases done
    · rintro ⟨-, rest, first, ended⟩
      refine ⟨_, first, ?_⟩
      dsimp only
      rw [ended]
      rfl

theorem isDatum_of_read {s : List Char} {v : Value} (done : read s = .ok v) : IsDatum v := by
  obtain ⟨-, rest, first, -⟩ := read_eq_ok_iff.mp done
  exact (readsData _).value _ _ _ first

end EnvDoctor.Json
