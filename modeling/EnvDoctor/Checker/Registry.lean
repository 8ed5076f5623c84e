import EnvDoctor.Checker.Builtin

/-!
# Registries

A registry maps binaries to their checkers. It keeps the order in which binaries came up first; a
later checker for a binary takes the place of the earlier one.
-/

namespace EnvDoctor

structure Registry where
  checkers : Named Checker

namespace Registry

def empty : Registry :=
  ⟨[]⟩

def add (r : Registry) (c : Checker) : Registry :=
  ⟨r.checkers.set c.name c⟩

def addAll (r : Registry) (cs : List Checker) : Registry :=
  cs.foldl add r

def ofList (cs : List Checker) : Registry :=
  empty.addAll cs

/-- The built-in checkers and others, which may replace them. -/
def withBuiltins (cs : List Checker) : Registry :=
  (ofList Builtin.all).addAll cs

def find? (r : Registry) (binary : String) : Option Checker :=
  r.checkers.find? binary

def names (r : Registry) : List String :=
  r.checkers.names

@[simp]
theorem find?_empty (binary : String) : empty.find? binary = none := rfl

theorem find?_add (r : Registry) (c : Checker) (binary : String) :
    (r.add c).find? binary = if c.name = binary then some c else r.find? binary :=
  Named.find?_set ..

theorem names_add (r : Registry) (c : Checker) :
    (r.add c).names = if c.name ∈ r.names then r.names else r.names ++ [c.name] :=
  Named.names_set ..

theorem find?_addAll_eq_none_iff {r : Registry} {cs : List Checker} {binary : String} :
    (r.addAll cs).find? binary = none ↔
      r.find? binary = none ∧ binary ∉ cs.map Checker.name := by
  induction cs generalizing r with
  | nil => simp [addAll]
  | cons c cs ih =>
    rw [addAll, List.foldl_cons, ← addAll, ih, find?_add]
    by_cases same : c.name = binary
    · simp [same]
    · simp [same, Ne.symm same]

theorem mem_of_find?_addAll {r : Registry} {cs : List Checker} {binary : String} {c : Checker}
    (found : (r.addAll cs).find? binary = some c) : c ∈ cs ∨ r.find? binary = some c := by
  induction cs generalizing r with
  | nil => exact .inr found
  | cons d cs ih =>
    rcases ih found with later | earlier
    · exact .inl (List.mem_cons_of_mem _ later)
    · rw [find?_add] at earlier
      split at earlier
      next =>
        cases earlier
        exact .inl List.mem_cons_self
      next => exact .inr earlier

theorem find?_withBuiltins_eq_none_iff {cs : List Checker} {binary : String} :
    (withBuiltins cs).find? binary = none ↔
      binary ∉ Builtin.all.map Checker.name ∧ binary ∉ cs.map Checker.name := by
  rw [withBuiltins, find?_addAll_eq_none_iff, ofList, find?_addAll_eq_none_iff, find?_empty,
    eq_self_iff_true, true_and]

theorem mem_of_find?_withBuiltins {cs : List Checker} {binary : String} {c : Checker}
    (found : (withBuiltins cs).find? binary = some c) : c ∈ cs ∨ c ∈ Builtin.all := by
  refine (mem_of_find?_addAll found).imp_right fun builtin => ?_
  rcases mem_of_find?_addAll builtin with among | nowhere
  · exact among
  · cases nowhere

end Registry

end EnvDoctor
