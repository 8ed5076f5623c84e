/-!
# Named things

Lists of things that have names, one thing for each name, in the order in which the names came up
first.
-/

namespace EnvDoctor

abbrev Named (α : Type) := List (String × α)

namespace Named

variable {α : Type}

def find? (name : String) : Named α → Option α
  | [] => none
  | (n, a) :: rest => if n = name then some a else find? name rest

/-- Gives a name to a thing. A name that is in use keeps its place and loses its old thing. -/
def set (name : String) (a : α) : Named α → Named α
  | [] => [(name, a)]
  | (n, b) :: rest => if n = name then (n, a) :: rest else (n, b) :: set name a rest

def ofList (things : List (String × α)) : Named α :=
  things.foldl (fun named thing => named.set thing.1 thing.2) []

def names (things : Named α) : List String :=
  things.map Prod.fst

@[simp]
theorem names_nil : names ([] : Named α) = [] := rfl

theorem find?_set (name other : String) (a : α) (things : Named α) :
    find? other (set name a things) = if name = other then some a else find? other things := by
  induction things with
  | nil => rfl
  | cons thing rest ih =>
    obtain ⟨n, b⟩ := thing
    by_cases h : n = name
    · subst h
      by_cases h' : n = other <;> simp [set, find?, h']
    · by_cases h' : n = other
      · subst h'
        simp [set, find?, h, Ne.symm h]
      · simp [set, find?, h, h', ih]

theorem names_set (name : String) (a : α) (things : Named α) :
    names (set name a things) =
      if name ∈ names things then names things else names things ++ [name] := by
  induction things with
  | nil => rfl
  | cons thing rest ih =>
    obtain ⟨n, b⟩ := thing
    simp only [names] at ih
    by_cases h : n = name
    · simp [set, names, h]
    · by_cases hm : name ∈ rest.map Prod.fst
      · simp [set, names, h, ih, hm]
      · simp [set, names, h, ih, hm, Ne.symm h]

theorem mem_of_find? {name : String} {a : α} {things : Named α}
    (found : find? name things = some a) : (name, a) ∈ things := by
  induction things with
  | nil => cases found
  | cons first rest ih =>
    rw [find?] at found
    split at found
    next same =>
      cases found
      rw [← same]
      exact List.mem_cons_self
    next => exact List.mem_cons_of_mem _ (ih found)

theorem mem_of_mem_set {name : String} {a : α} {things : Named α} {thing : String × α}
    (among : thing ∈ set name a things) : thing = (name, a) ∨ thing ∈ things := by
  induction things with
  | nil => exact .inl (List.mem_singleton.mp among)
  | cons first rest ih =>
    obtain ⟨n, b⟩ := first
    rw [set] at among
    split at among
    next same =>
      subst same
      exact (List.mem_cons.mp among).imp_right (List.mem_cons_of_mem _)
    next =>
      rcases List.mem_cons.mp among with rfl | among
      · exact .inr List.mem_cons_self
      · exact (ih among).imp_right (List.mem_cons_of_mem _)

theorem mem_names_set {name other : String} {a : α} {things : Named α} :
    name ∈ names (set other a things) ↔ name = other ∨ name ∈ names things := by
  rw [names_set]
  split
  next known =>
    constructor
    · exact .inr
    · rintro (rfl | among)
      · exact known
      · exact among
  next => rw [List.mem_append, List.mem_singleton, or_comm]

theorem mem_names_ofList {name : String} {things : List (String × α)} :
    name ∈ names (ofList things) ↔ name ∈ things.map Prod.fst := by
  have further (named : Named α) :
      name ∈ names (things.foldl (fun named thing => named.set thing.1 thing.2) named) ↔
        name ∈ things.map Prod.fst ∨ name ∈ names named := by
    induction things generalizing named with
    | nil => simp
    | cons thing things ih =>
      rw [List.foldl_cons, ih, mem_names_set, List.map_cons, List.mem_cons, or_left_comm, or_assoc]
  rw [ofList, further, names_nil, or_iff_left List.not_mem_nil]

end Named

end EnvDoctor
