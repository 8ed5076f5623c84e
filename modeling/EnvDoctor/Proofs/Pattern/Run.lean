import EnvDoctor.Pattern.Matcher
import EnvDoctor.Proofs.Text.Pieces

/-!
# How far a pattern runs

What a node does from a place on: a set of characters and its greedy repetition, a given text, and
a character that may be left out. A greedy repetition tries the places behind the characters that it
can take, the farthest first; it gives nothing back if what follows it needs another character.
-/

namespace EnvDoctor

theorem Text.codePoint_inj {c d : Char} : codePoint c = codePoint d ↔ c = d := by
  have range (c : Char) : c.toNat < 0xD800 ∨ 0xDFFF < c.toNat ∧ c.toNat < 0x110000 := c.valid
  have value (c : Char) : codePoint c =
      if 0x10E000 ≤ c.toNat ∧ c.toNat ≤ 0x10E7FF then c.toNat - 0x100800 else c.toNat := by
    unfold codePoint isSurrogate surrogateShift
    simp only [Bool.and_eq_true, decide_eq_true_eq]
    split <;> split <;> omega
  refine ⟨fun same => Char.toNat_inj.mp ?_, congrArg codePoint⟩
  have := range c
  have := range d
  rw [value, value] at same
  split at same <;> split at same <;> omega

namespace Pattern

namespace Place

variable {p : Place} {s rest : List Char}

def skip (p : Place) (s : List Char) : Place :=
  { p with
    before := s.reverse ++ p.before
    after := p.after.drop s.length
    position := p.position + s.length }

theorem skip_skip (p : Place) (s t : List Char) : (p.skip s).skip t = p.skip (s ++ t) := by
  simp [skip, Nat.add_assoc]

theorem after_skip (follows : p.after = s ++ rest) : (p.skip s).after = rest := by
  simp [skip, follows]

theorem next?_of_after {c : Char} (follows : p.after = c :: rest) :
    p.next? = some (p.skip [c]) := by
  simp [next?, skip, follows]

end Place

variable {p r : Place} {k : Cont} {s : CharClass} {n : Node} {text rest : List Char}

theorem run_one {c : Char} (follows : p.after = c :: rest) (holds : s.holds c = true) :
    run (.one s) p k = k (p.skip [c]) := by
  simp [run, follows, holds, Place.next?_of_after follows]

theorem run_one_of_stops (stops : ∀ c ∈ p.after.head?, s.holds c = false) :
    run (.one s) p k = none := by
  unfold run
  split
  next => rfl
  next c rest follows =>
    have out : s.holds c = false := stops c (by rw [follows, List.head?_cons]; rfl)
    rw [if_neg (by simp [out])]

/-- What a continuation gives behind as many of the characters as it goes through from, at least
one. -/
def farthest (k : Cont) (p : Place) : List Char → Option Place
  | [] => none
  | c :: text => (farthest k (p.skip [c]) text).or (k (p.skip [c]))

theorem farthest_eq_some (nonempty : text ≠ []) (through : k (p.skip text) = some r) :
    farthest k p text = some r := by
  induction text generalizing p with
  | nil => exact absurd rfl nonempty
  | cons c text ih =>
    cases text with
    | nil => exact through
    | cons d text =>
      have further := ih (List.cons_ne_nil d text) ((congrArg k (p.skip_skip [c] _)).trans through)
      rw [farthest, further, Option.some_or]

theorem farthest_eq (nonempty : text ≠ [])
    (stuck : ∀ t u, t ≠ [] → u ≠ [] → t ++ u = text → k (p.skip t) = none) :
    farthest k p text = k (p.skip text) := by
  induction text generalizing p with
  | nil => exact absurd rfl nonempty
  | cons c text ih =>
    cases text with
    | nil => exact Option.none_or
    | cons d text =>
      have further := ih (List.cons_ne_nil d text) fun t u _ more same =>
        (congrArg k (p.skip_skip [c] t)).trans
          (stuck (c :: t) u (List.cons_ne_nil c t) more (congrArg (c :: ·) same))
      rw [farthest, further, p.skip_skip, stuck [c] (d :: text) nofun nofun rfl, Option.or_none]
      rfl

theorem exists_of_farthest (through : farthest k p text = some r) :
    ∃ t u, t ≠ [] ∧ text = t ++ u ∧ k (p.skip t) = some r := by
  induction text generalizing p with
  | nil => cases through
  | cons c text ih =>
    rcases Option.or_eq_some_iff.mp through with further | ⟨-, here⟩
    · obtain ⟨t, u, -, rfl, behind⟩ := ih further
      exact ⟨c :: t, u, nofun, rfl, (congrArg k (p.skip_skip [c] t)).symm.trans behind⟩
    · exact ⟨[c], text, nofun, rfl, here⟩

/-- Further rounds through a set of characters. Each takes a character, so that the fuel lasts. -/
theorem rounds_one (follows : p.after = text ++ rest) (all : ∀ c ∈ text, s.holds c = true)
    (stops : ∀ c ∈ rest.head?, s.holds c = false) {fuel : List Char}
    (enough : text.length < fuel.length) {last : Option Nat} (fresh : last ≠ some p.position) :
    rounds (run (.one s)) false k fuel none last p = (farthest k p text).or (k p) := by
  induction text generalizing p fuel last with
  | nil =>
    cases fuel with
    | nil => cases enough
    | cons _ fuel =>
      have stuck (k : Cont) : run (.one s) p k = none :=
        run_one_of_stops (by rw [follows]; exact stops)
      simp [rounds, stuck, farthest]
  | cons c text ih =>
    cases fuel with
    | nil => cases enough
    | cons _ fuel =>
      obtain ⟨isHeld, others⟩ := List.forall_mem_cons.mp all
      have fresher : some p.position ≠ some (p.skip [c]).position := by simp [Place.skip]
      have further := ih (Place.after_skip (s := [c]) follows) others
        (Nat.lt_of_succ_lt_succ enough) fresher
      simp [rounds, fresh, run_one follows isHeld, further, farthest]

/-- A greedy repetition takes as many characters of the set as the continuation goes through
from. -/
theorem run_many (follows : p.after = text ++ rest) (all : ∀ c ∈ text, s.holds c = true)
    (stops : ∀ c ∈ rest.head?, s.holds c = false) :
    run (.rep 1 none .greedy (.one s)) p k = farthest k p text := by
  change run (.one s) p
    (fun q => rounds (run (.one s)) false k (' ' :: ' ' :: q.after) none none q) = _
  cases text with
  | nil => exact run_one_of_stops (by rw [follows]; exact stops)
  | cons c text =>
    obtain ⟨isHeld, others⟩ := List.forall_mem_cons.mp all
    have behind : (p.skip [c]).after = text ++ rest := Place.after_skip (s := [c]) follows
    have enough : text.length < (' ' :: ' ' :: (p.skip [c]).after).length := by
      rw [behind, List.length_cons, List.length_cons, List.length_append]
      omega
    have fresh : (none : Option Nat) ≠ some (p.skip [c]).position := nofun
    rw [run_one follows isHeld, rounds_one behind others stops enough fresh, farthest]

theorem exists_of_run_many (through : run (.rep 1 none .greedy (.one s)) p k = some r) :
    ∃ t rest, t ≠ [] ∧ (∀ c ∈ t, s.holds c = true) ∧ p.after = t ++ rest ∧
      k (p.skip t) = some r := by
  obtain ⟨text, rest, follows, all, stops⟩ := Text.exists_run s.holds p.after
  rw [run_many follows all stops] at through
  obtain ⟨t, u, nonempty, whole, behind⟩ := exists_of_farthest through
  rw [whole] at follows all
  exact ⟨t, u ++ rest, nonempty, fun c among => all c (List.mem_append_left u among),
    follows.trans (List.append_assoc ..), behind⟩

theorem holds_literal {c d : Char} :
    ({ items := [.char (Text.codePoint c)] } : CharClass).holds d = decide (d = c) := by
  have same : (Text.codePoint d == Text.codePoint c) = decide (d = c) :=
    decide_eq_decide.mpr Text.codePoint_inj
  simp [CharClass.holds, CharClass.includes, ClassItem.holds, same]

theorem run_literal {c : Char} (follows : p.after = c :: rest) :
    run (.literal c) p k = k (p.skip [c]) :=
  run_one follows (by rw [holds_literal, decide_eq_true rfl])

theorem literal_stops {c : Char} (other : p.after.head? ≠ some c) :
    ∀ d ∈ p.after.head?, CharClass.holds { items := [.char (Text.codePoint c)] } d = false := by
  intro d first
  rw [holds_literal]
  exact decide_eq_false fun same => other (same ▸ first)

theorem exists_of_run_literal {c : Char} (through : run (.literal c) p k = some r) :
    ∃ rest, p.after = c :: rest ∧ k (p.skip [c]) = some r := by
  by_cases first : p.after.head? = some c
  · obtain ⟨rest, follows⟩ := List.head?_eq_some_iff.mp first
    exact ⟨rest, follows, (run_literal follows).symm.trans through⟩
  · cases (run_one_of_stops (literal_stops first)).symm.trans through

/-- A character that may be left out is taken where it is next. -/
theorem run_optional {c : Char} (follows : p.after = c :: rest) :
    run (.rep 0 (some 1) .greedy (.literal c)) p k = (k (p.skip [c])).or (k p) := by
  change rounds (run (.literal c)) false k (' ' :: ' ' :: p.after) (some 1) none p = _
  simp [rounds, run_literal follows]

theorem run_optional_of_ne {c : Char} (other : p.after.head? ≠ some c) :
    run (.rep 0 (some 1) .greedy (.literal c)) p k = k p := by
  change rounds (run (.literal c)) false k (' ' :: ' ' :: p.after) (some 1) none p = _
  have stuck (k : Cont) : run (.literal c) p k = none := run_one_of_stops (literal_stops other)
  simp [rounds, stuck]

theorem exists_of_run_optional {c : Char}
    (through : run (.rep 0 (some 1) .greedy (.literal c)) p k = some r) :
    k p = some r ∨ ∃ rest, p.after = c :: rest ∧ k (p.skip [c]) = some r := by
  by_cases first : p.after.head? = some c
  · obtain ⟨rest, follows⟩ := List.head?_eq_some_iff.mp first
    rw [run_optional follows] at through
    rcases Option.or_eq_some_iff.mp through with taken | ⟨-, left⟩
    · exact .inr ⟨rest, follows, taken⟩
    · exact .inl left
  · rw [run_optional_of_ne first] at through
    exact .inl through

/-- A greedy repetition before a character that is not of its set takes all characters of the set
that follow. -/
theorem run_many_literal {d : Char} (outside : s.holds d = false) (nonempty : text ≠ [])
    (all : ∀ c ∈ text, s.holds c = true) (follows : p.after = text ++ d :: rest) :
    run (.seq (.rep 1 none .greedy (.one s)) (.seq (.literal d) n)) p k =
      run n (p.skip (text ++ [d])) k := by
  have stops : ∀ c ∈ (d :: rest).head?, s.holds c = false := by
    rintro c ⟨⟩
    exact outside
  have last := run_literal (p := p.skip text) (k := fun q => run n q k) (Place.after_skip follows)
  rw [p.skip_skip] at last
  rw [run, run_many follows all stops, ← last]
  apply farthest_eq nonempty
  -- Behind fewer characters the next one is still of the set, and so it is not `d`.
  rintro t (_ | ⟨c, u⟩) _ more rfl
  · exact absurd rfl more
  · have next : (p.skip t).after = c :: (u ++ d :: rest) :=
      Place.after_skip (follows.trans (List.append_assoc ..))
    have differs : d ≠ c := by
      rintro rfl
      cases outside.symm.trans (all d (by simp))
    cases found : run (.literal d) (p.skip t) fun q => run n q k with
    | none => exact found
    | some r =>
      obtain ⟨_, other, -⟩ := exists_of_run_literal found
      exact absurd (List.cons.inj (other.symm.trans next)).1 differs

theorem exists_of_run_many_literal {d : Char}
    (through : run (.seq (.rep 1 none .greedy (.one s)) (.seq (.literal d) n)) p k = some r) :
    ∃ text rest, text ≠ [] ∧ (∀ c ∈ text, s.holds c = true) ∧ p.after = text ++ d :: rest ∧
      run n (p.skip (text ++ [d])) k = some r := by
  obtain ⟨text, rest, nonempty, all, follows, behind⟩ := exists_of_run_many through
  obtain ⟨rest', next, done⟩ := exists_of_run_literal behind
  rw [Place.after_skip follows] at next
  rw [p.skip_skip] at done
  exact ⟨text, rest', nonempty, all, next ▸ follows, done⟩

theorem sequence_cons {ns : List Node} (nonempty : ns ≠ []) :
    Node.sequence (n :: ns) = .seq n (.sequence ns) := by
  cases ns with
  | nil => exact absurd rfl nonempty
  | cons n' ns => rfl

theorem run_text (follows : p.after = text ++ rest) :
    run (.sequence (text.map .literal ++ [n])) p k = run n (p.skip text) k := by
  induction text generalizing p with
  | nil => rfl
  | cons c text ih =>
    rw [List.map_cons, List.cons_append, sequence_cons (by simp), run, run_literal follows,
      ih (Place.after_skip (s := [c]) follows), p.skip_skip]
    rfl

theorem exists_of_run_text (through : run (.sequence (text.map .literal ++ [n])) p k = some r) :
    ∃ rest, p.after = text ++ rest ∧ run n (p.skip text) k = some r := by
  induction text generalizing p with
  | nil => exact ⟨p.after, rfl, through⟩
  | cons c text ih =>
    rw [List.map_cons, List.cons_append, sequence_cons (by simp)] at through
    obtain ⟨rest, follows, behind⟩ := exists_of_run_literal through
    obtain ⟨rest', next, done⟩ := ih behind
    rw [Place.after_skip (s := [c]) follows] at next
    rw [p.skip_skip] at done
    subst next
    exact ⟨rest', follows, done⟩

end Pattern

end EnvDoctor
