import EnvDoctor.Proofs.Pattern.Run

/-!
# Where a search stops

A search stops at the first place of a text from which the pattern goes through, and what a group
has taken between two places is the text between them.
-/

namespace EnvDoctor.Pattern

namespace Place

/-- The place behind the first part of a text. -/
def behind (before after : List Char) : Place :=
  ⟨before.reverse, after, before.length, []⟩

theorem textOf_capture {p : Place} {s rest : List Char} (group : Nat)
    (aligned : p.position = p.before.length) (follows : p.after = s ++ rest) :
    (((p.skip s).capture group p.position).find? group).map
      ((p.skip s).capture group p.position).textOf = some s := by
  simp [find?, capture, textOf, skip, follows, aligned]

end Place

variable {body : Node} {groups : Nat} {before after : List Char} {q : Place}

theorem searchFrom_eq_none (front : List Char)
    (stuck : ∀ b a, after = b ++ a → run body (.behind (front ++ b) a) some = none) :
    searchFrom groups body after front.reverse front.length = none := by
  induction after generalizing front with
  | nil =>
    have here := stuck [] [] rfl
    rw [List.append_nil] at here
    exact congrArg (Option.map _) here
  | cons c after ih =>
    have here := stuck [] (c :: after) rfl
    rw [List.append_nil, Place.behind] at here
    have further := ih (front ++ [c]) fun b a same => by
      have there := stuck (c :: b) a (congrArg (c :: ·) same)
      rwa [List.append_assoc]
    rw [List.reverse_append, List.length_append] at further
    rw [searchFrom, here]
    exact further

theorem searchFrom_eq_some (front : List Char)
    (stuck : ∀ b a, before ++ after = b ++ a → b.length < before.length →
      run body (.behind (front ++ b) a) some = none)
    (through : run body (.behind (front ++ before) after) some = some q) :
    searchFrom groups body (before ++ after) front.reverse front.length =
      some (.between groups (.behind (front ++ before) after) q) := by
  induction before generalizing front with
  | nil =>
    rw [List.append_nil] at through ⊢
    rw [Place.behind] at through
    cases after with
    | nil => exact congrArg (Option.map _) through
    | cons c after =>
      rw [List.nil_append, searchFrom, through]
      rfl
  | cons c before ih =>
    have here := stuck [] (c :: before ++ after) rfl (Nat.succ_pos _)
    rw [List.append_nil, Place.behind] at here
    rw [List.append_cons] at through ⊢
    have further := ih (front ++ [c]) (fun b a same shorter => by
      have there := stuck (c :: b) a (congrArg (c :: ·) same) (Nat.succ_lt_succ shorter)
      rwa [List.append_assoc]) through
    rw [List.reverse_append, List.length_append] at further
    rw [List.cons_append, searchFrom, ← List.cons_append, here]
    exact further

variable {pattern : EnvDoctor.Pattern} {text : List Char}

/-- A pattern that goes through from no place is not found. -/
theorem search_eq_none
    (nowhere : ∀ b a r, text = b ++ a → run pattern.body (.behind b a) some ≠ some r) :
    pattern.search text = none :=
  searchFrom_eq_none [] fun b a whole =>
    Option.eq_none_iff_forall_ne_some.mpr fun r => nowhere b a r whole

/-- A pattern is found at the first place from which it goes through. -/
theorem search_eq_some (whole : text = before ++ after)
    (first : ∀ b a r, text = b ++ a → run pattern.body (.behind b a) some = some r →
      before.length ≤ b.length)
    (through : run pattern.body (.behind before after) some = some q) :
    pattern.search text = some (.between pattern.groups (.behind before after) q) := by
  subst whole
  apply searchFrom_eq_some [] _ through
  intro b a whole earlier
  apply Option.eq_none_iff_forall_ne_some.mpr
  intro r sooner
  exact absurd (first b a r whole sooner) (Nat.not_le.mpr earlier)

end EnvDoctor.Pattern
