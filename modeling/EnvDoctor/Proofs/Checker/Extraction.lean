import EnvDoctor.Extraction
import EnvDoctor.Proofs.Checker.Triple
import EnvDoctor.Proofs.Pattern.Search
import Mathlib

/-!
# Versions that built-in rules extract

The built-in rules of most programs extract the first three numbers in an output, those of others
the first three behind certain words, and none of them cuts a number. An optional `v` before the
numbers makes no difference.
-/

namespace EnvDoctor.Builtin

open Pattern (run)

variable {start : String} {text before found after b a rest t : List Char} {r : Pattern.Place}

theorem yield_between {p q : Pattern.Place} (aligned : p.position = p.before.length)
    (follows : p.after = found ++ rest) :
    (Pattern.Match.between 1 q (((p.reopen 1).skip found).capture 1 p.position)).yield =
      some found :=
  Pattern.Place.textOf_capture (p := p.reopen 1) 1 aligned follows

section After

theorem exists_of_run_tripleAfter
    (through : run (tripleAfter start).body (.behind b a) some = some r) :
    ∃ t rest, IsTriple t ∧ a = start.toList ++ (t ++ rest) := by
  obtain ⟨_, follows, through⟩ := Pattern.exists_of_run_text through
  obtain ⟨t, rest, isTriple, next⟩ := exists_of_run_triple through
  rw [Pattern.Place.after_skip follows] at next
  exact ⟨t, rest, isTriple, next ▸ follows⟩

theorem search_tripleAfter_eq_none (start : String) (missing : ¬ HasTriple start.toList text) :
    (tripleAfter start).search text = none := by
  apply Pattern.search_eq_none
  intro b a r whole through
  obtain ⟨t, rest, isTriple, rfl⟩ := exists_of_run_tripleAfter through
  exact missing ⟨b, t, rest, isTriple, whole⟩

theorem search_tripleAfter (start : String)
    (isFirst : IsFirstTriple start.toList text before found after) :
    ((tripleAfter start).search text).bind Pattern.Match.yield = some found := by
  let p : Pattern.Place := .behind before (start.toList ++ (found ++ after))
  have through : run (tripleAfter start).body p some = _ :=
    (Pattern.run_text rfl).trans
      (run_triple isFirst.triple (Pattern.Place.after_skip rfl) isFirst.stops)
  have first (b a : List Char) (r : Pattern.Place) (whole : text = b ++ a)
      (through : run (tripleAfter start).body (.behind b a) some = some r) :
      before.length ≤ b.length := by
    obtain ⟨t, rest, isTriple, rfl⟩ := exists_of_run_tripleAfter through
    exact isFirst.first b t rest isTriple whole
  rw [Pattern.search_eq_some isFirst.whole first through]
  apply yield_between (q := p) _ (Pattern.Place.after_skip rfl)
  simp [p, Pattern.Place.skip, Pattern.Place.behind, Nat.add_comm]

end After

section AfterV

theorem run_tripleAfterV_of_v {p : Pattern.Place} (isTriple : IsTriple t)
    (follows : p.after = 'v' :: (t ++ rest)) (stops : ∀ c ∈ rest.head?, Text.isDigit c = false) :
    run tripleAfterV.body p some =
      some ((((p.skip ['v']).reopen 1).skip t).capture 1 (p.skip ['v']).position) := by
  change run (.rep 0 (some 1) .greedy (.literal 'v')) p (fun q => run triple q some) = _
  have behind : (p.skip ['v']).after = t ++ rest := Pattern.Place.after_skip (s := ['v']) follows
  rw [Pattern.run_optional follows, run_triple isTriple behind stops, Option.some_or]

theorem run_tripleAfterV {p : Pattern.Place} (isTriple : IsTriple t) (follows : p.after = t ++ rest)
    (stops : ∀ c ∈ rest.head?, Text.isDigit c = false) :
    run tripleAfterV.body p some = some (((p.reopen 1).skip t).capture 1 p.position) := by
  change run (.rep 0 (some 1) .greedy (.literal 'v')) p (fun q => run triple q some) = _
  have other : p.after.head? ≠ some 'v' := by
    obtain ⟨d, s, digit, rfl⟩ := isTriple.eq_digit_cons
    rw [follows]
    rintro ⟨⟩
    cases digit.symm.trans (by decide : Text.isDigit 'v' = false)
  rw [Pattern.run_optional_of_ne other, run_triple isTriple follows stops]

theorem exists_of_run_tripleAfterV
    (through : run tripleAfterV.body (.behind b a) some = some r) :
    ∃ v t rest, (v = [] ∨ v = ['v']) ∧ IsTriple t ∧ a = v ++ (t ++ rest) := by
  rcases Pattern.exists_of_run_optional through with left | ⟨_, follows, taken⟩
  · obtain ⟨t, rest, isTriple, next⟩ := exists_of_run_triple left
    exact ⟨[], t, rest, .inl rfl, isTriple, next⟩
  · obtain ⟨t, rest, isTriple, next⟩ := exists_of_run_triple taken
    rw [Pattern.Place.after_skip (s := ['v']) follows] at next
    exact ⟨['v'], t, rest, .inr rfl, isTriple, next ▸ follows⟩

theorem search_tripleAfterV_eq_none (missing : ¬ HasTriple [] text) :
    tripleAfterV.search text = none := by
  apply Pattern.search_eq_none
  intro b a r whole through
  obtain ⟨v, t, rest, -, isTriple, rfl⟩ := exists_of_run_tripleAfterV through
  rw [← List.append_assoc] at whole
  exact missing ⟨b ++ v, t, rest, isTriple, whole⟩

/-- The pattern does not go through before the first triple, unless from a `v` right before it. -/
theorem reached_tripleAfterV (isFirst : IsFirstTriple [] text before found after)
    (whole : text = b ++ a)
    (through : run tripleAfterV.body (.behind b a) some = some r) :
    before.length ≤ b.length ∨ before = b ++ ['v'] := by
  obtain ⟨v, t, rest, rfl | rfl, isTriple, rfl⟩ := exists_of_run_tripleAfterV through
  · exact .inl (isFirst.first b t rest isTriple whole)
  · rw [← List.append_assoc] at whole
    have atMost := isFirst.first (b ++ ['v']) t rest isTriple whole
    rcases Nat.lt_or_eq_of_le atMost with less | same
    · rw [List.length_append] at less
      exact .inl (Nat.le_of_lt_succ less)
    · exact .inr (List.append_inj (isFirst.whole.symm.trans whole) same).1

theorem search_tripleAfterV (isFirst : IsFirstTriple [] text before found after) :
    (tripleAfterV.search text).bind Pattern.Match.yield = some found := by
  -- A `v` right before the triple is where the search stops, yet the group begins behind it.
  by_cases last : before.getLast? = some 'v'
  case pos =>
    obtain ⟨front, rfl⟩ := List.getLast?_eq_some_iff.mp last
    have whole : text = front ++ 'v' :: (found ++ after) := by simp [isFirst.whole]
    let p : Pattern.Place := .behind front ('v' :: (found ++ after))
    have through := run_tripleAfterV_of_v (p := p) isFirst.triple rfl isFirst.stops
    have first (b a : List Char) (r : Pattern.Place) (whole : text = b ++ a)
        (through : run tripleAfterV.body (.behind b a) some = some r) :
        front.length ≤ b.length := by
      rcases reached_tripleAfterV isFirst whole through with later | same
      · rw [List.length_append] at later
        exact Nat.le_of_succ_le later
      · rw [List.append_cancel_right same]
    rw [Pattern.search_eq_some whole first through]
    apply yield_between (q := p) _ (Pattern.Place.after_skip (s := ['v']) rfl)
    simp [p, Pattern.Place.skip, Pattern.Place.behind]
  case neg =>
    let p : Pattern.Place := .behind before (found ++ after)
    have through := run_tripleAfterV (p := p) isFirst.triple rfl isFirst.stops
    have first (b a : List Char) (r : Pattern.Place) (whole : text = b ++ a)
        (through : run tripleAfterV.body (.behind b a) some = some r) :
        before.length ≤ b.length := by
      rcases reached_tripleAfterV isFirst whole through with later | rfl
      · exact later
      · exact absurd List.getLast?_concat last
    rw [Pattern.search_eq_some isFirst.whole first through]
    apply yield_between (p := p) (q := p) _ rfl
    simp [p, Pattern.Place.behind]

end AfterV

section Extraction

variable [CharacterNames] {output : String} {pattern : Pattern}

theorem extractVersion_eq_none (missing : pattern.search output.toList = none) :
    extractVersion (.pattern pattern) output = .ok none := by
  change versionOfFound (some (Rule.searchValue pattern output)) = _
  rw [Rule.searchValue, missing]
  rfl

theorem extractVersion_eq_some (isTriple : IsTriple found)
    (yields : (pattern.search output.toList).bind Pattern.Match.yield = some found) :
    extractVersion (.pattern pattern) output = .ok (some (String.ofList found)) := by
  have visible : Text.strip (String.ofList found) = String.ofList found := by
    rw [Text.strip, String.toList_ofList, Text.trim_of_forall_not_blank isTriple.not_blank]
  have nonempty : (String.ofList found).isEmpty ≠ true := by
    obtain ⟨d, s, -, rfl⟩ := isTriple.eq_digit_cons
    simp
  change versionOfFound (some (Rule.searchValue pattern output)) = _
  rw [Rule.searchValue, yields]
  dsimp only [versionOfFound]
  rw [Value.holdsLong_text, if_neg Bool.false_ne_true, Value.display_text, visible,
    if_neg nonempty]

/-- The text of a pattern extracts what the pattern extracts. -/
theorem extractVersion_text (compiled : (Pattern.compile pattern.source).toOption = some pattern) :
    extractVersion (.text pattern.source) output = extractVersion (.pattern pattern) output := by
  cases read : Pattern.compile pattern.source with
  | error fault =>
    rw [read] at compiled
    cases compiled
  | ok p =>
    rw [read] at compiled
    cases compiled
    simp only [extractVersion, Rule.resolve, read]

/-- A rule that looks for a triple behind `start`, be it a pattern or its text, extracts the first
one with all its digits, or nothing if there is none. -/
theorem extractVersion_tripleAfter
    (compiled : (Pattern.compile (tripleAfter start).source).toOption = some (tripleAfter start))
    (output : String) : ∃ extracted,
    extractVersion (.pattern (tripleAfter start)) output = .ok extracted ∧
    extractVersion (.text (tripleAfter start).source) output = .ok extracted ∧
    (extracted = none ↔ ¬ HasTriple start.toList output.toList) ∧
    ∀ version, extracted = some version → ∃ before after,
      IsFirstTriple start.toList output.toList before version.toList after ∧
      ∀ c ∈ after.head?, Text.isDigit c = false := by
  rw [extractVersion_text compiled]
  by_cases has : HasTriple start.toList output.toList
  · obtain ⟨before, found, after, isFirst⟩ := exists_isFirstTriple has
    have done := extractVersion_eq_some isFirst.triple (search_tripleAfter start isFirst)
    refine ⟨_, done, done, by simp [has], ?_⟩
    rintro version ⟨⟩
    exact ⟨before, after, by rwa [String.toList_ofList], isFirst.stops⟩
  · have done := extractVersion_eq_none (search_tripleAfter_eq_none start has)
    exact ⟨none, done, done, by simp [has], nofun⟩

theorem extractVersion_tripleAfterV (output : String) :
    extractVersion (.pattern tripleAfterV) output =
      extractVersion (.pattern (tripleAfter "")) output := by
  by_cases has : HasTriple [] output.toList
  · obtain ⟨before, found, after, isFirst⟩ := exists_isFirstTriple has
    rw [extractVersion_eq_some isFirst.triple (search_tripleAfterV isFirst),
      extractVersion_eq_some isFirst.triple (search_tripleAfter "" isFirst)]
  · rw [extractVersion_eq_none (search_tripleAfterV_eq_none has),
      extractVersion_eq_none (search_tripleAfter_eq_none "" has)]

-- The names of characters are not known here, so that `decide` has nothing to run.
set_option maxRecDepth 2000 in
theorem compile_source :
    ∀ pattern ∈ [tripleAfterV, tripleAfter "", tripleAfter "git version ", tripleAfter "Python "],
      (Pattern.compile pattern.source).toOption = some pattern := by
  simp only [List.forall_mem_cons]
  refine ⟨?_, ?_, ?_, ?_, List.forall_mem_nil _⟩ <;> cbv

/-- No built-in rule cuts a number. -/
theorem extractVersion_uncut (output : String) :
    (∃ extracted,
      (∀ checker ∈ [node, npm, pnpm, bun],
        extractVersion checker.rule output = .ok extracted ∧
        extractVersion (.text checker.rule.display) output = .ok extracted) ∧
      (extracted = none ↔ ¬ HasTriple [] output.toList) ∧
      ∀ version, extracted = some version → ∃ before after,
        IsFirstTriple [] output.toList before version.toList after ∧
        (∀ c ∈ before.getLast?, Text.isDigit c = false) ∧
        ∀ c ∈ after.head?, Text.isDigit c = false) ∧
    ∀ rule ∈ [(git.rule, "git version "), (python.rule, "Python "), (python3.rule, "Python ")],
      ∃ extracted,
        extractVersion rule.1 output = .ok extracted ∧
        extractVersion (.text rule.1.display) output = .ok extracted ∧
        (extracted = none ↔ ¬ HasTriple rule.2.toList output.toList) ∧
        ∀ version, extracted = some version → ∃ before after,
          IsFirstTriple rule.2.toList output.toList before version.toList after ∧
          ∀ c ∈ after.head?, Text.isDigit c = false := by
  have compiled := compile_source
  simp only [List.forall_mem_cons] at compiled
  obtain ⟨compiledV, compiledPlain, compiledGit, compiledPython, -⟩ := compiled
  constructor
  · obtain ⟨extracted, done, written, noneIff, isFirst⟩ :=
      extractVersion_tripleAfter compiledPlain output
    have doneV := (extractVersion_tripleAfterV output).trans done
    have writtenV := (extractVersion_text compiledV).trans doneV
    refine ⟨extracted, ?_, noneIff, fun version found => ?_⟩
    · simp only [List.forall_mem_cons]
      exact ⟨⟨doneV, writtenV⟩, ⟨written, written⟩, ⟨done, written⟩, ⟨done, written⟩, nofun⟩
    · obtain ⟨before, after, first, stops⟩ := isFirst version found
      exact ⟨before, after, first, first.starts, stops⟩
  · simp only [List.forall_mem_cons]
    exact ⟨extractVersion_tripleAfter compiledGit output,
      extractVersion_tripleAfter compiledPython output,
      extractVersion_tripleAfter compiledPython output, nofun⟩

end Extraction

end EnvDoctor.Builtin
