import EnvDoctor.Proofs.Outcome
import EnvDoctor.Proofs.Text.Pieces
import EnvDoctor.Requirement.Parser
import EnvDoctor.Requirement.Verdict
import EnvDoctor.Version.Strict

/-!
# Requirements as conjunctions

A verdict is positive if the current version can be read and every item is a constraint that holds,
whatever becomes of the verdict otherwise. So a list is satisfied if its parts are, and a
requirement text if its fragments are: their order and number play no role, and a further fragment
satisfies nothing that was not satisfied before.
-/

namespace EnvDoctor

namespace Constraint

theorem ofText_append_comma (a b : String) : ofText (a ++ "," ++ b) = ofText a ++ ofText b := by
  have pieces : Text.splitOn ',' (a ++ "," ++ b).toList =
      Text.splitOn ',' a.toList ++ Text.splitOn ',' b.toList := by
    rw [String.toList_append, String.toList_append, List.append_assoc]
    exact Text.splitWhere_append_cons (by decide) a.toList b.toList
  rw [ofText, ofChars, pieces, List.filterMap_append]
  rfl

theorem ofText_intercalate (fragments : List String) :
    ofText (",".intercalate fragments) = fragments.flatMap ofText := by
  induction fragments with
  | nil => rfl
  | cons fragment more ih =>
    cases more with
    | nil => simp
    | cons second rest =>
      rw [String.intercalate_cons_cons, ofText_append_comma, ih]
      rfl

end Constraint

section Library

variable [VersionLibrary]

/-- A constraint holds of a version. -/
def Constraint.HoldsOf (v : Version) (c : Constraint) : Prop :=
  ∃ description, Finding.ofConstraint v c = .ok (.holds description)

def Value.HoldsOf (v : Version) (item : Value) : Prop :=
  ∃ c, Constraint.ofValue? item = some c ∧ c.HoldsOf v

namespace Finding

/-- Constraints can be gone through without a failure exactly if each of them holds. -/
theorem exists_mapM_ofConstraint_iff (v : Version) (cs : List Constraint) :
    (∃ findings, cs.mapM (ofConstraint v) = .ok findings ∧ findings.filterMap failed? = []) ↔
      ∀ c ∈ cs, c.HoldsOf v := by
  induction cs with
  | nil => exact iff_of_true ⟨[], rfl, rfl⟩ (by simp)
  | cons c cs ih =>
    rw [List.forall_mem_cons, ← ih]
    constructor
    · rintro ⟨findings, done, passes⟩
      rw [List.mapM_cons] at done
      obtain ⟨first, judged, done⟩ := bind_eq_ok_iff.mp done
      obtain ⟨others, more, same⟩ := bind_eq_ok_iff.mp done
      cases same
      cases first with
      | holds description => exact ⟨⟨description, judged⟩, others, more, passes⟩
      | fails description => cases passes
    · rintro ⟨⟨description, judged⟩, others, more, passes⟩
      refine ⟨.holds description :: others, ?_, passes⟩
      rw [List.mapM_cons, judged, more]
      rfl

end Finding

/-- All items of a list are constraints that hold exactly if the list is one of constraints and
these hold. -/
theorem Value.forall_holdsOf_iff (v : Version) (items : List Value) :
    (∀ item ∈ items, item.HoldsOf v) ↔
      ∃ cs, items.mapM Constraint.ofValue? = some cs ∧ ∀ c ∈ cs, c.HoldsOf v := by
  induction items with
  | nil => exact iff_of_true (by simp) ⟨[], rfl, by simp⟩
  | cons item items ih =>
    rw [List.forall_mem_cons, ih, List.mapM_cons]
    constructor
    · rintro ⟨⟨c, ready, holds⟩, cs, others, hold⟩
      refine ⟨c :: cs, ?_, List.forall_mem_cons.mpr ⟨holds, hold⟩⟩
      rw [ready, others]
      rfl
    · rintro ⟨all, done, hold⟩
      obtain ⟨c, ready, done⟩ := Option.bind_eq_some_iff.mp done
      obtain ⟨cs, others, same⟩ := Option.bind_eq_some_iff.mp done
      cases same
      obtain ⟨holds, hold⟩ := List.forall_mem_cons.mp hold
      exact ⟨⟨c, ready, holds⟩, cs, others, hold⟩

namespace Verdict

/-- A verdict on constraints is positive exactly if the version can be read and all of them hold. -/
theorem satisfies_ofConstraints_iff_holds (current : Value) (cs : List Constraint) :
    (ofConstraints current cs).satisfies = true ↔
      ∃ v, Version.ofValue? current = some v ∧ ∀ c ∈ cs, c.HoldsOf v := by
  cases read : Version.ofValue? current with
  | none => simp [ofConstraints, read, invalidCurrent]
  | some v =>
    have inside : (∃ w, some v = some w ∧ ∀ c ∈ cs, c.HoldsOf w) ↔ ∀ c ∈ cs, c.HoldsOf v := by
      simp
    rw [inside, ← Finding.exists_mapM_ofConstraint_iff]
    unfold ofConstraints
    rw [read]
    dsimp only
    cases cs.mapM (Finding.ofConstraint v) with
    | error fault => simp [processingError]
    | ok findings => simp [ofFindings]

/-- A verdict on any items is positive exactly if the version can be read and all items are
constraints that hold: one item that is none is enough to make it negative. -/
theorem satisfies_ofItems_iff_holds (current : Value) (items : List Value) :
    (ofItems current items).satisfies = true ↔
      ∃ v, Version.ofValue? current = some v ∧ ∀ item ∈ items, item.HoldsOf v := by
  simp only [Value.forall_holdsOf_iff]
  unfold ofItems
  cases items.mapM Constraint.ofValue? with
  | none =>
    cases read : Version.ofValue? current with
    | none => simp [invalidCurrent]
    | some v => simp [processingError]
  | some cs => simp [satisfies_ofConstraints_iff_holds]

/-- The verdict on a text is positive exactly if all constraints of its fragments hold. -/
theorem satisfies_intercalate_iff (current : Value) (fragments : List String) :
    (ofConstraints current (Constraint.ofText (",".intercalate fragments))).satisfies = true ↔
      ∃ v, Version.ofValue? current = some v ∧
        ∀ fragment ∈ fragments, ∀ c ∈ Constraint.ofText fragment, c.HoldsOf v := by
  rw [satisfies_ofConstraints_iff_holds, Constraint.ofText_intercalate]
  simp only [List.forall_mem_flatMap]

theorem satisfies_of_subset {current : Value} {few many : List String} (among : few ⊆ many)
    (satisfied : (ofConstraints current
      (Constraint.ofText (",".intercalate many))).satisfies = true) :
    (ofConstraints current (Constraint.ofText (",".intercalate few))).satisfies = true := by
  obtain ⟨v, read, hold⟩ := (satisfies_intercalate_iff current many).mp satisfied
  apply (satisfies_intercalate_iff current few).mpr
  exact ⟨v, read, fun fragment member => hold fragment (among member)⟩

/-- A comma between two requirement texts gives the constraints of both, and a list of any items is
satisfied exactly if its two parts are. So neither the order of the fragments of a text nor their
repetition matters for the verdict, and a text with further fragments is not satisfied unless the
text without them is. -/
theorem satisfies_conjunction :
    (∀ a b : String, Constraint.ofText (a ++ "," ++ b) =
      Constraint.ofText a ++ Constraint.ofText b) ∧
    (∀ (current : Value) (cs ds : List Value),
      (ofValue current (.list (cs ++ ds))).satisfies = true ↔
        (ofValue current (.list cs)).satisfies = true ∧
          (ofValue current (.list ds)).satisfies = true) ∧
    (∀ (current : Value) (one other : List String), (∀ f, f ∈ one ↔ f ∈ other) →
      (ofConstraints current (Constraint.ofText (",".intercalate one))).satisfies =
        (ofConstraints current (Constraint.ofText (",".intercalate other))).satisfies) ∧
    ∀ (current : Value) (few many : List String), few ⊆ many →
      (ofConstraints current (Constraint.ofText (",".intercalate few))).satisfies = false →
      (ofConstraints current (Constraint.ofText (",".intercalate many))).satisfies = false := by
  refine ⟨Constraint.ofText_append_comma, ?_, ?_, ?_⟩
  · intro current cs ds
    simp only [ofValue, items?, satisfies_ofItems_iff_holds, List.forall_mem_append]
    constructor
    · rintro ⟨v, read, left, right⟩
      exact ⟨⟨v, read, left⟩, v, read, right⟩
    · rintro ⟨⟨v, read, left⟩, w, again, right⟩
      obtain rfl := Option.some.inj (read.symm.trans again)
      exact ⟨v, read, left, right⟩
  · intro current one other same
    rw [Bool.eq_iff_iff]
    constructor
    · exact satisfies_of_subset fun f member => (same f).mpr member
    · exact satisfies_of_subset fun f member => (same f).mp member
  · intro current few many among fails
    rw [Bool.eq_false_iff] at fails ⊢
    exact fun satisfied => fails (satisfies_of_subset among satisfied)

end Verdict

end Library

theorem Verdict.satisfies_conjunction_reordered :
    (∀ f, f ∈ [">= 1.0.0", "< 2.0.0"] ↔ f ∈ ["< 2.0.0", ">= 1.0.0", "< 2.0.0"]) ∧
    (ofConstraints (.text "1.5.0-rc.1")
        (Constraint.ofText (",".intercalate [">= 1.0.0", "< 2.0.0"]))).satisfies =
      (ofConstraints (.text "1.5.0-rc.1")
        (Constraint.ofText (",".intercalate ["< 2.0.0", ">= 1.0.0", "< 2.0.0"]))).satisfies ∧
    ["^2.0.0"] ⊆ [">= 1.0.0", "^2.0.0"] ∧
    (ofConstraints (.text "1.5.0-rc.1")
      (Constraint.ofText (",".intercalate ["^2.0.0"]))).satisfies = false ∧
    (ofConstraints (.text "1.5.0-rc.1")
      (Constraint.ofText (",".intercalate [">= 1.0.0", "^2.0.0"]))).satisfies = false := by
  have same : ∀ f, f ∈ [">= 1.0.0", "< 2.0.0"] ↔ f ∈ ["< 2.0.0", ">= 1.0.0", "< 2.0.0"] := by
    intro f
    simp only [List.mem_cons, List.not_mem_nil, or_false]
    tauto
  have among : ["^2.0.0"] ⊆ [">= 1.0.0", "^2.0.0"] := List.subset_cons_self _ _
  have fails : (ofConstraints (.text "1.5.0-rc.1")
      (Constraint.ofText (",".intercalate ["^2.0.0"]))).satisfies = false := by decide +kernel
  obtain ⟨-, -, reordered, further⟩ := satisfies_conjunction
  exact ⟨same, reordered _ _ _ same, among, fails, further _ _ _ among fails⟩

end EnvDoctor
