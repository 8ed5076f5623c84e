import EnvDoctor.Proofs.Requirement.Printing
import EnvDoctor.Proofs.Version.Canonical

/-!
# Verdicts as requirements

The descriptions in a verdict that are no complaints are operators with canonical version texts. Put
together with commas they are a requirement text, which is read as just these operators and versions
and leads to the same verdict on them.
-/

namespace EnvDoctor

namespace Constraint

def written (c : Operator × String) : String :=
  c.1.symbol ++ c.2

/-- The constraints whose version texts can be read, with the canonical forms of these texts. -/
def cleaned [VersionLibrary] (cs : List (Operator × String)) : List (Operator × String) :=
  cs.filterMap fun c => (Version.clean? c.2).map fun text => (c.1, text)

def isComplaint (description : String) : Bool :=
  "Invalid version format: ".toList.isPrefixOf description.toList

/-- The descriptions that are no complaints about a version text. -/
def reported (descriptions : List String) : List String :=
  descriptions.filter fun d => !isComplaint d

theorem display_ofPair (c : Operator × String) : display (ofPair c) = written c := by
  simp [display, ofPair, written]

theorem not_isComplaint_written (c : Operator × String) : isComplaint (written c) = false := by
  obtain ⟨op, text⟩ := c
  cases op <;> simp [isComplaint, written, Operator.symbol, List.isPrefixOf]

section Library

variable [VersionLibrary]

theorem description_of_clean {op : Operator} {raw text : String}
    (clean : Version.clean? raw = some text) : description (op, raw) = written (op, text) := by
  rw [description, clean, written]

theorem isComplaint_of_unclean {op : Operator} {raw : String}
    (unclean : Version.clean? raw = none) : isComplaint (description (op, raw)) = true := by
  rw [description, unclean, isComplaint, List.isPrefixOf_iff_prefix, String.append_assoc,
    String.toList_append]
  exact List.prefix_append _ _

/-- Among the constraints that pass a test, which does not tell a version text from its canonical
form, the descriptions that are no complaints are the written forms of the cleaned ones. -/
theorem reported_filter {p : Operator × String → Bool}
    (keeps : ∀ op raw text, Version.clean? raw = some text → p (op, text) = p (op, raw))
    (cs : List (Operator × String)) :
    reported ((cs.filter p).map description) = ((cleaned cs).filter p).map written := by
  induction cs with
  | nil => rfl
  | cons c cs ih =>
    obtain ⟨op, raw⟩ := c
    cases clean : Version.clean? raw with
    | none =>
      have dropped : cleaned ((op, raw) :: cs) = cleaned cs := by simp [cleaned, clean]
      rw [dropped, ← ih, List.filter_cons]
      split
      · rw [List.map_cons, reported, List.filter_cons_of_neg, reported]
        simp [isComplaint_of_unclean clean]
      · rfl
    | some text =>
      have kept : cleaned ((op, raw) :: cs) = (op, text) :: cleaned cs := by
        simp [cleaned, clean]
      rw [kept, List.filter_cons, List.filter_cons, keeps op raw text clean]
      split
      · rw [List.map_cons, List.map_cons, ← ih, reported, description_of_clean clean,
          List.filter_cons_of_pos, reported]
        rw [not_isComplaint_written]
        rfl
      · exact ih

section Lawful

variable {isDigit : Char → Bool} [lawful : LawfulVersionLibrary isDigit]

theorem exists_version_of_mem_cleaned {cs : List (Operator × String)} {c : Operator × String}
    (among : c ∈ cleaned cs) : ∃ v : Version, v.WellFormed isDigit ∧ c.2 = toString v := by
  obtain ⟨⟨op, raw⟩, -, found⟩ := List.mem_filterMap.mp among
  obtain ⟨text, clean, rfl⟩ := Option.map_eq_some_iff.mp found
  obtain ⟨v, read, rfl⟩ := Option.map_eq_some_iff.mp clean
  exact ⟨v, Version.wellFormed_of_parse? read, rfl⟩

include lawful

theorem parse?_of_clean {raw text : String} (clean : Version.clean? raw = some text) :
    Version.parse? text = Version.parse? raw := by
  obtain ⟨w, read, rfl⟩ := Option.map_eq_some_iff.mp clean
  rw [read, (Version.wellFormed_of_parse? read).parse?_written]

theorem description_of_mem_cleaned {cs : List (Operator × String)} {c : Operator × String}
    (among : c ∈ cleaned cs) : description c = written c := by
  obtain ⟨op, text⟩ := c
  obtain ⟨v, wf, rfl⟩ := exists_version_of_mem_cleaned among
  apply description_of_clean
  rw [Version.clean?, wf.parse?_written]
  rfl

section Answers

variable (v : Version) (cs : List (Operator × String))

/-- A canonical version text is answered as the text from which it comes. -/
theorem answer_of_clean {op : Operator} {raw text : String}
    (clean : Version.clean? raw = some text) : answer v (op, text) = answer v (op, raw) := by
  rw [answer, answer, parse?_of_clean clean]

/-- What is said of the constraints that hold is no complaint. -/
theorem admitted_eq : (cs.filter fun c => answer v c = .ok true).map description =
    ((cleaned cs).filter fun c => answer v c = .ok true).map written := by
  have all := reported_filter (p := fun c => answer v c = .ok true)
    (fun _ _ _ clean => by rw [answer_of_clean v clean]) cs
  rw [← all, reported, eq_comm, List.filter_eq_self, List.forall_mem_map]
  rintro ⟨op, raw⟩ among
  have holds : answer v (op, raw) = .ok true := of_decide_eq_true (List.mem_filter.mp among).2
  cases read : Version.parse? raw with
  | none =>
    rw [answer, read] at holds
    cases holds
  | some w =>
    have clean : Version.clean? raw = some (toString w) :=
      Option.map_eq_some_iff.mpr ⟨w, read, rfl⟩
    rw [description_of_clean clean, not_isComplaint_written]
    rfl

theorem reported_rejected : reported ((cs.filter fun c => ¬ answer v c = .ok true).map description) =
    ((cleaned cs).filter fun c => ¬ answer v c = .ok true).map written :=
  reported_filter (fun _ _ _ clean => by rw [answer_of_clean v clean]) cs

variable {v cs}

theorem answers_cleaned (answers : ∀ c ∈ cs, ∃ b, answer v c = .ok b) :
    ∀ c ∈ cleaned cs, ∃ b, answer v c = .ok b := by
  intro c among
  obtain ⟨⟨op, raw⟩, inside, found⟩ := List.mem_filterMap.mp among
  obtain ⟨text, clean, rfl⟩ := Option.map_eq_some_iff.mp found
  rw [answer_of_clean v clean]
  exact answers _ inside

end Answers

end Lawful

end Library

section Canonical

variable {isDigit : Char → Bool} (digits : Version.IsDigitClass isDigit)

include digits

theorem isVersionText_written {w : Version} (wf : w.WellFormed isDigit) :
    IsVersionText w.written := by
  have inner := Range.isInner_of_ofChars? digits (wf.ofChars?_written digits)
  obtain ⟨d, rest, begins, -⟩ := w.written_eq_digit_cons
  constructor
  · simp [begins]
  · intro c hc
    exact Range.not_blank_of_isInner (inner c (List.mem_of_mem_head? hc))
  · intro c hc
    exact Range.not_blank_of_isInner (inner c (List.mem_of_mem_getLast? hc))
  · intro feed
    exact absurd (inner _ feed) (by decide)
  · intro comma
    exact absurd (inner _ comma) (by decide)

omit digits in
/-- No operator becomes a longer one in front of a digit. -/
theorem reread_written (op : Operator) (w : Version) :
    reread (op, w.written) = (op, w.written) := by
  rcases reread_cases op w.written with ⟨longer, next, rest, -, equals, -⟩ | ⟨same, -⟩
  · obtain ⟨d, more, begins, digit⟩ := w.written_eq_digit_cons
    rw [begins] at equals
    obtain rfl : d = '=' := (List.cons.inj equals).1
    exact absurd digit (by decide)
  · exact same

/-- Constraints with canonical version texts are read back from their written forms. -/
theorem ofText_written {cs : List (Operator × String)}
    (canonical : ∀ c ∈ cs, ∃ v : Version, v.WellFormed isDigit ∧ c.2 = toString v) :
    ofText (", ".intercalate (cs.map written)) = cs.map ofPair := by
  have text (v : Version) : (toString v).toList = v.written := String.toList_ofList
  have texts : ∀ c ∈ cs.map fun c => (c.1, c.2.toList), IsVersionText c.2 := by
    rw [List.forall_mem_map]
    rintro ⟨op, raw⟩ among
    obtain ⟨v, wf, rfl⟩ := canonical _ among
    rw [text]
    exact isVersionText_written digits wf
  have parts : (cs.map fun c => (c.1, c.2.toList)).map ofParts = cs.map ofPair := by
    simp [ofParts, Function.comp_def]
  have stays : ∀ c ∈ cs.map fun c => (c.1, c.2.toList), ofParts (reread c) = ofParts c := by
    rw [List.forall_mem_map]
    rintro ⟨op, raw⟩ among
    obtain ⟨v, -, rfl⟩ := canonical _ among
    rw [text, reread_written]
  have shown : printed (cs.map ofPair) = ", ".intercalate (cs.map written) := by
    simp [printed, Function.comp_def, display_ofPair]
  rw [← shown, ← parts, ofText_printed texts, List.map_congr_left stays]

end Canonical

end Constraint

namespace Verdict

open Constraint

section Library

variable [VersionLibrary] {isDigit : Char → Bool} [lawful : LawfulVersionLibrary isDigit]

include lawful

/-- The descriptions in a verdict that are no complaints, put together with commas, are read as
their operators and canonical version texts. The verdict on these has the same descriptions, and no
complaints. -/
theorem reported_replays {current : String} (clean : (Version.clean? current).isSome = true)
    (cs : List (Operator × String))
    (done : ofConstraints (.text current) (cs.map ofPair) ≠ processingError) :
    ∃ verdict again : Verdict,
      ofConstraints (.text current) (cs.map ofPair) = verdict ∧
      (∃ holds : Operator × String → Bool,
        verdict.satisfied = ((cleaned cs).filter holds).map written ∧
        reported verdict.failed = ((cleaned cs).filter fun c => !holds c).map written) ∧
      ofText (", ".intercalate ((cleaned cs).map written)) = (cleaned cs).map ofPair ∧
      ofConstraints (.text current) (ofText (", ".intercalate ((cleaned cs).map written))) = again ∧
      again.satisfied = verdict.satisfied ∧ again.failed = reported verdict.failed := by
  obtain ⟨cleanedCurrent, same⟩ := Option.isSome_iff_exists.mp clean
  obtain ⟨v, read, -⟩ := Option.map_eq_some_iff.mp same
  have answers : ∀ c ∈ cs, ∃ b, answer v c = .ok b := by
    refine (answers_or_fault v cs).resolve_right ?_
    rintro ⟨c, among, fault, broken⟩
    exact done (ofConstraints_of_fault read among broken)
  have reread := ofText_written lawful.digits fun c (among : c ∈ cleaned cs) =>
    exists_version_of_mem_cleaned among
  have described (p : Operator × String → Bool) : ((cleaned cs).filter p).map description =
      ((cleaned cs).filter p).map written :=
    List.map_congr_left fun c hc => description_of_mem_cleaned (List.mem_of_mem_filter hc)
  have first := ofConstraints_of_answers read answers
  have second := ofConstraints_of_answers read (answers_cleaned answers)
  refine ⟨_, _, rfl, ⟨fun c => answer v c = .ok true, ?_, ?_⟩, reread, rfl, ?_, ?_⟩
  · rw [first]
    exact admitted_eq v cs
  · rw [first]
    simpa using reported_rejected v cs
  · rw [reread, first, second]
    dsimp only
    rw [described, admitted_eq]
  · rw [reread, first, second]
    dsimp only
    rw [reported_rejected, described]

end Library

theorem reported_replays_complaint :
    (Version.clean? " v1.2.0-rc.2").isSome = true ∧
      Constraint.ofText "^1.2.0-rc.1, <1.2.0-rc.2" =
        [(.caret, "1.2.0-rc.1"), (.below, "1.2.0-rc.2")].map ofPair ∧
      ∃ verdict again : Verdict,
        ofConstraints (.text " v1.2.0-rc.2") ([(.caret, " =v1.2.0-rc.1+b7"), (.atLeast, "1.2"),
          (.below, "v1.2.0-rc.2")].map ofPair) = verdict ∧
        ofConstraints (.text " v1.2.0-rc.2") (ofText "^1.2.0-rc.1, <1.2.0-rc.2") = again ∧
        again.satisfied = verdict.satisfied ∧ again.failed = reported verdict.failed := by
  have clean : (Version.clean? " v1.2.0-rc.2").isSome = true := by decide +kernel
  have done : ofConstraints (.text " v1.2.0-rc.2") ([(.caret, " =v1.2.0-rc.1+b7"), (.atLeast, "1.2"),
      (.below, "v1.2.0-rc.2")].map ofPair) ≠ processingError := by decide +kernel
  have joined : ", ".intercalate ((cleaned [(.caret, " =v1.2.0-rc.1+b7"), (.atLeast, "1.2"),
      (.below, "v1.2.0-rc.2")]).map written) = "^1.2.0-rc.1, <1.2.0-rc.2" := by decide +kernel
  have pairs : cleaned [(.caret, " =v1.2.0-rc.1+b7"), (.atLeast, "1.2"), (.below, "v1.2.0-rc.2")] =
      [(.caret, "1.2.0-rc.1"), (.below, "1.2.0-rc.2")] := by decide +kernel
  obtain ⟨verdict, again, first, -, read, second, satisfied, failed⟩ := reported_replays clean
    [(.caret, " =v1.2.0-rc.1+b7"), (.atLeast, "1.2"), (.below, "v1.2.0-rc.2")] done
  rw [joined] at read second
  rw [pairs] at read
  exact ⟨clean, read, verdict, again, first, second, satisfied, failed⟩

end Verdict

end EnvDoctor
