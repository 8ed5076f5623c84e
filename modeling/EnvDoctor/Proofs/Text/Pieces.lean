import EnvDoctor.Text.Pieces
import Mathlib.Data.List.Basic
import Mathlib.Data.List.TakeWhile

/-!
# Splitting, joining and trimming

Splitting distributes over a separator, so that pieces without separators are what splitting gives
back after they have been joined. Trimming and the search for fields leave a text alone in which
there is nothing to trim or to split at.
-/

namespace EnvDoctor.Text

theorem consFirst_append {c : Char} {pieces : List (List Char)} (nonempty : pieces ≠ [])
    (more : List (List Char)) : consFirst c (pieces ++ more) = consFirst c pieces ++ more := by
  cases pieces with
  | nil => exact absurd rfl nonempty
  | cons piece rest => rfl

theorem splitWhere_append_cons {p : Char → Bool} {c : Char} (separates : p c = true)
    (s t : List Char) : splitWhere p (s ++ c :: t) = splitWhere p s ++ splitWhere p t := by
  induction s with
  | nil => simp [splitWhere_cons_of_separator separates]
  | cons d s ih =>
    cases hd : p d with
    | true => simp [splitWhere_cons_of_separator hd, ih]
    | false =>
      rw [List.cons_append, splitWhere_cons_of_not_separator hd,
        splitWhere_cons_of_not_separator hd, ih]
      exact consFirst_append (splitWhere_ne_nil p s) _

theorem splitWhere_of_forall_not {p : Char → Bool} {s : List Char}
    (whole : ∀ c ∈ s, p c = false) : splitWhere p s = [s] := by
  induction s with
  | nil => rfl
  | cons c s ih =>
    rw [splitWhere_cons_of_not_separator (whole c (by simp)),
      ih fun d hd => whole d (by simp [hd])]
    rfl

theorem joinWith_cons_cons (separator : Char) (piece second : List Char)
    (rest : List (List Char)) : joinWith [separator] (piece :: second :: rest) =
      piece ++ separator :: joinWith [separator] (second :: rest) := by
  simp [joinWith]

theorem joinWith_eq_intercalate (separator : List Char) (pieces : List (List Char)) :
    joinWith separator pieces = separator.intercalate pieces := by
  fun_induction joinWith separator pieces with
  | case1 => rfl
  | case2 piece => exact List.intercalate_singleton.symm
  | case3 piece more nonempty ih =>
    obtain ⟨second, rest, rfl⟩ := List.exists_cons_of_ne_nil nonempty
    rw [List.intercalate_cons_cons, ih]

theorem splitOn_joinWith {separator : Char} {pieces : List (List Char)} (nonempty : pieces ≠ [])
    (whole : ∀ piece ∈ pieces, separator ∉ piece) :
    splitOn separator (joinWith [separator] pieces) = pieces := by
  induction pieces with
  | nil => exact absurd rfl nonempty
  | cons piece more ih =>
    have first : ∀ c ∈ piece, (c == separator) = false := by
      intro c hc
      rw [beq_eq_false_iff_ne]
      rintro rfl
      exact whole piece (by simp) hc
    cases more with
    | nil => exact splitWhere_of_forall_not first
    | cons second rest =>
      have tail := ih (by simp) fun q hq => whole q (by simp [hq])
      calc splitOn separator (joinWith [separator] (piece :: second :: rest))
          = splitOn separator (piece ++ separator :: joinWith [separator] (second :: rest)) := by
            rw [joinWith_cons_cons]
        _ = splitOn separator piece ++
              splitOn separator (joinWith [separator] (second :: rest)) :=
            splitWhere_append_cons (by simp) _ _
        _ = piece :: second :: rest := by
            rw [tail, splitOn, splitWhere_of_forall_not first]
            rfl

theorem splitOn_cons_self (separator : Char) (s : List Char) :
    splitOn separator (separator :: s) = [] :: splitOn separator s :=
  splitWhere_cons_of_separator (p := (· == separator)) (beq_self_eq_true separator) s

theorem splitOn_cons_of_ne {separator c : Char} (differs : c ≠ separator) (s : List Char) :
    splitOn separator (c :: s) = consFirst c (splitOn separator s) :=
  splitWhere_cons_of_not_separator (p := (· == separator)) (beq_eq_false_iff_ne.mpr differs) s

theorem exists_splitOn_eq_cons (separator : Char) (s : List Char) :
    ∃ first more, splitOn separator s = first :: more :=
  List.exists_cons_of_ne_nil (splitWhere_ne_nil _ s)

/-- Joining the pieces of a text gives the text back. -/
theorem joinWith_splitOn (separator : Char) (s : List Char) :
    joinWith [separator] (splitOn separator s) = s := by
  induction s with
  | nil => rfl
  | cons c s ih =>
    obtain ⟨first, more, pieces⟩ := exists_splitOn_eq_cons separator s
    rw [pieces] at ih
    by_cases separates : c = separator
    · rw [separates, splitOn_cons_self, pieces, joinWith_cons_cons, ih, List.nil_append]
    · rw [splitOn_cons_of_ne separates, pieces, consFirst]
      cases more with
      | nil => exact congrArg (List.cons c) ih
      | cons second rest =>
        rw [joinWith_cons_cons] at ih ⊢
        exact congrArg (List.cons c) ih

theorem notMem_of_mem_splitOn {separator : Char} {s piece : List Char}
    (among : piece ∈ splitOn separator s) : separator ∉ piece := by
  induction s generalizing piece with
  | nil =>
    rw [List.mem_singleton.mp among]
    exact List.not_mem_nil
  | cons c s ih =>
    by_cases separates : c = separator
    · rw [separates, splitOn_cons_self] at among
      rcases List.mem_cons.mp among with rfl | among
      · exact List.not_mem_nil
      · exact ih among
    · obtain ⟨first, more, pieces⟩ := exists_splitOn_eq_cons separator s
      rw [pieces] at ih
      rw [splitOn_cons_of_ne separates, pieces, consFirst] at among
      rcases List.mem_cons.mp among with rfl | among
      · exact List.not_mem_cons_of_ne_of_not_mem (Ne.symm separates) (ih List.mem_cons_self)
      · exact ih (List.mem_cons_of_mem _ among)

theorem sublist_joinWith {pieces : List (List Char)} {piece : List Char} (separator : Char)
    (among : piece ∈ pieces) : piece.Sublist (joinWith [separator] pieces) := by
  induction pieces with
  | nil => cases among
  | cons first more ih =>
    cases more with
    | nil =>
      obtain rfl := List.mem_singleton.mp among
      exact .refl _
    | cons second rest =>
      rw [joinWith_cons_cons]
      rcases List.mem_cons.mp among with rfl | among
      · exact List.sublist_append_left _ _
      · exact ((ih among).cons _).trans (List.sublist_append_right _ _)

theorem mem_of_mem_splitOn {separator c : Char} {s piece : List Char}
    (among : piece ∈ splitOn separator s) (inside : c ∈ piece) : c ∈ s := by
  rw [← joinWith_splitOn separator s]
  exact (sublist_joinWith separator among).mem inside

theorem joinWith_filter_sublist (separator : Char) (keep : List Char → Bool)
    (pieces : List (List Char)) :
    (joinWith [separator] (pieces.filter keep)).Sublist (joinWith [separator] pieces) := by
  induction pieces with
  | nil => exact .slnil
  | cons piece more ih =>
    cases more with
    | nil =>
      cases kept : keep piece with
      | false =>
        rw [List.filter_cons_of_neg (by simp [kept])]
        exact List.nil_sublist _
      | true =>
        rw [List.filter_cons_of_pos kept]
        exact .refl _
    | cons second rest =>
      rw [joinWith_cons_cons]
      cases kept : keep piece with
      | false =>
        rw [List.filter_cons_of_neg (by simp [kept])]
        exact (ih.cons _).trans (List.sublist_append_right _ _)
      | true =>
        rw [List.filter_cons_of_pos kept]
        cases others : (second :: rest).filter keep with
        | nil => exact List.sublist_append_left _ _
        | cons third last =>
          rw [joinWith_cons_cons, ← others]
          exact (ih.cons_cons _).append_left _

theorem mem_joinWith {separator pieces : _} {c : Char} (hc : c ∈ joinWith separator pieces) :
    c ∈ separator ∨ ∃ piece ∈ pieces, c ∈ piece := by
  fun_induction joinWith separator pieces with
  | case1 => simp at hc
  | case2 piece => exact .inr ⟨piece, by simp, hc⟩
  | case3 piece more _ ih =>
    rcases List.mem_append.mp hc with hc | hc
    · rcases List.mem_append.mp hc with hc | hc
      · exact .inr ⟨piece, by simp, hc⟩
      · exact .inl hc
    · rcases ih hc with hc | ⟨q, hq, hc⟩
      · exact .inl hc
      · exact .inr ⟨q, by simp [hq], hc⟩

theorem fields_of_forall_not {p : Char → Bool} {s : List Char} (nonempty : s ≠ [])
    (whole : ∀ c ∈ s, p c = false) : fields p s = [s] := by
  simp [fields, splitWhere_of_forall_not whole, nonempty]

theorem fields_append_cons {p : Char → Bool} {c : Char} (separates : p c = true)
    (s t : List Char) : fields p (s ++ c :: t) = fields p s ++ fields p t := by
  rw [fields, splitWhere_append_cons separates, List.filter_append]
  rfl

/-- Separators at the end of a text add no field. -/
theorem fields_append_of_forall {p : Char → Bool} {separators : List Char}
    (separate : ∀ c ∈ separators, p c = true) (s : List Char) :
    fields p (s ++ separators) = fields p s := by
  induction separators generalizing s with
  | nil => rw [List.append_nil]
  | cons c separators ih =>
    rw [fields_append_cons (separate c (by simp)), ← List.nil_append separators,
      ih (fun d hd => separate d (by simp [hd])) []]
    simp [fields]

/-- Separators at the start of a text add no field. -/
theorem fields_append_left_of_forall {p : Char → Bool} {separators : List Char}
    (separate : ∀ c ∈ separators, p c = true) (s : List Char) :
    fields p (separators ++ s) = fields p s := by
  induction separators with
  | nil => rfl
  | cons c separators ih =>
    have rest := fields_append_cons (separate c (by simp)) [] (separators ++ s)
    rw [List.nil_append] at rest
    rw [List.cons_append, rest, ih fun d hd => separate d (by simp [hd])]
    rfl

theorem dropWhile_of_forall_not {p : Char → Bool} {s : List Char} (h : ∀ c ∈ s, p c = false) :
    s.dropWhile p = s := by
  cases s with
  | nil => rfl
  | cons c s => simp [h c (by simp)]

theorem takeWhile_congr {p q : Char → Bool} {s : List Char} (same : ∀ c ∈ s, p c = q c) :
    s.takeWhile p = s.takeWhile q ∧ s.dropWhile p = s.dropWhile q := by
  induction s with
  | nil => exact ⟨rfl, rfl⟩
  | cons c s ih =>
    have rest := ih fun d hd => same d (List.mem_cons_of_mem c hd)
    rw [List.takeWhile_cons, List.takeWhile_cons, List.dropWhile_cons, List.dropWhile_cons,
      same c List.mem_cons_self, rest.1, rest.2]
    exact ⟨rfl, rfl⟩

/-- A run of characters that satisfy a test is taken whole if no such character follows it. -/
theorem takeWhile_append_of_stops {p : Char → Bool} {s rest : List Char}
    (run : ∀ c ∈ s, p c = true) (stops : ∀ c ∈ rest.head?, p c = false) :
    (s ++ rest).takeWhile p = s ∧ (s ++ rest).dropWhile p = rest := by
  rw [List.takeWhile_append_of_pos run, List.dropWhile_append_of_pos run]
  cases rest with
  | nil => simp
  | cons c rest => simp [stops c (by simp)]

/-- A run at the beginning of a text ends where it did if such a character does not follow the
text. -/
theorem takeWhile_append_of_not_head {p : Char → Bool} {rest : List Char}
    (stops : ∀ c ∈ rest.head?, p c = false) (s : List Char) :
    (s ++ rest).takeWhile p = s.takeWhile p ∧ (s ++ rest).dropWhile p = s.dropWhile p ++ rest := by
  induction s with
  | nil => exact takeWhile_append_of_stops (List.forall_mem_nil _) stops
  | cons c s ih => cases h : p c <;> simp [h, ih]

theorem exists_run (p : Char → Bool) (s : List Char) :
    ∃ run rest, s = run ++ rest ∧ (∀ c ∈ run, p c = true) ∧ ∀ c ∈ rest.head?, p c = false := by
  refine ⟨s.takeWhile p, s.dropWhile p, List.takeWhile_append_dropWhile.symm,
    fun c among => List.mem_takeWhile_imp among, fun c first => ?_⟩
  have stops := List.head?_dropWhile_not p s
  rw [Option.mem_def.mp first] at stops
  simpa using stops

/-- A text is what remains of it without a run at its end, and that run. -/
theorem dropWhile_reverse_append (p : Char → Bool) (s : List Char) :
    (s.reverse.dropWhile p).reverse ++ (s.reverse.takeWhile p).reverse = s := by
  rw [← List.reverse_append, List.takeWhile_append_dropWhile, List.reverse_reverse]

theorem forall_of_mem_reverse_takeWhile {p : Char → Bool} {s : List Char} :
    ∀ c ∈ (s.reverse.takeWhile p).reverse, p c = true :=
  fun _ hc => List.mem_takeWhile_imp (List.mem_reverse.mp hc)

/-- What remains without a run at the end does not end in a character of the run. -/
theorem not_of_getLast?_dropWhile {p : Char → Bool} {s : List Char} {c : Char}
    (last : ((s.reverse.dropWhile p).reverse).getLast? = some c) : p c = false := by
  rw [List.getLast?_reverse] at last
  have first := List.head?_dropWhile_not p s.reverse
  rw [last] at first
  simpa using first

/-- Every character of a text separates or stands in a piece. -/
theorem separator_or_mem_piece {p : Char → Bool} {s : List Char} {c : Char} (hc : c ∈ s) :
    p c = true ∨ ∃ piece ∈ splitWhere p s, c ∈ piece := by
  induction s with
  | nil => cases hc
  | cons d s ih =>
    cases hd : p d with
    | true =>
      rw [splitWhere_cons_of_separator hd]
      rcases List.mem_cons.mp hc with rfl | hc
      · exact .inl hd
      · refine (ih hc).imp_right ?_
        rintro ⟨piece, member, inside⟩
        exact ⟨piece, List.mem_cons_of_mem _ member, inside⟩
    | false =>
      rw [splitWhere_cons_of_not_separator hd]
      cases pieces : splitWhere p s with
      | nil => exact absurd pieces (splitWhere_ne_nil p s)
      | cons first more =>
        rw [pieces] at ih
        rcases List.mem_cons.mp hc with rfl | hc
        · exact .inr ⟨c :: first, by simp [consFirst], by simp⟩
        · refine (ih hc).imp_right ?_
          rintro ⟨piece, member, inside⟩
          rcases List.mem_cons.mp member with rfl | member
          · exact ⟨d :: piece, by simp [consFirst], by simp [inside]⟩
          · exact ⟨piece, by simp [consFirst, member], inside⟩

/-- A text that does not end in a separator ends with a piece. -/
theorem exists_mem_fields_append_singleton {p : Char → Bool} {c : Char} (inner : p c = false)
    (s : List Char) : ∃ piece, piece ++ [c] ∈ fields p (s ++ [c]) := by
  have split : ∃ piece, piece ++ [c] ∈ splitWhere p (s ++ [c]) := by
    induction s with
    | nil => exact ⟨[], by simp [splitWhere, consFirst, inner]⟩
    | cons d s ih =>
      obtain ⟨piece, among⟩ := ih
      rw [List.cons_append]
      cases hd : p d with
      | true =>
        rw [splitWhere_cons_of_separator hd]
        exact ⟨piece, List.mem_cons_of_mem _ among⟩
      | false =>
        rw [splitWhere_cons_of_not_separator hd]
        cases pieces : splitWhere p (s ++ [c]) with
        | nil => exact absurd pieces (splitWhere_ne_nil p _)
        | cons first more =>
          rw [pieces] at among
          rcases List.mem_cons.mp among with rfl | among
          · exact ⟨d :: piece, by simp [consFirst]⟩
          · exact ⟨piece, by simp [consFirst, among]⟩
  obtain ⟨piece, among⟩ := split
  exact ⟨piece, List.mem_filter.mpr ⟨among, by simp⟩⟩

theorem exists_blanks_trimRight (s : List Char) :
    ∃ after, (∀ c ∈ after, isBlank c = true) ∧ s = trimRight s ++ after :=
  ⟨_, forall_of_mem_reverse_takeWhile, (dropWhile_reverse_append isBlank s).symm⟩

/-- A text is what remains after trimming, with blanks before and after it. -/
theorem exists_blanks_trim (s : List Char) :
    ∃ before after, (∀ c ∈ before, isBlank c = true) ∧ (∀ c ∈ after, isBlank c = true) ∧
      s = before ++ trim s ++ after := by
  obtain ⟨after, blankAfter, whole⟩ := exists_blanks_trimRight (trimLeft s)
  refine ⟨s.takeWhile isBlank, after, fun c hc => List.mem_takeWhile_imp hc, blankAfter, ?_⟩
  rw [List.append_assoc, trim, ← whole, trimLeft, List.takeWhile_append_dropWhile]

/-- What remains after trimming does not end in a blank. -/
theorem not_blank_of_getLast?_trim {s : List Char} {c : Char} (last : (trim s).getLast? = some c) :
    isBlank c = false :=
  not_of_getLast?_dropWhile last

/-- What remains after trimming does not begin with a blank. -/
theorem not_blank_of_head?_trim {s : List Char} {c : Char} (first : (trim s).head? = some c) :
    isBlank c = false := by
  obtain ⟨after, -, whole⟩ := exists_blanks_trimRight (trimLeft s)
  have same : (trimLeft s).head? = some c := by
    rw [whole, List.head?_append, ← trim, first]
    rfl
  have stops := List.head?_dropWhile_not isBlank s
  rw [← trimLeft, same] at stops
  exact stops

theorem trim_of_forall_blank {s : List Char} (blank : ∀ c ∈ s, isBlank c = true) : trim s = [] := by
  have none : trimLeft s = [] := List.dropWhile_eq_nil_iff.mpr blank
  rw [trim, none]
  rfl

/-- Blanks before and after a text that neither begins nor ends with a blank are trimmed away. -/
theorem trim_append_append {before s after : List Char} (nonempty : s ≠ [])
    (first : ∀ c ∈ s.head?, isBlank c = false) (last : ∀ c ∈ s.getLast?, isBlank c = false)
    (blankBefore : ∀ c ∈ before, isBlank c = true) (blankAfter : ∀ c ∈ after, isBlank c = true) :
    trim (before ++ s ++ after) = s := by
  have left : trimLeft (before ++ (s ++ after)) = s ++ after := by
    apply (takeWhile_append_of_stops blankBefore _).2
    rwa [List.head?_append_of_ne_nil _ nonempty]
  have right : (after.reverse ++ s.reverse).dropWhile isBlank = s.reverse := by
    apply (takeWhile_append_of_stops _ _).2
    · exact fun c hc => blankAfter c (List.mem_reverse.mp hc)
    · rwa [List.head?_reverse]
  rw [List.append_assoc, trim, left, trimRight, List.reverse_append, right, List.reverse_reverse]

theorem trim_trim (s : List Char) : trim (trim s) = trim s := by
  by_cases empty : trim s = []
  · rw [empty]
    rfl
  · simpa using trim_append_append empty (fun _ first => not_blank_of_head?_trim first)
      (fun _ last => not_blank_of_getLast?_trim last) (List.forall_mem_nil _) (List.forall_mem_nil _)

theorem trim_of_forall_not_blank {s : List Char} (h : ∀ c ∈ s, isBlank c = false) :
    trim s = s := by
  have reversed : ∀ c ∈ s.reverse, isBlank c = false := fun c hc => h c (List.mem_reverse.mp hc)
  rw [trim, trimLeft, dropWhile_of_forall_not h, trimRight, dropWhile_of_forall_not reversed,
    List.reverse_reverse]

end EnvDoctor.Text
