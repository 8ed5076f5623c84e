import EnvDoctor.Json.Reader
import EnvDoctor.Proofs.Outcome
import EnvDoctor.Proofs.Text.Pieces

/-!
# Documents with blanks behind them

What is read at the beginning of a text is read as well if blanks follow the text, however much fuel
there is on top: neither a string nor a number nor a word takes anything from them.
-/

namespace EnvDoctor.Json

variable {pad : List Char}

section Strings

theorem hex4?_append {s rest : List Char} {n : Nat} (read : hex4? s = some (n, rest)) :
    hex4? (s ++ pad) = some (n, rest ++ pad) := by
  unfold hex4? at read
  split at read
  next a b c d more =>
    split at read
    next hex =>
      cases read
      simp only [Bool.and_eq_true, Bool.not_eq_true', List.isEmpty_eq_false_iff] at hex
      simp [hex4?, hex]
    next => cases read
  next => cases read

theorem length_of_hex4? {s rest : List Char} {n : Nat} (read : hex4? s = some (n, rest)) :
    4 < s.length := by
  unfold hex4? at read
  split at read
  next a b c d more =>
    split at read
    next hex =>
      cases more with
      | nil => simp at hex
      | cons => simp
    next => cases read
  next => cases read

theorem length_of_unicodeEscape {s : List Char} {r : Char × List Char}
    (read : unicodeEscape s = .ok r) : 4 < s.length := by
  unfold unicodeEscape at read
  split at read
  next => cases read
  next digits => exact length_of_hex4? digits

/-- After a backslash a string goes on, and if that is an escape with digits, with enough of them. -/
theorem continues_of_stringChars {start fuel : Nat} {s : List Char} {r : List Char × List Char}
    (read : stringChars start fuel ('\\' :: s) = .ok r) :
    s ≠ [] ∧ ∀ digits, s = 'u' :: digits → 4 < digits.length := by
  cases fuel with
  | zero => cases read
  | succ fuel =>
    constructor
    · rintro rfl
      cases read
    · rintro digits rfl
      rw [stringChars, if_neg (by decide), if_neg (by decide), if_pos rfl] at read
      obtain ⟨_, escaped, -⟩ := bind_eq_ok_iff.mp read
      exact length_of_unicodeEscape escaped

/-- A second escape that is too short to make a pair is not read later either. -/
theorem unicodeEscape_append {s rest : List Char} {c : Char} {start fuel : Nat}
    {r : List Char × List Char} (read : unicodeEscape s = .ok (c, rest))
    (follows : stringChars start fuel rest = .ok r) :
    unicodeEscape (s ++ pad) = .ok (c, rest ++ pad) := by
  unfold unicodeEscape at read ⊢
  split at read
  next => cases read
  next high rest' digits =>
    rw [hex4?_append digits]
    dsimp only at read ⊢
    split at read
    next more =>
      simp only [List.cons_append]
      split at read
      next pair =>
        have pair' : (isHighSurrogate high && decide (4 < (more ++ pad).length)) = true := by
          simp only [Bool.and_eq_true, decide_eq_true_eq, List.length_append] at pair ⊢
          exact ⟨pair.1, Nat.lt_add_right _ pair.2⟩
        rw [if_pos pair']
        split at read
        next => cases read
        next low rest'' digits' =>
          rw [hex4?_append digits']
          dsimp only
          split at read
          next isLow =>
            obtain ⟨same, rfl⟩ := Prod.mk.inj (Except.ok.inj read)
            rw [if_pos isLow, same]
          next isLow =>
            cases read
            rw [if_neg isLow]
            rfl
      next single =>
        cases read
        have long := (continues_of_stringChars follows).2 more rfl
        have single' : ¬ (isHighSurrogate high && decide (4 < (more ++ pad).length)) = true := by
          simpa [long, Nat.lt_add_right] using single
        rw [if_neg single']
        rfl
    next other =>
      cases read
      split
      next more whole =>
        -- The text would end within the second escape, where a string does not end.
        cases rest with
        | nil => cases fuel <;> cases follows
        | cons first rest =>
          obtain ⟨rfl, inner⟩ := List.cons.inj whole
          cases rest with
          | nil => exact absurd rfl (continues_of_stringChars follows).1
          | cons second rest =>
            obtain ⟨rfl, -⟩ := List.cons.inj inner
            exact (other _ rfl).elim
      next => rfl

theorem stringChars_append {start start' fuel fuel' : Nat} {s cs rest : List Char}
    (read : stringChars start fuel s = .ok (cs, rest)) (enough : fuel ≤ fuel') :
    stringChars start' fuel' (s ++ pad) = .ok (cs, rest ++ pad) := by
  induction fuel generalizing fuel' s cs with
  | zero => cases read
  | succ fuel ih =>
    obtain ⟨fuel', rfl⟩ : ∃ n, fuel' = n + 1 := ⟨fuel' - 1, by omega⟩
    have enough := Nat.le_of_succ_le_succ enough
    cases s with
    | nil => cases read
    | cons c s =>
      simp only [stringChars, List.cons_append] at read ⊢
      split at read
      next quote =>
        cases read
        rw [if_pos quote]
      next quote =>
        rw [if_neg quote]
        split at read
        next => cases read
        next plain =>
          rw [if_neg plain]
          split at read
          next backslash =>
            rw [if_pos backslash]
            split at read
            next => cases read
            next digits =>
              obtain ⟨⟨d, after⟩, escaped, read⟩ := bind_eq_ok_iff.mp read
              obtain ⟨⟨more, _⟩, others, done⟩ := bind_eq_ok_iff.mp read
              cases done
              exact bind_eq_ok_iff.mpr ⟨_, unicodeEscape_append escaped others,
                bind_eq_ok_iff.mpr ⟨_, ih others enough, rfl⟩⟩
            next letter more other =>
              split at read
              next => cases read
              next d known =>
                obtain ⟨⟨after, _⟩, others, done⟩ := bind_eq_ok_iff.mp read
                cases done
                split
                next whole => cases whole
                next digits whole =>
                  obtain ⟨rfl, -⟩ := List.cons.inj whole
                  exact (other rfl).elim
                next whole =>
                  obtain ⟨rfl, rfl⟩ := List.cons.inj whole
                  rw [known]
                  exact bind_eq_ok_iff.mpr ⟨_, ih others enough, rfl⟩
          next backslash =>
            rw [if_neg backslash]
            obtain ⟨⟨more, _⟩, others, done⟩ := bind_eq_ok_iff.mp read
            cases done
            exact bind_eq_ok_iff.mpr ⟨_, ih others enough, rfl⟩

theorem string_append {s rest : List Char} {text : String} (read : string s = .ok (text, rest)) :
    string (s ++ pad) = .ok (text, rest ++ pad) := by
  obtain ⟨⟨cs, _⟩, chars, done⟩ := bind_eq_ok_iff.mp read
  cases done
  refine bind_eq_ok_iff.mpr ⟨_, stringChars_append chars ?_, rfl⟩
  simp

end Strings

section Numbers

/-- Whether a text begins with a minus sign, and the text without its sign. -/
def sign (s : List Char) : Bool × List Char :=
  match s with
  | '-' :: more => (true, more)
  | '+' :: more => (false, more)
  | _ => (false, s)

theorem not_isDigit_of_blank {c : Char} (blank : Text.isBlank c = true) : c.isDigit = false := by
  rw [Bool.eq_false_iff]
  intro digit
  simp only [Char.isDigit, Bool.and_eq_true, decide_eq_true_eq, UInt32.le_iff_toNat_le] at digit
  simp only [Text.isBlank, Char.toNat, Bool.or_eq_true, Bool.and_eq_true, decide_eq_true_eq,
    beq_iff_eq] at blank
  change 48 ≤ c.val.toNat ∧ c.val.toNat ≤ 57 at digit
  omega

variable (blank : ∀ c ∈ pad.head?, Text.isBlank c = true)

include blank

theorem digits_append (s : List Char) :
    (s ++ pad).takeWhile Char.isDigit = s.takeWhile Char.isDigit ∧
      (s ++ pad).dropWhile Char.isDigit = s.dropWhile Char.isDigit ++ pad :=
  Text.takeWhile_append_of_not_head (fun c first => not_isDigit_of_blank (blank c first)) s

theorem ne_cons_of_not_blank {c : Char} (visible : Text.isBlank c = false) (s : List Char) :
    pad ≠ c :: s := by
  rintro rfl
  rw [blank c rfl] at visible
  cases visible

theorem wholeDigits?_append {s digits rest : List Char} (read : wholeDigits? s = some (digits, rest)) :
    wholeDigits? (s ++ pad) = some (digits, rest ++ pad) := by
  unfold wholeDigits? at read
  split at read
  next =>
    cases read
    rfl
  next c rest' other =>
    split at read
    next digit =>
      cases read
      obtain ⟨taken, dropped⟩ := digits_append blank rest'
      simp [wholeDigits?, digit, taken, dropped]
    next => cases read
  next => cases read

theorem fractionDigits_append (s : List Char) :
    fractionDigits (s ++ pad) = ((fractionDigits s).1, (fractionDigits s).2 ++ pad) := by
  cases s with
  | nil =>
    unfold fractionDigits
    split
    next rest whole => exact absurd whole (ne_cons_of_not_blank blank (by decide) rest)
    next => rfl
  | cons c s =>
    obtain ⟨taken, dropped⟩ := digits_append blank s
    unfold fractionDigits
    rw [List.cons_append]
    split
    next rest whole =>
      obtain ⟨rfl, rfl⟩ := List.cons.inj whole
      simp only [taken, dropped]
      split <;> rfl
    next other =>
      split
      next rest whole =>
        obtain ⟨rfl, rfl⟩ := List.cons.inj whole
        exact (other _ rfl).elim
      next => rfl

omit blank in
theorem exponent?_of_letter {e : Char} (letter : e = 'e' ∨ e = 'E') (s : List Char) :
    exponent? (e :: s) =
      if ((sign s).2.takeWhile Char.isDigit).isEmpty then (none, e :: s)
      else
        let n : Int := Text.digitsValue ((sign s).2.takeWhile Char.isDigit)
        (some (if (sign s).1 then -n else n), (sign s).2.dropWhile Char.isDigit) := by
  unfold exponent?
  exact if_pos letter

theorem sign_append (s : List Char) : sign (s ++ pad) = ((sign s).1, (sign s).2 ++ pad) := by
  cases s with
  | nil =>
    unfold sign
    split
    next more whole => exact absurd whole (ne_cons_of_not_blank blank (by decide) more)
    next more whole => exact absurd whole (ne_cons_of_not_blank blank (by decide) more)
    next => rfl
  | cons c s =>
    unfold sign
    rw [List.cons_append]
    split
    next more whole =>
      obtain ⟨rfl, rfl⟩ := List.cons.inj whole
      rfl
    next more whole =>
      obtain ⟨rfl, rfl⟩ := List.cons.inj whole
      rfl
    next notMinus notPlus =>
      split
      next more whole =>
        obtain ⟨rfl, rfl⟩ := List.cons.inj whole
        exact (notMinus _ rfl).elim
      next more whole =>
        obtain ⟨rfl, rfl⟩ := List.cons.inj whole
        exact (notPlus _ rfl).elim
      next => rfl

theorem exponent?_append (s : List Char) :
    exponent? (s ++ pad) = ((exponent? s).1, (exponent? s).2 ++ pad) := by
  cases s with
  | nil =>
    unfold exponent?
    split
    next e rest whole =>
      have other : ¬ (e = 'e' ∨ e = 'E') := by
        rintro (rfl | rfl)
        · exact ne_cons_of_not_blank blank (by decide) rest whole
        · exact ne_cons_of_not_blank blank (by decide) rest whole
      rw [if_neg other]
    next => rfl
  | cons e s =>
    by_cases letter : e = 'e' ∨ e = 'E'
    · obtain ⟨taken, dropped⟩ := digits_append blank (sign s).2
      rw [List.cons_append, exponent?_of_letter letter, exponent?_of_letter letter,
        sign_append blank]
      simp only [taken, dropped]
      split <;> rfl
    · unfold exponent?
      dsimp only [List.cons_append]
      rw [if_neg letter, if_neg letter]
      rfl

theorem number_append {s rest : List Char} {v : Value} (read : number s = .ok (v, rest)) :
    number (s ++ pad) = .ok (v, rest ++ pad) := by
  have sign : (∃ body, s = '-' :: body) ∨
      (∀ body, s = '-' :: body → False) ∧ ∀ body, s ++ pad = '-' :: body → False := by
    by_cases negative : ∃ body, s = '-' :: body
    · exact .inl negative
    · refine .inr ⟨fun body same => negative ⟨body, same⟩, fun body same => ?_⟩
      cases s with
      | nil => exact ne_cons_of_not_blank blank (by decide) body same
      | cons c s => exact negative ⟨s, congrArg (· :: s) (List.cons.inj same).1⟩
  -- With or without a sign, the digits and what belongs to them end before the blanks.
  rcases sign with ⟨body, rfl⟩ | ⟨plain, plain'⟩
  all_goals
    simp only [number, List.cons_append] at read ⊢
    split at read
    next => cases read
    next whole after digits =>
      simp only [wholeDigits?_append blank digits, fractionDigits_append blank,
        exponent?_append blank]
      split at read
      next integer =>
        rw [if_pos integer]
        split at read
        next => cases read
        next =>
          cases read
          rfl
      next real =>
        cases read
        rw [if_neg real]

end Numbers

section Values

theorem scalar_of_word : ∀ w ∈ wordValues, ∀ rest, scalar (w.1 ++ rest) = .ok (w.2, rest) := by
  simp only [wordValues, List.forall_mem_cons]
  exact ⟨fun _ => rfl, fun _ => rfl, fun _ => rfl, fun _ => rfl, fun _ => rfl, fun _ => rfl, nofun⟩

theorem number_of_word : ∀ w ∈ wordValues, ∀ rest r, number (w.1 ++ rest) ≠ .ok r := by
  simp only [wordValues, List.forall_mem_cons]
  exact ⟨nofun, nofun, nofun, nofun, nofun, nofun, nofun⟩

theorem number_of_scalar {s : List Char} {r : Value × List Char} (read : scalar s = .ok r) :
    (∃ w ∈ wordValues, s = w.1 ++ r.2 ∧ r.1 = w.2) ∨ number s = .ok r := by
  unfold scalar at read
  dsimp only at read
  split at read
  next found =>
    cases read
    obtain ⟨w, among, begins⟩ := List.exists_of_findSome?_eq_some found
    obtain ⟨rest, cut, rfl⟩ := Option.map_eq_some_iff.mp begins
    exact .inl ⟨w, among, (List.append_eq_of_isPrefixOf?_eq_some cut).symm, rfl⟩
  next => exact .inr read

theorem scalar_of_number {s : List Char} {r : Value × List Char} (read : number s = .ok r) :
    scalar s = .ok r := by
  unfold scalar
  dsimp only
  split
  next found =>
    obtain ⟨w, among, begins⟩ := List.exists_of_findSome?_eq_some found
    obtain ⟨rest, cut, -⟩ := Option.map_eq_some_iff.mp begins
    rw [← List.append_eq_of_isPrefixOf?_eq_some cut] at read
    exact absurd read (number_of_word w among rest r)
  next => exact read

theorem ne_nil_of_value {fuel : Nat} {s : List Char} {r : Value × List Char}
    (read : value fuel s = .ok r) : s ≠ [] := by
  rintro rfl
  cases fuel <;> cases read

theorem ne_nil_of_members {fuel : Nat} {s : List Char} {r : List (Value × Value) × List Char}
    (read : members fuel s = .ok r) : s ≠ [] := by
  rintro rfl
  cases fuel <;> cases read

theorem ne_nil_of_elements {fuel : Nat} {s : List Char} {r : List Value × List Char}
    (read : elements fuel s = .ok r) : s ≠ [] := by
  rintro rfl
  rcases fuel with _ | _ | fuel <;> cases read

/-- Only the first character of a text tells what it does not begin with. -/
theorem cons_append_ne {c d : Char} {s : List Char} (pad : List Char)
    (other : ∀ rest, c :: s = d :: rest → False) (rest : List Char) :
    c :: (s ++ pad) = d :: rest → False :=
  fun same => other s (congrArg (· :: s) (List.cons.inj same).1)

theorem skipSpace_append {s : List Char} (more : skipSpace s ≠ []) :
    skipSpace (s ++ pad) = skipSpace s ++ pad := by
  rw [← List.isEmpty_eq_false_iff] at more
  unfold skipSpace at more ⊢
  rw [List.dropWhile_append, more]
  rfl

theorem skipSpace_append_of_cons {s rest : List Char} {c : Char} (next : skipSpace s = c :: rest) :
    skipSpace (s ++ pad) = c :: (rest ++ pad) := by
  rw [skipSpace_append (next ▸ List.cons_ne_nil c rest), next, List.cons_append]

/-- What is read at the beginning of a text is read if blanks follow the text, too. -/
structure ReadsOn (pad : List Char) (fuel : Nat) : Prop where
  value : ∀ s v rest fuel', fuel ≤ fuel' → value fuel s = .ok (v, rest) →
    value fuel' (s ++ pad) = .ok (v, rest ++ pad)
  members : ∀ s entries rest fuel', fuel ≤ fuel' → members fuel s = .ok (entries, rest) →
    members fuel' (s ++ pad) = .ok (entries, rest ++ pad)
  elements : ∀ s items rest fuel', fuel ≤ fuel' → elements fuel s = .ok (items, rest) →
    elements fuel' (s ++ pad) = .ok (items, rest ++ pad)

variable (blank : ∀ c ∈ pad.head?, Text.isBlank c = true)

include blank

theorem scalar_append {s rest : List Char} {v : Value} (read : scalar s = .ok (v, rest)) :
    scalar (s ++ pad) = .ok (v, rest ++ pad) := by
  rcases number_of_scalar read with ⟨w, among, rfl, rfl⟩ | read
  · rw [List.append_assoc]
    exact scalar_of_word w among _
  · exact scalar_of_number (number_append blank read)

-- What is read with one more unit of fuel goes on, if what is read inside of it does.
section Steps

variable {fuel fuel' : Nat} (ih : ReadsOn pad fuel) (enough : fuel ≤ fuel') {s rest : List Char}

include ih enough

theorem value_append {v : Value} (read : value (fuel + 1) s = .ok (v, rest)) :
    value (fuel' + 1) (s ++ pad) = .ok (v, rest ++ pad) := by
  unfold value at read
  split at read
  next => cases read
  next => cases read
  next =>
    obtain ⟨⟨text, _⟩, chars, done⟩ := bind_eq_ok_iff.mp read
    cases done
    exact bind_eq_ok_iff.mpr ⟨_, string_append chars, rfl⟩
  next fuel₀ s same =>
    obtain rfl : fuel = fuel₀ := Nat.succ.inj same
    rw [List.cons_append]
    split at read
    next closed =>
      cases read
      simp only [value, skipSpace_append_of_cons closed]
    next other =>
      obtain ⟨⟨entries, _⟩, inside, done⟩ := bind_eq_ok_iff.mp read
      cases done
      obtain ⟨c, s', first⟩ := List.exists_cons_of_ne_nil (ne_nil_of_members inside)
      rw [first] at inside
      have notClosed := cons_append_ne pad (first ▸ other)
      simp only [value, skipSpace_append_of_cons first]
      exact bind_eq_ok_iff.mpr ⟨_, ih.members _ _ _ _ enough inside, rfl⟩
  next fuel₀ s same =>
    obtain rfl : fuel = fuel₀ := Nat.succ.inj same
    rw [List.cons_append]
    split at read
    next closed =>
      cases read
      simp only [value, skipSpace_append_of_cons closed]
    next other =>
      obtain ⟨⟨items, _⟩, inside, done⟩ := bind_eq_ok_iff.mp read
      cases done
      obtain ⟨c, s', first⟩ := List.exists_cons_of_ne_nil (ne_nil_of_elements inside)
      rw [first] at inside
      have notClosed := cons_append_ne pad (first ▸ other)
      simp only [value, skipSpace_append_of_cons first]
      exact bind_eq_ok_iff.mpr ⟨_, ih.elements _ _ _ _ enough inside, rfl⟩
  next nonempty notText notTable notList =>
    obtain ⟨c, s, rfl⟩ := List.exists_cons_of_ne_nil nonempty
    rw [List.cons_append]
    rw [value]
    · exact scalar_append blank read
    · nofun
    · exact cons_append_ne pad notText
    · exact cons_append_ne pad notTable
    · exact cons_append_ne pad notList

omit blank in
theorem members_append {entries : List (Value × Value)}
    (read : members (fuel + 1) s = .ok (entries, rest)) :
    members (fuel' + 1) (s ++ pad) = .ok (entries, rest ++ pad) := by
  unfold members at read
  split at read
  next => cases read
  next fuel₀ s same =>
    obtain rfl : fuel = fuel₀ := Nat.succ.inj same
    obtain ⟨⟨key, after⟩, name, read⟩ := bind_eq_ok_iff.mp read
    rw [List.cons_append, members]
    refine bind_eq_ok_iff.mpr ⟨_, string_append name, ?_⟩
    dsimp only at read ⊢
    split at read
    next colon =>
      obtain ⟨⟨v, after'⟩, first, read⟩ := bind_eq_ok_iff.mp read
      have first' := ih.value _ _ _ _ enough first
      rw [← skipSpace_append (ne_nil_of_value first)] at first'
      rw [skipSpace_append_of_cons colon]
      refine bind_eq_ok_iff.mpr ⟨_, first', ?_⟩
      dsimp only at read ⊢
      split at read
      next closed =>
        cases read
        rw [skipSpace_append_of_cons closed]
        rfl
      next comma =>
        obtain ⟨⟨more, _⟩, others, done⟩ := bind_eq_ok_iff.mp read
        cases done
        have others' := ih.members _ _ _ _ enough others
        rw [← skipSpace_append (ne_nil_of_members others)] at others'
        rw [skipSpace_append_of_cons comma]
        exact bind_eq_ok_iff.mpr ⟨_, others', rfl⟩
      next => cases read
    next => cases read
  next => cases read

omit blank in
theorem elements_append {items : List Value} (read : elements (fuel + 1) s = .ok (items, rest)) :
    elements (fuel' + 1) (s ++ pad) = .ok (items, rest ++ pad) := by
  unfold elements at read ⊢
  obtain ⟨⟨v, after⟩, first, read⟩ := bind_eq_ok_iff.mp read
  refine bind_eq_ok_iff.mpr ⟨_, ih.value _ _ _ _ enough first, ?_⟩
  dsimp only at read ⊢
  split at read
  next closed =>
    cases read
    rw [skipSpace_append_of_cons closed]
    rfl
  next comma =>
    obtain ⟨⟨more, _⟩, others, done⟩ := bind_eq_ok_iff.mp read
    cases done
    have others' := ih.elements _ _ _ _ enough others
    rw [← skipSpace_append (ne_nil_of_elements others)] at others'
    rw [skipSpace_append_of_cons comma]
    exact bind_eq_ok_iff.mpr ⟨_, others', rfl⟩
  next => cases read

end Steps

theorem readsOn (fuel : Nat) : ReadsOn pad fuel := by
  induction fuel with
  | zero => exact ⟨nofun, nofun, nofun⟩
  | succ fuel ih =>
    have succ {n : Nat} (enough : fuel + 1 ≤ n) : ∃ m, n = m + 1 ∧ fuel ≤ m :=
      ⟨n - 1, by omega, by omega⟩
    constructor
    case value =>
      intro s v rest fuel' more read
      obtain ⟨fuel', rfl, enough⟩ := succ more
      exact value_append blank ih enough read
    case members =>
      intro s entries rest fuel' more read
      obtain ⟨fuel', rfl, enough⟩ := succ more
      exact members_append ih enough read
    case elements =>
      intro s items rest fuel' more read
      obtain ⟨fuel', rfl, enough⟩ := succ more
      exact elements_append ih enough read

omit blank in
theorem not_blank_of_number {c : Char} {s : List Char} {r : Value × List Char}
    (read : number (c :: s) = .ok r) : Text.isBlank c = false := by
  by_cases minus : c = '-'
  · subst minus
    decide
  · have plain : ∀ body, c :: s = '-' :: body → False := fun body same => minus (List.cons.inj same).1
    simp only [number] at read
    split at read
    next => cases read
    next digits =>
      unfold wholeDigits? at digits
      split at digits
      next whole =>
        obtain ⟨rfl, -⟩ := List.cons.inj whole
        decide
      next whole =>
        obtain ⟨rfl, -⟩ := List.cons.inj whole
        split at digits
        next digit =>
          by_contra blank
          rw [not_isDigit_of_blank (Bool.not_eq_false _ ▸ blank)] at digit
          cases digit
        next => cases digits
      next whole => cases whole

omit blank in
/-- No value begins with a blank. -/
theorem not_blank_of_value {fuel : Nat} {c : Char} {s : List Char} {r : Value × List Char}
    (read : value fuel (c :: s) = .ok r) : Text.isBlank c = false := by
  have words : ∀ w ∈ wordValues, ∃ c s, w.1 = c :: s ∧ Text.isBlank c = false := by
    simp only [wordValues, List.forall_mem_cons]
    exact ⟨⟨'n', _, rfl, rfl⟩, ⟨'t', _, rfl, rfl⟩, ⟨'f', _, rfl, rfl⟩, ⟨'N', _, rfl, rfl⟩,
      ⟨'I', _, rfl, rfl⟩, ⟨'-', _, rfl, rfl⟩, nofun⟩
  unfold value at read
  split at read
  next => cases read
  next whole => cases whole
  next whole =>
    obtain ⟨rfl, -⟩ := List.cons.inj whole
    decide
  next whole =>
    obtain ⟨rfl, -⟩ := List.cons.inj whole
    decide
  next whole =>
    obtain ⟨rfl, -⟩ := List.cons.inj whole
    decide
  next =>
    rcases number_of_scalar read with ⟨w, among, whole, -⟩ | read
    · obtain ⟨d, more, letters, visible⟩ := words w among
      rw [letters, List.cons_append] at whole
      exact (List.cons.inj whole).1 ▸ visible
    · exact not_blank_of_number read

end Values

end EnvDoctor.Json
