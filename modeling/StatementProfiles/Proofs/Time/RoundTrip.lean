import Mathlib.Algebra.GroupWithZero.Nat
import Mathlib.Data.List.TakeWhile
import StatementProfiles.Time.Reader

/-!
# Instants that are written and read back

A number that is written in decimal digits is read back (`Instant.readNumber_append`), and so is each part of the
notation of an instant. An instant that was read is on the clock (`Instant.OnClock`): its day is in the calendar, and it
is at most the end of a leap second. **Such an instant is read back as it was written**
(`Instant.OnClock.ofString?_render`).
-/

namespace StatementProfiles

/-! ## Digits -/

namespace Text

theorem isDigit_digitChar {n : Nat} (h : n < 10) : isDigit (Nat.digitChar n) := by
  revert n
  decide

theorem isBlank_of_isDigit {c : Char} (h : isDigit c) : isBlank c = false := by
  simp only [isDigit, Bool.and_eq_true, decide_eq_true_eq] at h
  obtain ⟨hlow, hhigh⟩ := h
  have hlow : 48 ≤ c.toNat := hlow
  have hhigh : c.toNat ≤ 57 := hhigh
  unfold isBlank
  simp only [Bool.or_eq_false_iff, Bool.and_eq_false_iff, decide_eq_false_iff_not, beq_eq_false_iff_ne]
  omega

theorem trimStart_of_isDigit {c : Char} (h : isDigit c) (cs : List Char) : trimStart (c :: cs) = c :: cs := by
  simp [trimStart, isBlank_of_isDigit h]

theorem digitsValue_append (cs : List Char) (c : Char) :
    digitsValue (cs ++ [c]) = digitsValue cs * 10 + (c.toNat - '0'.toNat) := by
  simp [digitsValue]

theorem digitsValue_append_digitChar (cs : List Char) {n : Nat} (h : n < 10) :
    digitsValue (cs ++ [Nat.digitChar n]) = digitsValue cs * 10 + n := by
  have hvalue : ∀ n < 10, (Nat.digitChar n).toNat - '0'.toNat = n := by decide
  rw [digitsValue_append, hvalue n h]

/-- A number has fewer digits than its bound has. -/
theorem digitsValue_lt {cs : List Char} (h : ∀ c ∈ cs, isDigit c) : digitsValue cs < 10 ^ cs.length := by
  have hfrom : ∀ n : Nat, cs.foldl (fun n c => n * 10 + (c.toNat - '0'.toNat)) n < (n + 1) * 10 ^ cs.length := by
    induction cs with
    | nil => intro n; simp
    | cons c cs ih =>
      obtain ⟨hc, hcs⟩ := List.forall_mem_cons.mp h
      intro n
      have hdigit : c.toNat - '0'.toNat ≤ 9 := by
        simp only [isDigit, Bool.and_eq_true, decide_eq_true_eq] at hc
        have hhigh : c.toNat ≤ 57 := hc.2
        have hzero : '0'.toNat = 48 := rfl
        omega
      calc cs.foldl (fun n c => n * 10 + (c.toNat - '0'.toNat)) (n * 10 + (c.toNat - '0'.toNat))
          < (n * 10 + (c.toNat - '0'.toNat) + 1) * 10 ^ cs.length := ih hcs _
        _ ≤ ((n + 1) * 10) * 10 ^ cs.length := Nat.mul_le_mul_right _ (by omega)
        _ = (n + 1) * 10 ^ (c :: cs).length := by rw [List.length_cons, Nat.pow_succ', Nat.mul_assoc]
  simpa [digitsValue] using hfrom 0

end Text

namespace Instant

open Text

theorem digits_eq_append (k n : Nat) (acc : List Char) : digits k n acc = digits k n [] ++ acc := by
  induction k generalizing n acc with
  | zero => rfl
  | succ k ih => rw [digits, digits, ih, ih (n / 10) [_], List.append_assoc, List.singleton_append]

theorem digits_succ (k n : Nat) : digits (k + 1) n [] = digits k (n / 10) [] ++ [Nat.digitChar (n % 10)] := by
  rw [digits, digits_eq_append]

theorem length_digits (k n : Nat) : (digits k n []).length = k := by
  induction k generalizing n with
  | zero => rfl
  | succ k ih => simp [digits_succ, ih]

theorem isDigit_of_mem_digits {k n : Nat} : ∀ c ∈ digits k n [], isDigit c := by
  induction k generalizing n with
  | zero => intro c hc; cases hc
  | succ k ih =>
    intro c hc
    rw [digits_succ] at hc
    rcases List.mem_append.mp hc with hc | hc
    · exact ih c hc
    · rw [List.mem_singleton.mp hc]
      exact isDigit_digitChar (Nat.mod_lt n (by decide))

/-- The last digits of a number are its remainder. -/
theorem digitsValue_digits (k n : Nat) : digitsValue (digits k n []) = n % 10 ^ k := by
  induction k generalizing n with
  | zero => rw [Nat.pow_zero, Nat.mod_one]; rfl
  | succ k ih =>
    rw [digits_succ, digitsValue_append_digitChar _ (Nat.mod_lt n (by decide)), ih, Nat.pow_succ', Nat.mod_mul]
    omega

theorem isDigit_of_mem_toDigits (n : Nat) : ∀ c ∈ Nat.toDigits 10 n, isDigit c := by
  induction n using Nat.strongRecOn with
  | ind n ih =>
    intro c hc
    by_cases hn : n < 10
    · rw [Nat.toDigits_of_lt_base hn, List.mem_singleton] at hc
      rw [hc]
      exact isDigit_digitChar hn
    · rw [Nat.toDigits_of_base_le (by decide) (by omega)] at hc
      rcases List.mem_append.mp hc with hc | hc
      · exact ih (n / 10) (by omega) c hc
      · rw [List.mem_singleton.mp hc]
        exact isDigit_digitChar (Nat.mod_lt n (by decide))

theorem digitsValue_toDigits (n : Nat) : digitsValue (Nat.toDigits 10 n) = n := by
  induction n using Nat.strongRecOn with
  | ind n ih =>
    by_cases hn : n < 10
    · rw [Nat.toDigits_of_lt_base hn]
      exact (digitsValue_append_digitChar [] hn).trans (by simp [digitsValue])
    · rw [Nat.toDigits_of_base_le (by decide) (by omega),
        digitsValue_append_digitChar _ (Nat.mod_lt n (by decide)), ih (n / 10) (by omega)]
      omega

/-! ## Numbers -/

/-- The characters are digits, and there are some. -/
structure Numeral (ds : List Char) : Prop where
  ne_nil : ds ≠ []
  isDigit : ∀ c ∈ ds, Text.isDigit c

/-- A numeral that fills its place, or that something else follows, is read as its number. -/
theorem readNumber_append {ds rest : List Char} (hds : Numeral ds) {most : Nat} (hlength : ds.length ≤ most)
    (hend : ds.length = most ∨ ∀ c ∈ rest.head?, Text.isDigit c = false) :
    readNumber most (ds ++ rest) = some (digitsValue ds, rest) := by
  have hrest : (rest.take (most - ds.length)).takeWhile Text.isDigit = [] := by
    rcases hend with heq | hhead
    · simp [heq]
    · cases rest with
      | nil => simp
      | cons c rest =>
        have hc : Text.isDigit c = false := hhead c rfl
        cases hlen : most - ds.length with
        | zero => rfl
        | succ k => simp [hc]
  have htaken : ((ds ++ rest).take most).takeWhile Text.isDigit = ds := by
    rw [List.take_append, List.take_of_length_le hlength, List.takeWhile_append_of_pos hds.isDigit, hrest,
      List.append_nil]
  unfold readNumber
  rw [htaken]
  simp [hds.ne_nil]

/-- What is read as a number is less than its places allow. -/
theorem lt_of_readNumber {most n : Nat} {cs rest : List Char} (h : readNumber most cs = some (n, rest)) :
    ∃ k, k ≤ most ∧ rest = cs.drop k ∧ k ≤ cs.length ∧ n < 10 ^ k := by
  unfold readNumber at h
  dsimp only at h
  split at h
  · cases h
  · cases h
    have hle : ((cs.take most).takeWhile Text.isDigit).length ≤ (cs.take most).length :=
      (List.takeWhile_prefix _).length_le
    rw [List.length_take] at hle
    refine ⟨_, by omega, rfl, by omega, digitsValue_lt ?_⟩
    intro c hc
    exact List.mem_takeWhile_imp hc

theorem numeral_digits {k : Nat} (hk : 0 < k) (n : Nat) : Numeral (digits k n []) where
  ne_nil := by
    intro hnil
    have hlength := length_digits k n
    rw [hnil, List.length_nil] at hlength
    omega
  isDigit := isDigit_of_mem_digits

theorem Numeral.trimStart {ds : List Char} (h : Numeral ds) (rest : List Char) :
    Text.trimStart (ds ++ rest) = ds ++ rest := by
  cases ds with
  | nil => exact absurd rfl h.ne_nil
  | cons c ds => exact trimStart_of_isDigit (h.isDigit c List.mem_cons_self) (ds ++ rest)

theorem readTwoDigits_digits {n : Nat} (h : n < 100) (rest : List Char) :
    readTwoDigits (digits 2 n rest) = some (n, rest) := by
  have hds : Numeral (digits 2 n []) := numeral_digits (by decide) n
  have hlength := length_digits 2 n
  have hplaces : n < 10 ^ 2 := by omega
  rw [readTwoDigits, digits_eq_append, hds.trimStart, readNumber_append hds (by omega) (.inl hlength),
    digitsValue_digits, Nat.mod_eq_of_lt hplaces]

/-! ## Years -/

theorem digitsValue_atLeastFour (n : Nat) : Numeral (atLeastFour n) ∧ digitsValue (atLeastFour n) = n := by
  unfold atLeastFour
  split
  · next h => exact ⟨numeral_digits (by decide) n, (digitsValue_digits 4 n).trans (Nat.mod_eq_of_lt h)⟩
  · refine ⟨⟨?_, isDigit_of_mem_toDigits n⟩, digitsValue_toDigits n⟩
    exact Nat.toDigits_ne_nil

theorem readYear_of_isDigit {c : Char} (h : Text.isDigit c) (cs : List Char) :
    readYear (c :: cs) = (readNumber 4 (c :: cs)).map fun (n, rest) => ((n : Int), rest) := by
  unfold readYear
  rw [trimStart_of_isDigit h]
  split
  · next heq =>
    cases heq
    cases h
  · next heq =>
    cases heq
    cases h
  · rfl

theorem readYear_minus (cs : List Char) :
    readYear ('-' :: cs) = (readNumber cs.length cs).map fun (n, rest) => (-(n : Int), rest) := rfl

theorem readYear_plus (cs : List Char) :
    readYear ('+' :: cs) = (readNumber cs.length cs).map fun (n, rest) => ((n : Int), rest) := rfl

/-- A year is read up to the dash behind it. -/
theorem readYear_yearText (year : Int) (rest : List Char) :
    readYear (yearText year ++ '-' :: rest) = some (year, '-' :: rest) := by
  have hdash : ∀ c ∈ ('-' :: rest).head?, Text.isDigit c = false := by
    intro c hc
    cases hc
    rfl
  -- behind a sign any number of digits is read
  have hsigned : readNumber (atLeastFour year.natAbs ++ '-' :: rest).length (atLeastFour year.natAbs ++ '-' :: rest) =
      some (year.natAbs, '-' :: rest) := by
    obtain ⟨hds, hvalue⟩ := digitsValue_atLeastFour year.natAbs
    rw [readNumber_append hds (by simp) (.inr hdash), hvalue]
  unfold yearText
  split
  · rw [List.cons_append, readYear_minus, hsigned]
    simp only [Option.map_some, Option.some.injEq, Prod.mk.injEq, and_true]
    omega
  · split
    · next hfour =>
      have hds : Numeral (digits 4 year.natAbs []) := numeral_digits (by decide) _
      have hfirst : ∃ c cs, digits 4 year.natAbs [] = c :: cs := List.exists_cons_of_ne_nil hds.ne_nil
      obtain ⟨c, cs, hcons⟩ := hfirst
      have hread : readNumber 4 (digits 4 year.natAbs [] ++ '-' :: rest) = some (year.natAbs, '-' :: rest) := by
        rw [readNumber_append hds (length_digits 4 _).le (.inr hdash), digitsValue_digits, Nat.mod_eq_of_lt (by omega)]
      rw [hcons] at hread ⊢
      rw [List.cons_append, readYear_of_isDigit (hds.isDigit c (hcons ▸ List.mem_cons_self)), ← List.cons_append, hread]
      simp only [Option.map_some, Option.some.injEq, Prod.mk.injEq, and_true]
      omega
    · rw [List.cons_append, readYear_plus, hsigned]
      simp only [Option.map_some, Option.some.injEq, Prod.mk.injEq, and_true]
      omega

/-! ## Fractions -/

theorem readFraction_digits {k : Nat} (hk : 0 < k) (hmost : k ≤ 9) {n : Nat} (hn : n < 10 ^ k) :
    readFraction ('.' :: (digits k n [] ++ ['Z'])) = some (n * 10 ^ (9 - k), ['Z']) := by
  have hds : Numeral (digits k n []) := numeral_digits hk n
  have hlength := length_digits k n
  have hend : ∀ c ∈ ['Z'].head?, Text.isDigit c = false := by
    intro c hc
    cases hc
    rfl
  rw [readFraction, readNumber_append hds (by omega) (.inr hend), digitsValue_digits, Nat.mod_eq_of_lt hn]
  have hplaces : (digits k n [] ++ ['Z']).length - ['Z'].length = k := by
    rw [List.length_append, hlength]
    simp
  rw [Option.map_some]
  dsimp only
  rw [hplaces]
  rfl

/-- A fraction of less than a second is read as it was written. -/
theorem readFraction_fractionText {nanos : Nat} (h : nanos < perSecond) :
    readFraction (fractionText .exact nanos ++ ['Z']) = some (nanos, ['Z']) := by
  have hsecond : perSecond = 1000000000 := rfl
  unfold fractionText
  dsimp only
  split
  · next hzero =>
    rw [hzero]
    rfl
  split
  · next hmillis =>
    rw [List.cons_append, readFraction_digits (by decide) (by decide) (by omega)]
    simp only [Option.some.injEq, Prod.mk.injEq, and_true]
    omega
  split
  · next hmicros =>
    rw [List.cons_append, readFraction_digits (by decide) (by decide) (by omega)]
    simp only [Option.some.injEq, Prod.mk.injEq, and_true]
    omega
  · rw [List.cons_append, readFraction_digits (by decide) (by decide) (by omega)]
    simp

/-- What is read as a fraction is less than a second. -/
theorem lt_of_readFraction {cs rest : List Char} {nanos : Nat} (h : readFraction cs = some (nanos, rest)) :
    nanos < perSecond := by
  unfold readFraction at h
  split at h
  · next tail =>
    obtain ⟨⟨n, tail'⟩, hn, heq⟩ := Option.map_eq_some_iff.mp h
    obtain ⟨k, hk, rfl, hle, hlt⟩ := lt_of_readNumber hn
    cases heq
    have hplaces : tail.length - (tail.drop k).length = k := by
      rw [List.length_drop]
      omega
    rw [hplaces]
    calc n * Nat.pow 10 (9 - k) < 10 ^ k * 10 ^ (9 - k) := Nat.mul_lt_mul_of_pos_right hlt (Nat.pow_pos (by decide))
      _ = 10 ^ 9 := by rw [← Nat.pow_add]; congr 1; omega
      _ = perSecond := rfl
  · cases h
    decide

/-! ## Instants on the clock -/

/-- The day is in the calendar, and the time of day is at most the end of a leap second. -/
structure OnClock (t : Instant) : Prop where
  date : t.date.isValid
  hour : t.hour < 24
  minute : t.minute < 60
  second : t.second < 60
  /-- The last second of a minute may be a leap second. -/
  nanos : t.nanos < perSecond ∨ (t.second = 59 ∧ t.nanos < 2 * perSecond)

/-- An instant that is read is on the clock. -/
theorem onClock_of_ofString? {s : String} {t : Instant} (h : ofString? s = some t) : t.OnClock := by
  simp only [ofString?, ofChars?, Option.bind_eq_some_iff, Prod.exists] at h
  obtain ⟨d, _, -, _, -, hour, _, -, _, -, minute, _, -, _, -, second, _, -, nanos, _, hnanos, offset, _, -, h⟩ := h
  have hnanos := lt_of_readFraction hnanos
  split at h
  · obtain ⟨i, hi, ht⟩ := Option.bind_eq_some_iff.mp h
    have hclock : i.second < 60 ∧ (i.nanos < perSecond ∨ (i.second = 59 ∧ i.nanos < 2 * perSecond)) := by
      unfold ofClock? at hi
      split at hi
      · next hvalid =>
        simp only [Bool.and_eq_true, decide_eq_true_eq] at hvalid
        split at hi
        · cases hi
          exact ⟨by dsimp only; omega, .inr ⟨rfl, by dsimp only; omega⟩⟩
        · cases hi
          exact ⟨by dsimp only; omega, .inl hnanos⟩
      · cases hi
    unfold atOffset? at ht
    split at ht
    · dsimp only at ht
      split at ht
      · next hdate =>
        cases ht
        -- setting the clock leaves the seconds as they are
        refine ⟨hdate, ?_, ?_, hclock.1, hclock.2⟩
        · simp only [shift]
          omega
        · simp only [shift]
          omega
      · cases ht
    · cases ht
  · cases h

/-- At no offset the clock shows the instant itself. -/
theorem OnClock.atOffset?_zero {t : Instant} (h : t.OnClock) : t.atOffset? 0 = some t := by
  obtain ⟨hhour, hminute⟩ : t.hour < 24 ∧ t.minute < 60 := ⟨h.hour, h.minute⟩
  have hofDay : (((t.hour * 60 + t.minute : Nat) : Int) % 1440).toNat = t.hour * 60 + t.minute := by omega
  have hshift : t.shift (-0) = t := by
    simp only [shift, Int.neg_zero, Int.add_zero, hofDay]
    rw [if_neg (by omega), if_neg (by omega)]
    have hbackHour : (t.hour * 60 + t.minute) / 60 = t.hour := by omega
    have hbackMinute : (t.hour * 60 + t.minute) % 60 = t.minute := by omega
    rw [hbackHour, hbackMinute]
  unfold atOffset?
  rw [if_pos (by decide), hshift]
  exact if_pos h.date

theorem after_cons {c : Char} (h : isBlank c = false) (rest : List Char) : after c (c :: rest) = some rest := by
  simp [after, Text.trimStart, h]

/-- The seconds that are written of an instant are those that the clock shows. -/
theorem OnClock.exists_second {t : Instant} (h : t.OnClock) :
    ∃ second nanos, second < 100 ∧ nanos < perSecond ∧ ofClock? t.date t.hour t.minute second nanos = some t ∧
      t.characters .exact = yearText t.date.year ++ '-' :: digits 2 t.date.month ('-' :: digits 2 t.date.day ('T' ::
        digits 2 t.hour (':' :: digits 2 t.minute (':' :: digits 2 second (fractionText .exact nanos ++ ['Z']))))) := by
  obtain ⟨hhour, hminute, hsecond⟩ : t.hour < 24 ∧ t.minute < 60 ∧ t.second < 60 := ⟨h.hour, h.minute, h.second⟩
  by_cases hleap : perSecond ≤ t.nanos
  · obtain ⟨hlast, hnanos⟩ : t.second = 59 ∧ t.nanos < 2 * perSecond := by
      rcases h.nanos with hlt | hboth
      · omega
      · exact hboth
    refine ⟨60, t.nanos - perSecond, by decide, by omega, ?_, ?_⟩
    · have hback : perSecond + (t.nanos - perSecond) = t.nanos := by omega
      simp [ofClock?, h.date, hhour, hminute, hback, ← hlast]
    · simp [characters, hleap, hlast]
  · refine ⟨t.second, t.nanos, by omega, by omega, ?_, ?_⟩
    · have hshort : t.second ≤ 60 ∧ t.second ≠ 60 := by omega
      simp [ofClock?, h.date, hhour, hminute, hshort]
    · simp [characters, hleap]

/-- **An instant on the clock is read back as it was written.** -/
theorem OnClock.ofString?_render {t : Instant} (h : t.OnClock) : ofString? (t.render .exact) = some t := by
  obtain ⟨second, nanos, hsecond, hnanos, hclock, hchars⟩ := h.exists_second
  obtain ⟨hmonth, hday⟩ : t.date.month < 100 ∧ t.date.day < 100 := by
    have hvalid := h.date
    have hdays : Date.daysIn t.date.year t.date.month ≤ 31 := by
      unfold Date.daysIn
      split
      · split <;> omega
      · split <;> omega
    simp only [Date.isValid, Bool.and_eq_true, decide_eq_true_eq] at hvalid
    omega
  have hhour : t.hour < 100 := Nat.lt_trans h.hour (by decide)
  have hminute : t.minute < 100 := Nat.lt_trans h.minute (by decide)
  have hoffset : readOffset (Text.trimStart ['Z']) = some (0, []) := by decide
  have hmark : ∀ rest, afterDate ('T' :: rest) = some rest := fun _ => rfl
  have hdash : isBlank '-' = false := by decide
  have hcolon : isBlank ':' = false := by decide
  rw [ofString?, render, String.toList_ofList, hchars]
  simp only [ofChars?, readDate, readYear_yearText, Option.bind_some, after_cons hdash, readTwoDigits_digits hmonth,
    readTwoDigits_digits hday, Option.map_some, hmark, readTwoDigits_digits hhour, after_cons hcolon,
    readTwoDigits_digits hminute, readTwoDigits_digits hsecond, readFraction_fractionText hnanos, hoffset, hclock,
    List.all_nil, if_true]
  exact h.atOffset?_zero

end Instant

end StatementProfiles
