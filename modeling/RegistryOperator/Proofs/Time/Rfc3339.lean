import RegistryOperator.Proofs.Time.Calendar
import RegistryOperator.Time.Rfc3339

/-! The text of a moment is read back as that moment, and whatever is read is a moment that can be
written. Text that gives whole seconds is read as the moment without its fraction. -/

namespace RegistryOperator.Timestamp

open Text (isSpace skipSpace)

section Digits

variable {w n : Nat} {ds rest cs : List Char} {c : Char}

theorem readNumber_append (hds : ∀ c ∈ ds, c.isDigit = true) (hne : ds ≠ [])
    (hwidth : ds.length ≤ w)
    (hrest : ds.length = w ∨ ∀ c ∈ rest.head?, c.isDigit = false) :
    readNumber w (ds ++ rest) = some (Nat.ofDigitChars 10 ds 0, rest) := by
  have hstop : (rest.take (w - ds.length)).takeWhile Char.isDigit = [] := by
    rcases hrest with hfull | hhead
    · simp [hfull]
    · cases rest with
      | nil => simp
      | cons c rest =>
          have hc : c.isDigit = false := hhead c rfl
          cases w - ds.length <;> simp [hc]
  have hdigits : ((ds ++ rest).take w).takeWhile Char.isDigit = ds := by
    rw [List.take_append, List.take_of_length_le hwidth, List.takeWhile_append_of_pos hds, hstop,
      List.append_nil]
  simp only [readNumber, hdigits, List.isEmpty_iff, hne, if_false, List.drop_left]
  rfl

theorem digit_le (hc : c.isDigit = true) : c.toNat - '0'.toNat ≤ 9 := by
  have hbounds := Char.isDigit_iff_toNat.mp hc
  have hnine : '9'.toNat = '0'.toNat + 9 := by decide
  omega

theorem ofDigitChars_lt (hds : ∀ c ∈ ds, c.isDigit = true) :
    Nat.ofDigitChars 10 ds 0 < 10 ^ ds.length := by
  induction ds with
  | nil => simp
  | cons c ds ih =>
      have hc := digit_le (hds c (by simp))
      have hrest := ih fun c hc => hds c (by simp [hc])
      rw [Nat.ofDigitChars_cons, Nat.ofDigitChars_eq_ofDigitChars_zero, List.length_cons, pow_succ]
      calc 10 ^ ds.length * (10 * 0 + (c.toNat - '0'.toNat)) + Nat.ofDigitChars 10 ds 0
          < 10 ^ ds.length * 9 + 10 ^ ds.length :=
            Nat.add_lt_add_of_le_of_lt (Nat.mul_le_mul_left _ (by omega)) hrest
        _ = 10 ^ ds.length * 10 := by omega

/-- A number that was read has no more digits than were left to it. -/
theorem readNumber_lt (h : readNumber w cs = some (n, rest)) :
    cs.length - rest.length ≤ w ∧ n < 10 ^ (cs.length - rest.length) := by
  obtain ⟨ds, hds⟩ : ∃ ds, ds = (cs.take w).takeWhile Char.isDigit := ⟨_, rfl⟩
  rw [readNumber, ← hds] at h
  split_ifs at h with hempty
  have hfit : ds.length ≤ (cs.take w).length := by
    rw [hds]
    exact (List.takeWhile_prefix _).length_le
  rw [List.length_take] at hfit
  have hvalue : Nat.ofDigitChars 10 ds 0 < 10 ^ ds.length :=
    ofDigitChars_lt (List.all_eq_true.mp (hds ▸ List.all_takeWhile))
  cases h
  have hlength : cs.length - (cs.drop ds.length).length = ds.length := by
    rw [List.length_drop]
    omega
  rw [hlength]
  exact ⟨by omega, hvalue⟩

theorem padded_isDigit (hc : c ∈ (padded w n).toList) : c.isDigit = true := by
  rw [padded, String.toList_ofList, List.mem_append] at hc
  rcases hc with hzero | hdigit
  · rw [List.eq_of_mem_replicate hzero]
    rfl
  · exact Nat.isDigit_of_mem_toDigits (by decide) (by decide) hdigit

theorem padded_ne_nil : (padded w n).toList ≠ [] := by
  simp [padded, Nat.toDigits_ne_nil]

theorem padded_value : Nat.ofDigitChars 10 (padded w n).toList 0 = n := by
  simp [padded, Nat.ofDigitChars_append]

theorem padded_length (hwidth : 0 < w) (hn : n < 10 ^ w) :
    (padded w n).toList.length = w := by
  have hfit := (Nat.length_toDigits_le_iff (by decide) hwidth).mpr hn
  simp only [padded, String.toList_ofList, List.length_append, List.length_replicate]
  omega

theorem readNumber_padded (hwidth : 0 < w) (hn : n < 10 ^ w) :
    readNumber w ((padded w n).toList ++ rest) = some (n, rest) := by
  have hlength := padded_length hwidth hn
  rw [readNumber_append (fun _ => padded_isDigit) padded_ne_nil hlength.le (.inl hlength),
    padded_value]

theorem not_isSpace_of_isDigit (hc : c.isDigit = true) : isSpace c = false := by
  have hbounds := Char.isDigit_iff_toNat.mp hc
  have hzero : '0'.toNat = 48 := by decide
  have hnine : '9'.toNat = 57 := by decide
  simp only [isSpace, Bool.or_eq_false_iff, Bool.and_eq_false_iff, decide_eq_false_iff_not]
  omega

theorem skipSpace_padded :
    skipSpace ((padded w n).toList ++ rest) = (padded w n).toList ++ rest := by
  obtain ⟨c, ds, hds⟩ := List.exists_cons_of_ne_nil (padded_ne_nil (w := w) (n := n))
  have hc : c.isDigit = true := padded_isDigit (w := w) (n := n) (by simp [hds])
  rw [hds, List.cons_append, skipSpace, List.dropWhile_cons_of_neg]
  simp [not_isSpace_of_isDigit hc]

theorem readTwo_padded (hn : n < 100) :
    readTwo ((padded 2 n).toList ++ rest) = some (n, rest) := by
  rw [readTwo, skipSpace_padded, readNumber_padded (by decide) hn]

theorem readMark_cons (hc : isSpace c = false) : readMark c (c :: rest) = some rest := by
  simp [readMark, skipSpace, hc]

theorem readYear_minus :
    readYear ('-' :: cs) = (readNumber cs.length cs).map fun (n, cs) => (-(n : Int), cs) := rfl

theorem readYear_plus :
    readYear ('+' :: cs) = (readNumber cs.length cs).map fun (n, cs) => ((n : Int), cs) := rfl

theorem readYear_digit (hc : c.isDigit = true) :
    readYear (c :: cs) = (readNumber 4 (c :: cs)).map fun (n, cs) => ((n : Int), cs) := by
  have hskip : skipSpace (c :: cs) = c :: cs := by simp [skipSpace, not_isSpace_of_isDigit hc]
  rw [readYear, hskip]
  split
  · next heq =>
      cases heq
      contradiction
  · next heq =>
      cases heq
      contradiction
  · rfl

theorem readYear_text {year : Int} (hrest : ∀ c ∈ rest.head?, c.isDigit = false) :
    readYear ((yearText year).toList ++ rest) = some (year, rest) := by
  have hsigned : ∀ n : Nat, readNumber ((padded 4 n).toList ++ rest).length
      ((padded 4 n).toList ++ rest) = some (n, rest) := fun n => by
    rw [readNumber_append (fun _ => padded_isDigit) padded_ne_nil (by simp) (.inr hrest),
      padded_value]
  rw [yearText]
  split_ifs with hplain hneg
  · obtain ⟨c, ds, hds⟩ := List.exists_cons_of_ne_nil (padded_ne_nil (w := 4) (n := year.toNat))
    have hc : c.isDigit = true := padded_isDigit (w := 4) (n := year.toNat) (by simp [hds])
    have hread : readNumber 4 ((padded 4 year.toNat).toList ++ rest) = some (year.toNat, rest) :=
      readNumber_padded (by decide) (by omega)
    rw [hds, List.cons_append] at hread ⊢
    rw [readYear_digit hc, hread]
    simp only [Option.map_some, Int.toNat_of_nonneg hplain.1]
  · rw [String.toList_append, List.append_assoc, show "-".toList = ['-'] from rfl,
      List.singleton_append, readYear_minus, hsigned]
    simp only [Option.map_some, Option.some.injEq, Prod.mk.injEq, and_true]
    omega
  · rw [String.toList_append, List.append_assoc, show "+".toList = ['+'] from rfl,
      List.singleton_append, readYear_plus, hsigned]
    simp only [Option.map_some, Option.some.injEq, Prod.mk.injEq, and_true]
    omega

end Digits

section Moments

variable {t : Timestamp} {s : String}

/-- A moment that has a date, with a second that may be a leap second. -/
structure Proper (t : Timestamp) : Prop where
  dated : isDated t = true
  nanos : t.nanos < 2 * 10 ^ (9 : ℕ)
  leap : 10 ^ (9 : ℕ) ≤ t.nanos → t.seconds % 60 = 59

theorem calendar_date : Calendar.IsDate t.calendar.year t.calendar.month t.calendar.day :=
  Calendar.dateOfDays_isDate _

theorem calendar_time : t.calendar.hour < 24 ∧ t.calendar.minute < 60 := by
  simp only [calendar]
  omega

theorem calendar_second : t.calendar.second ≤ 60 := by
  simp only [calendar]
  split_ifs <;> omega

theorem Proper.calendar_nanos (h : t.Proper) : t.calendar.nanos < 10 ^ (9 : ℕ) := by
  have hnanos := h.nanos
  simp only [calendar]
  split_ifs <;> omega

theorem Proper.calendar_year (h : t.Proper) : isYear t.calendar.year = true := by
  have hdated := h.dated
  simp only [isDated, Bool.and_eq_true, decide_eq_true_eq] at hdated
  have hlow : -262143 ≤ t.calendar.year := Calendar.le_year (by omega)
  have hhigh : t.calendar.year ≤ 262142 := Calendar.year_le (by omega)
  simp [isYear, hlow, hhigh]

/-- The moment without the fraction of its second. -/
def toSeconds (t : Timestamp) : Timestamp :=
  { t with nanos := if 10 ^ (9 : ℕ) ≤ t.nanos then 10 ^ (9 : ℕ) else 0 }

theorem Proper.ofCalendar (h : t.Proper) (nanos : Nat) :
    ofCalendar { t.calendar with nanos } 0 =
      { t with nanos := nanos + if 10 ^ (9 : ℕ) ≤ t.nanos then 10 ^ (9 : ℕ) else 0 } := by
  have hleap := h.leap
  have hdays := Calendar.daysSince1970_dateOfDays (t.seconds / 86400)
  simp only [Timestamp.ofCalendar, calendar, hdays]
  by_cases hnanos : 10 ^ (9 : ℕ) ≤ t.nanos
  · have hlast := hleap hnanos
    have hsixty : (t.seconds - t.seconds / 86400 * 86400).toNat % 60 + 1 = 60 := by omega
    simp only [hnanos, if_true, hsixty, mk.injEq, and_true]
    omega
  · have hsixty : (t.seconds - t.seconds / 86400 * 86400).toNat % 60 ≠ 60 := by omega
    simp only [hnanos, if_false, Nat.add_zero, hsixty, mk.injEq, and_true]
    omega

/-- A date in the calendar with a time of day is read from its text and the fraction after it. -/
theorem readChars_text {c : Calendar} {fraction : List Char} {nanos : Nat}
    (hyear : isYear c.year = true) (hdate : Calendar.IsDate c.year c.month c.day)
    (hhour : c.hour < 24) (hminute : c.minute < 60) (hsecond : c.second ≤ 60)
    (hdated : isDated (Timestamp.ofCalendar { c with nanos } 0) = true)
    (hfraction : readFraction (fraction ++ ['Z']) = some (nanos, ['Z'])) :
    readChars ((Calendar.text c).toList ++ (fraction ++ ['Z'])) =
      some (Timestamp.ofCalendar { c with nanos } 0) := by
  obtain ⟨hmonth, hmonth', hday, hday'⟩ := hdate
  have hdays : Calendar.daysIn c.year c.month ≤ 31 := by
    rw [Calendar.daysIn]
    split_ifs <;> omega
  have htext : (Calendar.text c).toList ++ (fraction ++ ['Z']) =
      (yearText c.year).toList ++ ('-' :: ((padded 2 c.month).toList ++ ('-' ::
        ((padded 2 c.day).toList ++ ('T' :: ((padded 2 c.hour).toList ++ (':' ::
          ((padded 2 c.minute).toList ++ (':' :: ((padded 2 c.second).toList ++
            (fraction ++ ['Z']))))))))))) := by
    simp [Calendar.text]
  have hdash : isSpace '-' = false := by decide
  have hcolon : isSpace ':' = false := by decide
  have hend : readOffset (skipSpace ['Z']) = some (0, []) := by decide
  rw [htext, readChars]
  refine Option.bind_eq_some_iff.mpr ⟨_, readYear_text (fun d hd => by cases hd; rfl), ?_⟩
  refine Option.bind_eq_some_iff.mpr ⟨_, readMark_cons hdash, ?_⟩
  refine Option.bind_eq_some_iff.mpr ⟨_, readTwo_padded (by omega), ?_⟩
  refine Option.bind_eq_some_iff.mpr ⟨_, readMark_cons hdash, ?_⟩
  refine Option.bind_eq_some_iff.mpr ⟨_, readTwo_padded (by omega), ?_⟩
  refine Option.bind_eq_some_iff.mpr ⟨_, rfl, ?_⟩
  refine Option.bind_eq_some_iff.mpr ⟨_, readTwo_padded (by omega), ?_⟩
  refine Option.bind_eq_some_iff.mpr ⟨_, readMark_cons hcolon, ?_⟩
  refine Option.bind_eq_some_iff.mpr ⟨_, readTwo_padded (by omega), ?_⟩
  refine Option.bind_eq_some_iff.mpr ⟨_, readMark_cons hcolon, ?_⟩
  refine Option.bind_eq_some_iff.mpr ⟨_, readTwo_padded (by omega), ?_⟩
  refine Option.bind_eq_some_iff.mpr ⟨_, hfraction, ?_⟩
  refine Option.bind_eq_some_iff.mpr ⟨_, hend, ?_⟩
  exact if_pos ⟨rfl, hyear, hmonth, hmonth', hday, hday', hhour, hminute, hsecond, hdated⟩

theorem readFraction_lt {cs rest : List Char} {nanos : Nat}
    (h : readFraction cs = some (nanos, rest)) : nanos < 10 ^ (9 : ℕ) := by
  rw [readFraction.eq_def] at h
  split at h
  · next cs' =>
      split at h
      · next n rest' hread =>
          obtain ⟨hwidth, hn⟩ := readNumber_lt hread
          cases h
          calc n * 10 ^ (9 - (cs'.length - rest'.length))
              < 10 ^ (cs'.length - rest'.length) * 10 ^ (9 - (cs'.length - rest'.length)) :=
                Nat.mul_lt_mul_of_pos_right hn (by positivity)
            _ = 10 ^ (9 : ℕ) := by rw [← pow_add, Nat.add_sub_cancel' hwidth]
      · cases h
  · cases h
    decide

theorem readOffsetSize_minutes {cs rest : List Char} {offset : Int}
    (h : readOffsetSize cs = some (offset, rest)) : offset % 60 = 0 := by
  obtain ⟨⟨hours, cs₁⟩, -, h⟩ := Option.bind_eq_some_iff.mp h
  obtain ⟨⟨minutes, cs₂⟩, -, h⟩ := Option.bind_eq_some_iff.mp h
  dsimp only at h
  split_ifs at h
  cases h
  omega

/-- An offset is some number of minutes. -/
theorem negated_minutes {cs rest : List Char} {offset : Int}
    (h : (readOffsetSize cs).map (fun (n, cs) => (-n, cs)) = some (offset, rest)) :
    offset % 60 = 0 := by
  obtain ⟨⟨size, _⟩, hsize, heq⟩ := Option.map_eq_some_iff.mp h
  cases heq
  have := readOffsetSize_minutes hsize
  omega

theorem readOffset_minutes {cs rest : List Char} {offset : Int}
    (h : readOffset cs = some (offset, rest)) : offset % 60 = 0 := by
  rw [readOffset.eq_def] at h
  split at h
  · cases h
    rfl
  · cases h
    rfl
  · exact readOffsetSize_minutes h
  · exact negated_minutes h
  · exact negated_minutes h
  · split_ifs at h
    cases h
    rfl
  · cases h

theorem proper_ofCalendar {c : Calendar} {offset : Int} (hnanos : c.nanos < 10 ^ (9 : ℕ))
    (hoffset : offset % 60 = 0) (hdated : isDated (Timestamp.ofCalendar c offset) = true) :
    (Timestamp.ofCalendar c offset).Proper := by
  refine ⟨hdated, ?_, fun hleap => ?_⟩
  · simp only [Timestamp.ofCalendar]
    split_ifs <;> omega
  · simp only [Timestamp.ofCalendar] at hleap ⊢
    have hsixty : c.second = 60 := by
      by_contra hne
      rw [if_neg hne] at hleap
      omega
    rw [hsixty]
    omega

/-- Whatever is read from a text is a moment with a date. -/
theorem proper_of_ofText? (h : ofText? s = some t) : t.Proper := by
  rw [ofText?, readChars] at h
  obtain ⟨⟨year, cs₁⟩, -, h⟩ := Option.bind_eq_some_iff.mp h
  obtain ⟨cs₂, -, h⟩ := Option.bind_eq_some_iff.mp h
  obtain ⟨⟨month, cs₃⟩, -, h⟩ := Option.bind_eq_some_iff.mp h
  obtain ⟨cs₄, -, h⟩ := Option.bind_eq_some_iff.mp h
  obtain ⟨⟨day, cs₅⟩, -, h⟩ := Option.bind_eq_some_iff.mp h
  dsimp only at h
  split at h
  all_goals
    obtain ⟨cs₆, hmark, h⟩ := Option.bind_eq_some_iff.mp h
    obtain ⟨⟨hour, cs₇⟩, -, h⟩ := Option.bind_eq_some_iff.mp h
    obtain ⟨cs₈, -, h⟩ := Option.bind_eq_some_iff.mp h
    obtain ⟨⟨minute, cs₉⟩, -, h⟩ := Option.bind_eq_some_iff.mp h
    obtain ⟨cs₁₀, -, h⟩ := Option.bind_eq_some_iff.mp h
    obtain ⟨⟨second, cs₁₁⟩, -, h⟩ := Option.bind_eq_some_iff.mp h
    obtain ⟨⟨nanos, cs₁₂⟩, hnanos, h⟩ := Option.bind_eq_some_iff.mp h
    obtain ⟨⟨offset, cs₁₃⟩, hoffset, h⟩ := Option.bind_eq_some_iff.mp h
    dsimp only at h
    split_ifs at h with hall
    obtain ⟨-, -, -, -, -, -, -, -, -, hdated⟩ := hall
    cases h
    exact proper_ofCalendar (readFraction_lt hnanos) (readOffset_minutes hoffset) hdated

theorem readFraction_padded {w n : Nat} (hwidth : 0 < w) (hnine : w ≤ 9)
    (hn : n < 10 ^ w) :
    readFraction ('.' :: ((padded w n).toList ++ ['Z'])) =
      some (n * 10 ^ (9 - w), ['Z']) := by
  have hlength := padded_length hwidth hn
  have hread : readNumber 9 ((padded w n).toList ++ ['Z']) = some (n, ['Z']) := by
    rw [readNumber_append (fun _ => padded_isDigit) padded_ne_nil (by omega)
      (.inr fun c hc => by cases hc; rfl), padded_value]
  have hconsumed : ((padded w n).toList ++ ['Z']).length - ['Z'].length = w := by
    rw [List.length_append, Nat.add_sub_cancel, hlength]
  have hrest : ['Z'].dropWhile Char.isDigit = ['Z'] := rfl
  simp only [readFraction, hread, hconsumed, hrest]

theorem readFraction_text {nanos : Nat} (h : nanos < 10 ^ (9 : ℕ)) :
    readFraction ((fractionText nanos).toList ++ ['Z']) = some (nanos, ['Z']) := by
  have hdot : ∀ s : String, ("." ++ s).toList ++ ['Z'] = '.' :: (s.toList ++ ['Z']) :=
    fun s => by
      rw [String.toList_append]
      rfl
  rw [fractionText]
  split_ifs with hzero hmillis hmicros
  · rw [hzero]
    rfl
  · rw [hdot, readFraction_padded (by decide) (by decide) (by omega)]
    simp only [Option.some.injEq, Prod.mk.injEq, and_true]
    omega
  · rw [hdot, readFraction_padded (by decide) (by decide) (by omega)]
    simp only [Option.some.injEq, Prod.mk.injEq, and_true]
    omega
  · rw [hdot, readFraction_padded (by decide) (by decide) h]
    simp only [Nat.sub_self, pow_zero, mul_one]

theorem Proper.readChars_calendar (h : t.Proper) {fraction : List Char} {nanos : Nat}
    (hfraction : readFraction (fraction ++ ['Z']) = some (nanos, ['Z'])) :
    readChars ((Calendar.text t.calendar).toList ++ (fraction ++ ['Z'])) =
      some { t with nanos := nanos + if 10 ^ (9 : ℕ) ≤ t.nanos then 10 ^ (9 : ℕ) else 0 } := by
  have hback := h.ofCalendar nanos
  have hdated : isDated (Timestamp.ofCalendar { t.calendar with nanos } 0) = true := by
    rw [hback]
    exact h.dated
  rw [← hback]
  exact readChars_text h.calendar_year calendar_date calendar_time.1 calendar_time.2
    calendar_second hdated hfraction

/-- **A moment with a date is read back from its text.** -/
theorem Proper.ofText?_text (h : t.Proper) : ofText? t.text = some t := by
  have htext : t.text.toList =
      (Calendar.text t.calendar).toList ++ ((fractionText t.calendar.nanos).toList ++ ['Z']) := by
    simp [text]
  have hnanos :
      t.calendar.nanos + (if 10 ^ (9 : ℕ) ≤ t.nanos then 10 ^ (9 : ℕ) else 0) = t.nanos := by
    simp only [calendar]
    split_ifs <;> omega
  rw [ofText?, htext, h.readChars_calendar (readFraction_text h.calendar_nanos), hnanos]

theorem Proper.ofText?_textSeconds (h : t.Proper) : ofText? t.textSeconds = some t.toSeconds := by
  have htext : t.textSeconds.toList = (Calendar.text t.calendar).toList ++ ([] ++ ['Z']) := by
    simp [textSeconds]
  rw [ofText?, htext, h.readChars_calendar rfl, Nat.zero_add, toSeconds]

theorem textSeconds_toSeconds : t.toSeconds.textSeconds = t.textSeconds := by
  by_cases hnanos : 10 ^ (9 : ℕ) ≤ t.nanos <;>
    simp [textSeconds, toSeconds, Calendar.text, calendar, hnanos]

end Moments

end RegistryOperator.Timestamp
