import CodeServer.Go.Time

/-!
# What the RFC 3339 text of a time determines

`Format(time.RFC3339)` shows the wall clock to the second and the zone offset to the minute:
it drops the nanoseconds and the seconds of an offset. On times truncated to a whole number
of seconds, at least two minutes, nothing is lost: the text determines the time
(`truncated_text_determines_time`). The exchange-rate keys truncate to five minutes, so two
request times share a key exactly when they fall in the same five-minute window and carry
the same offset.

Reading the text back needs a one-to-one calendar. `civil` splits a day of a 400-year era
into its century, four-year block, year and day of a year that starts on March 1
(`era_day_split`, `civil_of_split`), and distinct days get distinct dates (`civil_inj`).
Numbers are read back through the value of their digits (`digitsValue_pad`).
-/

namespace CodeServer.Time

/-! ## Digits -/

/-- The number a string of decimal digits spells, read left to right. -/
def digitsValue (text : List Char) : Nat :=
  text.foldl (fun value c => 10 * value + (c.toNat - '0'.toNat)) 0

theorem foldl_digits (text : List Char) (start : Nat) :
    text.foldl (fun value c => 10 * value + (c.toNat - '0'.toNat)) start =
      start * 10 ^ text.length + digitsValue text := by
  induction text generalizing start with
  | nil => simp [digitsValue]
  | cons c rest inductionHypothesis =>
    simp only [digitsValue, List.foldl_cons, List.length_cons] at inductionHypothesis ⊢
    rw [inductionHypothesis, inductionHypothesis (10 * 0 + _)]
    ring

theorem digitsValue_cons (c : Char) (rest : List Char) :
    digitsValue (c :: rest) = (c.toNat - '0'.toNat) * 10 ^ rest.length + digitsValue rest := by
  rw [digitsValue, List.foldl_cons, foldl_digits]
  simp

theorem digitsValue_replicate_zero (count : Nat) (rest : List Char) :
    digitsValue (List.replicate count '0' ++ rest) = digitsValue rest := by
  induction count with
  | zero => rfl
  | succ count inductionHypothesis =>
    rw [List.replicate_succ, List.cons_append, digitsValue_cons, inductionHypothesis]
    simp

theorem digitChar_value {d : Nat} (digit : d < 10) : (Nat.digitChar d).toNat - '0'.toNat = d := by
  interval_cases d <;> rfl

theorem digitsValue_toDigitsCore (fuel n : Nat) (ds : List Char) (enough : n < fuel) :
    digitsValue (Nat.toDigitsCore 10 fuel n ds) = n * 10 ^ ds.length + digitsValue ds := by
  induction fuel generalizing n ds with
  | zero => omega
  | succ fuel inductionHypothesis =>
    simp only [Nat.toDigitsCore]
    split
    · rw [digitsValue_cons, digitChar_value (Nat.mod_lt n (by decide)), Nat.mod_eq_of_lt (by omega)]
    · rw [inductionHypothesis _ _ (by omega), digitsValue_cons,
        digitChar_value (Nat.mod_lt n (by decide)), List.length_cons]
      calc n / 10 * 10 ^ (ds.length + 1) + ((n % 10) * 10 ^ ds.length + digitsValue ds)
          = (10 * (n / 10) + n % 10) * 10 ^ ds.length + digitsValue ds := by ring
        _ = n * 10 ^ ds.length + digitsValue ds := by rw [Nat.div_add_mod]

/-- A padded number reads back as the number. -/
@[simp] theorem digitsValue_pad (width n : Nat) : digitsValue (pad width n) = n := by
  rw [pad, digitsValue_replicate_zero, Nat.toDigits,
    digitsValue_toDigitsCore _ _ _ (Nat.lt_succ_self n)]
  simp [digitsValue]

/-- `appendInt` with one width writes distinct numbers differently. -/
theorem pad_inj {width n m : Nat} (equal : pad width n = pad width m) : n = m := by
  simpa using congrArg digitsValue equal

/-- Numbers under 100 take exactly two characters at width 2. -/
theorem pad_length {n : Nat} (small : n < 100) : (pad 2 n).length = 2 := by
  have bound := Nat.toDigitsCore_length 10 (by decide) (n + 1) n 2 small (by decide)
  simp only [pad, List.length_append, List.length_replicate, Nat.toDigits]
  omega
/-! ## The calendar -/

/-- A day of a 400-year era splits into its century, its four-year block within the
century, its year within the block, and its day within that March-based year; a block's
last year alone has a 366th day, but not in the last block of a century other than the
era's fourth. -/
theorem era_day_split (doe : Nat) (inEra : doe ≤ 146096) :
    ∃ h q s j, h ≤ 3 ∧ q ≤ 24 ∧ s ≤ 3 ∧
      (j ≤ 364 ∨ (j = 365 ∧ s = 3 ∧ (q < 24 ∨ h = 3))) ∧
      doe = 36524 * h + 1461 * q + 365 * s + j := by
  obtain ⟨h, r, hb, rb, centuries⟩ :
      ∃ h r, h ≤ 3 ∧ (r ≤ 36523 ∨ (h = 3 ∧ r = 36524)) ∧ doe = 36524 * h + r :=
    if early : doe < 109572 then ⟨doe / 36524, doe % 36524, by omega, by omega, by omega⟩
    else ⟨3, doe - 109572, le_refl _, by omega, by omega⟩
  obtain ⟨q, r', qb, rb', blocks⟩ :
      ∃ q r', q ≤ 24 ∧ (r' ≤ 1460 ∧ (q = 24 → r' ≤ r - 35064)) ∧ r = 1461 * q + r' :=
    if early : r < 35064 then ⟨r / 1461, r % 1461, by omega, by omega, by omega⟩
    else ⟨24, r - 35064, le_refl _, by omega, by omega⟩
  obtain ⟨s, j, sb, jb, years⟩ :
      ∃ s j, s ≤ 3 ∧ (j ≤ 364 ∨ (s = 3 ∧ j ≤ r' - 1095)) ∧ r' = 365 * s + j :=
    if early : r' < 1095 then ⟨r' / 365, r' % 365, by omega, by omega, by omega⟩
    else ⟨3, r' - 1095, le_refl _, by omega, by omega⟩
  exact ⟨h, q, s, j, hb, qb, sb, by omega, by omega⟩
/-- `(365 * years + rest) / 365 = years` for a remainder under a year. -/
theorem div_year {years rest : Nat} (under : rest < 365) : (rest + 365 * years) / 365 = years := by
  rw [Nat.add_mul_div_left _ _ (by norm_num), Nat.div_eq_of_lt under, Nat.zero_add]

/-- The year of the era `civil` computes for a split day: the four-year count carries one
late in the block's last year, and the century count only at the era's last day. -/
theorem yoe_of_split {h q s j : Nat} (hb : h ≤ 3) (qb : q ≤ 24) (sb : s ≤ 3)
    (jb : j ≤ 364 ∨ (j = 365 ∧ s = 3 ∧ (q < 24 ∨ h = 3))) :
    ((36524 * h + 1461 * q + 365 * s + j) - (36524 * h + 1461 * q + 365 * s + j) / 1460 +
      (36524 * h + 1461 * q + 365 * s + j) / 36524 -
      (36524 * h + 1461 * q + 365 * s + j) / 146096) / 365 =
      100 * h + 4 * q + s := by
  have fourYears : (36524 * h + 1461 * q + 365 * s + j) / 1460 =
      (24 * h + q + 365 * s + j) / 1460 + (25 * h + q) := by
    rw [show 36524 * h + 1461 * q + 365 * s + j =
        24 * h + q + 365 * s + j + 1460 * (25 * h + q) by ring,
      Nat.add_mul_div_left _ _ (by norm_num)]
  have century : (36524 * h + 1461 * q + 365 * s + j) / 36524 =
      (1461 * q + 365 * s + j) / 36524 + h := by
    rw [show 36524 * h + 1461 * q + 365 * s + j = 1461 * q + 365 * s + j + 36524 * h by ring,
      Nat.add_mul_div_left _ _ (by norm_num)]
  rw [fourYears, century]
  clear fourYears century
  rcases jb with short | ⟨rfl, rfl, last⟩
  · rw [Nat.div_eq_of_lt (by omega : 1461 * q + 365 * s + j < 36524),
      Nat.div_eq_of_lt (by omega : 36524 * h + 1461 * q + 365 * s + j < 146096)]
    rcases Nat.lt_or_ge (24 * h + q + 365 * s + j) 1460 with early | late
    · rw [Nat.div_eq_of_lt early,
        show 36524 * h + 1461 * q + 365 * s + j - (0 + (25 * h + q)) + (0 + h) - 0 =
          j + 365 * (100 * h + 4 * q + s) by omega, div_year (by omega)]
    · rw [Nat.div_eq_of_lt_le (by omega) (by omega : 24 * h + q + 365 * s + j < 2 * 1460),
        show 36524 * h + 1461 * q + 365 * s + j - (1 + (25 * h + q)) + (0 + h) - 0 =
          (j - 1) + 365 * (100 * h + 4 * q + s) by omega, div_year (by omega)]
  · rw [Nat.div_eq_of_lt_le (by omega) (by omega : 24 * h + q + 365 * 3 + 365 < 2 * 1460)]
    rcases Nat.lt_or_ge q 24 with early | late
    · rw [Nat.div_eq_of_lt (by omega : 1461 * q + 365 * 3 + 365 < 36524),
        Nat.div_eq_of_lt (by omega : 36524 * h + 1461 * q + 365 * 3 + 365 < 146096),
        show 36524 * h + 1461 * q + 365 * 3 + 365 - (1 + (25 * h + q)) + (0 + h) - 0 =
          364 + 365 * (100 * h + 4 * q + 3) by omega, div_year (by omega)]
    · obtain ⟨rfl, rfl⟩ : q = 24 ∧ h = 3 := by omega
      decide

/-- The month and day of the day `j` (from 0) of a year that starts on March 1, as `civil`
computes them. -/
def marchDate (j : Nat) : Nat × Nat :=
  let mp := (5 * j + 2) / 153
  (if mp < 10 then mp + 3 else mp - 9, j - (153 * mp + 2) / 5 + 1)

theorem marchDate_inj {j j' : Nat} (inYear : j ≤ 365) (inYear' : j' ≤ 365)
    (same : marchDate j = marchDate j') : j = j' := by
  simp only [marchDate, Prod.mk.injEq] at same
  obtain ⟨months, dayNumbers⟩ := same
  have sameMonth : (5 * j + 2) / 153 = (5 * j' + 2) / 153 := by split_ifs at months <;> omega
  rw [sameMonth] at dayNumbers
  omega

/-- `civil` of a split day: the era's year, and the month and day of the March-based year. -/
theorem civil_of_split {days era : Int} {h q s j : Nat} (hb : h ≤ 3) (qb : q ≤ 24) (sb : s ≤ 3)
    (jb : j ≤ 364 ∨ (j = 365 ∧ s = 3 ∧ (q < 24 ∨ h = 3)))
    (split : days + 306 = 146097 * era + ((36524 * h + 1461 * q + 365 * s + j : Nat) : Int)) :
    civil days = ((100 * h + 4 * q + s : Nat) + era * 400 +
      (if (marchDate j).1 ≤ 2 then 1 else 0), marchDate j) := by
  have eraEq : (days + 306) / 146097 = era := by omega
  have doeEq : (days + 306 - era * 146097).toNat = 36524 * h + 1461 * q + 365 * s + j := by omega
  have quarter : (100 * h + 4 * q + s) / 4 = 25 * h + q := by omega
  have hundred : (100 * h + 4 * q + s) / 100 = h := by omega
  have doyEq : 36524 * h + 1461 * q + 365 * s + j - (365 * (100 * h + 4 * q + s) +
      (100 * h + 4 * q + s) / 4 - (100 * h + 4 * q + s) / 100) = j := by
    rw [quarter, hundred]
    omega
  simp only [civil, eraEq, doeEq, yoe_of_split hb qb sb jb, doyEq, marchDate]

/-- Every day splits into an era and a day of it. -/
theorem civil_split (days : Int) :
    ∃ era : Int, ∃ h q s j : Nat, h ≤ 3 ∧ q ≤ 24 ∧ s ≤ 3 ∧
    (j ≤ 364 ∨ (j = 365 ∧ s = 3 ∧ (q < 24 ∨ h = 3))) ∧
    days + 306 = 146097 * era + ((36524 * h + 1461 * q + 365 * s + j : Nat) : Int) := by
  obtain ⟨h, q, s, j, hb, qb, sb, jb, split⟩ :=
    era_day_split ((days + 306) % 146097).toNat (by omega)
  exact ⟨(days + 306) / 146097, h, q, s, j, hb, qb, sb, jb, by omega⟩

/-- Distinct days have distinct dates. -/
theorem civil_inj {days days' : Int} (same : civil days = civil days') : days = days' := by
  obtain ⟨era, h, q, s, j, hb, qb, sb, jb, split⟩ := civil_split days
  obtain ⟨era', h', q', s', j', hb', qb', sb', jb', split'⟩ := civil_split days'
  rw [civil_of_split hb qb sb jb split, civil_of_split hb' qb' sb' jb' split'] at same
  obtain ⟨years, dates⟩ := Prod.mk.inj same
  obtain rfl := marchDate_inj (by omega) (by omega) dates
  omega

/-! ## Reading the text back -/

/-- Splitting at the first occurrence of a separator is unique. -/
theorem append_cons_inj_of_not_mem {sep : Char} {head tail head' tail' : List Char}
    (absent : sep ∉ head) (absent' : sep ∉ head')
    (equal : head ++ sep :: tail = head' ++ sep :: tail') : head = head' ∧ tail = tail' := by
  have shorter := RFC3339Shape.suffix_after_sep absent equal
  have longer := RFC3339Shape.suffix_after_sep absent' equal.symm
  obtain rfl := longer.eq_of_length (le_antisymm longer.length_le shorter.length_le)
  exact ⟨List.append_cancel_right equal, rfl⟩

/-- The year field has a `-` exactly for negative years, then the padded absolute value. -/
theorem yearText_inj {year year' : Int} (same : yearText year = yearText year') : year = year' := by
  simp only [yearText] at same
  split_ifs at same with negative negative' <;>
    simp only [List.singleton_append, List.nil_append] at same
  · have := pad_inj (List.cons.inj same).2
    omega
  · exact absurd (same ▸ List.mem_cons_self '-' _) (@not_mem_pad '-' (by decide) _ _)
  · exact absurd (same.symm ▸ List.mem_cons_self '-' _) (@not_mem_pad '-' (by decide) _ _)
  · have := pad_inj same
    omega

/-- Months and days have two digits. -/
theorem civil_fields_lt (days : Int) : (civil days).2.1 < 100 ∧ (civil days).2.2 < 100 := by
  obtain ⟨era, h, q, s, j, hb, qb, sb, jb, split⟩ := civil_split days
  rw [civil_of_split hb qb sb jb split]
  simp only [marchDate]
  constructor
  · split_ifs <;> omega
  · omega

/-- The text before the first `:` gives the day and the hour of the wall clock. -/
theorem headText_inj {t t' : Time} (same : headText t = headText t') :
    (t.sec + t.offset) / 86400 = (t'.sec + t'.offset) / 86400 ∧
      ((t.sec + t.offset) % 86400).toNat / 3600 = ((t'.sec + t'.offset) % 86400).toNat / 3600 := by
  simp only [headText] at same
  obtain ⟨month, day⟩ := civil_fields_lt ((t.sec + t.offset) / 86400)
  obtain ⟨month', day'⟩ := civil_fields_lt ((t'.sec + t'.offset) / 86400)
  have hour : ((t.sec + t.offset) % 86400).toNat / 3600 < 100 := by omega
  have hour' : ((t'.sec + t'.offset) % 86400).toNat / 3600 < 100 := by omega
  obtain ⟨front, hours⟩ := List.append_inj' same (by simp [pad_length hour, pad_length hour'])
  obtain ⟨front, days⟩ := List.append_inj' front (by simp [pad_length day, pad_length day'])
  obtain ⟨years, months⟩ := List.append_inj' front (by simp [pad_length month, pad_length month'])
  exact ⟨civil_inj (Prod.ext (yearText_inj years)
      (Prod.ext (pad_inj (List.cons.inj months).2) (pad_inj (List.cons.inj days).2))),
    pad_inj (List.cons.inj hours).2⟩

/-- Equal zone fields come from offsets less than two minutes apart: they show the same
sign and the same whole minutes, and `+00:00` stands for every nonzero offset under a
minute. -/
theorem zoneText_close {offset offset' : Int} (same : zoneText offset = zoneText offset') :
    offset - offset' < 120 ∧ offset' - offset < 120 := by
  unfold zoneText at same
  by_cases zero : offset = 0 <;> by_cases zero' : offset' = 0
  · omega
  · simp [zero, zero'] at same
  · simp [zero, zero'] at same
  · simp only [zero, zero', if_false] at same
    have minutes : offset.natAbs / 60 % 60 < 100 := by omega
    have minutes' : offset'.natAbs / 60 % 60 < 100 := by omega
    obtain ⟨hours, rest⟩ :=
      List.append_inj' same (by simp [pad_length minutes, pad_length minutes'])
    obtain ⟨signs, hours⟩ := List.cons.inj hours
    have sameHours := pad_inj hours
    have sameMinutes := pad_inj (List.cons.inj rest).2
    split_ifs at signs <;> first | exact absurd signs (by decide) | omega

/-- The text after the first `:` gives the minute and the second of the wall clock, and
the zone field. -/
theorem tailText_inj {t t' : Time} (same : tailText t = tailText t') :
    ((t.sec + t.offset) % 86400).toNat / 60 % 60 = ((t'.sec + t'.offset) % 86400).toNat / 60 % 60 ∧
      ((t.sec + t.offset) % 86400).toNat % 60 = ((t'.sec + t'.offset) % 86400).toNat % 60 ∧
      zoneText t.offset = zoneText t'.offset := by
  simp only [tailText] at same
  have minute : ((t.sec + t.offset) % 86400).toNat / 60 % 60 < 100 := by omega
  have minute' : ((t'.sec + t'.offset) % 86400).toNat / 60 % 60 < 100 := by omega
  have seconds : ((t.sec + t.offset) % 86400).toNat % 60 < 100 := by omega
  have seconds' : ((t'.sec + t'.offset) % 86400).toNat % 60 < 100 := by omega
  obtain ⟨front, zones⟩ := List.append_inj same
    (by simp [pad_length minute, pad_length minute', pad_length seconds, pad_length seconds'])
  obtain ⟨minutes, seconds⟩ :=
    List.append_inj front (by simp [pad_length minute, pad_length minute'])
  exact ⟨pad_inj minutes, pad_inj (List.cons.inj seconds).2, zones⟩

/-- Equal RFC 3339 texts show the same wall clock, to the second, and offsets less than two
minutes apart. -/
theorem formatRFC3339_close {t t' : Time} (same : t.formatRFC3339 = t'.formatRFC3339) :
    t.sec + t.offset = t'.sec + t'.offset ∧ t.offset - t'.offset < 120 ∧
      t'.offset - t.offset < 120 := by
  obtain ⟨heads, tails⟩ := append_cons_inj_of_not_mem (by simp [headText]) (by simp [headText])
    (congrArg String.data same)
  obtain ⟨days, hours⟩ := headText_inj heads
  obtain ⟨minutes, seconds, zones⟩ := tailText_inj tails
  exact ⟨by omega, zoneText_close zones⟩

/-- Truncating to whole seconds leaves whole multiples of the step and no nanoseconds. -/
theorem truncate_whole {d : Nat} (whole : second ∣ d) (positive : 0 < d) (t : Time) :
    ((d / second : Nat) : Int) ∣ (t.truncate d).sec ∧ (t.truncate d).nsec = 0 := by
  obtain ⟨m, rfl⟩ := whole
  have secondPos : (0 : Int) < second := by decide
  rw [Nat.mul_div_cancel_left m (by decide)]
  simp only [truncate, Nat.pos_iff_ne_zero.mp positive, if_false]
  rw [Int.emod_def, sub_sub_cancel, Nat.cast_mul, mul_assoc, Int.mul_ediv_cancel_left _ secondPos.ne',
    Int.mul_emod_right]
  exact ⟨Dvd.intro _ rfl, rfl⟩

/-- The text of a truncation to a whole number of seconds, at least two minutes, determines
the truncation. -/
theorem truncate_formatRFC3339_inj {d : Nat} (whole : second ∣ d) (long : 120 * second ≤ d)
    {t t' : Time} (same : (t.truncate d).formatRFC3339 = (t'.truncate d).formatRFC3339) :
    t.truncate d = t'.truncate d := by
  obtain ⟨walls, close, close'⟩ := formatRFC3339_close same
  have positive : 0 < d := lt_of_lt_of_le (by decide) long
  have window : 120 ≤ d / second := (Nat.le_div_iff_mul_le (by decide)).mpr long
  obtain ⟨steps, nsec⟩ := truncate_whole whole positive t
  obtain ⟨steps', nsec'⟩ := truncate_whole whole positive t'
  have secs := Int.eq_zero_of_dvd_of_natAbs_lt_natAbs (dvd_sub steps steps') (by omega)
  cases truncated : t.truncate d
  cases truncated' : t'.truncate d
  simp only [truncated, truncated'] at walls secs nsec nsec'
  simp only [Time.mk.injEq]
  omega

/-- Two times truncated to the same whole number of seconds, at least two minutes, have the
same RFC 3339 text only when they are the same time: the text shows the wall clock to the
second and the offset to the minute. -/
theorem truncated_text_determines_time {d : Nat} (whole : second ∣ d) (long : 120 * second ≤ d)
    {t t' : Time} (same : (t.truncate d).formatRFC3339 = (t'.truncate d).formatRFC3339) :
    t.truncate d = t'.truncate d :=
  truncate_formatRFC3339_inj whole long same

/-- Two request times in one five-minute window at offset +01:00 share their text, and so
their truncation. -/
theorem window_text_shared :
    second ∣ 300 * second ∧ 120 * second ≤ 300 * second ∧
      (Time.truncate ⟨0, 0, 3600⟩ (300 * second)).formatRFC3339 =
        (Time.truncate ⟨299, 999, 3600⟩ (300 * second)).formatRFC3339 ∧
      Time.truncate ⟨0, 0, 3600⟩ (300 * second) =
        Time.truncate ⟨299, 999, 3600⟩ (300 * second) :=
  have whole : second ∣ 300 * second := Dvd.intro_left 300 rfl
  have long : 120 * second ≤ 300 * second := by decide
  have same : (Time.truncate ⟨0, 0, 3600⟩ (300 * second)).formatRFC3339 =
      (Time.truncate ⟨299, 999, 3600⟩ (300 * second)).formatRFC3339 := by decide
  ⟨whole, long, same, truncated_text_determines_time whole long same⟩

end CodeServer.Time
