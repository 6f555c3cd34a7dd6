import Mathlib.Data.Nat.Digits

/-!
# Go time values and their RFC 3339 text

The exchange-rate cache keys its entries by
`t.Truncate(5*time.Minute).Format(time.RFC3339)`. This module embeds the part of Go's
`time` package those keys use: a `Time` as Go stores it, `Truncate`, and the layout
`2006-01-02T15:04:05Z07:00`.

The keys rely on the shape of the text, not on the calendar: every formatted time holds a
`T` before its first `:`, and no `T` follows that `:` (`RFC3339Shape`).
-/

namespace CodeServer

/-- A Go `time.Time`: whole seconds since the zero time (January 1, year 1, 00:00:00 UTC),
nanoseconds within that second, and the offset in seconds east of UTC of its location. The
monotonic clock reading is left out: `Truncate` strips it and `Format` ignores it. -/
structure Time where
  sec : Int
  nsec : Nat
  offset : Int
  deriving DecidableEq, Repr

namespace Time

/-- `time.Second`, in nanoseconds. -/
def second : Nat := 1000000000

/-- `t.Truncate(d)`: `t` rounded down to a multiple of `d` nanoseconds since the zero time;
`d = 0` returns `t`. The offset is kept: Go keeps the location and reads the offset it has at
the truncated instant, which is the same for a fixed zone. -/
def truncate (t : Time) (d : Nat) : Time :=
  if d = 0 then t
  else
    let abs : Int := t.sec * second + t.nsec
    let down := abs - abs % d
    { t with sec := down / second, nsec := (down % second).toNat }

/-- The proleptic Gregorian `(year, month, day)` of a day counted from January 1, year 1,
by the days-to-civil algorithm over 400-year eras starting on March 1. -/
def civil (days : Int) : Int × Nat × Nat :=
  let z := days + 306
  let era := z / 146097
  let doe := (z - era * 146097).toNat
  let yoe := (doe - doe / 1460 + doe / 36524 - doe / 146096) / 365
  let doy := doe - (365 * yoe + yoe / 4 - yoe / 100)
  let mp := (5 * doy + 2) / 153
  let month := if mp < 10 then mp + 3 else mp - 9
  (yoe + era * 400 + (if month ≤ 2 then 1 else 0), month, doy - (153 * mp + 2) / 5 + 1)

/-- Go's `appendInt(b, n, width)` for `n ≥ 0`: the decimal digits of `n`, padded on the left
with `0` up to `width`. -/
def pad (width n : Nat) : List Char :=
  List.replicate (width - (Nat.toDigits 10 n).length) '0' ++ Nat.toDigits 10 n

/-- The year field, `appendInt(b, year, 4)`: a `-` for years before year 0. -/
def yearText (year : Int) : List Char :=
  (if year < 0 then ['-'] else []) ++ pad 4 year.natAbs

/-- The `Z07:00` field: `Z` at offset zero, else the sign and the offset in whole minutes
as `hh:mm`, the sign taken from Go's truncating `offset / 60`. -/
def zoneText (offset : Int) : List Char :=
  if offset = 0 then ['Z']
  else
    let zone := offset.natAbs / 60
    (if offset < 0 ∧ 0 < zone then '-' else '+') :: pad 2 (zone / 60) ++ ':' :: pad 2 (zone % 60)

/-- The text up to the first `:` of an RFC 3339 time: date, `T`, and hour. -/
def headText (t : Time) : List Char :=
  let wall := t.sec + t.offset
  let date := civil (wall / 86400)
  yearText date.1 ++ '-' :: pad 2 date.2.1 ++ '-' :: pad 2 date.2.2 ++
    'T' :: pad 2 ((wall % 86400).toNat / 3600)

/-- The text after the first `:` of an RFC 3339 time: minute, second and zone. -/
def tailText (t : Time) : List Char :=
  let clock := (t.sec + t.offset) % 86400
  pad 2 (clock.toNat / 60 % 60) ++ ':' :: pad 2 (clock.toNat % 60) ++ zoneText t.offset

/-- `t.Format(time.RFC3339)`. -/
def formatRFC3339 (t : Time) : String :=
  ⟨headText t ++ ':' :: tailText t⟩

/-- Every digit Go's `appendInt` writes is a decimal digit. -/
theorem toDigitsCore_isDigit (fuel n : Nat) (ds : List Char)
    (digits : ∀ c ∈ ds, c.isDigit) : ∀ c ∈ Nat.toDigitsCore 10 fuel n ds, c.isDigit := by
  induction fuel generalizing n ds with
  | zero => exact digits
  | succ fuel inductionHypothesis =>
    have head : (Nat.digitChar (n % 10)).isDigit := by
      have below : n % 10 < 10 := Nat.mod_lt n (by decide)
      generalize n % 10 = d at below
      revert d
      decide
    have extended : ∀ c ∈ Nat.digitChar (n % 10) :: ds, c.isDigit := by
      simpa [head] using digits
    simp only [Nat.toDigitsCore]
    split
    · exact extended
    · exact inductionHypothesis _ _ extended

/-- A character that is not a digit never appears in a padded number. -/
theorem not_mem_pad {c : Char} (notDigit : c.isDigit = false) (width n : Nat) :
    c ∉ pad width n := by
  intro member
  simp only [pad, List.mem_append, List.mem_replicate] at member
  rcases member with ⟨-, rfl⟩ | member
  · exact absurd notDigit (by decide)
  · have := toDigitsCore_isDigit _ n [] (by simp) c member
    simp_all

@[simp] theorem colon_not_mem_pad (width n : Nat) : ':' ∉ pad width n :=
  not_mem_pad (by decide) width n

@[simp] theorem T_not_mem_pad (width n : Nat) : 'T' ∉ pad width n :=
  not_mem_pad (by decide) width n

@[simp] theorem colon_not_mem_yearText (year : Int) : ':' ∉ yearText year := by
  simp only [yearText]
  split <;> simp

@[simp] theorem T_not_mem_zoneText (offset : Int) : 'T' ∉ zoneText offset := by
  simp only [zoneText]
  split
  · simp
  · split <;> simp

end Time

/-- The shape of every RFC 3339 text: a head that holds a `T` and no `:`, a `:`, and a
tail with no `T`. -/
structure RFC3339Shape (text : List Char) : Prop where
  split : ∃ head tail, text = head ++ ':' :: tail ∧ 'T' ∈ head ∧ ':' ∉ head ∧ 'T' ∉ tail

/-- Every formatted time has the RFC 3339 shape. -/
theorem Time.formatRFC3339_shape (t : Time) : RFC3339Shape (Time.formatRFC3339 t).data := by
  refine ⟨⟨Time.headText t, Time.tailText t, rfl, ?_, ?_, ?_⟩⟩
  · simp [Time.headText]
  · simp [Time.headText]
  · simp [Time.tailText]

namespace RFC3339Shape

/-- Whatever follows a separator absent from a prefix lies inside the suffix after that
prefix's separator. -/
theorem suffix_after_sep {sep : Char} {head tail before after : List Char}
    (absent : sep ∉ head) (split : head ++ sep :: tail = before ++ sep :: after) :
    after <:+ tail := by
  induction before generalizing head with
  | nil =>
    cases head with
    | nil => exact (List.cons.inj split).2 ▸ List.suffix_refl _
    | cons first rest => exact absurd (List.cons.inj split).1 (by simp_all)
  | cons first rest inductionHypothesis =>
    cases head with
    | nil =>
      obtain ⟨-, rfl⟩ := List.cons.inj split
      exact (List.suffix_cons _ _).trans (List.suffix_append _ _)
    | cons _ headRest =>
      exact inductionHypothesis (by simp_all) (List.cons.inj split).2

/-- No `T` follows any `:` of an RFC 3339 text. -/
theorem T_not_mem_after_colon {text before after : List Char} (shape : RFC3339Shape text)
    (split : text = before ++ ':' :: after) : 'T' ∉ after := by
  obtain ⟨head, tail, rfl, -, absent, noT⟩ := shape.split
  exact fun member => noT ((suffix_after_sep absent split).subset member)

theorem T_mem {text : List Char} (shape : RFC3339Shape text) : 'T' ∈ text := by
  obtain ⟨head, tail, rfl, present, -⟩ := shape.split
  exact List.mem_append_left _ present

/-- A key `prefix:time` determines its prefix and its time text, for every prefix, colons
included: the time text cannot hide inside another time text after a colon. -/
theorem prefix_colon_injective {prefixLeft prefixRight textLeft textRight : List Char}
    (left : RFC3339Shape textLeft) (right : RFC3339Shape textRight)
    (equal : prefixLeft ++ ':' :: textLeft = prefixRight ++ ':' :: textRight) :
    prefixLeft = prefixRight ∧ textLeft = textRight := by
  rcases List.append_eq_append_iff.mp equal with ⟨extra, rfl, rest⟩ | ⟨extra, rfl, rest⟩
  · cases extra with
    | nil => simp_all
    | cons first extraRest =>
      obtain ⟨-, split⟩ := List.cons.inj rest
      exact absurd right.T_mem (left.T_not_mem_after_colon split)
  · cases extra with
    | nil => simp_all
    | cons first extraRest =>
      obtain ⟨-, split⟩ := List.cons.inj rest
      exact absurd left.T_mem (right.T_not_mem_after_colon split)

end RFC3339Shape

end CodeServer
