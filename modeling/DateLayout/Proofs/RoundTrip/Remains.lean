import DateLayout.Proofs.Calendar.ShownTimes
import DateLayout.Proofs.Reader.Completion
import DateLayout.Proofs.RoundTrip.Texts

/-!
# What remains of a moment

What a layout leaves of a moment, said by the names of its tokens (`Remains`). A part that no
token carries is replaced by a default: year 0, the first of January, midnight, the offset of UTC.
Two digits of a year stand for 1970 to 2069, an hour on a dial of twelve hours without its half of
the day is before noon, and the half alone is its first hour. A fraction is cut to the digits of
its token. What is written is the time that a clock shows (`Moment.asShown`), which is the time
itself unless a leap second follows another second than 59.

Reading knows nothing of tokens, only of items. For spaced layouts the two ways to say what is
left agree (`remains_of_kept`); each token has one item, so this is a matter of going through the
tokens of the standard language once for each kind of item.
-/

namespace DateLayout

open DateLayout.Calendar DateLayout.Strftime

/-- Whether a piece is a token with one of the names. -/
def Piece.isNamed (names : List String) : Piece → Bool
  | .token t _ => names.contains t.text
  | _ => false

/-- Whether one of the tokens with the names is among pieces. -/
def shows (names : List String) (ps : List Piece) : Bool :=
  ps.any (Piece.isNamed names)

/-- A fraction cut to the digits that its token has. Nines stand for as many as it needs. -/
def shownFraction (ps : List Piece) (fraction : Nat) : Nat :=
  if shows [".000"] ps then cutFraction 3 fraction
  else if shows [".000000"] ps then cutFraction 6 fraction
  else if shows [".000000000", ".999", ".999999", ".999999999"] ps then fraction
  else 0

/-- What pieces leave of a moment. -/
structure Remains (m : Moment) (ps : List Piece) (r : Moment) : Prop where
  year : r.localTime.date.year =
    if shows ["yyyy"] ps then m.localTime.date.year
    else if shows ["yy"] ps then pivotYear (m.localTime.date.year % 100)
    else 0
  month : r.localTime.date.month =
    if shows ["mmmm", "mmm", "mm", "m", "ddd"] ps then m.localTime.date.month else 1
  day : r.localTime.date.day =
    if shows ["dd", "d", "ddd"] ps then m.localTime.date.day else 1
  hour : r.localTime.time.hour =
    if shows ["hhh"] ps || (shows ["hh", "h"] ps && shows ["aa", "a"] ps) then
      m.localTime.time.hour
    else if shows ["hh", "h"] ps then m.localTime.time.hour % 12
    else if shows ["aa", "a"] ps then if m.localTime.time.hour < 12 then 0 else 12
    else 0
  minute : r.localTime.time.minute =
    if shows ["ii", "i"] ps then m.localTime.time.minute else 0
  second : r.localTime.time.second =
    if shows ["ss", "s"] ps then m.localTime.time.second else 0
  nanosecond : r.localTime.time.nanosecond =
    if shows ["ss", "s"] ps then
      m.localTime.time.nanosecond / nanosPerSecond * nanosPerSecond +
        shownFraction ps m.localTime.time.fraction
    else 0
  offset : r.offset.seconds =
    if shows ["zzzz", "zz", "z", "zhh", "zh"] ps then m.offset.seconds else 0

/-! ## Names and items -/

variable {m r : Moment} {ps : List Piece}

/-- The items of a kind are those of the tokens with the names. -/
def Table (names : List String) (kind : Item → Bool) : Prop :=
  ∀ e ∈ standardItems, kind e.2 = names.contains e.1

instance (names : List String) (kind : Item → Bool) : Decidable (Table names kind) :=
  inferInstanceAs (Decidable (∀ e ∈ standardItems, _))

theorem Spaced.separator_or_token (h : Spaced ps) : ∀ p ∈ ps, (∃ c, p = .plain c) ∨
    ∃ t spelling, p = .token t spelling ∧ t ∈ Grammar.standard.tokens ∧ t.ordinal? = none := by
  induction h with
  | done => exact nofun
  | separator between tail ih =>
      intro p hp
      rcases List.mem_cons.1 hp with rfl | hp
      · exact .inl ⟨_, rfl⟩
      · exact ih p hp
  | token plain spelled before tail ih =>
      intro p hp
      rcases List.mem_cons.1 hp with rfl | hp
      · exact .inr ⟨_, _, rfl, plain.known, plain.native⟩
      · exact ih p hp
  | @fraction t u spelling digits qs second spelled fraction spelled' before tail ih =>
      intro p hp
      rcases List.mem_cons.1 hp with rfl | hp
      · exact .inr ⟨_, _, rfl, Grammar.secondTokens_subset t second,
          (Grammar.secondTokens_plain t second).1⟩
      · rcases List.mem_cons.1 hp with rfl | hp
        · exact .inr ⟨_, _, rfl, Grammar.fractionTokens_subset u fraction,
            (Grammar.fractionTokens_named u fraction).1⟩
        · exact ih p hp

theorem Spaced.ordinalsOf_eq_nil (h : Spaced ps) : ordinalsOf ps = [] := by
  rw [ordinalsOf, List.filterMap_eq_nil_iff]
  intro p hp
  rcases h.separator_or_token p hp with ⟨c, rfl⟩ | ⟨t, spelling, rfl, -, native⟩
  · rfl
  · exact native

theorem Spaced.any_item? (h : Spaced ps) {names : List String} {kind : Item → Bool}
    (table : Table names kind) {p : Piece} (hp : p ∈ ps) :
    p.item?.any kind = p.isNamed names := by
  rcases h.separator_or_token p hp with ⟨c, rfl⟩ | ⟨t, spelling, rfl, known, native⟩
  · rfl
  · obtain ⟨i, item, -, listed⟩ := Grammar.exists_item known native
    have same := table _ listed
    rw [Piece.item?, item]
    exact same

theorem Spaced.any_itemsOf (h : Spaced ps) {names : List String} {kind : Item → Bool}
    (table : Table names kind) : (itemsOf ps).any kind = shows names ps := by
  rw [itemsOf, List.any_filterMap, shows, Bool.eq_iff_iff, List.any_eq_true, List.any_eq_true]
  refine exists_congr fun p => and_congr_right fun hp => ?_
  rw [← h.any_item? table hp]
  cases p.item? <;> rfl

theorem Spaced.countP_itemsOf (h : Spaced ps) {names : List String} {kind : Item → Bool}
    (table : Table names kind) : (itemsOf ps).countP kind = ps.countP (Piece.isNamed names) := by
  rw [itemsOf, List.countP_filterMap]
  refine List.countP_congr ?_
  intro p hp
  rw [← h.any_item? table hp]
  cases p.item? <;> rfl

theorem table_year : Table ["yyyy"] (Item.isNumber .year) := by decide

theorem table_yearOfCentury : Table ["yy"] (Item.isNumber .yearOfCentury) := by decide

theorem table_century : Table [] (Item.isNumber .century) := by decide

theorem table_month : Table ["mmmm", "mmm", "mm", "m"] (Item.isNumber .month) := by decide

theorem table_day : Table ["dd", "d"] (Item.isNumber .day) := by decide

theorem table_dayOfYear : Table ["ddd"] (Item.isNumber .dayOfYear) := by decide

theorem table_halfDay : Table ["hhh", "aa", "a"] Item.isHalfDay := by decide

theorem table_dialHour : Table ["hhh", "hh", "h"] Item.isDialHour := by decide

theorem table_minute : Table ["ii", "i"] (Item.isNumber .minute) := by decide

theorem table_second : Table ["ss", "s"] (Item.isNumber .second) := by decide

theorem table_offset : Table ["zzzz", "zz", "z", "zhh", "zh"] Item.isOffset := by decide

theorem table_fraction : Table fractionNames Item.isFraction := by decide

theorem table_milliseconds : Table [".000"] (fun i => i = .fixedFraction 3) := by decide

theorem table_microseconds : Table [".000000"] (fun i => i = .fixedFraction 6) := by decide

theorem table_exact : Table [".000000000", ".999", ".999999", ".999999999"]
    (fun i => i = .fraction || i = .fixedFraction 9) := by decide

theorem shows_nil (ps : List Piece) : shows [] ps = false := by
  rw [shows, List.any_eq_false]
  intro p _
  cases p <;> exact Bool.false_ne_true

theorem shows_append (names others : List String) (ps : List Piece) :
    shows (names ++ others) ps = (shows names ps || shows others ps) := by
  have named : ∀ p : Piece,
      p.isNamed (names ++ others) = (p.isNamed names || p.isNamed others) := by
    intro p
    cases p with
    | token t spelling => exact List.contains_append
    | escaped | lastEscape | plain => rfl
  unfold shows
  induction ps with
  | nil => rfl
  | cons p ps ih =>
      rw [List.any_cons, List.any_cons, List.any_cons, ih, named]
      cases p.isNamed names <;> cases ps.any (Piece.isNamed names) <;> simp

theorem findSome?_of_mem {is : List Item} {i : Item} (mem : i ∈ is) (fraction : i.isFraction = true)
    (one : is.countP Item.isFraction ≤ 1) :
    is.findSome? (Item.toldFraction m) = i.toldFraction m := by
  obtain ⟨before, after, rfl⟩ := List.append_of_mem mem
  have front := findSome?_of_count (m := m) one fraction
  have back : after.findSome? (Item.toldFraction m) = none := by
    rw [List.countP_append, List.countP_cons_of_pos fraction] at one
    have none : after.countP Item.isFraction = 0 := by omega
    rw [List.countP_eq_zero] at none
    rw [List.findSome?_eq_none_iff]
    intro j hj
    cases told : j.toldFraction m with
    | none => rfl
    | some n => exact absurd (fraction_of_toldFraction told).1 (none j hj)
  rw [List.findSome?_append, front, Option.none_or, List.findSome?_cons, back]
  cases i.toldFraction m <;> rfl

theorem cutFraction_nine (fraction : Nat) : cutFraction 9 fraction = fraction := by
  rw [cutFraction, Nat.sub_self, Nat.pow_zero, Nat.div_one, Nat.mul_one]

theorem Spaced.keptFraction_eq (h : Spaced ps)
    (one : (itemsOf ps).countP Item.isFraction ≤ 1) :
    keptFraction m (itemsOf ps) = shownFraction ps m.localTime.time.fraction := by
  have told : ∀ i, i ∈ itemsOf ps → i.isFraction = true →
      keptFraction m (itemsOf ps) = ((i.toldFraction m).getD 0).toNat := by
    intro i mem fraction
    rw [keptFraction, findSome?_of_mem mem fraction one]
  rw [shownFraction, ← h.any_itemsOf table_milliseconds, ← h.any_itemsOf table_microseconds,
    ← h.any_itemsOf table_exact]
  split
  · next has =>
      obtain ⟨i, mem, same⟩ := List.any_eq_true.1 has
      obtain rfl := of_decide_eq_true same
      exact told _ mem rfl
  · next no3 =>
      split
      · next has =>
          obtain ⟨i, mem, same⟩ := List.any_eq_true.1 has
          obtain rfl := of_decide_eq_true same
          exact told _ mem rfl
      · next no6 =>
          split
          · next has =>
              obtain ⟨i, mem, same⟩ := List.any_eq_true.1 has
              rw [Bool.or_eq_true] at same
              rcases same with same | same
              · obtain rfl := of_decide_eq_true same
                rw [told _ mem rfl, Item.toldFraction]
                split
                · next zero => rw [zero]; rfl
                · rfl
              · obtain rfl := of_decide_eq_true same
                rw [told _ mem rfl]
                exact cutFraction_nine _
          · next no9 =>
              have names : fractionNames = [".000"] ++ ([".000000"] ++
                [".000000000", ".999", ".999999", ".999999999"]) := rfl
              have none : (itemsOf ps).any Item.isFraction = false := by
                rw [h.any_itemsOf table_fraction, names, shows_append, shows_append,
                  ← h.any_itemsOf table_milliseconds, ← h.any_itemsOf table_microseconds,
                  ← h.any_itemsOf table_exact, Bool.eq_false_iff.2 no3, Bool.eq_false_iff.2 no6,
                  Bool.eq_false_iff.2 no9]
                rfl
              rw [keptFraction]
              cases found : (itemsOf ps).findSome? (Item.toldFraction m) with
              | none => rfl
              | some n =>
                  rw [(any_isFraction_of_told found).1] at none
                  cases none

theorem keptHour_eq (h : Spaced ps) :
    keptHour m (itemsOf ps) =
      if shows ["hhh"] ps || (shows ["hh", "h"] ps && shows ["aa", "a"] ps) then
        m.localTime.time.hour
      else if shows ["hh", "h"] ps then m.localTime.time.hour % 12
      else if shows ["aa", "a"] ps then if m.localTime.time.hour < 12 then 0 else 12
      else 0 := by
  have lt := m.localTime.time.hour_lt
  have dial : shows ["hhh", "hh", "h"] ps = (shows ["hhh"] ps || shows ["hh", "h"] ps) :=
    shows_append ["hhh"] ["hh", "h"] ps
  have half : shows ["hhh", "aa", "a"] ps = (shows ["hhh"] ps || shows ["aa", "a"] ps) :=
    shows_append ["hhh"] ["aa", "a"] ps
  rw [keptHour, h.any_itemsOf table_dialHour, h.any_itemsOf table_halfDay, dial, half]
  cases shows ["hhh"] ps <;> cases shows ["hh", "h"] ps <;> cases shows ["aa", "a"] ps <;>
    simp only [Bool.or_self, Bool.or_false, Bool.or_true, Bool.and_false, Bool.and_true,
      Bool.false_eq_true, if_true, if_false]
  all_goals first
    | omega
    | (split <;> omega)

/-- For spaced layouts, what is left by the items is what remains of the shown moment by the names
of the tokens. -/
theorem remains_of_kept (h : Spaced ps) (one : (itemsOf ps).countP Item.isFraction ≤ 1)
    (kept : Kept m (itemsOf ps) r) : Remains m.asShown ps r where
  year := by
    rw [kept.year, keptYear, tells, tells, h.any_itemsOf table_year,
      h.any_itemsOf table_yearOfCentury]
    rfl
  month := by
    have names := shows_append ["mmmm", "mmm", "mm", "m"] ["ddd"] ps
    rw [kept.month, keptMonth, tells, tells, h.any_itemsOf table_month,
      h.any_itemsOf table_dayOfYear, ← names]
    rfl
  day := by
    have names := shows_append ["dd", "d"] ["ddd"] ps
    rw [kept.day, keptDay, tells, tells, h.any_itemsOf table_day,
      h.any_itemsOf table_dayOfYear, ← names]
    rfl
  hour := by
    rw [kept.hour, keptHour_eq h, ← TimeOfDay.hour_asShown]
    rfl
  minute := by
    rw [kept.minute, keptMinute, tells, h.any_itemsOf table_minute, ← TimeOfDay.minute_asShown]
    rfl
  second := by
    rw [kept.second, keptSecond, tells, h.any_itemsOf table_second, ← TimeOfDay.second_asShown]
    rfl
  nanosecond := by
    rw [kept.nanosecond, keptNanosecond, tells, h.any_itemsOf table_second,
      ← TimeOfDay.leap_asShown, h.keptFraction_eq one, ← TimeOfDay.fraction_asShown]
    rfl
  offset := by
    rw [kept.offset, keptOffset, h.any_itemsOf table_offset]
    rfl

end DateLayout
