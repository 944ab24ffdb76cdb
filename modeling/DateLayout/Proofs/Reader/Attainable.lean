import DateLayout.Proofs.Reader.Completion

/-!
# The moments that can be read

Not every moment can come out of reading a text. Its year is one that can be read, its offset is
one of whole minutes, since no layout has seconds in an offset, and a leap second follows second
59 (`Attainable`).

What it takes for this is said of the fields while they are filled (`Fields.Sound`): a fraction is
less than a second and an offset has whole minutes. Each item keeps it so, whatever it reads, and
the rest is seen where the fields are resolved. A timestamp can supply a date and a time, but it
does so through the same fields.
-/

namespace DateLayout

open DateLayout.Calendar DateLayout.Strftime DateLayout.Text

/-- The moments that reading can give. -/
structure Attainable (m : Moment) : Prop where
  inRange : m.localTime.date.inRange = true
  leap : nanosPerSecond ≤ m.localTime.time.nanosecond → m.localTime.time.second = 59
  minutes : 60 ∣ m.offset.seconds
  instant : instantInRange m.instant = true

namespace Strftime

/-! ## Fields -/

/-- Fields with a fraction of less than a second and an offset of whole minutes. -/
structure Fields.Sound (f : Fields) : Prop where
  nanosecond : ∀ n, f.nanosecond = some n → 0 ≤ n ∧ n ≤ 999999999
  offset : ∀ n, f.offset = some n → 60 ∣ n

/-- An offset of whole minutes, or any other entry. -/
def Entry.Sound : Entry → Prop
  | .offset seconds => 60 ∣ seconds
  | _ => True

variable {f g : Fields} {i : Item} {entry : Entry} {cs rest : List Char}

theorem Fields.sound_empty : Fields.empty.Sound :=
  ⟨nofun, nofun⟩

theorem Fields.Sound.of_eq (h : f.Sound) (nanosecond : g.nanosecond = f.nanosecond)
    (offset : g.offset = f.offset) : g.Sound := by
  refine ⟨?_, ?_⟩
  · rw [nanosecond]
    exact h.nanosecond
  · rw [offset]
    exact h.offset

/-- A number goes to its own field. -/
theorem Fields.setNumber_keeps {field : NumberField} {n : Int}
    (h : f.setNumber field n = .ok g) :
    g.offset = f.offset ∧ (field ≠ .nanosecond → g.nanosecond = f.nanosecond) := by
  cases field with
  | hour =>
      rw [setNumber, setHour] at h
      split at h
      · obtain ⟨f', half, h⟩ := exists_of_bind_ok h
        obtain ⟨afterNoon, -, half⟩ := exists_of_bind_ok half
        cases half
        obtain ⟨dial, -, h⟩ := exists_of_bind_ok h
        cases h
        exact ⟨rfl, fun _ => rfl⟩
      · cases h
  | hourOfHalfDay =>
      rw [setNumber, setDialHour] at h
      split at h
      · obtain ⟨dial, -, h⟩ := exists_of_bind_ok h
        cases h
        exact ⟨rfl, fun _ => rfl⟩
      · cases h
  | nanosecond =>
      obtain ⟨nanos, -, h⟩ := exists_of_bind_ok h
      cases h
      exact ⟨rfl, fun other => absurd rfl other⟩
  | year | century | yearOfCentury | month | day | dayOfYear | quarter | isoYear
  | isoYearOfCentury | isoWeek | weekFromSunday | weekFromMonday | minute | second | timestamp =>
      obtain ⟨value, -, h⟩ := exists_of_bind_ok h
      cases h
      exact ⟨rfl, fun _ => rfl⟩

theorem Fields.nanosecond_setNumber (field : NumberField) (other : field ≠ .nanosecond) {n : Int}
    (h : f.setNumber field n = .ok g) : g.nanosecond = f.nanosecond :=
  (setNumber_keeps h).2 other

theorem Fields.Sound.setNumber (h : f.Sound) {field : NumberField} {n : Int}
    (done : f.setNumber field n = .ok g) : g.Sound := by
  obtain ⟨offset, others⟩ := setNumber_keeps done
  by_cases nano : field = .nanosecond
  · subst nano
    obtain ⟨nanos, set, done⟩ := exists_of_bind_ok done
    obtain ⟨within, rfl⟩ := settleWithin_eq_ok set
    cases done
    refine ⟨?_, h.offset⟩
    intro k same
    cases same
    exact within
  · exact h.of_eq (others nano) offset

theorem Fields.Sound.enter (h : f.Sound) (sound : entry.Sound) (done : f.enter entry = .ok g) :
    g.Sound := by
  cases entry with
  | nothing =>
      cases done
      exact h
  | number field n => exact h.setNumber done
  | weekday | meridiem =>
      obtain ⟨value, -, done⟩ := exists_of_bind_ok done
      cases done
      exact h.of_eq rfl rfl
  | offset seconds =>
      obtain ⟨offset, set, done⟩ := exists_of_bind_ok done
      obtain rfl := settle_eq_ok set
      cases done
      refine ⟨h.nanosecond, ?_⟩
      intro k same
      cases same
      exact sound

/-! ## Items -/

theorem dvd_of_readSignedOffset {optional : Bool} {seconds : Int}
    (h : readSignedOffset optional cs = .ok (seconds, rest)) : 60 ∣ seconds := by
  obtain ⟨⟨west, cs₁⟩, -, h⟩ := exists_of_bind_ok h
  obtain ⟨⟨hours, cs₂⟩, -, h⟩ := exists_of_bind_ok h
  obtain ⟨⟨minutes, cs₃⟩, -, h⟩ := exists_of_bind_ok h
  cases h
  cases west <;> simp only [Bool.false_eq_true, if_true, if_false] <;> omega

theorem OffsetForm.dvd_of_read {form : OffsetForm} {seconds : Int}
    (h : form.read cs = .ok (seconds, rest)) : 60 ∣ seconds := by
  cases form with
  | anyLength =>
      unfold OffsetForm.read at h
      simp only [] at h
      split at h
      · cases h
        exact Int.dvd_zero 60
      · cases h
        exact Int.dvd_zero 60
      · exact dvd_of_readSignedOffset h
  | colonOrUtc =>
      unfold OffsetForm.read at h
      simp only [] at h
      split at h
      · cases h
        exact Int.dvd_zero 60
      · split at h
        · cases h
          exact Int.dvd_zero 60
        · cases h
          exact Int.dvd_zero 60
        · exact dvd_of_readSignedOffset h
  | plain | colon | seconds | hours => exact dvd_of_readSignedOffset h

/-- The entries that an item can come to. An offset has whole minutes. -/
def Item.Gives : Item → Entry → Prop
  | .literal _, entry | .blank _, entry | .timeMark, entry | .zoneName, entry => entry = .nothing
  | .number field _, entry => ∃ n, entry = .number field n
  | .monthName _, entry => ∃ n, entry = .number .month n
  | .weekdayName _, entry | .weekdayNumber _, entry => ∃ w, entry = .weekday w
  | .meridiem _, entry => ∃ afterNoon, entry = .meridiem afterNoon
  | .fraction, entry | .fixedFraction _, entry =>
      entry = .nothing ∨ ∃ n, entry = .number .nanosecond n
  | .bareFraction _, entry => ∃ n, entry = .number .nanosecond n
  | .offset _, entry => ∃ seconds, entry = .offset seconds ∧ 60 ∣ seconds
  | .unknown, _ => False

theorem Item.gives_of_read (h : i.read cs = .ok (entry, rest)) : i.Gives entry := by
  cases i with
  | literal text =>
      rw [Item.read] at h
      split at h
      · cases h
      · split at h
        · cases h
          exact rfl
        · cases h
  | blank | zoneName =>
      cases h
      exact rfl
  | number field padding =>
      cases field with
      | _ =>
          obtain ⟨_, -, h⟩ := exists_of_bind_ok h
          cases h
          exact ⟨_, rfl⟩
  | monthName | weekdayName | weekdayNumber | meridiem | bareFraction =>
      obtain ⟨_, -, h⟩ := exists_of_bind_ok h
      cases h
      exact ⟨_, rfl⟩
  | timeMark =>
      obtain ⟨_, -, h⟩ := exists_of_bind_ok h
      cases h
      exact rfl
  | fraction | fixedFraction =>
      unfold Item.read at h
      simp only [] at h
      split at h
      · obtain ⟨_, -, h⟩ := exists_of_bind_ok h
        cases h
        exact .inr ⟨_, rfl⟩
      · cases h
        exact .inl rfl
  | offset form =>
      obtain ⟨⟨seconds, cs'⟩, read, h⟩ := exists_of_bind_ok h
      cases h
      exact ⟨seconds, rfl, OffsetForm.dvd_of_read read⟩
  | unknown => cases h

theorem Item.Gives.sound (h : i.Gives entry) : entry.Sound := by
  cases i with
  | literal | blank | timeMark | zoneName =>
      obtain rfl := h
      trivial
  | number | monthName | weekdayName | weekdayNumber | meridiem | bareFraction =>
      obtain ⟨_, rfl⟩ := h
      trivial
  | fraction | fixedFraction =>
      obtain rfl | ⟨n, rfl⟩ := h
      · trivial
      · trivial
  | offset form =>
      obtain ⟨seconds, rfl, minutes⟩ := h
      exact minutes
  | unknown => exact h.elim

/-- Whatever items are read, the fields are sound after them if they were before. -/
theorem Fields.Sound.readItems (h : f.Sound) {is : List Item}
    (done : readItems is f cs = .ok g) : g.Sound := by
  induction is generalizing f cs with
  | nil =>
      rw [Strftime.readItems] at done
      split at done
      · cases done
        exact h
      · cases done
  | cons i is ih =>
      obtain ⟨⟨entry, cs'⟩, read, done⟩ := exists_of_bind_ok done
      obtain ⟨f', entered, done⟩ := exists_of_bind_ok done
      exact ih (h.enter (Item.gives_of_read read).sound entered) done

/-! ## Resolution -/

theorem Fields.inRange_of_resolveDate {d : Date} (h : f.resolveDate = .ok d) :
    d.inRange = true := by
  have confirmed : ∀ date, (do let d ← checkDate date; f.confirmDate d) = .ok d →
      d.inRange = true := by
    intro date h
    obtain ⟨d', checked, h⟩ := exists_of_bind_ok h
    rw [confirmDate] at h
    split at h
    · cases h
      unfold checkDate at checked
      split at checked
      · split at checked
        · next within =>
            cases checked
            exact within
        · cases checked
      · cases checked
    · cases h
  obtain ⟨year, -, h⟩ := exists_of_bind_ok h
  obtain ⟨_, -, h⟩ := exists_of_bind_ok h
  split at h
  · exact confirmed _ h
  · exact confirmed _ h
  · cases h

theorem Fields.leap_of_resolveTime
    (nanosecond : ∀ n, f.nanosecond = some n → 0 ≤ n ∧ n ≤ 999999999) {t : TimeOfDay}
    (h : f.resolveTime = .ok t) (leap : nanosPerSecond ≤ t.nanosecond) :
    t.second = 59 := by
  have small : (f.nanosecond.getD 0).toNat < nanosPerSecond := by
    cases hn : f.nanosecond with
    | none => decide
    | some n =>
        have within := nanosecond n hn
        show n.toNat < 1000000000
        omega
  unfold resolveTime at h
  split at h
  · split at h
    · cases h
    · simp only [] at h
      split at h
      · next parts =>
          cases h
          obtain ⟨-, -, second, nanos⟩ := TimeOfDay.eq_of_ofParts? parts
          by_cases sixty : f.second.getD 0 = 60
          · rw [second, if_pos sixty]
          · rw [nanos, if_neg sixty] at leap
            omega
      · cases h
  · cases h

theorem Fields.exists_of_resolveByTimestamp {timestamp offset : Int} {l : LocalDateTime}
    (h : f.resolveByTimestamp timestamp offset = .ok l) :
    ∃ g : Fields, g.nanosecond = f.nanosecond ∧ g.resolveDate = .ok l.date ∧
      g.resolveTime = .ok l.time := by
  obtain ⟨shown, -, h⟩ := exists_of_bind_ok h
  obtain ⟨⟨f₁, l₁⟩, fitted, h⟩ := exists_of_bind_ok h
  have first : f₁.nanosecond = f.nanosecond := by
    rw [fitSecond] at fitted
    split at fitted
    · split at fitted
      · cases fitted
        rfl
      · split at fitted
        · cases fitted
          rfl
        · cases fitted
    · obtain ⟨f', set, fitted⟩ := exists_of_bind_ok fitted
      cases fitted
      exact nanosecond_setNumber .second nofun set
  obtain ⟨f₂, year, h⟩ := exists_of_bind_ok h
  obtain ⟨f₃, place, h⟩ := exists_of_bind_ok h
  obtain ⟨f₄, hour, h⟩ := exists_of_bind_ok h
  obtain ⟨f₅, minute, h⟩ := exists_of_bind_ok h
  obtain ⟨date, resolved, h⟩ := exists_of_bind_ok h
  obtain ⟨time, resolved', h⟩ := exists_of_bind_ok h
  cases h
  refine ⟨f₅, ?_, resolved, resolved'⟩
  rw [nanosecond_setNumber .minute nofun minute, nanosecond_setNumber .hour nofun hour,
    nanosecond_setNumber .dayOfYear nofun place, nanosecond_setNumber .year nofun year, first]

/-- A local time comes from fields by way of their date and time, with or without a timestamp. -/
theorem Fields.exists_of_resolveLocal {offset : Int} {l : LocalDateTime}
    (h : f.resolveLocal offset = .ok l) :
    ∃ g : Fields, g.nanosecond = f.nanosecond ∧ g.resolveDate = .ok l.date ∧
      g.resolveTime = .ok l.time := by
  unfold resolveLocal at h
  split at h
  · obtain ⟨date, resolved, h⟩ := exists_of_bind_ok h
    obtain ⟨time, resolved', h⟩ := exists_of_bind_ok h
    cases h
    exact ⟨f, rfl, resolved, resolved'⟩
  · split at h
    · next resolved resolved' =>
        split at h
        · cases h
          exact ⟨f, rfl, resolved, resolved'⟩
        · cases h
    · split at h
      · cases h
      · exact exists_of_resolveByTimestamp h

end Strftime

/-- Whatever text is read with whatever native layout, the moment is attainable. -/
theorem attainable_of_readMoment {native text : String} {m : Moment}
    (h : Reader.readMoment native text = .ok m) : Attainable m := by
  obtain ⟨f, fields, h⟩ := exists_of_bind_ok h
  obtain ⟨f₀, read, fields⟩ := exists_of_bind_ok fields
  rw [Fields.fillDefaults_eq] at fields
  cases fields
  have sound₀ : f₀.Sound := Fields.sound_empty.readItems read
  have sound : f₀.completed.Sound := sound₀.of_eq rfl rfl
  obtain ⟨l, local_, h⟩ := exists_of_bind_ok h
  obtain ⟨g, nanosecond, date, time⟩ := Fields.exists_of_resolveLocal local_
  split at h
  · cases h
  · next o offset =>
      split at h
      · next instant =>
          cases h
          refine ⟨g.inRange_of_resolveDate date, ?_, ?_, instant⟩
          · refine g.leap_of_resolveTime ?_ time
            rw [nanosecond]
            exact sound.nanosecond
          · rw [UtcOffset.seconds_of_ofSeconds? offset]
            cases shown : f₀.completed.offset with
            | none => exact Int.dvd_zero 60
            | some seconds => exact sound.offset seconds shown
      · cases h

namespace Strftime

/-! ## Attainable moments are found again -/

/-- Items that tell all of a moment. -/
structure TellsAll (m : Moment) (is : List Item) : Prop where
  year : tells is .year = true
  century : tells is .century = false
  yearOfCentury : tells is .yearOfCentury = false
  month : tells is .month = true
  day : tells is .day = true
  half : is.any Item.isHalfDay = true
  dial : is.any Item.isDialHour = true
  minute : tells is .minute = true
  second : tells is .second = true
  fraction : keptFraction m is = m.localTime.time.fraction
  offset : is.any Item.isOffset = true

variable {m : Moment} {is : List Item}

theorem TellsAll.resolveDate (h : TellsAll m is) (inRange : m.localTime.date.inRange = true) :
    (Fields.ofItems m is).completed.resolveDate = .ok m.localTime.date := by
  have shown : (Fields.ofItems m is).year = some m.localTime.date.year := by
    show given (tells is .year) _ = _
    rw [h.year]
    rfl
  have century : (Fields.ofItems m is).century = none := by
    show given (tells is .century) _ = _
    rw [h.century]
    rfl
  have yearOfCentury : (Fields.ofItems m is).yearOfCentury = none := by
    show given (tells is .yearOfCentury) _ = _
    rw [h.yearOfCentury]
    rfl
  have month : (Fields.ofItems m is).month = some (m.localTime.date.month : Int) := by
    show given (tells is .month) _ = _
    rw [h.month]
    rfl
  have day : (Fields.ofItems m is).day = some (m.localTime.date.day : Int) := by
    show given (tells is .day) _ = _
    rw [h.day]
    rfl
  have year : (Fields.ofItems m is).completed.resolveYear = .ok m.localTime.date.year := by
    simp only [Fields.resolveYear, Fields.completed, shown, century, yearOfCentury]
    rfl
  have month' : (Fields.ofItems m is).completed.month = some (m.localTime.date.month : Int) := by
    rw [Fields.completed, month]
    exact ite_self _
  have day' : (Fields.ofItems m is).completed.day = some (m.localTime.date.day : Int) := by
    rw [Fields.completed, day]
    exact ite_self _
  refine resolveDate_of_month year month' day' ⟨?_, ?_, ?_, weekless_ofItems.completed⟩ inRange
  · rw [month']
    exact decide_eq_true rfl
  · rw [day']
    exact decide_eq_true rfl
  · exact allows_given _ _

attribute [ext] TimeOfDay

theorem TellsAll.resolveTime (h : TellsAll m is)
    (leap : nanosPerSecond ≤ m.localTime.time.nanosecond → m.localTime.time.second = 59) :
    (Fields.ofItems m is).completed.resolveTime = .ok m.localTime.time := by
  obtain ⟨t, resolved, hour, minute, second, nanos⟩ :=
    @resolveTime_completed m is fun _ => h.second
  have lt := m.localTime.time.second_lt
  have lt' := m.localTime.time.nanosecond_lt
  have same : t = m.localTime.time := by
    refine TimeOfDay.ext ?_ ?_ ?_ ?_
    · rw [hour, keptHour, h.half, h.dial, if_pos rfl, if_pos rfl]
      omega
    · rw [minute, keptMinute, h.minute, if_pos rfl]
    · rw [second, keptSecond, h.second, if_pos rfl, TimeOfDay.shownSecond]
      unfold nanosPerSecond at *
      omega
    · rw [nanos, keptNanosecond, h.second, if_pos rfl, h.fraction, TimeOfDay.shownSecond,
        TimeOfDay.fraction]
      unfold nanosPerSecond at *
      split <;> omega
  rw [resolved, same]

/-- From all that can be told of it, an attainable moment is found again. -/
theorem TellsAll.readMoment (h : TellsAll m is) (attainable : Attainable m) {native text : String}
    (read : Strftime.read native text = .ok (Fields.ofItems m is)) :
    Reader.readMoment native text = .ok m := by
  have offset : (Fields.ofItems m is).completed.offset.getD 0 = m.offset.seconds := by
    show (given (is.any Item.isOffset) m.offset.seconds).getD 0 = _
    rw [h.offset]
    rfl
  have local_ : (Fields.ofItems m is).completed.resolveLocal m.offset.seconds =
      .ok m.localTime := by
    rw [Fields.resolveLocal, h.resolveDate attainable.inRange, h.resolveTime attainable.leap]
    rfl
  rw [Reader.readMoment, Reader.readFields, read]
  simp only [bind, Except.bind, Fields.fillDefaults_eq]
  rw [offset, Fields.resolveMoment, local_, UtcOffset.ofSeconds?_seconds]
  exact if_pos attainable.instant

end Strftime

end DateLayout
