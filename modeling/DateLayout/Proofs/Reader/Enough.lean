import DateLayout.Proofs.Failures
import DateLayout.Proofs.Reader.Zones

/-!
# Whether the defaults are enough

A layout may leave out any field, and the defaults fill in what it leaves out. So reading should
not fail because there is not enough to tell a date and a time. It does so in one case: a fraction
of a second needs a second, and there is no default for that. Where a layout has a token for the
fraction and none for the second, a text with a fraction is refused (`notEnough_iff`).

Everything else is filled in. That reading has enough is kept step by step (`Enough.bind`): no
item and no setter asks for more, a date is told by year, month and day or by year and day of the
year, and a time of day by the two halves of the hour and the minute.
-/

namespace DateLayout

open DateLayout.Calendar DateLayout.Strftime DateLayout.Text

namespace Strftime

/-- A result that does not fail for want of fields. -/
def Enough {α : Type} (result : Except Fault α) : Prop :=
  result ≠ .error .notEnough

variable {α β : Type} {f g : Fields} {cs : List Char}

theorem Enough.ok (a : α) : Enough (.ok a) := by
  rintro ⟨⟩

theorem Enough.of_ne {fault : Fault} (h : fault ≠ .notEnough) :
    Enough (.error fault : Except Fault α) := by
  rintro ⟨⟩
  exact h rfl

theorem Enough.bind {first : Except Fault α} {next : α → Except Fault β} (h : Enough first)
    (others : ∀ a, Enough (next a)) : Enough (first >>= next) := by
  intro failed
  rcases error_of_bind failed with failed | ⟨a, -, failed⟩
  · exact h failed
  · exact others a failed

/-! ## Setters and items -/

theorem enough_settle [DecidableEq α] (old : Option α) (new : α) : Enough (settle old new) := by
  unfold settle
  split
  · exact .ok _
  · split
    · exact .ok _
    · exact .of_ne (by decide)

theorem enough_settleWithin (lower upper : Int) (old : Option Int) (new : Int) :
    Enough (settleWithin lower upper old new) := by
  unfold settleWithin
  split
  · exact enough_settle old new
  · exact .of_ne (by decide)

theorem Fields.enough_setNumber (f : Fields) (field : NumberField) (n : Int) :
    Enough (f.setNumber field n) := by
  cases field with
  | hour =>
      rw [setNumber, setHour]
      split
      · refine .bind (.bind (enough_settle _ _) fun _ => .ok _) fun f' => ?_
        exact .bind (enough_settle _ _) fun _ => .ok _
      · exact .of_ne (by decide)
  | hourOfHalfDay =>
      rw [setNumber, setDialHour]
      split
      · exact .bind (enough_settle _ _) fun _ => .ok _
      · exact .of_ne (by decide)
  | timestamp => exact .bind (enough_settle _ _) fun _ => .ok _
  | _ => exact .bind (enough_settleWithin _ _ _ _) fun _ => .ok _

theorem Fields.enough_enter (f : Fields) (entry : Entry) : Enough (f.enter entry) := by
  cases entry with
  | nothing => exact .ok f
  | number field n => exact f.enough_setNumber field n
  | weekday | meridiem | offset => exact .bind (enough_settle _ _) fun _ => .ok _

theorem enough_readNumber (least : Nat) (most : Option Nat) (cs : List Char) :
    Enough (readNumber least most cs) := by
  unfold readNumber
  simp only []
  split
  · exact .of_ne (by decide)
  · split
    · exact .of_ne (by decide)
    · split
      · exact .of_ne (by decide)
      · exact .ok _

theorem NumberField.enough_read (field : NumberField) (cs : List Char) :
    Enough (field.read cs) := by
  cases field with
  | year | isoYear =>
      refine .bind ?_ fun _ => .ok _
      unfold readYear
      split <;> exact .bind (enough_readNumber _ _ _) fun _ => .ok _
  | _ => exact .bind (enough_readNumber _ _ _) fun _ => .ok _

theorem enough_readName (form : NameForm) (names : List (List Char)) (cs : List Char) :
    Enough (readName form names cs) := by
  unfold readName
  split
  · exact .of_ne (by decide)
  · split
    · exact .of_ne (by decide)
    · simp only []
      split <;> exact .ok _

theorem enough_readWeekdayNumber (count : WeekdayCount) (cs : List Char) :
    Enough (readWeekdayNumber count cs) := by
  refine .bind (enough_readNumber _ _ _) ?_
  rintro ⟨n, rest⟩
  simp only []
  split
  · exact .ok _
  · exact .of_ne (by decide)

theorem enough_readFixedFraction (digits : Nat) (cs : List Char) :
    Enough (readFixedFraction digits cs) :=
  .bind (enough_readNumber _ _ _) fun _ => .ok _

theorem enough_readTimeMark (cs : List Char) : Enough (readTimeMark cs) := by
  unfold readTimeMark
  split <;> first | exact .ok _ | exact .of_ne (by decide)

theorem enough_readMeridiem (cs : List Char) : Enough (readMeridiem cs) := by
  unfold readMeridiem
  split
  · exact .of_ne (by decide)
  · split
    · exact .ok _
    · split
      · exact .ok _
      · exact .of_ne (by decide)

theorem enough_readSignedOffset (optional : Bool) (cs : List Char) :
    Enough (readSignedOffset optional cs) := by
  refine .bind ?_ fun _ => .bind ?_ fun _ => .bind ?_ fun _ => .ok _
  · unfold readSign
    split <;> first | exact .ok _ | exact .of_ne (by decide)
  · unfold readOffsetHours
    split
    · exact .of_ne (by decide)
    · split
      · exact .of_ne (by decide)
      · exact .ok _
  · unfold readOffsetMinutes
    split
    · exact .ok _
    · split
      · exact .of_ne (by decide)
      · split
        · exact .of_ne (by decide)
        · split
          · exact .of_ne (by decide)
          · exact .ok _

theorem OffsetForm.enough_read (form : OffsetForm) (cs : List Char) : Enough (form.read cs) := by
  cases form with
  | anyLength =>
      unfold OffsetForm.read
      simp only []
      split
      · exact .ok _
      · exact .ok _
      · exact enough_readSignedOffset true _
  | colonOrUtc =>
      unfold OffsetForm.read
      simp only []
      split
      · exact .ok _
      · split
        · exact .ok _
        · exact .ok _
        · exact enough_readSignedOffset false _
  | plain | colon | seconds | hours => exact enough_readSignedOffset false _

theorem Item.enough_read (i : Item) (cs : List Char) : Enough (i.read cs) := by
  cases i with
  | literal text =>
      rw [Item.read]
      split
      · exact .of_ne (by decide)
      · split
        · exact .ok _
        · exact .of_ne (by decide)
  | blank | zoneName => exact .ok _
  | number field padding => exact field.enough_read cs
  | monthName form | weekdayName form => exact .bind (enough_readName form _ cs) fun _ => .ok _
  | weekdayNumber count => exact .bind (enough_readWeekdayNumber count cs) fun _ => .ok _
  | meridiem => exact .bind (enough_readMeridiem cs) fun _ => .ok _
  | bareFraction digits => exact .bind (enough_readFixedFraction digits cs) fun _ => .ok _
  | timeMark => exact .bind (enough_readTimeMark cs) fun _ => .ok _
  | fraction | fixedFraction =>
      unfold Item.read
      simp only []
      split
      · exact .bind (.bind (enough_readNumber _ _ _) fun _ => .ok _) fun _ => .ok _
      · exact .ok _
  | offset form => exact .bind (form.enough_read cs) fun _ => .ok _
  | unknown => exact .of_ne (by decide)

theorem enough_readItems (is : List Item) (f : Fields) (cs : List Char) :
    Enough (readItems is f cs) := by
  induction is generalizing f cs with
  | nil =>
      rw [readItems]
      split
      · exact .ok f
      · exact .of_ne (by decide)
  | cons i is ih =>
      exact .bind (i.enough_read cs) fun _ => .bind (f.enough_enter _) fun _ => ih _ _

/-! ## Resolution -/

theorem Fields.enough_resolveYear (century : f.century = none) :
    Enough f.completed.resolveYear := by
  unfold resolveYear
  split
  · exact .ok _
  · split
    · exact .ok _
    · exact .of_ne (by decide)
  · exact .ok _
  · exact .ok _
  · next year rest =>
      -- Nothing is known of the year, and then it has its default.
      have rest : f.yearOfCentury = none := rest
      cases known : f.year <;> simp [completed, century, rest, known] at year

theorem Fields.enough_checkIsoYear (f : Fields) : Enough f.checkIsoYear := by
  unfold checkIsoYear
  split
  · split
    · exact .ok _
    · exact .of_ne (by decide)
  · exact .ok _

/-- Completed fields give a date or one that does not exist, unless a century stands alone. -/
theorem Fields.enough_resolveDate (century : f.century = none) :
    Enough f.completed.resolveDate := by
  have checked : ∀ date, Enough (do let d ← checkDate date; f.completed.confirmDate d) := by
    intro date
    refine .bind ?_ fun d => ?_
    · unfold checkDate
      split
      · split
        · exact .ok _
        · exact .of_ne (by decide)
      · exact .of_ne (by decide)
    · unfold confirmDate
      split
      · exact .ok _
      · exact .of_ne (by decide)
  refine .bind (enough_resolveYear century) fun year => ?_
  refine .bind f.completed.enough_checkIsoYear fun _ => ?_
  split
  · exact checked _
  · exact checked _
  · next place open_ =>
      -- Without the day of the year, month and day have their defaults.
      have place : f.dayOfYear = none := place
      exact (open_ (f.month.getD 1) (f.day.getD 1) (by simp [completed, place])
        (by simp [completed, place])).elim

/-- A completed time of day lacks something only where a fraction stands without a second. -/
theorem Fields.resolveTime_eq_notEnough_iff :
    f.completed.resolveTime = .error .notEnough ↔ f.second = none ∧ f.nanosecond ≠ none := by
  rw [← Option.isNone_iff_eq_none, ← Option.isSome_iff_ne_none, ← Bool.and_eq_true]
  show _ ↔ (f.completed.second.isNone && f.completed.nanosecond.isSome) = true
  unfold resolveTime
  split
  · split
    · next alone => exact iff_of_true rfl alone
    · next other =>
        refine iff_of_false ?_ other
        simp only []
        split
        · rintro ⟨⟩
        · rintro ⟨⟩
  · next open_ => exact (open_ _ _ _ rfl rfl rfl).elim

/-- Without a timestamp the offset makes no difference to a local time. -/
theorem Fields.resolveLocal_of_none (timestamp : f.timestamp = none) (offset : Int) :
    f.resolveLocal offset = f.resolveLocal 0 := by
  rw [resolveLocal, resolveLocal, timestamp]

theorem Fields.resolveLocal_eq_notEnough_iff (timestamp : f.timestamp = none)
    (century : f.century = none) : f.completed.resolveLocal 0 = .error .notEnough ↔
      f.second = none ∧ f.nanosecond ≠ none ∧ ∃ d, f.completed.resolveDate = .ok d := by
  have untold : f.completed.timestamp = none := timestamp
  rw [resolveLocal, untold]
  simp only []
  cases date : f.completed.resolveDate with
  | error fault =>
      refine iff_of_false ?_ ?_
      · rintro ⟨⟩
        exact enough_resolveDate century date
      · rintro ⟨-, -, d, ⟨⟩⟩
  | ok d =>
      have time := f.resolveTime_eq_notEnough_iff
      constructor
      · intro failed
        rcases error_of_bind failed with failed | ⟨_, -, failed⟩
        · cases failed
        · rcases error_of_bind failed with failed | ⟨_, -, failed⟩
          · obtain ⟨second, nanosecond⟩ := time.1 failed
            exact ⟨second, nanosecond, d, rfl⟩
          · cases failed
      · rintro ⟨second, nanosecond, -⟩
        rw [time.2 ⟨second, nanosecond⟩]
        rfl

/-- Once the local time is known, a moment can be refused, but not for want of fields. -/
theorem Fields.resolveMoment_eq_notEnough_iff (timestamp : f.timestamp = none) (offset : Int) :
    f.resolveMoment offset = .error .notEnough ↔ f.resolveLocal 0 = .error .notEnough := by
  rw [resolveMoment, f.resolveLocal_of_none timestamp offset]
  cases f.resolveLocal 0 with
  | error fault =>
      constructor
      · rintro ⟨⟩
        rfl
      · rintro ⟨⟩
        rfl
  | ok l =>
      refine iff_of_false ?_ ?_
      · refine Enough.bind (.ok l) fun l => ?_
        split
        · exact .of_ne (by decide)
        · split
          · exact .ok _
          · exact .of_ne (by decide)
      · rintro ⟨⟩

end Strftime

namespace Reader

variable {f : Fields} {z : Zone} {l : LocalDateTime} {native text : String}

/-- A text gives a fraction of a second but no second, with a date that exists. -/
def FractionAlone (native text : String) : Prop :=
  ∃ f, Strftime.read native text = .ok f ∧ f.second = none ∧ f.nanosecond ≠ none ∧
    ∃ d, f.completed.resolveDate = .ok d

theorem resolveIn_eq_notEnough_iff (timestamp : f.timestamp = none) (z : Zone) :
    resolveIn z f = .error .notEnough ↔ f.resolveLocal 0 = .error .notEnough := by
  cases resolved : f.resolveLocal 0 with
  | error fault =>
      rw [resolveIn, resolved]
      constructor
      · rintro ⟨⟩
        rfl
      · rintro ⟨⟩
        rfl
  | ok l =>
      refine iff_of_false ?_ ?_
      · cases moments : momentsAt z l with
        | nil =>
            rw [resolveIn_of_no_moment timestamp resolved moments]
            rintro ⟨⟩
        | cons m others =>
            rw [resolveIn_of_moment resolved moments]
            rintro ⟨⟩
      · rintro ⟨⟩

theorem readMomentIn_eq_notEnough_iff (fields : readFields native text = .ok f)
    (timestamp : f.timestamp = none) (z : Zone) :
    readMomentIn native text z = .error .notEnough ↔ f.resolveLocal 0 = .error .notEnough := by
  cases offset : f.offset with
  | none => rw [readMomentIn_of_no_offset fields offset, resolveIn_eq_notEnough_iff timestamp]
  | some seconds =>
      have shown : readMomentIn native text z =
          (f.resolveMoment seconds >>= fun m => .ok (m.inZone z)) := by
        rw [readMomentIn, fields]
        simp only [bind, Except.bind, offset]
        rfl
      rw [shown, ← f.resolveMoment_eq_notEnough_iff timestamp seconds]
      cases f.resolveMoment seconds with
      | error fault =>
          constructor
          · rintro ⟨⟩
            rfl
          · rintro ⟨⟩
            rfl
      | ok m =>
          refine iff_of_false ?_ ?_
          · rintro ⟨⟩
          · rintro ⟨⟩

/-- Where a layout sets neither a timestamp nor a century, a fraction alone is the one thing that
is not enough, for every zone and without one. -/
theorem notEnough_iff (unset : ∀ f, Strftime.read native text = .ok f →
    f.timestamp = none ∧ f.century = none) :
    (readMoment native text = .error .notEnough ↔ FractionAlone native text) ∧
      ∀ z, readMomentIn native text z = .error .notEnough ↔ FractionAlone native text := by
  cases read : Strftime.read native text with
  | error fault =>
      have other : fault ≠ .notEnough := by
        rintro rfl
        exact enough_readItems _ _ _ read
      have fields : readFields native text = .error fault := by
        rw [readFields, read]
        rfl
      have alone : ¬ FractionAlone native text := by
        rintro ⟨f, done, -⟩
        rw [read] at done
        cases done
      refine ⟨iff_of_false ?_ alone, fun z => iff_of_false ?_ alone⟩
      · rw [readMoment, fields]
        exact Enough.of_ne other
      · rw [readMomentIn, fields]
        exact Enough.of_ne other
  | ok f =>
      obtain ⟨timestamp, century⟩ := unset f read
      have untold : f.completed.timestamp = none := timestamp
      have fields : readFields native text = .ok f.completed := by
        rw [readFields, read]
        exact f.fillDefaults_eq
      have alone : FractionAlone native text ↔ f.completed.resolveLocal 0 = .error .notEnough := by
        rw [f.resolveLocal_eq_notEnough_iff timestamp century, FractionAlone, read]
        constructor
        · rintro ⟨g, ⟨⟩, lacks⟩
          exact lacks
        · intro lacks
          exact ⟨f, rfl, lacks⟩
      rw [alone]
      refine ⟨?_, readMomentIn_eq_notEnough_iff fields untold⟩
      rw [readMoment, fields]
      exact f.completed.resolveMoment_eq_notEnough_iff untold _

end Reader

namespace Translator

variable {t : Translator} {layout text : String}

/-- A text gives a fraction of a second but no second, in the layout that it is read with. -/
def FractionAlone (t : Translator) (layout text : String) : Prop :=
  ∃ native, t.nativeOf layout = .ok native ∧ Reader.FractionAlone native text

/-- Errors with a cause are those of reading the text, once there is a native layout. -/
theorem exists_cause_iff {β : Type} (read : String → Except Fault β) (fault : Fault) :
    (∃ e, (t.nativeOf layout >>= fun native =>
        (read native).mapError (LayoutError.notReadable native text)) = .error e ∧
          e.cause? = some fault) ↔
      ∃ native, t.nativeOf layout = .ok native ∧ read native = .error fault := by
  constructor
  · rintro ⟨e, failed, cause⟩
    rcases (t.readingFails layout text read).other e failed with
      ⟨token, position, rfl⟩ | ⟨native, found, rfl, made⟩
    · cases cause
    · cases cause
      have literal : t.nativeOf layout = .ok native := by
        rw [nativeOf, made]
        rfl
      rw [literal] at failed
      have refused : (read native).mapError (LayoutError.notReadable native text) =
          .error (.notReadable native text fault) := failed
      refine ⟨native, literal, ?_⟩
      cases outcome : read native with
      | ok value =>
          rw [outcome] at refused
          cases refused
      | error fault' =>
          rw [outcome] at refused
          cases refused
          rfl
  · rintro ⟨native, made, failed⟩
    refine ⟨.notReadable native text fault, ?_, rfl⟩
    rw [made]
    show (read native).mapError _ = _
    rw [failed]
    rfl

end Translator

/-- Reading fails for want of fields if and only if a fraction of a second stands without a second
and the date is one. The layout then has a token for the fraction and none for the second, and is
no well known one; whatever else a layout leaves out is filled in. -/
theorem notEnough_iff_fractionAlone (t : Translator) (standard : t.grammar = .standard)
    (j : Journal) (faithful : j.cache.Faithful t) (layout text : String) :
    ((∃ e, ((t.parse layout text).runOn j).1 = .error e ∧ e.cause? = some .notEnough) ↔
      t.FractionAlone layout text) ∧
    (∀ z, (∃ e, ((t.parseIn layout text z).runOn j).1 = .error e ∧
        e.cause? = some .notEnough) ↔ t.FractionAlone layout text) ∧
    (t.FractionAlone layout text → WellKnown.find? layout t.tier = none ∧
      ∃ ps, t.grammar.Reads layout.toList ps ∧ shows fractionNames ps = true ∧
        shows ["ss", "s"] ps = false) := by
  have enough : ∀ native, t.nativeOf layout = .ok native →
      (Reader.readMoment native text = .error .notEnough ↔ Reader.FractionAlone native text) ∧
        ∀ z, Reader.readMomentIn native text z = .error .notEnough ↔
          Reader.FractionAlone native text := fun native made =>
    Reader.notEnough_iff fun _ read => Translator.unset_of_read standard made read
  refine ⟨?_, fun z => ?_, ?_⟩
  · rw [(t.settles_parse layout text j faithful).1, Translator.parsed]
    refine (Translator.exists_cause_iff (fun native => Reader.readMoment native text) _).trans ?_
    exact exists_congr fun native => and_congr_right fun made => (enough native made).1
  · rw [(t.settles_parseIn layout text z j faithful).1, Translator.parsedIn]
    refine (Translator.exists_cause_iff
      (fun native => Reader.readMomentIn native text z) _).trans ?_
    exact exists_congr fun native => and_congr_right fun made => (enough native made).2 z
  · rintro ⟨native, made, f, read, second, nanosecond, -⟩
    exact Translator.shows_of_fraction_alone standard made read nanosecond second

/-- Hours and minutes with a fraction of a second, which is there in the text. -/
theorem notEnough_iff_fractionAlone_halfSecond :
    Translator.standard.grammar = .standard ∧
      (Journal.start .enabled).cache.Faithful .standard ∧
      ((∃ e, ((Translator.standard.parse "hhh:ii.999" "12:30.5").runOn (.start .enabled)).1 =
          .error e ∧ e.cause? = some .notEnough) ↔
        Translator.standard.FractionAlone "hhh:ii.999" "12:30.5") ∧
      (∀ z, (∃ e, ((Translator.standard.parseIn "hhh:ii.999" "12:30.5" z).runOn
          (.start .enabled)).1 = .error e ∧ e.cause? = some .notEnough) ↔
        Translator.standard.FractionAlone "hhh:ii.999" "12:30.5") ∧
      (Translator.standard.FractionAlone "hhh:ii.999" "12:30.5" →
        WellKnown.find? "hhh:ii.999" Translator.standard.tier = none ∧
        ∃ ps, Translator.standard.grammar.Reads "hhh:ii.999".toList ps ∧
          shows fractionNames ps = true ∧ shows ["ss", "s"] ps = false) :=
  ⟨rfl, faithful_enabled .standard, notEnough_iff_fractionAlone .standard rfl (.start .enabled)
    (faithful_enabled .standard) "hhh:ii.999" "12:30.5"⟩

theorem items_halfSecond : items "%H:%M%.f".toList =
    [.number .hour .zero, .literal [':'], .number .minute .zero, .fraction] := by
  rw [← itemsWithin_eq (Nat.le_refl _)]
  decide +kernel

/-- The second is a field that a layout may leave out, and it has no default. -/
theorem parse_halfSecond_notEnough :
    ((Translator.standard.parse "hhh:ii.999" "12:30.5").runOn (.start .enabled)).1 =
        .error (.notReadable "%H:%M%.f" "12:30.5" .notEnough) ∧
      ((Translator.standard.parseIn "hhh:ii.999" "12:30.5" .utc).runOn (.start .enabled)).1 =
        .error (.notReadable "%H:%M%.f" "12:30.5" .notEnough) := by
  have made : Translator.standard.nativeOf "hhh:ii.999" = .ok "%H:%M%.f" :=
    eq_ok_of_toOption (by decide +kernel)
  have faithful := faithful_enabled .standard
  rw [(Translator.settles_parse .standard _ _ (.start .enabled) faithful).1, Translator.parsed,
    (Translator.settles_parseIn .standard _ _ _ (.start .enabled) faithful).1, Translator.parsedIn,
    made]
  simp only [bind, Except.bind, Reader.readMoment, Reader.readMomentIn, Reader.readFields,
    Strftime.read, items_halfSecond]
  exact ⟨rfl, rfl⟩

end DateLayout
