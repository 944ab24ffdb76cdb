import DateLayout.Proofs.Calendar.LocalTimes
import DateLayout.Proofs.Reader.Zones

/-!
# Local times in a zone

A text without an offset gives a local time, and reading it in a zone has to say which moment is
meant. It is the earliest one that the zone shows so; there is none if and only if the local time
falls into a gap, and then reading fails.

The reader looks at two of the moments with the local time and takes the first. That it is the
least of all comes from the zone alone (`Zone.earliest_of_fitting`). What the reader adds is a
second attempt where no moment was found, which a timestamp could mend; the standard language has
no timestamps.
-/

namespace DateLayout

open DateLayout.Calendar DateLayout.Strftime

namespace Reader

variable {z : Zone} {l : LocalDateTime} {m : Moment} {f : Fields} {p : Period}
variable {rest : List Period} {native text : String}

theorem momentsAt_eq (inRange : ∀ m : Moment, (m.inZone z).localTime = l →
    instantInRange m.instant = true) :
    momentsAt z l = ((z.fitting l).take 2).map fun period => period.moment l := by
  refine if_pos (List.all_eq_true.2 fun moment mem => ?_)
  obtain ⟨p, fits, rfl⟩ := List.mem_map.1 mem
  exact inRange _ (Zone.localTime_of_mem_fitting (List.mem_of_mem_take fits))

theorem momentsAt_of_gap (gap : z.fitting l = []) : momentsAt z l = [] := by
  rw [momentsAt, gap]
  rfl

theorem resolveIn_of_fitting (resolved : f.resolveLocal 0 = .ok l)
    (inRange : ∀ m : Moment, (m.inZone z).localTime = l → instantInRange m.instant = true)
    (fits : z.fitting l = p :: rest) : resolveIn z f = .ok (p.moment l) := by
  have first : momentsAt z l = p.moment l :: (rest.take 1).map fun period => period.moment l := by
    rw [momentsAt_eq inRange, fits]
    rfl
  exact resolveIn_of_moment resolved first

/-- The fields of a text without an offset give the local time of the moment that it is read as. -/
theorem resolveLocal_of_readMoment (fields : readFields native text = .ok f)
    (no_offset : f.offset = none) (read : readMoment native text = .ok m) :
    f.resolveLocal 0 = .ok m.localTime := by
  rw [readMoment, fields] at read
  simp only [bind, Except.bind, no_offset, Option.getD_none] at read
  cases resolved : f.resolveLocal 0 with
  | error fault =>
      rw [Fields.resolveMoment, resolved] at read
      cases read
  | ok l =>
      rw [resolveMoment_zero resolved] at read
      cases read
      rfl

end Reader

/-- A local time is read in a zone as the earliest moment that the zone shows so, with the offset
and the name in force then, and is refused if and only if there is no such moment. -/
theorem parseIn_earliest (t : Translator) (standard : t.grammar = .standard) (j : Journal)
    (faithful : j.cache.Faithful t) (layout text native : String)
    (translated : ((t.translate layout .parsing).runOn j).1 = .ok (.literal native))
    (no_offset : readsOffset native = false) (m : Moment)
    (read : ((t.parse layout text).runOn j).1 = .ok m) (z : Zone)
    (inRange : ∀ c : Moment, (c.inZone z).localTime = m.localTime →
      instantInRange c.instant = true) :
    (((t.parseIn layout text z).runOn j).1 = .error (.notReadable native text .impossible) ↔
      ∀ c : Moment, (c.inZone z).localTime ≠ m.localTime) ∧
    ∀ c : Moment, (c.inZone z).localTime = m.localTime →
      ∃ r, ((t.parseIn layout text z).runOn j).1 = .ok r ∧ z.Earliest m.localTime r := by
  have made := Translator.nativeOf_of_translate faithful translated
  rw [Translator.result_parse, Translator.result_nativeForParsing, translated] at read
  rw [Translator.result_parseIn, Translator.result_nativeForParsing, translated]
  simp only [Except.bind] at read ⊢
  cases moment : Reader.readMoment native text with
  | error fault =>
      rw [moment] at read
      cases read
  | ok m' =>
      rw [moment] at read
      cases read
      obtain ⟨f, fields, -⟩ := exists_of_bind_ok moment
      obtain ⟨f₀, read, completed⟩ := exists_of_bind_ok fields
      obtain ⟨untold, -⟩ := Translator.unset_of_read standard made read
      have offset := isSome_offset_of_readFields fields
      rw [no_offset, Option.isSome_eq_false_iff, Option.isNone_iff_eq_none] at offset
      rw [Fields.fillDefaults_eq] at completed
      cases completed
      have timestamp : f₀.completed.timestamp = none := untold
      have resolved := Reader.resolveLocal_of_readMoment fields offset moment
      rw [Reader.readMomentIn_of_no_offset fields offset]
      cases fits : z.fitting m.localTime with
      | nil =>
          have never := Zone.fitting_eq_nil_iff_forall_ne.1 fits
          rw [Reader.resolveIn_of_no_moment timestamp resolved (Reader.momentsAt_of_gap fits)]
          exact ⟨iff_of_true rfl never, fun c same => absurd same (never c)⟩
      | cons p rest =>
          rw [Reader.resolveIn_of_fitting resolved inRange fits]
          refine ⟨iff_of_false ?_ ?_, fun _ _ => ⟨_, rfl, Zone.earliest_of_fitting fits⟩⟩
          · rintro ⟨⟩
          · intro never
            rw [Zone.fitting_eq_nil_iff_forall_ne.2 never] at fits
            cases fits

/-- Clocks that are turned back twice within ten minutes, by an hour each time. -/
def twiceBack : Zone where
  initial := ⟨⟨7200, by decide, by decide⟩, "A"⟩
  transitions :=
    [⟨1603587600, ⟨⟨3600, by decide, by decide⟩, "B"⟩⟩, ⟨1603588200, ⟨.zero, "C"⟩⟩]
  sorted := by decide

/-- A local time that all three periods have. -/
def thrice : Moment :=
  ⟨⟨(Date.ofYmd? 2020 10 25).get (by decide), (TimeOfDay.ofParts? 2 5 0 0).get (by decide)⟩, .zero⟩

theorem parseIn_earliest_twiceBack :
    Translator.standard.grammar = .standard ∧
      (Journal.start .disabled).cache.Faithful .standard ∧
      ((Translator.standard.translate "yyyy-mm-dd hhh:ii" .parsing).runOn (.start .disabled)).1 =
        .ok (.literal "%Y-%m-%d %H:%M") ∧
      readsOffset "%Y-%m-%d %H:%M" = false ∧
      ((Translator.standard.parse "yyyy-mm-dd hhh:ii" "2020-10-25 02:05").runOn
        (.start .disabled)).1 = .ok thrice ∧
      (∀ c : Moment, (c.inZone twiceBack).localTime = thrice.localTime →
        instantInRange c.instant = true) ∧
      (((Translator.standard.parseIn "yyyy-mm-dd hhh:ii" "2020-10-25 02:05" twiceBack).runOn
          (.start .disabled)).1 =
          .error (.notReadable "%Y-%m-%d %H:%M" "2020-10-25 02:05" .impossible) ↔
        ∀ c : Moment, (c.inZone twiceBack).localTime ≠ thrice.localTime) ∧
      ∀ c : Moment, (c.inZone twiceBack).localTime = thrice.localTime →
        ∃ r, ((Translator.standard.parseIn "yyyy-mm-dd hhh:ii" "2020-10-25 02:05" twiceBack).runOn
            (.start .disabled)).1 = .ok r ∧ twiceBack.Earliest thrice.localTime r := by
  have translated : ((Translator.standard.translate "yyyy-mm-dd hhh:ii" .parsing).runOn
      (.start .disabled)).1 = .ok (.literal "%Y-%m-%d %H:%M") :=
    eq_ok_of_toOption (by decide +kernel)
  have items_native : items "%Y-%m-%d %H:%M".toList =
      [.number .year .zero, .literal ['-'], .number .month .zero, .literal ['-'],
        .number .day .zero, .blank [' '], .number .hour .zero, .literal [':'],
        .number .minute .zero] := by
    rw [← itemsWithin_eq (Nat.le_refl _)]
    decide +kernel
  have no_offset : readsOffset "%Y-%m-%d %H:%M" = false := by
    rw [readsOffset, items_native]
    rfl
  have read : ((Translator.standard.parse "yyyy-mm-dd hhh:ii" "2020-10-25 02:05").runOn
      (.start .disabled)).1 = .ok thrice := by
    rw [Translator.result_parse, Translator.result_nativeForParsing, translated]
    simp only [Except.bind, Reader.readMoment, Reader.readFields, Strftime.read, items_native]
    rfl
  have inRange : ∀ c : Moment, (c.inZone twiceBack).localTime = thrice.localTime →
      instantInRange c.instant = true := by
    intro c same
    have year : (c.inZone twiceBack).localTime.date.year = 2020 := by
      rw [same]
      rfl
    have instant : (c.inZone twiceBack).instant = c.instant := c.instant_withOffset _
    rw [← instant]
    exact instantInRange_of_four_digits (by omega) (by omega)
  exact ⟨rfl, faithful_disabled .standard, translated, no_offset, read, inRange,
    parseIn_earliest .standard rfl _ (faithful_disabled .standard) _ _ _ translated no_offset _ read
      twiceBack inRange⟩

end DateLayout
