import DateLayout.Proofs.Cache.Faithful

/-!
# The cache is transparent

Over a whole session no answer depends on the cache: as long as nobody writes an entry of his own
into it, every call is answered as a translator would answer it whose cache was never turned on.
Calls may be of any kind and in any order, and the cache may be turned on and off between them.

The proof is a step and a run. A call settles (`settles_perform`), so one step on a faithful cache
gives the outcome that the step on a cache which is turned off gives, and leaves a faithful cache
for the next one. Answers of the cache itself, such as its size, are no part of it: they are what
the cache is for.
-/

namespace DateLayout

open Operation (Settles)

variable {α : Type}

/-- A call of the translator's own operations: all requests but those that ask the cache for what
it keeps, or tell it what to keep. -/
def Request.IsCall : Request α → Prop
  | .cache .enable | .cache .disable => True
  | .cache _ => False
  | _ => True

def Request.isToggle : Request α → Bool
  | .cache .enable | .cache .disable => true
  | _ => false

variable [Timestamp α] {t : Translator} {c : Cache}

/-- What a call comes to, without any cache. -/
def Request.outcome (t : Translator) (r : Request α) : Except LayoutError Reply :=
  match r with
  | .translate layout mode => (t.formOf layout mode).map .native
  | .format value layout => (t.formatted value layout).map .text
  | .parse layout text => (t.parsed layout text).map .moment
  | .parseIn layout text zone => (t.parsedIn layout text zone).map .zonedMoment
  | .convert text source target => (t.converted text source target).map .text
  | .grammar => .ok (.grammar t.grammar)
  | .cache _ => .ok (.cache .done)

namespace Session

theorem settles_perform {r : Request α} (hr : r.IsCall) :
    Settles t (perform t r) (r.outcome t) := by
  cases r with
  | translate layout mode => exact (t.settles_translate layout mode).map Reply.native
  | format value layout => exact (t.settles_format value layout).map Reply.text
  | parse layout text => exact (t.settles_parse layout text).map Reply.moment
  | parseIn layout text zone => exact (t.settles_parseIn layout text zone).map Reply.zonedMoment
  | convert text source target => exact (t.settles_convert text source target).map Reply.text
  | grammar => exact .pure (Reply.grammar t.grammar)
  | cache request =>
      intro j hj
      cases request with
      | enable => exact ⟨rfl, faithful_enabled t⟩
      | disable => exact ⟨rfl, faithful_disabled t⟩
      | insert | get | isEnabled | size | isEmpty => exact hr.elim

/-- A step answers a call with its outcome and hands on a faithful cache. -/
theorem step_result_eq {r : Request α} (hr : r.IsCall) (hc : c.Faithful t) :
    (step t c r).1.result = r.outcome t ∧ (step t c r).2.Faithful t :=
  settles_perform hr (.start c) hc

theorem run_result_eq {rs : List (Request α)} (hrs : ∀ r ∈ rs, r.IsCall) :
    ∀ {c : Cache}, c.Faithful t →
      (run t c rs).map Entry.result = rs.map (Request.outcome t) ∧
        (finalCache t c rs).Faithful t := by
  induction rs with
  | nil => exact fun hc => ⟨rfl, hc⟩
  | cons r rest ih =>
      intro c hc
      obtain ⟨answered, kept⟩ := step_result_eq (hrs r (List.mem_cons_self ..)) hc
      obtain ⟨others, last⟩ := ih (fun r' hr' => hrs r' (List.mem_cons_of_mem r hr')) kept
      refine ⟨?_, last⟩
      rw [run, List.map_cons, List.map_cons, answered, others]

def results (t : Translator) (c : Cache) (rs : List (Request α)) :
    List (Except LayoutError Reply) :=
  ((rs.zip (run t c rs)).filter fun answered => !answered.1.isToggle).map fun answered =>
    answered.2.result

theorem results_eq {rs : List (Request α)} (hrs : ∀ r ∈ rs, r.IsCall) :
    ∀ {c : Cache}, c.Faithful t →
      results t c rs = (rs.filter fun r => !r.isToggle).map (Request.outcome t) := by
  induction rs with
  | nil => exact fun _ => rfl
  | cons r rest ih =>
      intro c hc
      obtain ⟨answered, kept⟩ := step_result_eq (hrs r (List.mem_cons_self ..)) hc
      have others := ih (fun r' hr' => hrs r' (List.mem_cons_of_mem r hr')) kept
      unfold results at others ⊢
      rw [run, List.zip_cons_cons, List.filter_cons, List.filter_cons]
      split
      · rw [List.map_cons, List.map_cons, others, answered]
      · exact others

/-- Each call of a session on a cache that starts out empty or turned off is answered as if the
cache was always turned off. The forms that the cache keeps in the end are each the grammar's own
for the mode they are kept for, and turning the cache on and off on the way changes no other
answer. -/
theorem run_eq_disabled (t : Translator) (c : Cache) (hc : c = .enabled ∨ c = .disabled)
    (rs : List (Request α)) (hrs : ∀ r ∈ rs, r.IsCall) :
    (run t c rs).map Entry.result = rs.map (fun r => (step t .disabled r).1.result) ∧
      (∀ layout mode form, (finalCache t c rs).get? layout mode = some form →
        t.grammar.translate layout mode = .ok form) ∧
      results t c rs = results t c (rs.filter fun r => !r.isToggle) := by
  have start : c.Faithful t := by
    rcases hc with rfl | rfl
    · exact faithful_enabled t
    · exact faithful_disabled t
  obtain ⟨answers, last⟩ := run_result_eq hrs start
  refine ⟨?_, last, ?_⟩
  · rw [answers]
    refine List.map_congr_left ?_
    intro r hr
    exact (step_result_eq (hrs r hr) (faithful_disabled t)).1.symm
  · have fewer : ∀ r ∈ rs.filter fun r => !r.isToggle, r.IsCall :=
      fun r hr => hrs r (List.mem_filter.1 hr).1
    rw [results_eq hrs start, results_eq fewer start, List.filter_filter]
    simp only [Bool.and_self]

/-- Calls that put both native layouts of one token in the cache, and that can fail. -/
def callsWithHours : List (Request Calendar.Date) :=
  [.translate "zh" .formatting, .translate "zh" .parsing, .convert "+05" "zh" "zzz",
    .cache .disable, .parse "zh" "+05", .translate "do" .parsing, .cache .enable,
    .parseIn "hhh zh" "07 -03" .utc, .format ⟨2024, 2, 29, by decide, by decide⟩ "do zh"]

theorem run_eq_disabled_hours :
    (∀ r ∈ callsWithHours, r.IsCall) ∧
      (run .standard .enabled callsWithHours).map Entry.result =
        callsWithHours.map (fun r => (step .standard .disabled r).1.result) ∧
      (∀ layout mode form,
        (finalCache .standard .enabled callsWithHours).get? layout mode = some form →
          Grammar.standard.translate layout mode = .ok form) ∧
      results .standard .enabled callsWithHours =
        results .standard .enabled (callsWithHours.filter fun r => !r.isToggle) := by
  have calls : ∀ r ∈ callsWithHours, r.IsCall := by
    simp [callsWithHours, Request.IsCall]
  exact ⟨calls, run_eq_disabled .standard .enabled (.inl rfl) callsWithHours calls⟩

end Session

end DateLayout
