import DateLayout.Proofs.Cache.Transparency
import Mathlib.Data.Finset.Card
import Mathlib.Data.List.DropRight

/-!
# The footprint of a session

What a cache holds after a session, and what the log says, can be told from the requests alone.
All that a request does to the cache is to touch it, one time or several: it turns the cache on or
off, or asks for the native form of a layout (`Request.touches`). The cache holds a form for each
pair of a layout and a mode that was asked for since it was last turned on, other than well known
layouts and those that cannot be translated, and nothing while it is turned off (`footprint`). A
form is made, and this is logged, when its pair is not in the footprint at that moment
(`eventOf`).

The invariant says that the cache has the footprint of the touches so far (`HasFootprint`). One
touch keeps it and logs its event (`HasFootprint.touch`), and all else is induction: over the
touches of a request, and over the requests of a session.
-/

namespace DateLayout

/-- What a request can do to the cache. -/
inductive Touch where
  | toggle (on : Bool)
  | ask (layout : String) (mode : Mode)
deriving DecidableEq, Repr

namespace Touch

def isAsk : Touch → Bool
  | .toggle _ => false
  | .ask .. => true

def toggle? : Touch → Option Bool
  | .toggle on => some on
  | .ask .. => none

def pair? : Touch → Option (String × Mode)
  | .toggle _ => none
  | .ask layout mode => some (layout, mode)

end Touch

/-- Whether a layout is written with ordinals. -/
def Translator.hasOrdinals (t : Translator) (layout : String) : Bool :=
  match t.formOf layout .formatting with
  | .ok form => form.hasOrdinals
  | .error _ => false

/-- What a request does to the cache, in order. A conversion that refuses its source has asked for
it once, one that cannot read the text twice. -/
def Request.touches {α : Type} (t : Translator) : Request α → List Touch
  | .translate layout mode => [.ask layout mode]
  | .format _ layout => [.ask layout .formatting]
  | .parse layout _ | .parseIn layout _ _ => [.ask layout .parsing]
  | .convert text source target =>
      if source = target then []
      else if t.hasOrdinals source then [.ask source .formatting]
      else if (t.parsed source text).isOk then
        [.ask source .formatting, .ask source .parsing, .ask target .formatting]
      else [.ask source .formatting, .ask source .parsing]
  | .cache .enable => [.toggle true]
  | .cache .disable => [.toggle false]
  | .grammar | .cache _ => []

/-- Whether the cache is on after some touches: the last toggle decides. -/
def isOn (start : Bool) (touches : List Touch) : Bool :=
  (touches.filterMap Touch.toggle?).getLast?.getD start

/-- The layouts and modes that were asked for since the last toggle. -/
def asked (touches : List Touch) : List (String × Mode) :=
  (touches.rtakeWhile Touch.isAsk).filterMap Touch.pair?

/-- Whether a native form has to be made for a layout that is asked for, and can be. -/
def Translator.makes (t : Translator) (pair : String × Mode) : Bool :=
  (WellKnown.find? pair.1 t.tier).isNone && (t.grammar.translate pair.1 pair.2).isOk

/-- The layouts and modes that the cache holds forms for after some touches. -/
def footprint (t : Translator) (start : Bool) (touches : List Touch) : Finset (String × Mode) :=
  if isOn start touches then ((asked touches).filter t.makes).toFinset else ∅

/-- What a touch logs that comes after others: a toggle always, and a form that is made. -/
def eventOf (t : Translator) (start : Bool) (before : List Touch) : Touch → List Event
  | .toggle true => [.cacheEnabled]
  | .toggle false => [.cacheDisabled]
  | .ask layout mode =>
      match WellKnown.find? layout t.tier, t.grammar.translate layout mode with
      | none, .ok form =>
          if (layout, mode) ∈ footprint t start before then [] else [.translated layout form]
      | _, _ => []

/-- What touches log that come after others. -/
def eventsOf (t : Translator) (start : Bool) (before : List Touch) : List Touch → List Event
  | [] => []
  | touch :: rest => eventOf t start before touch ++ eventsOf t start (before ++ [touch]) rest

variable {t : Translator} {start : Bool} {before : List Touch} {layout : String} {mode : Mode}

/-! ## Footprints -/

theorem isOn_toggle (start on : Bool) (before : List Touch) :
    isOn start (before ++ [.toggle on]) = on := by
  rw [isOn, List.filterMap_append]
  show ((before.filterMap Touch.toggle?) ++ [on]).getLast?.getD start = on
  rw [List.getLast?_concat]
  rfl

theorem isOn_ask (start : Bool) (before : List Touch) (layout : String) (mode : Mode) :
    isOn start (before ++ [.ask layout mode]) = isOn start before := by
  rw [isOn, List.filterMap_append]
  show ((before.filterMap Touch.toggle?) ++ []).getLast?.getD start = _
  rw [List.append_nil, isOn]

theorem asked_toggle (before : List Touch) (on : Bool) : asked (before ++ [.toggle on]) = [] := by
  rw [asked, List.rtakeWhile_concat_neg _ _ _ (by simp [Touch.isAsk])]
  rfl

theorem asked_ask (before : List Touch) (layout : String) (mode : Mode) :
    asked (before ++ [.ask layout mode]) = asked before ++ [(layout, mode)] := by
  rw [asked, List.rtakeWhile_concat_pos _ _ _ rfl, List.filterMap_append]
  rfl

theorem mem_footprint {pair : String × Mode} :
    pair ∈ footprint t start before ↔
      isOn start before = true ∧ pair ∈ asked before ∧ t.makes pair = true := by
  unfold footprint
  split
  · next on => simp [on]
  · next off => simp [off]

theorem footprint_toggle (t : Translator) (start on : Bool) (before : List Touch) :
    footprint t start (before ++ [.toggle on]) = ∅ := by
  rw [footprint, asked_toggle]
  split <;> rfl

/-- Asking adds its own pair, if a form can be made and kept for it. -/
theorem footprint_ask (t : Translator) (start : Bool) (before : List Touch) (layout : String)
    (mode : Mode) :
    footprint t start (before ++ [.ask layout mode]) =
      if isOn start before = true ∧ t.makes (layout, mode) = true then
        insert (layout, mode) (footprint t start before)
      else footprint t start before := by
  ext pair
  rw [mem_footprint, isOn_ask, asked_ask, List.mem_append, List.mem_singleton]
  split
  · next made =>
      rw [Finset.mem_insert, mem_footprint]
      constructor
      · rintro ⟨on, asked | rfl, makes⟩
        · exact .inr ⟨on, asked, makes⟩
        · exact .inl rfl
      · rintro (rfl | ⟨on, asked, makes⟩)
        · exact ⟨made.1, .inr rfl, made.2⟩
        · exact ⟨on, .inl asked, makes⟩
  · next not =>
      rw [mem_footprint]
      constructor
      · rintro ⟨on, asked | rfl, makes⟩
        · exact ⟨on, asked, makes⟩
        · exact absurd ⟨on, makes⟩ not
      · rintro ⟨on, asked, makes⟩
        exact ⟨on, .inl asked, makes⟩

/-! ## One touch -/

/-- The cache holds forms for what touches leave in it, and for nothing else. Each is the one that
the grammar makes. -/
structure HasFootprint (t : Translator) (start : Bool) (touches : List Touch) (c : Cache) :
    Prop where
  enabled : c.isEnabled = isOn start touches
  keys : ∀ layout mode,
    (c.get? layout mode).isSome = true ↔ (layout, mode) ∈ footprint t start touches
  faithful : c.Faithful t
  size : c.size = (footprint t start touches).card

/-- What a touch does to a journal. -/
def Journal.touched (t : Translator) (j : Journal) : Touch → Journal
  | .toggle true => j.after .enable
  | .toggle false => j.after .disable
  | .ask layout mode => ((t.translate layout mode).runOn j).2

variable {c : Cache} {j : Journal}

/-- An empty cache has the footprint of touches that leave nothing. -/
theorem HasFootprint.of_empty (enabled : c.isEnabled = isOn start before)
    (nothing : ∀ layout mode, c.get? layout mode = none) (size : c.size = 0)
    (empty : footprint t start before = ∅) : HasFootprint t start before c where
  enabled := enabled
  keys := by
    intro layout mode
    rw [nothing, empty]
    exact iff_of_false Bool.false_ne_true (Finset.notMem_empty _)
  faithful := by
    intro layout mode form kept
    rw [nothing] at kept
    cases kept
  size := by rw [size, empty, Finset.card_empty]

theorem hasFootprint_enabled (t : Translator) : HasFootprint t true [] .enabled :=
  .of_empty rfl Cache.get?_enabled Cache.size_enabled rfl

theorem hasFootprint_disabled (t : Translator) : HasFootprint t false [] .disabled :=
  .of_empty rfl Cache.get?_disabled rfl rfl

theorem HasFootprint.enable (t : Translator) (start : Bool) (before : List Touch) :
    HasFootprint t start (before ++ [.toggle true]) .enabled :=
  .of_empty (isOn_toggle start true before).symm Cache.get?_enabled Cache.size_enabled
    (footprint_toggle t start true before)

theorem HasFootprint.disable (t : Translator) (start : Bool) (before : List Touch) :
    HasFootprint t start (before ++ [.toggle false]) .disabled :=
  .of_empty (isOn_toggle start false before).symm Cache.get?_disabled rfl
    (footprint_toggle t start false before)

theorem makes_of_ok (unknown : WellKnown.find? layout t.tier = none) {form : NativeForm}
    (made : t.grammar.translate layout mode = .ok form) : t.makes (layout, mode) = true := by
  rw [Translator.makes, unknown, made]
  rfl

/-- What is asked for and found, or cannot be made, leaves the footprint as it is. -/
theorem HasFootprint.ask_of_eq (h : HasFootprint t start before c)
    (same : footprint t start (before ++ [.ask layout mode]) = footprint t start before) :
    HasFootprint t start (before ++ [.ask layout mode]) c where
  enabled := by rw [isOn_ask, h.enabled]
  keys := by rw [same]; exact h.keys
  faithful := h.faithful
  size := by rw [same, h.size]

theorem HasFootprint.ask_insert (h : HasFootprint t start before c)
    (unknown : WellKnown.find? layout t.tier = none) {form : NativeForm}
    (made : t.grammar.translate layout mode = .ok form)
    (fresh : (layout, mode) ∉ footprint t start before) :
    HasFootprint t start (before ++ [.ask layout mode]) (c.insert layout mode form) := by
  have makes := makes_of_ok unknown made
  cases on : isOn start before with
  | true =>
      have enabled : c.isEnabled = true := by rw [h.enabled, on]
      have whole : footprint t start (before ++ [.ask layout mode]) =
          insert (layout, mode) (footprint t start before) := by
        rw [footprint_ask, if_pos ⟨on, makes⟩]
      refine ⟨?_, ?_, faithful_insert h.faithful made, ?_⟩
      · rw [Cache.isEnabled_insert, isOn_ask, h.enabled]
      · intro layout' mode'
        rw [Cache.get?_insert enabled, whole, Finset.mem_insert, ← h.keys]
        by_cases same : (layout, mode) = (layout', mode')
        · rw [if_pos same]
          exact iff_of_true rfl (.inl same.symm)
        · rw [if_neg same]
          exact (or_iff_right (Ne.symm same)).symm
      · have absent : c.get? layout mode = none :=
          Option.not_isSome_iff_eq_none.1 fun kept => fresh ((h.keys layout mode).1 kept)
        rw [Cache.size_insert enabled, absent, whole, Finset.card_insert_of_notMem fresh, h.size]
        rfl
  | false =>
      have same : footprint t start (before ++ [.ask layout mode]) = footprint t start before := by
        rw [footprint_ask, if_neg (by simp [on])]
      have off : c.isEnabled = false := by rw [h.enabled, on]
      rw [Cache.insert_of_disabled off]
      exact h.ask_of_eq same

/-- Asking for a layout that is no well known one: what is held is found, and all else is made if
it can be. -/
theorem HasFootprint.ask (h : HasFootprint t start before j.cache)
    (unknown : WellKnown.find? layout t.tier = none) :
    HasFootprint t start (before ++ [.ask layout mode])
        (j.touched t (.ask layout mode)).cache ∧
      (j.touched t (.ask layout mode)).log =
        j.log ++ eventOf t start before (.ask layout mode) := by
  rw [Journal.touched, Translator.runOn_translate, eventOf, unknown]
  simp only []
  by_cases held : (layout, mode) ∈ footprint t start before
  · obtain ⟨kept, found⟩ := Option.isSome_iff_exists.1 ((h.keys layout mode).2 held)
    rw [found, h.faithful layout mode kept found]
    simp only [if_pos held]
    refine ⟨h.ask_of_eq ?_, (List.append_nil _).symm⟩
    rw [footprint_ask]
    split
    · exact Finset.insert_eq_of_mem held
    · rfl
  · have absent : j.cache.get? layout mode = none :=
      Option.not_isSome_iff_eq_none.1 fun kept => held ((h.keys layout mode).1 kept)
    rw [absent]
    cases made : t.grammar.translate layout mode with
    | ok form =>
        simp only [if_neg held]
        exact ⟨h.ask_insert unknown made held, rfl⟩
    | error e =>
        refine ⟨h.ask_of_eq ?_, (List.append_nil _).symm⟩
        rw [footprint_ask, if_neg]
        simp [Translator.makes, made, Except.isOk, Except.toBool]

/-- A touch leaves its footprint and logs its event. -/
theorem HasFootprint.touch (h : HasFootprint t start before j.cache) (e : Touch) :
    HasFootprint t start (before ++ [e]) (j.touched t e).cache ∧
      (j.touched t e).log = j.log ++ eventOf t start before e := by
  cases e with
  | toggle on =>
      cases on with
      | true => exact ⟨.enable t start before, rfl⟩
      | false => exact ⟨.disable t start before, rfl⟩
  | ask layout mode =>
      cases found : WellKnown.find? layout t.tier with
      | none => exact h.ask found
      | some known =>
          rw [Journal.touched, Translator.runOn_translate, eventOf, found]
          refine ⟨h.ask_of_eq ?_, (List.append_nil _).symm⟩
          rw [footprint_ask, if_neg]
          simp [Translator.makes, found]

/-- Touches leave their footprint and log their events. -/
theorem HasFootprint.touches (touches : List Touch) :
    ∀ {before : List Touch} {j : Journal}, HasFootprint t start before j.cache →
      HasFootprint t start (before ++ touches) (touches.foldl (Journal.touched t) j).cache ∧
        (touches.foldl (Journal.touched t) j).log =
          j.log ++ eventsOf t start before touches := by
  induction touches with
  | nil =>
      intro before j h
      rw [List.append_nil, eventsOf, List.append_nil]
      exact ⟨h, rfl⟩
  | cons e rest ih =>
      intro before j h
      obtain ⟨kept, logged⟩ := h.touch e
      obtain ⟨kept', logged'⟩ := ih kept
      rw [List.append_assoc] at kept'
      refine ⟨kept', ?_⟩
      rw [List.foldl_cons, logged', logged, eventsOf, List.append_assoc]

/-! ## One request -/

/-- What only works on a result leaves the journal that the result came with. -/
theorem Operation.journal_bind {α β : Type} {op : Operation α} {next : α → Operation β}
    (quiet : ∀ a j, ((next a).runOn j).2 = j) (j : Journal) :
    ((op >>= next).runOn j).2 = (op.runOn j).2 := by
  rw [Operation.runOn_bind]
  rcases op.runOn j with ⟨result, j'⟩
  cases result with
  | ok a => exact quiet a j'
  | error e => rfl

theorem Operation.journal_map {α β : Type} (f : α → β) (op : Operation α) (j : Journal) :
    ((f <$> op).runOn j).2 = (op.runOn j).2 := by
  rw [Operation.runOn_map]

namespace Translator

theorem journal_format {α : Type} [Timestamp α] (t : Translator) (v : α) (layout : String)
    (j : Journal) :
    ((t.format v layout).runOn j).2 = j.touched t (.ask layout .formatting) :=
  Operation.journal_bind (fun _ _ => rfl) j

theorem journal_nativeForParsing (t : Translator) (layout : String) (j : Journal) :
    ((t.nativeForParsing layout).runOn j).2 = j.touched t (.ask layout .parsing) := by
  refine Operation.journal_bind ?_ j
  intro form j
  cases form <;> rfl

theorem journal_parse (t : Translator) (layout text : String) (j : Journal) :
    ((t.parse layout text).runOn j).2 = j.touched t (.ask layout .parsing) := by
  rw [← journal_nativeForParsing]
  exact Operation.journal_bind (fun _ _ => rfl) j

theorem journal_parseIn (t : Translator) (layout text : String) (zone : Calendar.Zone)
    (j : Journal) :
    ((t.parseIn layout text zone).runOn j).2 = j.touched t (.ask layout .parsing) := by
  rw [← journal_nativeForParsing]
  exact Operation.journal_bind (fun _ _ => rfl) j

/-- A conversion asks for its layouts one after the other, as far as it comes. -/
theorem journal_convert {α : Type} (hj : j.cache.Faithful t) (text source target : String) :
    ((t.convert text source target).runOn j).2 =
      (Request.touches t (.convert text source target : Request α)).foldl
        (Journal.touched t) j := by
  rw [convert, Request.touches]
  by_cases same : source = target
  · rw [if_pos same, if_pos same]
    rfl
  · obtain ⟨form, made⟩ := t.exists_formOf_formatting source
    obtain ⟨found, faithful⟩ := t.settles_translate source .formatting j hj
    have mixed : t.hasOrdinals source = form.hasOrdinals := by rw [Translator.hasOrdinals, made]
    rw [made] at found
    rw [if_neg same, if_neg same, Operation.runOn_bind, mixed]
    rcases asked : (t.translate source .formatting).runOn j with ⟨result, j'⟩
    rw [asked] at found faithful
    subst found
    have first : j.touched t (.ask source .formatting) = j' := by rw [Journal.touched, asked]
    simp only []
    split
    · exact first.symm
    · obtain ⟨read, -⟩ := t.settles_parse source text j' faithful
      have second := t.journal_parse source text j'
      rw [Operation.runOn_bind]
      rcases parsed : (t.parse source text).runOn j' with ⟨result, j''⟩
      rw [parsed] at read second
      simp only [] at read second
      rw [← read]
      cases result with
      | ok m =>
          show ((t.format m target).runOn j'').2 = _
          rw [journal_format, second, ← first]
          rfl
      | error e =>
          show j'' = _
          rw [second, ← first]
          rfl

end Translator

namespace Session

variable {α : Type} [Timestamp α] {c : Cache}

/-- A call does nothing to a journal but touch it. -/
theorem journal_perform {r : Request α} (hr : r.IsCall) (hj : j.cache.Faithful t) :
    ((perform t r).runOn j).2 = (r.touches t).foldl (Journal.touched t) j := by
  cases r with
  | translate layout mode => exact Operation.journal_map ..
  | format value layout => exact (Operation.journal_map ..).trans (t.journal_format value layout j)
  | parse layout text => exact (Operation.journal_map ..).trans (t.journal_parse layout text j)
  | parseIn layout text zone =>
      exact (Operation.journal_map ..).trans (t.journal_parseIn layout text zone j)
  | convert text source target =>
      exact (Operation.journal_map ..).trans (Translator.journal_convert hj text source target)
  | grammar => rfl
  | cache request =>
      cases request with
      | enable | disable => rfl
      | insert | get | isEnabled | size | isEmpty => exact hr.elim

/-- What the entry of a request tells that comes after some touches. -/
structure Tells (t : Translator) (start : Bool) (before : List Touch) (r : Request α)
    (entry : Entry) : Prop where
  log : entry.log = eventsOf t start before (r.touches t)
  enabled : entry.enabled = isOn start (before ++ r.touches t)
  size : entry.size = (footprint t start (before ++ r.touches t)).card

theorem step_footprint {r : Request α} (hr : r.IsCall) (h : HasFootprint t start before c) :
    Tells t start before r (step t c r).1 ∧
      HasFootprint t start (before ++ r.touches t) (step t c r).2 := by
  obtain ⟨kept, logged⟩ := HasFootprint.touches (j := .start c) (r.touches t) h
  rw [← journal_perform hr h.faithful] at kept logged
  exact ⟨⟨logged, kept.enabled, kept.size⟩, kept⟩

/-- After a session the cache has the footprint of all its requests, and each entry on the way
tells of the request's own touches. -/
theorem run_footprint_from {rs : List (Request α)} (hrs : ∀ r ∈ rs, r.IsCall) :
    ∀ {before : List Touch} {c : Cache}, HasFootprint t start before c →
      HasFootprint t start (before ++ rs.flatMap (Request.touches t)) (finalCache t c rs) ∧
        ∀ front r back, rs = front ++ r :: back → ∃ entry,
          (run t c rs)[front.length]? = some entry ∧
            Tells t start (before ++ front.flatMap (Request.touches t)) r entry := by
  induction rs with
  | nil =>
      intro before c h
      refine ⟨by simpa [finalCache] using h, ?_⟩
      intro front r back whole
      cases front <;> cases whole
  | cons r rest ih =>
      intro before c h
      obtain ⟨entry, kept⟩ := step_footprint (hrs r (List.mem_cons_self ..)) h
      obtain ⟨last, entries⟩ := ih (fun r' hr' => hrs r' (List.mem_cons_of_mem r hr')) kept
      refine ⟨?_, ?_⟩
      · rw [List.flatMap_cons, ← List.append_assoc]
        exact last
      · intro front r' back whole
        cases front with
        | nil =>
            cases whole
            refine ⟨_, rfl, ?_⟩
            rw [List.flatMap_nil, List.append_nil]
            exact entry
        | cons q front =>
            cases whole
            obtain ⟨entry', found, tells⟩ := entries front r' back rfl
            refine ⟨entry', found, ?_⟩
            rw [List.flatMap_cons, ← List.append_assoc]
            exact tells

/-- What the cache holds and what the log says at any time of a session. The cache starts out empty
or turned off, and the calls can be of any kind. -/
theorem run_footprint (t : Translator) (c : Cache) (hc : c = .enabled ∨ c = .disabled)
    (rs : List (Request α)) (hrs : ∀ r ∈ rs, r.IsCall) :
    HasFootprint t c.isEnabled (rs.flatMap (Request.touches t)) (finalCache t c rs) ∧
      ∀ front r back, rs = front ++ r :: back → ∃ entry,
        (run t c rs)[front.length]? = some entry ∧
          Tells t c.isEnabled (front.flatMap (Request.touches t)) r entry := by
  rcases hc with rfl | rfl
  · exact run_footprint_from hrs (hasFootprint_enabled t)
  · exact run_footprint_from hrs (hasFootprint_disabled t)

/-- Conversions that come to an end at different places, and a cache that is turned off and on. -/
theorem run_footprint_hours :
    (Cache.enabled = .enabled ∨ Cache.enabled = .disabled) ∧ (∀ r ∈ callsWithHours, r.IsCall) ∧
      HasFootprint .standard true (callsWithHours.flatMap (Request.touches .standard))
        (finalCache .standard .enabled callsWithHours) ∧
      ∀ front r back, callsWithHours = front ++ r :: back → ∃ entry,
        (run .standard .enabled callsWithHours)[front.length]? = some entry ∧
          Tells .standard true (front.flatMap (Request.touches .standard)) r entry := by
  have calls : ∀ r ∈ callsWithHours, r.IsCall := by
    simp [callsWithHours, Request.IsCall]
  exact ⟨.inl rfl, calls, run_footprint .standard .enabled (.inl rfl) callsWithHours calls⟩

end Session

end DateLayout
