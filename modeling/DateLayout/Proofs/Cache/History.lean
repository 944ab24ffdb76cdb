import DateLayout.Cache
import Mathlib.Data.Finset.Card
import Mathlib.Data.List.DropRight

/-!
# The history of a cache

All answers of a cache can be told from the requests before them, without its tables. The last
toggle says whether the cache is on, and with every toggle a new history begins: the entries
written since then, none of them while the cache is off (`written`). A form that is asked for is
the one written last under its layout and mode, and there are as many forms as different pairs of
a layout and a mode (`told`).

The invariant is that a cache has the history of the requests so far (`HasHistory`). One request
keeps it, and so do all requests of a list by induction from the end. That the modes are kept apart
is another invariant, about two caches of which one sees the requests for a mode only (`AgreeIn`).
-/

namespace DateLayout.Cache

namespace Request

/-- Whether a request turns the cache on or off. -/
def toggle? : Request → Option Bool
  | .enable => some true
  | .disable => some false
  | .isEnabled | .size | .isEmpty | .get .. | .insert .. => none

/-- The entry that a request writes, with its layout and mode. -/
def entry? : Request → Option ((String × Mode) × NativeForm)
  | .insert layout mode form => some ((layout, mode), form)
  | .enable | .disable | .isEnabled | .size | .isEmpty | .get .. => none

/-- Whether a request asks for a form in a mode. -/
def asksIn (mode : Mode) : Request → Bool
  | .get _ mode' => mode' = mode
  | .enable | .disable | .isEnabled | .size | .isEmpty | .insert .. => false

/-- Whether a request is about forms in a mode, or about no mode in particular. -/
def concerns (mode : Mode) : Request → Bool
  | .get _ mode' | .insert _ mode' _ => mode' = mode
  | .enable | .disable | .isEnabled | .size | .isEmpty => true

theorem concerns_of_asksIn {mode : Mode} {r : Request} (asks : r.asksIn mode = true) :
    r.concerns mode = true := by
  cases r with
  | get => exact asks
  | enable | disable | isEnabled | size | isEmpty | insert => cases asks

end Request

/-- The cache that starts out turned on or off. -/
def initially (on : Bool) : Cache :=
  if on then enabled else disabled

def afterAll (c : Cache) (rs : List Request) : Cache :=
  rs.foldl after c

/-- Requests with their answers. -/
def transcript (c : Cache) : List Request → List (Request × Reply)
  | [] => []
  | r :: rest => (r, c.answer r) :: transcript (c.after r) rest

/-! ## What the requests tell -/

/-- Whether the cache is on after some requests: the last toggle decides. -/
def isOn (start : Bool) (before : List Request) : Bool :=
  (before.filterMap Request.toggle?).getLast?.getD start

/-- The entries written since the last toggle; none if the cache is off. -/
def written (start : Bool) (before : List Request) : List ((String × Mode) × NativeForm) :=
  if isOn start before then
    (before.rtakeWhile fun r => r.toggle?.isNone).filterMap Request.entry?
  else []

/-- The form that was written last for a pair of a layout and a mode. -/
def lastOf (entries : List ((String × Mode) × NativeForm)) (pair : String × Mode) :
    Option NativeForm :=
  (entries.filter fun e => e.1 = pair).getLast?.map Prod.snd

/-- The pairs that something was written for. -/
def pairsOf (entries : List ((String × Mode) × NativeForm)) : Finset (String × Mode) :=
  (entries.map Prod.fst).toFinset

/-- The answer to a request that comes after others. -/
def told (start : Bool) (before : List Request) : Request → Reply
  | .isEnabled => .truth (isOn start before)
  | .size => .count (pairsOf (written start before)).card
  | .isEmpty => .truth (decide ((pairsOf (written start before)).card = 0))
  | .get layout mode => .kept (lastOf (written start before) (layout, mode))
  | .enable | .disable | .insert .. => .done

variable {start : Bool} {before : List Request} {r : Request} {c c' : Cache} {mode : Mode}

/-! ## Entries -/

theorem lastOf_concat (entries : List ((String × Mode) × NativeForm)) (pair pair' : String × Mode)
    (form : NativeForm) :
    lastOf (entries ++ [(pair, form)]) pair' =
      if pair = pair' then some form else lastOf entries pair' := by
  rw [lastOf, List.filter_append]
  by_cases same : pair = pair'
  · simp [same]
  · simp [same, lastOf]

theorem isSome_lastOf {entries : List ((String × Mode) × NativeForm)} {pair : String × Mode} :
    (lastOf entries pair).isSome = true ↔ pair ∈ pairsOf entries := by
  rw [lastOf, pairsOf, Option.isSome_map, List.getLast?_isSome, List.mem_toFinset, List.mem_map,
    ne_eq, List.filter_eq_nil_iff]
  simp only [decide_eq_true_eq, not_forall, not_not, exists_prop]

theorem pairsOf_concat (entries : List ((String × Mode) × NativeForm)) (pair : String × Mode)
    (form : NativeForm) :
    pairsOf (entries ++ [(pair, form)]) = Insert.insert pair (pairsOf entries) := by
  simp [pairsOf, List.toFinset_append, Finset.union_comm]

/-! ## One more request -/

theorem isOn_concat (start : Bool) (before : List Request) (r : Request) :
    isOn start (before ++ [r]) = r.toggle?.getD (isOn start before) := by
  rw [isOn, List.filterMap_append]
  cases toggles : r.toggle? with
  | some on => simp [toggles]
  | none => simp [toggles, isOn]

theorem written_toggle {on : Bool} (toggles : r.toggle? = some on) :
    written start (before ++ [r]) = [] := by
  rw [written, List.rtakeWhile_concat_neg _ _ _ (by simp [toggles])]
  split <;> rfl

theorem written_concat (other : r.toggle? = none) :
    written start (before ++ [r]) =
      if isOn start before then written start before ++ r.entry?.toList else [] := by
  rw [written, written, isOn_concat, other, Option.getD_none,
    List.rtakeWhile_concat_pos _ _ _ (by simp [other]), List.filterMap_append]
  split
  · cases entry : r.entry? <;> simp [entry]
  · rfl

/-- A question leaves the entries as they are. -/
theorem written_question (other : r.toggle? = none) (writes : r.entry? = none) :
    written start (before ++ [r]) = written start before := by
  rw [written_concat other, writes, Option.toList_none, List.append_nil]
  split
  · rfl
  · next off => rw [written, if_neg off]

/-! ## Histories -/

/-- What a cache holds is what was written since the last toggle. -/
structure HasHistory (start : Bool) (before : List Request) (c : Cache) : Prop where
  enabled : c.isEnabled = isOn start before
  kept : ∀ layout mode, c.get? layout mode = lastOf (written start before) (layout, mode)
  size : c.size = (pairsOf (written start before)).card

namespace HasHistory

/-- Where nothing was written since the last toggle, an empty cache has the history. -/
theorem of_empty (enabled : c.isEnabled = isOn start before)
    (empty : ∀ layout mode, c.get? layout mode = none) (size : c.size = 0)
    (nothing : written start before = []) : HasHistory start before c where
  enabled := enabled
  kept := by
    intro layout mode
    rw [empty, nothing]
    rfl
  size := by
    rw [size, nothing]
    rfl

theorem initially (on : Bool) : HasHistory on [] (initially on) := by
  cases on with
  | true => exact of_empty rfl get?_enabled size_enabled rfl
  | false => exact of_empty rfl get?_disabled size_disabled rfl

/-- A request that neither toggles the cache nor leaves an entry behind changes nothing. -/
theorem of_same (h : HasHistory start before c)
    (still : isOn start (before ++ [r]) = isOn start before)
    (same : written start (before ++ [r]) = written start before) :
    HasHistory start (before ++ [r]) c where
  enabled := by rw [still, h.enabled]
  kept := by rw [same]; exact h.kept
  size := by rw [same, h.size]

theorem insert (h : HasHistory start before c) (layout : String) (mode : Mode)
    (form : NativeForm) :
    HasHistory start (before ++ [.insert layout mode form]) (c.insert layout mode form) := by
  have still : isOn start (before ++ [.insert layout mode form]) = isOn start before :=
    isOn_concat start before _
  have more : written start (before ++ [.insert layout mode form]) =
      if isOn start before then written start before ++ [((layout, mode), form)] else [] :=
    written_concat rfl
  cases on : isOn start before with
  | true =>
      have enabled : c.isEnabled = true := by rw [h.enabled, on]
      rw [on, if_pos rfl] at more
      refine ⟨?_, ?_, ?_⟩
      · rw [isEnabled_insert, h.enabled, still]
      · intro layout' mode'
        rw [get?_insert enabled, more, lastOf_concat, h.kept]
      · rw [size_insert enabled, more, pairsOf_concat, Finset.card_insert_eq_ite, h.kept, h.size]
        simp only [isSome_lastOf]
  | false =>
      have disabled : c.isEnabled = false := by rw [h.enabled, on]
      have nothing : written start before = [] := by rw [written, on]; rfl
      rw [insert_of_disabled disabled]
      refine h.of_same still ?_
      rw [more, on, nothing]
      rfl

/-- Each request goes on with the history. -/
theorem after (h : HasHistory start before c) (r : Request) :
    HasHistory start (before ++ [r]) (c.after r) := by
  cases r with
  | enable =>
      exact of_empty (isOn_concat start before .enable).symm get?_enabled size_enabled
        (written_toggle rfl)
  | disable =>
      exact of_empty (isOn_concat start before .disable).symm get?_disabled size_disabled
        (written_toggle rfl)
  | isEnabled | size | isEmpty | get =>
      exact h.of_same (isOn_concat start before _) (written_question rfl rfl)
  | insert layout mode form => exact h.insert layout mode form

theorem afterAll (on : Bool) (rs : List Request) :
    HasHistory on rs ((Cache.initially on).afterAll rs) := by
  induction rs using List.reverseRecOn with
  | nil => exact HasHistory.initially on
  | append_singleton before r ih =>
      rw [Cache.afterAll, List.foldl_concat]
      exact ih.after r

/-- A cache answers what its history tells. -/
theorem answer (h : HasHistory start before c) (r : Request) : c.answer r = told start before r := by
  cases r with
  | isEnabled => rw [Cache.answer, told, h.enabled]
  | size => rw [Cache.answer, told, h.size]
  | isEmpty => rw [Cache.answer, told, isEmpty, h.size]; rfl
  | get layout mode => rw [Cache.answer, told, h.kept]
  | enable | disable | insert => rfl

end HasHistory

/-! ## Transcripts -/

theorem length_transcript (c : Cache) (rs : List Request) :
    (c.transcript rs).length = rs.length := by
  induction rs generalizing c with
  | nil => rfl
  | cons r rest ih => rw [transcript, List.length_cons, ih, List.length_cons]

theorem transcript_append (c : Cache) (front back : List Request) :
    c.transcript (front ++ back) = c.transcript front ++ (c.afterAll front).transcript back := by
  induction front generalizing c with
  | nil => rfl
  | cons r rest ih => rw [List.cons_append, transcript, ih, transcript]; rfl

/-- What is written to a cache that is off is lost for good: without it, all other answers would
be the same. -/
theorem transcript_lost (front back : List Request) (layout : String) (mode : Mode)
    (form : NativeForm) (off : (c.afterAll front).isEnabled = false) :
    (c.transcript (front ++ .insert layout mode form :: back)).eraseIdx front.length =
      c.transcript (front ++ back) := by
  have nothing : (c.afterAll front).after (.insert layout mode form) = c.afterAll front :=
    insert_of_disabled off layout mode form
  rw [transcript_append, transcript_append, ← c.length_transcript front, transcript, nothing,
    List.eraseIdx_append_of_length_le (Nat.le_refl _), Nat.sub_self]
  rfl

/-! ## Modes -/

/-- Two caches that hold the same forms in a mode. -/
structure AgreeIn (mode : Mode) (c c' : Cache) : Prop where
  enabled : c.isEnabled = c'.isEnabled
  kept : ∀ layout, c.get? layout mode = c'.get? layout mode

namespace AgreeIn

theorem refl (mode : Mode) (c : Cache) : AgreeIn mode c c :=
  ⟨rfl, fun _ => rfl⟩

/-- Caches go on to agree if both see a request. -/
theorem after (h : AgreeIn mode c c') (r : Request) : AgreeIn mode (c.after r) (c'.after r) := by
  cases r with
  | enable => exact refl mode .enabled
  | disable => exact refl mode .disabled
  | isEnabled | size | isEmpty | get => exact h
  | insert layout mode' form =>
      refine ⟨by rw [Cache.after, Cache.after, isEnabled_insert, isEnabled_insert, h.enabled],
        fun layout' => ?_⟩
      exact get?_insert_congr h.enabled layout mode' form (h.kept layout')

/-- A request that is about another mode does not matter. -/
theorem after_left (h : AgreeIn mode c c') (other : ¬ r.concerns mode = true) :
    AgreeIn mode (c.after r) c' := by
  cases r with
  | enable | disable | isEnabled | size | isEmpty => exact absurd rfl other
  | get => exact h
  | insert layout mode' form =>
      have differ : mode' ≠ mode := fun same => other (decide_eq_true same)
      refine ⟨by rw [Cache.after, isEnabled_insert, h.enabled], fun layout' => ?_⟩
      rw [Cache.after, get?_insert_of_ne c (by simp [differ]), h.kept]

/-- The answers about a mode need no requests about another. -/
theorem transcript (h : AgreeIn mode c c') (rs : List Request) :
    ((c.transcript rs).filter fun e => e.1.asksIn mode) =
      (c'.transcript (rs.filter (Request.concerns mode))).filter fun e => e.1.asksIn mode := by
  induction rs generalizing c c' with
  | nil => rfl
  | cons r rest ih =>
      by_cases about : r.concerns mode = true
      · rw [List.filter_cons_of_pos about, Cache.transcript, Cache.transcript, List.filter_cons,
          List.filter_cons, ih (h.after r)]
        split
        · next asks =>
            have same : c.answer r = c'.answer r := by
              cases r with
              | get layout mode' =>
                  obtain rfl : mode' = mode := of_decide_eq_true asks
                  rw [answer, answer, h.kept]
              | enable | disable | isEnabled | size | isEmpty | insert => cases asks
            rw [same]
        · rfl
      · have silent : ¬ r.asksIn mode = true := fun asks => about (Request.concerns_of_asksIn asks)
        rw [List.filter_cons_of_neg about, Cache.transcript, List.filter_cons, if_neg silent]
        exact ih (h.after_left about)

end AgreeIn

/-- A cache answers what the requests before tell. What is written while it is off is lost for
good, and in a mode it answers as if there were no requests about the other. -/
theorem transcript_tells_history (on : Bool) :
    (∀ front r back,
      ((initially on).transcript (front ++ r :: back))[front.length]? =
        some (r, told on front r)) ∧
    (∀ front layout mode form back, isOn on front = false →
      ((initially on).transcript (front ++ .insert layout mode form :: back)).eraseIdx
        front.length = (initially on).transcript (front ++ back)) ∧
    (∀ mode rs,
      (((initially on).transcript rs).filter fun e => e.1.asksIn mode) =
        ((initially on).transcript (rs.filter (Request.concerns mode))).filter
          fun e => e.1.asksIn mode) := by
  refine ⟨fun front r back => ?_, fun front layout mode form back off => ?_, fun mode rs => ?_⟩
  · have history := HasHistory.afterAll on front
    rw [transcript_append, ← (initially on).length_transcript front,
      List.getElem?_append_right (Nat.le_refl _), Nat.sub_self, transcript, history.answer r]
    rfl
  · refine transcript_lost front back layout mode form ?_
    rw [(HasHistory.afterAll on front).enabled, off]
  · exact (AgreeIn.refl mode _).transcript rs

/-- A form written too early is lost, although the cache is turned on afterwards. -/
theorem transcript_tells_history_early :
    isOn false [] = false ∧
      ((initially false).transcript [.insert "yyyy" .parsing (.literal "%Y"), .enable,
        .get "yyyy" .parsing, .size]).eraseIdx 0 =
        (initially false).transcript [.enable, .get "yyyy" .parsing, .size] :=
  ⟨rfl, (transcript_tells_history false).2.1 [] "yyyy" .parsing (.literal "%Y")
    [.enable, .get "yyyy" .parsing, .size] rfl⟩

/-- What is written twice counts once, and what is written while the cache is off does not count,
also when it is on again. -/
example :
    let rs : List Request := [.insert "yyyy" .parsing (.literal "%Y"), .enable,
      .insert "mm" .parsing (.literal "%m"), .insert "mm" .parsing (.literal "%-m")]
    told false rs .size = .count 1 ∧ told false rs (.get "yyyy" .parsing) = .kept none ∧
      told false rs (.get "mm" .parsing) = .kept (some (.literal "%-m")) := by
  decide

end DateLayout.Cache
