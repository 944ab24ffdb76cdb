import DateLayout.Proofs.Cache.Transparency

/-!
# Reachable caches

A cache starts out empty or turned off and then sees requests of all kinds. As long as none of them
writes an entry of its own, every native form in it was made by the translator: calls keep the
cache faithful (`step_result_eq`), and questions leave it as it is. The tier may be changed on the
way. It decides which layouts the cache is asked for, and no form depends on it.
-/

namespace DateLayout

variable {α : Type}

/-- All requests but those that write an entry of the caller's own. -/
def Request.WritesNothing : Request α → Prop
  | .cache (.insert ..) => False
  | _ => True

/-- The translators and caches that come of requests which write nothing. Each request may be about
values of another type. -/
inductive Reachable : Translator → Cache → Prop where
  | enabled (t : Translator) : Reachable t .enabled
  | disabled (t : Translator) : Reachable t .disabled
  | withTier {t : Translator} {c : Cache} (tier : Nat) (before : Reachable t c) :
      Reachable { t with tier := tier } c
  | step {α : Type} [Timestamp α] {t : Translator} {c : Cache} (r : Request α)
      (before : Reachable t c) (writes : r.WritesNothing) : Reachable t (Session.step t c r).2

variable [Timestamp α] {t : Translator} {c : Cache}

theorem Session.faithful_step {r : Request α} (hr : r.WritesNothing) (hc : c.Faithful t) :
    (step t c r).2.Faithful t := by
  cases r with
  | cache request =>
      cases request with
      | enable => exact faithful_enabled t
      | disable => exact faithful_disabled t
      | isEnabled | size | isEmpty | get => exact hc
      | insert => exact hr.elim
  | translate | format | parse | parseIn | convert | grammar =>
      refine (step_result_eq ?_ hc).2
      trivial

namespace Reachable

theorem faithful (h : Reachable t c) : c.Faithful t := by
  induction h with
  | enabled t => exact faithful_enabled t
  | disabled t => exact faithful_disabled t
  | withTier tier before ih => exact ih
  | step r before writes ih => exact Session.faithful_step writes ih

theorem finalCache {rs : List (Request α)} (hrs : ∀ r ∈ rs, r.WritesNothing) :
    ∀ {c : Cache}, Reachable t c → Reachable t (Session.finalCache t c rs) := by
  induction rs with
  | nil => exact fun before => before
  | cons r rest ih =>
      intro c before
      exact ih (fun r' hr' => hrs r' (List.mem_cons_of_mem r hr'))
        (before.step r (hrs r (List.mem_cons_self ..)))

end Reachable

end DateLayout
