import DateLayout.Translator

/-!
# Sessions

A session is a list of requests to one translator and its cache, answered one after the other.
Each entry tells the result, the state of the cache after it, and what was logged on the way.
-/

namespace DateLayout

open DateLayout.Calendar

/-- What can be asked of a translator and its cache, for values of type `α`: the sum of their types
if a session has values of several. -/
inductive Request (α : Type) where
  | translate (layout : String) (mode : Mode)
  | format (value : α) (layout : String)
  | parse (layout text : String)
  | parseIn (layout text : String) (zone : Zone)
  | convert (text source target : String)
  | grammar
  | cache (request : Cache.Request)

inductive Reply where
  | native (form : NativeForm)
  | text (s : String)
  | moment (m : Moment)
  | zonedMoment (m : ZonedMoment)
  | grammar (g : Grammar)
  | cache (reply : Cache.Reply)

/-- What a request left behind: its result, whether the cache was on and how much it kept, and the
events. -/
structure Entry where
  result : Except LayoutError Reply
  enabled : Bool
  size : Nat
  log : List Event

namespace Session

variable {α : Type} [Timestamp α]

/-- The operation that a request stands for. -/
def perform (t : Translator) (r : Request α) : Operation Reply :=
  match r with
  | .translate layout mode => Reply.native <$> t.translate layout mode
  | .format value layout => Reply.text <$> t.format value layout
  | .parse layout text => Reply.moment <$> t.parse layout text
  | .parseIn layout text zone => Reply.zonedMoment <$> t.parseIn layout text zone
  | .convert text source target => Reply.text <$> t.convert text source target
  | .grammar => return .grammar t.grammar
  | .cache request => Reply.cache <$> askCache request

/-- One request to a translator with a cache, and the cache that it leaves behind. -/
def step (t : Translator) (c : Cache) (r : Request α) : Entry × Cache :=
  let (result, j) := (perform t r).runOn (.start c)
  (⟨result, j.cache.isEnabled, j.cache.size, j.log⟩, j.cache)

def run (t : Translator) (c : Cache) (rs : List (Request α)) : List Entry :=
  match rs with
  | [] => []
  | r :: rest => (step t c r).1 :: run t (step t c r).2 rest

def finalCache (t : Translator) (c : Cache) (rs : List (Request α)) : Cache :=
  rs.foldl (fun c r => (step t c r).2) c

end Session

end DateLayout
