import Templating.Cache

/-! A cache that callers share. A call that gets or makes the entry of a key is three steps, between
which others may act: a look at the cache, then, where it finds no entry, the making of one without
a hold on the cache, and last the storing of what was made, unless there is an entry by then. -/

namespace Templating.Cache

/-- Where a call that gets or makes an entry stands. -/
inductive Stage (α : Type) where
  | waiting
  /-- It looked and found no entry. -/
  | missed
  /-- It has made an entry and not yet stored it. -/
  | holding (made : α)
  | answered (entry : α)

/-- A cache and where each of the calls on it stands. -/
structure Shared (ι α : Type) where
  cache : Cache α
  stage : ι → Stage α

/-- What a step on a shared cache shows. The first four are the steps of calls. -/
inductive Event (ι α : Type) where
  /-- A call found the entry of its key. -/
  | hit (call : ι) (entry : α)
  | miss (call : ι)
  /-- The resolver of a call made an entry. -/
  | made (call : ι) (entry : α)
  /-- A call came to store what it had made and was answered with the entry that its key has then. -/
  | stored (call : ι) (made entry : α)
  | got (key : String) (seen? : Option α)
  | found (key : String) (isThere : Bool)
  | counted (size : Nat)
  | inserted (key : String) (value : α)
  | erased (key : String)
  | cleared

namespace Event

/-- The call that takes a step, if a call does. -/
def call? : Event ι α → Option ι
  | hit call _ => some call
  | miss call => some call
  | made call _ => some call
  | stored call _ _ => some call
  | _ => none

/-- Whether a step changes entries without a call. -/
def isDirect : Event ι α → Bool
  | inserted _ _ => true
  | erased _ => true
  | cleared => true
  | _ => false

end Event

variable [DecidableEq ι]

/-- The state in which a call stands at a stage. -/
def Shared.move (shared : Shared ι α) (call : ι) (stage : Stage α) : Shared ι α :=
  { shared with stage := fun other => if other = call then stage else shared.stage other }

/-- One step on a shared cache, where call `c` is about the key `key c`. A look and a storing each see
the cache as one whole. A resolver may make any entry. -/
inductive Step (key : ι → String) : Shared ι α → Event ι α → Shared ι α → Prop
  | hit {shared : Shared ι α} {call : ι} {entry : α} (waits : shared.stage call = .waiting)
      (there : shared.cache.get? (key call) = some entry) :
      Step key shared (.hit call entry) (shared.move call (.answered entry))
  | miss {shared : Shared ι α} {call : ι} (waits : shared.stage call = .waiting)
      (absent : shared.cache.get? (key call) = none) :
      Step key shared (.miss call) (shared.move call .missed)
  | made {shared : Shared ι α} {call : ι} (entry : α) (missed : shared.stage call = .missed) :
      Step key shared (.made call entry) (shared.move call (.holding entry))
  | stored {shared : Shared ι α} {call : ι} {made : α}
      (holds : shared.stage call = .holding made) :
      Step key shared (.stored call made (shared.cache.insertIfAbsent (key call) made).1)
        ({ shared with cache := (shared.cache.insertIfAbsent (key call) made).2 }.move call
          (.answered (shared.cache.insertIfAbsent (key call) made).1))
  | got {shared : Shared ι α} (name : String) :
      Step key shared (.got name (shared.cache.get? name)) shared
  | found {shared : Shared ι α} (name : String) :
      Step key shared (.found name (shared.cache.contains name)) shared
  | counted {shared : Shared ι α} : Step key shared (.counted shared.cache.size) shared
  | inserted {shared : Shared ι α} (name : String) (value : α) :
      Step key shared (.inserted name value) { shared with cache := shared.cache.insert name value }
  | erased {shared : Shared ι α} (name : String) :
      Step key shared (.erased name) { shared with cache := shared.cache.erase name }
  | cleared {shared : Shared ι α} : Step key shared .cleared { shared with cache := .empty }

/-- Steps one after another, of which those that change entries without a call leave the entry of
`name` alone. -/
inductive Steps (key : ι → String) (name : String) :
    Shared ι α → List (Event ι α) → Shared ι α → Prop
  | done (shared : Shared ι α) : Steps key name shared [] shared
  | next {first second last : Shared ι α} {event : Event ι α} {rest : List (Event ι α)}
      (step : Step key first event second)
      (spares : event.isDirect → second.cache.get? name = first.cache.get? name)
      (steps : Steps key name second rest last) : Steps key name first (event :: rest) last

end Templating.Cache
