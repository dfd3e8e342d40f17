import Templating.Cache

/-! Uses of a store of entries under keys: operations one after another, of which each may depend on
the answers to those before it. A resolver is itself such a use, of the same store. -/

namespace Templating

/-- The operations that a store in states `σ` offers. -/
structure Store (σ α : Type) where
  insert : σ → String → α → σ
  get? : σ → String → Option α
  contains : σ → String → Bool
  erase : σ → String → σ
  empty : σ
  size : σ → Nat
  isEmpty : σ → Bool
  /-- The entry of a key, with a resolver for a key that has none, which may change a world. -/
  getOrInsertIn : {ω : Type} → σ → String → (σ → ω → α × σ × ω) → ω → α × σ × ω

/-- A use of a store that ends with an entry that it has made. -/
inductive Script (α : Type) where
  | done (made : α)
  | insert (key : String) (value : α) (next : Script α)
  | get (key : String) (next : Option α → Script α)
  | contains (key : String) (next : Bool → Script α)
  | erase (key : String) (next : Script α)
  | clear (next : Script α)
  | size (next : Nat → Script α)
  | isEmpty (next : Bool → Script α)
  | getOrInsert (key : String) (resolver : Script α) (next : α → Script α)

/-- What an operation answers, and that a resolver runs. -/
inductive Answer (α : Type) where
  | found (seen? : Option α)
  | holds (truth : Bool)
  | counted (size : Nat)
  /-- The resolver of a call for a key starts. -/
  | resolving (key : String)
  | entry (entry : α)

namespace Script

variable {σ α : Type}

/-- Runs a script on a store, with a log of the answers so far. The log is the world that resolvers
change, so that they write to it if the store runs them. -/
def runIn (store : Store σ α) : Script α → σ → List (Answer α) → α × σ × List (Answer α)
  | done made, state, log => (made, state, log)
  | insert key value next, state, log => next.runIn store (store.insert state key value) log
  | get key next, state, log =>
    let seen? := store.get? state key
    (next seen?).runIn store state (log ++ [.found seen?])
  | contains key next, state, log =>
    let truth := store.contains state key
    (next truth).runIn store state (log ++ [.holds truth])
  | erase key next, state, log => next.runIn store (store.erase state key) log
  | clear next, _, log => next.runIn store store.empty log
  | size next, state, log =>
    let size := store.size state
    (next size).runIn store state (log ++ [.counted size])
  | isEmpty next, state, log =>
    let truth := store.isEmpty state
    (next truth).runIn store state (log ++ [.holds truth])
  | getOrInsert key resolver next, state, log =>
    let resolve state log := resolver.runIn store state (log ++ [.resolving key])
    let (entry, state, log) := store.getOrInsertIn state key resolve log
    (next entry).runIn store state (log ++ [.entry entry])

/-- The entry that a script makes, and the state in which it leaves a store. -/
def run (store : Store σ α) (script : Script α) (state : σ) : α × σ :=
  let (made, state, _) := script.runIn store state []
  (made, state)

/-- The answers that a script gets, with those that its resolvers get where they run. -/
def answers (store : Store σ α) (script : Script α) (state : σ) : List (Answer α) :=
  (script.runIn store state []).2.2

end Script

/-- Caches as stores. -/
def Cache.store : Store (Cache α) α where
  insert := Cache.insert
  get? := Cache.get?
  contains := Cache.contains
  erase := Cache.erase
  empty := Cache.empty
  size := Cache.size
  isEmpty := Cache.isEmpty
  getOrInsertIn := Cache.getOrInsertIn

end Templating
