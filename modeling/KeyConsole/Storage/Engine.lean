import KeyConsole.Error
import KeyConsole.OrderedMap
import KeyConsole.Text.Numeral
import KeyConsole.Text.Utf8

/-!
# The storage of one database in memory

Values are kept in slots, and the slots are spread over shards by their keys.
A slot may have a deadline.  From its deadline on a slot is as good as absent,
but it is only dropped when an operation comes upon it; until then it counts
as held.
-/

namespace KeyConsole

/-- A point of time, in nanoseconds since a fixed one. -/
abbrev Instant := Nat

namespace Storage

/-- How many nanoseconds a second has. -/
def nanosPerSecond : Nat := 1000000000

/-- The first instant that the clock cannot show. -/
def clockEnd : Instant := Text.signedBound * nanosPerSecond

/-- A value with its deadline, if it has one. -/
structure Slot where
  value : Bytes
  deadline : Option Instant
  deriving DecidableEq, Repr

namespace Slot

/-- Whether the deadline has been reached. -/
def isExpired (slot : Slot) (now : Instant) : Bool :=
  match slot.deadline with
  | some deadline => deadline ≤ now
  | none => false

/-- Whether the slot still counts. -/
def isLive (slot : Slot) (now : Instant) : Bool :=
  !slot.isExpired now

/-- The whole seconds until the deadline, or minus one without a deadline. -/
def secondsLeft (slot : Slot) (now : Instant) : Int :=
  match slot.deadline with
  | some deadline => ((deadline - now) / nanosPerSecond : Nat)
  | none => -1

end Slot

/-- The slots of one shard. -/
abbrev Shard := OrderedMap Bytes Slot

/-- How many shards a database has. -/
def shardCount : Nat := 64

/-- What has been counted since the database was created.  The numbers are those of words
that start at zero, which none of them leaves upwards before there have been as many calls
as a word can count: no number outgrows the number of calls (`Engine.Accounts.within`). -/
structure Counters where
  /-- How many slots are held. -/
  keys : Nat := 0
  /-- How many times a value was asked for. -/
  gets : Nat := 0
  /-- How many times a value was stored. -/
  sets : Nat := 0
  /-- How many times a key was to be removed. -/
  dels : Nat := 0
  /-- How many slots went away because they had expired. -/
  expired : Nat := 0
  deriving DecidableEq, Repr, Inhabited

/-- Take slots off those that are held.  The number wraps around below zero. -/
def Counters.release (counters : Counters) (n : Nat) : Counters :=
  { counters with
    keys := if n ≤ counters.keys then counters.keys - n else counters.keys + Text.wordBound - n }

/-- Book slots that went away because they had expired. -/
def Counters.expire (counters : Counters) (n : Nat) : Counters :=
  { counters.release n with expired := counters.expired + n }

/-- The figures of a database at an instant. -/
structure Figures where
  liveKeys : Nat
  usedMemory : Nat
  getOps : Nat
  setOps : Nat
  delOps : Nat
  expired : Nat
  deriving DecidableEq, Repr

/-- How many bytes are charged for a slot besides its key and its value. -/
def slotOverhead : Nat := 64

/-- A database in memory. -/
structure Engine where
  /-- Which shard holds the slot of a key. -/
  route : Bytes → Fin shardCount
  /-- The shards. -/
  shards : Vector Shard shardCount
  counters : Counters

namespace Engine

/-- The database without slots. -/
def empty (route : Bytes → Fin shardCount) : Engine where
  route := route
  shards := Vector.replicate shardCount OrderedMap.empty
  counters := {}

/-- The shard of a key. -/
def shard (engine : Engine) (key : Bytes) : Shard :=
  engine.shards[engine.route key]

/-- Change the shard of a key. -/
def updateShard (engine : Engine) (key : Bytes) (change : Shard → Shard) : Engine :=
  { engine with
    shards := engine.shards.set (engine.route key) (change (engine.shard key)) }

/-- Change what has been counted. -/
def count (engine : Engine) (change : Counters → Counters) : Engine :=
  { engine with counters := change engine.counters }

/-- The slot that is held for a key, expired or not. -/
def slot? (engine : Engine) (key : Bytes) : Option Slot :=
  (engine.shard key).get? key

/-- Drop the slot of a key because it has expired. -/
def dropExpired (engine : Engine) (key : Bytes) : Engine :=
  (engine.updateShard key (·.erase key)).count (·.expire 1)

/-- The live slot of a key; an expired one is dropped. -/
def liveSlot (engine : Engine) (now : Instant) (key : Bytes) : Option Slot × Engine :=
  match engine.slot? key with
  | none => (none, engine)
  | some slot =>
    if slot.isExpired now then (none, engine.dropExpired key) else (some slot, engine)

/-- Store a value without a deadline.  Tells whether the key was absent or had
expired. -/
def set (engine : Engine) (now : Instant) (key value : Bytes) : Bool × Engine :=
  let stored := (engine.updateShard key (·.insert key ⟨value, none⟩)).count fun c =>
    { c with sets := c.sets + 1 }
  match engine.slot? key with
  | none => (true, stored.count fun c => { c with keys := c.keys + 1 })
  | some slot =>
    if slot.isExpired now then
      (true, stored.count fun c => { c with expired := c.expired + 1 })
    else (false, stored)

/-- The value of a live key. -/
def get (engine : Engine) (now : Instant) (key : Bytes) : Option Bytes × Engine :=
  let (slot?, engine) := (engine.count fun c => { c with gets := c.gets + 1 }).liveSlot now key
  (slot?.map Slot.value, engine)

/-- Remove a key.  Tells whether a live one went away. -/
def delete (engine : Engine) (now : Instant) (key : Bytes) : Bool × Engine :=
  let counted := engine.count fun c => { c with dels := c.dels + 1 }
  match engine.slot? key with
  | none => (false, counted)
  | some slot =>
    if slot.isExpired now then (false, counted.dropExpired key)
    else
      (true, (counted.updateShard key (·.erase key)).count (·.release 1))

/-- Give a live key a deadline that is a number of nanoseconds away.  Tells
whether there is one, and nothing if the clock cannot show the deadline. -/
def expireAfter (engine : Engine) (now : Instant) (key : Bytes) (lifetime : Nat) :
    Option (Bool × Engine) :=
  match engine.slot? key with
  | none => some (false, engine)
  | some slot =>
    if slot.isExpired now then some (false, engine.dropExpired key)
    else
      let deadline := now + lifetime
      if deadline < clockEnd then
        some (true, engine.updateShard key (·.insert key { slot with deadline := some deadline }))
      else none

/-- Give a live key a deadline some seconds from now. -/
def expire (engine : Engine) (now : Instant) (key : Bytes) (seconds : Nat) :
    Option (Bool × Engine) :=
  engine.expireAfter now key (seconds * nanosPerSecond)

/-- The whole seconds until a live key expires, or minus one if it never
does. -/
def ttl (engine : Engine) (now : Instant) (key : Bytes) : Option Int × Engine :=
  let (slot?, engine) := engine.liveSlot now key
  (slot?.map (·.secondsLeft now), engine)

/-- The entries of all shards. -/
def entries (engine : Engine) : List (Bytes × Slot) :=
  engine.shards.toList.flatMap OrderedMap.entries

/-- The entries that are live. -/
def liveEntries (engine : Engine) (now : Instant) : List (Bytes × Slot) :=
  engine.entries.filter fun entry => entry.2.isLive now

/-- The live keys in ascending order. -/
def sortedKeys (engine : Engine) (now : Instant) : List Bytes :=
  ((engine.liveEntries now).map Prod.fst).mergeSort fun first second => decide (first ≤ second)

/-- Remove every slot. -/
def flush (engine : Engine) : Engine :=
  { engine with
    shards := Vector.replicate shardCount OrderedMap.empty
    counters := { engine.counters with keys := 0 } }

/-- How many slots are held. -/
def len (engine : Engine) : Nat :=
  engine.counters.keys

/-- Whether no slot is held. -/
def isEmpty (engine : Engine) : Bool :=
  engine.len == 0

/-- Drop every expired slot and count them. -/
def cleanupExpired (engine : Engine) (now : Instant) : Nat × Engine :=
  let kept := engine.shards.map (·.filter fun _ slot => slot.isLive now)
  let dropped := (engine.entries.filter fun entry => entry.2.isExpired now).length
  (dropped, { engine with shards := kept, counters := engine.counters.expire dropped })

/-- The figures at an instant. -/
def figures (engine : Engine) (now : Instant) : Figures :=
  let live := engine.liveEntries now
  { liveKeys := live.length
    usedMemory := live.foldr (fun (key, slot) sum =>
      key.length + slot.value.length + slotOverhead + sum) 0
    getOps := engine.counters.gets
    setOps := engine.counters.sets
    delOps := engine.counters.dels
    expired := engine.counters.expired }

end Engine

/-- A spread of the keys over the shards by a polynomial in their bytes. -/
def spread (key : Bytes) : Fin shardCount :=
  ⟨key.foldl (fun sum b => (sum * 31 + b.toNat) % 65521) 0 % shardCount,
    Nat.mod_lt _ (by decide)⟩

end Storage

end KeyConsole
