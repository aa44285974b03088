import KeyConsole.Proofs.Backend.Paths
import KeyConsole.Proofs.Backend.Range
import KeyConsole.Proofs.Session.Transcript
import KeyConsole.Proofs.Storage.Contents
import KeyConsole.Registry

/-!
# The two backends are interchangeable

A connection in memory and one on a file have the same contents when every database
of the one holds the items of the table of that name in the other, none with a
deadline.  Every primitive action that both offer keeps it so and answers alike, so
nobody who types the commands they share can tell the one from the other.
-/

namespace KeyConsole

open Storage

variable {α : Type}

/-! ## Databases and tables -/

/-- The slot of an item that never expires. -/
def Storage.Slot.endless (raw : Bytes) : Slot :=
  ⟨raw, none⟩

/-- An engine holds the items of a table, none of them with a deadline. -/
def Storage.Engine.HoldsTable (engine : Engine) (table : TableFile.Table) : Prop :=
  engine.Represents (table.mapValues Slot.endless)

namespace Storage.Engine.HoldsTable

variable {engine : Engine} {table : TableFile.Table}

theorem seen?_eq (holds : engine.HoldsTable table) (now : Instant) (key : Key) :
    engine.seen? now key = (table.get? key).map Slot.endless := by
  rw [seen?, holds.slot, OrderedMap.get?_mapValues]
  cases table.get? key with
  | none => rfl
  | some raw => exact Option.filter_some_pos (Slot.isLive_of_deadline_eq_none rfl now)

theorem isLive_of_get? {now : Instant} {key : Key} {slot : Slot}
    (held : (table.mapValues Slot.endless).get? key = some slot) : slot.isLive now = true := by
  rw [OrderedMap.get?_mapValues, Option.map_eq_some_iff] at held
  rcases held with ⟨raw, _, rfl⟩
  exact Slot.isLive_of_deadline_eq_none rfl now

theorem filter_isLive (table : TableFile.Table) (now : Instant) :
    (table.mapValues Slot.endless).filter (fun _ slot => slot.isLive now)
      = table.mapValues Slot.endless :=
  OrderedMap.filter_eq_self _ fun _ _ held => isLive_of_get? held

theorem get (holds : engine.HoldsTable table) (now : Instant) (key : Key) :
    (engine.get now key).1 = table.get? key ∧ (engine.get now key).2.HoldsTable table := by
  constructor
  · rw [get_fst, holds.seen?_eq, Option.map_map]
    exact congrFun Option.map_id _
  · have represents := Represents.get holds now key
    rwa [visited_of_live fun _ held => isLive_of_get? held] at represents

theorem set (holds : engine.HoldsTable table) (now : Instant) (key : Key) (raw : Bytes) :
    (engine.set now key raw).2.HoldsTable (table.insert key raw) := by
  rw [HoldsTable, OrderedMap.mapValues_insert]
  exact Represents.set holds now key raw

theorem delete (holds : engine.HoldsTable table) (now : Instant) (key : Key) :
    (engine.delete now key).1 = table.contains key ∧
      (engine.delete now key).2.HoldsTable (table.erase key) := by
  constructor
  · rw [delete_fst, holds.seen?_eq, Option.isSome_map, OrderedMap.contains]
  · rw [HoldsTable, OrderedMap.mapValues_erase]
    exact Represents.delete holds now key

theorem sortedKeys_eq (holds : engine.HoldsTable table) (now : Instant) :
    engine.sortedKeys now = table.keys := by
  rw [Holds.sortedKeys_eq holds.toHolds, filter_isLive, OrderedMap.keys_mapValues]

theorem cleanupExpired (holds : engine.HoldsTable table) (now : Instant) :
    (engine.cleanupExpired now).2.len = table.size ∧
      (engine.cleanupExpired now).2.HoldsTable table := by
  have represents := Represents.cleanupExpired holds now
  rw [filter_isLive] at represents
  exact ⟨represents.counted.trans (OrderedMap.size_mapValues _ _), represents⟩

theorem empty (route : Bytes → Fin shardCount) :
    (Engine.empty route).HoldsTable OrderedMap.empty :=
  represents_empty route

theorem flush (engine : Engine) : engine.flush.HoldsTable OrderedMap.empty :=
  represents_flush engine

end Storage.Engine.HoldsTable

/-! ## Connections with the same contents -/

/-- A connection in memory and one on a file have the same databases, with the same
items, and the same one is current. -/
structure SameContents (store : Memory.Store) (file : TableFile.OpenFile) : Prop where
  current : store.current = file.current
  databases : ∀ name, Option.Rel Engine.HoldsTable (store.databases.get? name)
    (file.tables.get? name)
  /-- The current database is there. -/
  here : ∃ engine, store.databases.get? store.current = some engine

namespace SameContents

variable {store : Memory.Store} {file : TableFile.OpenFile}

theorem engine (same : SameContents store file) :
    ∃ engine table, store.databases.get? store.current = some engine ∧
      file.tables.get? file.current = some table ∧ engine.HoldsTable table := by
  rcases same.here with ⟨engine, found⟩
  have related := same.databases store.current
  rw [found, same.current] at related
  generalize foundToo : file.tables.get? file.current = table at related
  cases related with
  | some holds => exact ⟨engine, _, found, rfl, holds⟩

theorem contains_eq (same : SameContents store file) (name : String) :
    store.databases.contains name = file.tables.contains name := by
  have related := same.databases name
  unfold OrderedMap.contains
  generalize store.databases.get? name = engine at related ⊢
  generalize file.tables.get? name = table at related ⊢
  cases related <;> rfl

/-- The current database becomes another one that holds the current table. -/
theorem replaceEngine (same : SameContents store file) {engine : Engine}
    {table : TableFile.Table} (found : file.tables.get? file.current = some table)
    (holds : engine.HoldsTable table) :
    SameContents { store with databases := store.databases.insert store.current engine } file where
  current := same.current
  databases name := by
    rw [OrderedMap.get?_insert]
    split
    · next isCurrent =>
      rw [isCurrent, same.current, found]
      exact .some holds
    · exact same.databases name
  here := ⟨engine, by rw [OrderedMap.get?_insert, if_pos rfl]⟩

/-- A database and the table of the same name become others with the same items. -/
theorem insert (same : SameContents store file) {engine : Engine} {table : TableFile.Table}
    (name : String) (holds : engine.HoldsTable table) :
    SameContents { store with databases := store.databases.insert name engine }
      { file with tables := file.tables.insert name table } where
  current := same.current
  databases other := by
    rw [OrderedMap.get?_insert, OrderedMap.get?_insert]
    split
    · exact .some holds
    · exact same.databases other
  here := by
    rcases same.here with ⟨engine, found⟩
    rw [OrderedMap.get?_insert]
    split
    · exact ⟨_, rfl⟩
    · exact ⟨engine, found⟩

theorem erase (same : SameContents store file) {name : String} (other : name ≠ store.current) :
    SameContents { store with databases := store.databases.erase name }
      { file with tables := file.tables.erase name } where
  current := same.current
  databases wanted := by
    rw [OrderedMap.get?_erase, OrderedMap.get?_erase]
    split
    · exact .none
    · exact same.databases wanted
  here := by
    rcases same.here with ⟨engine, found⟩
    exact ⟨engine, by rw [OrderedMap.get?_erase, if_neg other.symm, found]⟩

theorem select (same : SameContents store file) {name : String}
    (there : store.databases.contains name = true) :
    SameContents { store with current := name } { file with current := name } where
  current := rfl
  databases := same.databases
  here := (OrderedMap.contains_eq_true_iff _).1 there

end SameContents

/-! ## Primitive actions -/

theorem actAlike_onEngine_fromTable {act : Engine → α × Engine} {read : TableFile.Table → α}
    (alike : ∀ engine table, engine.HoldsTable table →
      (act engine).1 = read table ∧ (act engine).2.HoldsTable table) :
    ActAlike (B := Memory.backend) (C := TableFile.backend) SameContents
      (Memory.onEngine act) (TableFile.fromTable read) := by
  intro store file same
  rcases same.engine with ⟨engine, table, found, foundToo, holds⟩
  obtain ⟨answer, kept⟩ := alike engine table holds
  simp only [Memory.onEngine, TableFile.fromTable, found, foundToo]
  exact .ok answer (same.replaceEngine foundToo kept)

theorem actAlike_onEngine_onTable {act : Engine → α × Engine}
    {change : TableFile.Table → α × TableFile.Table}
    (alike : ∀ engine table, engine.HoldsTable table →
      (act engine).1 = (change table).1 ∧ (act engine).2.HoldsTable (change table).2) :
    ActAlike (B := Memory.backend) (C := TableFile.backend) SameContents
      (Memory.onEngine act) (TableFile.onTable change) := by
  intro store file same
  rcases same.engine with ⟨engine, table, found, foundToo, holds⟩
  obtain ⟨answer, kept⟩ := alike engine table holds
  simp only [Memory.onEngine, TableFile.onTable, found, foundToo, Option.getD_some]
  have inserted := same.insert store.current kept
  exact .ok answer (by simpa only [same.current] using inserted)

theorem actAlike_createDatabase (name : String) :
    ActAlike (B := Memory.backend) (C := TableFile.backend) SameContents
      (Memory.createDatabase name) (TableFile.createDatabase name) := by
  intro store file same
  unfold Memory.createDatabase TableFile.createDatabase
  rw [same.contains_eq]
  split
  · exact .refused trivial same
  · split
    · exact .refused trivial same
    · exact .ok rfl (same.insert name (Engine.HoldsTable.empty spread))

theorem actAlike_removeDatabase {name : String} (nonempty : name ≠ "") :
    ActAlike (B := Memory.backend) (C := TableFile.backend) SameContents
      (Memory.removeDatabase name) (TableFile.removeDatabase name) := by
  intro store file same
  have isNamed : ¬name.isEmpty = true := by simpa using nonempty
  unfold Memory.removeDatabase TableFile.removeDatabase
  rw [same.contains_eq, same.current, if_neg isNamed]
  by_cases isCurrent : name = file.current
  · rw [if_pos isCurrent, if_pos isCurrent]
    exact .refused trivial same
  · rw [if_neg isCurrent, if_neg isCurrent]
    split
    · exact .ok rfl (by simpa only [same.current] using same.erase (same.current ▸ isCurrent))
    · exact .refused rfl same

theorem actAlike_selectDatabase {name : String} (nonempty : name ≠ "") :
    ActAlike (B := Memory.backend) (C := TableFile.backend) SameContents
      (Memory.selectDatabase name) (TableFile.selectDatabase name) := by
  intro store file same
  have isNamed : ¬name.isEmpty = true := by simpa using nonempty
  unfold Memory.selectDatabase TableFile.selectDatabase
  rw [same.contains_eq, if_neg isNamed]
  by_cases there : file.tables.contains name = true
  · rw [if_pos there, if_pos there]
    exact .ok rfl (same.select ((same.contains_eq name).trans there))
  · rw [if_neg there, if_neg there]
    exact .refused rfl same

theorem actAlike_put (now : Instant) (key : Key) (raw : Bytes) :
    ActAlike (B := Memory.backend) (C := TableFile.backend) SameContents
      (do let _ ← Memory.onEngine (·.set now key raw))
      (TableFile.onTable fun table => ((), table.insert key raw)) := by
  intro store file same
  rcases same.engine with ⟨engine, table, found, foundToo, holds⟩
  have inserted := same.insert store.current (holds.set now key raw)
  simp only [bind, EStateM.bind, Memory.onEngine, TableFile.onTable, found, foundToo,
    Option.getD_some]
  exact .ok rfl (by simpa only [same.current] using inserted)

theorem actAlike_rangeKeys (now : Instant) (first last : Key) (limit : Nat) :
    ActAlike (B := Memory.backend) (C := TableFile.backend) SameContents
      (Backend.walkRange (Memory.fromEngine (·.sortedKeys now)) first last limit)
      (TableFile.rangeKeys first last limit) := by
  intro store file same
  rcases same.engine with ⟨engine, table, found, foundToo, holds⟩
  have listed : Memory.fromEngine (·.sortedKeys now) store
      = .ok table.keys
          { store with databases := store.databases.insert store.current engine } := by
    simp only [Memory.fromEngine, Memory.onEngine, found, holds.sortedKeys_eq]
  have ranged := TableFile.rangeKeys_eq_ok foundToo first last limit
  obtain ⟨held, walked, rfl | rfl⟩ :=
    Backend.walkRange_eq_ok listed table.sorted_keys first last limit
  · rw [walked, ranged]
    exact .ok rfl same
  · rw [walked, ranged]
    exact .ok rfl (same.replaceEngine foundToo holds)

theorem actAlike_remove (now : Instant) (key : Key) :
    ActAlike (B := Memory.backend) (C := TableFile.backend) SameContents
      (Memory.onEngine (·.delete now key))
      (TableFile.onTable fun table => (table.contains key, table.erase key)) :=
  actAlike_onEngine_onTable fun _ _ holds => holds.delete now key

theorem actAlike_keys (now : Instant) :
    ActAlike (B := Memory.backend) (C := TableFile.backend) SameContents
      (Memory.fromEngine (·.sortedKeys now)) (TableFile.fromTable OrderedMap.keys) :=
  actAlike_onEngine_fromTable fun _ _ holds => ⟨holds.sortedKeys_eq now, holds⟩

theorem actAlike_count (now : Instant) :
    ActAlike (B := Memory.backend) (C := TableFile.backend) SameContents (Memory.count now)
      TableFile.count :=
  actAlike_onEngine_fromTable fun _ _ holds => holds.cleanupExpired now

theorem actAlike_clear :
    ActAlike (B := Memory.backend) (C := TableFile.backend) SameContents
      (Memory.onEngine fun engine => ((), engine.flush))
      (TableFile.onTable fun _ => ((), OrderedMap.empty)) :=
  actAlike_onEngine_onTable fun engine _ _ => ⟨rfl, Engine.HoldsTable.flush engine⟩

/-- The primitive actions of both backends end alike. -/
theorem memory_matching_tableFile : Backend.Matching Memory.backend TableFile.backend SameContents where
  canRename := rfl
  canRenameToo := rfl
  release _ _ := ⟨_, rfl⟩
  releaseToo _ _ := ⟨_, rfl⟩
  currentDatabase _ _ same := same.current
  get now _ key := actAlike_onEngine_fromTable fun _ _ holds => holds.get now key
  put now _ key raw := actAlike_put now key raw
  remove now _ key := actAlike_remove now key
  keys now _ := actAlike_keys now
  rangeKeys now _ first last limit _ := actAlike_rangeKeys now first last limit
  count now _ := actAlike_count now
  clear := actAlike_clear
  createDatabase := actAlike_createDatabase
  removeDatabase _ nonempty := actAlike_removeDatabase nonempty
  selectDatabase _ nonempty := actAlike_selectDatabase nonempty

/-! ## Whole conversations -/

/-- What calls a shared command in memory calls it on a file, where there is no other
command. -/
theorem isSharedLine_tableFile {line : String} (shared : Memory.backend.IsSharedLine line) :
    TableFile.backend.IsSharedLine line := by
  intro argv tokens entry consumed found
  rcases TableFile.backend.find_eq_or_extra argv with builtins | ⟨_, own, _⟩
  · rw [builtins] at found
    obtain ⟨⟨builtin, _⟩, meant, isEntry⟩ := Option.map_eq_some_iff.1 found
    cases isEntry
    have foundToo := Backend.find_of_isSharedLine shared tokens
    rw [meant] at foundToo
    obtain ⟨_, isBuiltin, isShared, named⟩ := shared argv tokens _ _ foundToo
    cases isBuiltin
    exact ⟨_, rfl, isShared, named⟩
  · cases own

/-- A database in memory before anything has been stored. -/
def freshStore : Memory.Store :=
  ⟨OrderedMap.singleton TableFile.defaultTable (Engine.empty spread), TableFile.defaultTable⟩

/-- A file that has just been created. -/
def freshFile (path : String) (location : Location) (sizeAt : Instant → Option UInt64) :
    TableFile.OpenFile :=
  ⟨path, location, OrderedMap.empty.insert TableFile.defaultTable OrderedMap.empty,
    TableFile.defaultTable, sizeAt⟩

theorem sameContents_fresh (path : String) (location : Location)
    (sizeAt : Instant → Option UInt64) :
    SameContents freshStore (freshFile path location sizeAt) where
  current := rfl
  databases name := by
    rw [freshStore, freshFile, OrderedMap.get?_singleton, OrderedMap.get?_insert]
    split
    · exact .some (Engine.HoldsTable.empty spread)
    · exact .none
  here := ⟨Engine.empty spread, by rw [freshStore, OrderedMap.get?_singleton, if_pos rfl]⟩

theorem acquire_freshStore {config : Config}
    (named : Text.trim config.dbName = TableFile.defaultTable) :
    Memory.backend.acquire config () = .ok freshStore () := by
  simp only [Memory.backend, Memory.acquire, named]
  rfl

theorem acquire_freshFile {config : Config} {host : TableFile.Host} {location : Location}
    (creates : config.createIfMissing = true)
    (fresh : host.tree.resolve (config.path host.home) = .ok (.vacant location)) :
    ∃ after, TableFile.backend.acquire config host
      = .ok (freshFile (config.path host.home) location
          (host.sizeAt (config.path host.home))) after := by
  change ∃ after, TableFile.acquire config host = _
  unfold TableFile.acquire
  simp only [fresh, creates, if_pos]
  exact ⟨_, rfl⟩

theorem Session.connect_of_acquire {B : Backend} {config : Config} {host after : B.Host}
    {handle : B.Handle} (acquired : B.acquire config host = .ok handle after) :
    ∃ session, Session.connect (Session.new config host) = .ok () session ∧
      session.handle = some handle := by
  simp only [Session.connect, Session.new, acquired]
  exact ⟨_, rfl, rfl⟩

/-- A connection in memory whose database is called like the table that a file begins
with, and one on a file that it has created, cannot be told apart by lines that call the
commands which both backends have in common. -/
theorem transcripts_alike {memoryConfig fileConfig : Config} {host : TableFile.Host}
    {location : Location} (named : Text.trim memoryConfig.dbName = TableFile.defaultTable)
    (creates : fileConfig.createIfMissing = true)
    (fresh : host.tree.resolve (fileConfig.path host.home) = .ok (.vacant location)) :
    ∃ (memory : Session Memory.backend) (file : Session TableFile.backend),
      Session.connect (Session.new memoryConfig ()) = .ok () memory ∧
        Session.connect (Session.new fileConfig host) = .ok () file ∧
          ∀ (clock clockToo : Nat → Instant) (lines : List String),
            (∀ line ∈ lines, Memory.backend.IsSharedLine line) →
              List.Forall₂ Session.Report.Alike (memory.transcript clock lines)
                (file.transcript clockToo lines) := by
  obtain ⟨after, acquired⟩ := acquire_freshFile creates fresh
  obtain ⟨memory, connected, isFresh⟩ := Session.connect_of_acquire (acquire_freshStore named)
  obtain ⟨file, connectedToo, isFreshToo⟩ := Session.connect_of_acquire acquired
  have alike : memory.Alike SameContents file := by
    unfold Session.Alike
    rw [isFresh, isFreshToo]
    exact .some (sameContents_fresh _ location _)
  exact ⟨memory, file, connected, connectedToo, fun clock clockToo lines shared =>
    alike.transcript memory_matching_tableFile clock clockToo fun line mem =>
      ⟨shared line mem, isSharedLine_tableFile (shared line mem)⟩⟩

/-- An item is stored, a database is created, and the current one is removed in vain. -/
theorem transcripts_alike_set_createdb_removedb :
    let lines := ["SET k v", "CREATEDB other", "REMOVEDB default"]
    let config := { Config.forDatabase "/items" with createIfMissing := true }
    let host : TableFile.Host := ⟨none, FileTree.ofDirectories [] [], fun _ _ => none⟩
    ∃ (memory : Session Memory.backend) (file : Session TableFile.backend),
      Session.connect (Session.new (Config.forDatabase "default") ()) = .ok () memory ∧
        Session.connect (Session.new config host) = .ok () file ∧
          List.Forall₂ Session.Report.Alike (memory.transcript id lines)
            (file.transcript id lines) := by
  intro lines config host
  have leads : (host.tree.resolve (config.path host.home)).toOption.bind FileTree.Node.location?
      = some ["items"] := by decide +kernel
  have fresh : host.tree.resolve (config.path host.home) = .ok (.vacant ["items"]) := by
    cases resolved : host.tree.resolve (config.path host.home) with
    | error fault =>
      rw [resolved] at leads
      cases leads
    | ok node =>
      rw [resolved] at leads
      exact resolved.symm.trans (FileTree.LeadsTo.resolve ⟨node, resolved, leads⟩)
  obtain ⟨memory, file, connected, connectedToo, alike⟩ := @transcripts_alike
    (Config.forDatabase "default") config host ["items"] (by decide +kernel) rfl fresh
  refine ⟨memory, file, connected, connectedToo, alike id id lines ?_⟩
  have named : [Text.encode "default"] ≠ [[]] := by decide
  intro line mem
  obtain rfl | rfl | rfl : line = "SET k v" ∨ line = "CREATEDB other" ∨ line = "REMOVEDB default" := by
    simpa [lines] using mem
  · exact Backend.isSharedLine_of_find (["SET", "k", "v"].map Text.encode) .set 1 rfl rfl
      trivial trivial
  · exact Backend.isSharedLine_of_find (["CREATEDB", "other"].map Text.encode) .createDb 1 rfl rfl
      trivial trivial
  · exact Backend.isSharedLine_of_find (["REMOVEDB", "default"].map Text.encode) .removeDb 1 rfl rfl
      trivial named

end KeyConsole
