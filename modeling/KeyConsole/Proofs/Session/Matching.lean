import KeyConsole.Proofs.Session.Call
import KeyConsole.Proofs.Step.Matching

/-!
# Backends that answer alike

When the primitive actions of two backends end alike, so do the operations of
sessions on them, the built-in commands, and whole lines.  Refusals that only a
backend words may differ in their codes and texts.
-/

namespace KeyConsole

/-! ## Answers -/

/-- Two refusals name the same missing database, or both have another reason. -/
def Refusal.Alike : Refusal → Refusal → Prop
  | .missingDatabase name, .missingDatabase meant => name = meant
  | .other _ _, .other _ _ => True
  | _, _ => False

/-- Two errors are the same, up to the code and the text of a backend. -/
def Error.Alike : Error → Error → Prop
  | .native _ _, .native _ _ => True
  | cause, other => cause = other

theorem Error.Alike.refl (cause : Error) : cause.Alike cause := by
  cases cause <;> first | rfl | trivial

theorem Refusal.Alike.error {cause other : Refusal} (alike : cause.Alike other)
    (command : String) : (cause.error command).Alike (other.error command) := by
  cases cause <;> cases other
  · cases alike
    rfl
  · cases alike
  · cases alike
  · trivial

variable {B C : Backend} {handles : B.Handle → C.Handle → Prop} {α β : Type}

/-- Two actions on handles end alike. -/
abbrev ActAlike (handles : B.Handle → C.Handle → Prop) (first : HandleAction B.Handle α)
    (second : HandleAction C.Handle α) : Prop :=
  Step.Matches handles Refusal.Alike Eq first second

/-- Two backends whose primitive actions end alike on related handles. -/
structure Backend.Matching (B C : Backend) (handles : B.Handle → C.Handle → Prop) : Prop where
  canRename : B.capabilities.rename = true
  canRenameToo : C.capabilities.rename = true
  release : ∀ handle host, ∃ after, B.release handle host = .ok () after
  releaseToo : ∀ handle host, ∃ after, C.release handle host = .ok () after
  currentDatabase : ∀ handle other, handles handle other →
    B.currentDatabase handle = C.currentDatabase other
  get : ∀ now later key, ActAlike handles (B.get now key) (C.get later key)
  put : ∀ now later key bytes, ActAlike handles (B.put now key bytes) (C.put later key bytes)
  remove : ∀ now later key, ActAlike handles (B.remove now key) (C.remove later key)
  keys : ∀ now later, ActAlike handles (B.keys now) (C.keys later)
  rangeKeys : ∀ now later first last limit, first ≤ last →
    ActAlike handles (B.rangeKeys now first last limit) (C.rangeKeys later first last limit)
  count : ∀ now later, ActAlike handles (B.count now) (C.count later)
  clear : ActAlike handles B.clear C.clear
  createDatabase : ∀ name, ActAlike handles (B.createDatabase name) (C.createDatabase name)
  /-- The empty name is never that of a database. -/
  removeDatabase : ∀ name, name ≠ "" →
    ActAlike handles (B.removeDatabase name) (C.removeDatabase name)
  selectDatabase : ∀ name, name ≠ "" →
    ActAlike handles (B.selectDatabase name) (C.selectDatabase name)

/-! ## Operations -/

namespace Session

/-- Two sessions are both connected, with related handles, or both not. -/
def Alike (handles : B.Handle → C.Handle → Prop) (session : Session B) (other : Session C) :
    Prop :=
  Option.Rel handles session.handle other.handle

/-- Two operations end alike. -/
abbrev OperateAlike (handles : B.Handle → C.Handle → Prop) (results : α → β → Prop)
    (first : Action B α) (second : Action C β) : Prop :=
  Step.Matches (Alike handles) Error.Alike results first second

theorem matches_requireConnected :
    OperateAlike handles Eq (@requireConnected B) (@requireConnected C) := by
  intro session other alike
  unfold requireConnected
  unfold Alike at alike
  generalize connected : session.handle = handle at alike
  generalize connectedToo : other.handle = handleToo at alike
  cases alike with
  | none => exact .refused rfl (by rw [Alike, connected, connectedToo]; exact .none)
  | some related => exact .ok rfl (by rw [Alike, connected, connectedToo]; exact .some related)

theorem matches_onHandle (command : String) {first : HandleAction B.Handle α}
    {second : HandleAction C.Handle α} (alike : ActAlike handles first second) :
    OperateAlike handles Eq (onHandle command first) (onHandle command second) := by
  intro session other start
  unfold Alike at start
  unfold onHandle
  generalize connected : session.handle = handle at start ⊢
  generalize connectedToo : other.handle = handleToo at start ⊢
  cases start with
  | none => exact .refused rfl (by rw [Alike, connected, connectedToo]; exact .none)
  | some related =>
    rename_i handle handleToo
    dsimp only
    have ended := alike handle handleToo related
    generalize first handle = left at ended ⊢
    generalize second handleToo = right at ended ⊢
    cases ended with
    | ok same reached => exact .ok same (.some reached)
    | refused alike reached => exact .refused (alike.error command) (.some reached)

variable (now later : Instant)

theorem matches_set (matching : B.Matching C handles) (item : Item) :
    OperateAlike handles Eq (set now item) (set later item) :=
  (matches_onHandle "SET" (matching.put now later _ _)).bind fun _ _ _ => Step.matches_pure rfl

theorem matches_get (matching : B.Matching C handles) (key : Key) :
    OperateAlike handles Eq (get now key) (get later key) := by
  apply (matches_onHandle "GET" (matching.get now later key)).bind
  rintro found _ rfl
  cases found with
  | none => exact Step.matches_refuse rfl
  | some raw => exact Step.matches_pure rfl

theorem matches_deleteFrom (matching : B.Matching C handles) (removed keys : List Key) :
    OperateAlike handles Eq (deleteFrom now removed keys) (deleteFrom later removed keys) := by
  induction keys generalizing removed with
  | nil => exact Step.matches_pure rfl
  | cons key keys ih =>
    apply (matches_onHandle "DEL" (matching.remove now later key)).bind
    rintro found _ rfl
    exact ih _

theorem matches_delete (matching : B.Matching C handles) (keys : List Key) :
    OperateAlike handles Eq (delete now keys) (delete later keys) :=
  matches_requireConnected.bind fun _ _ _ => matches_deleteFrom now later matching [] keys

theorem matches_rename (matching : B.Matching C handles) (key newKey : Key) :
    OperateAlike handles Eq (rename now key newKey) (rename later key newKey) := by
  apply matches_requireConnected.bind
  intro _ _ _
  rw [if_pos matching.canRename, if_pos matching.canRenameToo]
  apply (matches_get now later matching key).bind
  rintro item _ rfl
  split
  · exact Step.matches_pure rfl
  · apply (matches_set now later matching _).bind
    intro _ _ _
    exact (matches_delete now later matching [key]).bind fun _ _ _ => Step.matches_pure rfl

theorem matches_scan (matching : B.Matching C handles) (cursor : Nat) (pattern : String)
    (count : Nat) :
    OperateAlike handles Eq (scan now cursor pattern count) (scan later cursor pattern count) := by
  unfold scan
  split
  · exact Step.matches_refuse rfl
  · apply (matches_onHandle "SCAN" (matching.keys now later)).bind
    rintro keys _ rfl
    exact Step.matches_pure rfl

theorem matches_keys (matching : B.Matching C handles) (first last : Key) (limit : Nat) :
    OperateAlike handles Eq (keys now first last limit) (keys later first last limit) := by
  apply matches_requireConnected.bind
  intro _ _ _
  split
  · exact Step.matches_pure rfl
  · next ordered =>
    exact matches_onHandle "KEYS" (matching.rangeKeys now later first last limit ordered)

theorem matches_size (matching : B.Matching C handles) :
    OperateAlike handles Eq (size (B := B) now) (size (B := C) later) :=
  matches_onHandle "DBKCOUNT" (matching.count now later)

theorem matches_flush (matching : B.Matching C handles) :
    OperateAlike handles Eq (@flush B) (@flush C) :=
  matches_onHandle "FLUSHDB" matching.clear

/-- An operation that describes a database ends alike, up to the description. -/
theorem matches_describe (command : String) (describe : Backend → DatabaseInfo)
    {first : HandleAction B.Handle Unit} {second : HandleAction C.Handle Unit}
    (alike : ActAlike handles first second) :
    OperateAlike handles (fun _ _ => True)
      (do onHandle command first; return describe B)
      (do onHandle command second; return describe C) :=
  (matches_onHandle command alike).bind fun _ _ _ => Step.matches_pure trivial

theorem matches_currentDatabase (matching : B.Matching C handles) :
    OperateAlike handles Eq (@currentDatabase B) (@currentDatabase C) :=
  matches_onHandle "DATABASES" fun handle other related =>
    .ok (matching.currentDatabase handle other related) related

theorem matches_selectDatabase (matching : B.Matching C handles) {name : String}
    (named : name ≠ "") :
    OperateAlike handles (fun _ _ => True) (selectDatabase (B := B) now name)
      (selectDatabase (B := C) later name) := by
  apply (matches_onHandle "SELECT" (matching.selectDatabase name named)).bind
  intro _ _ _
  apply (matches_size now later matching).bind
  intro _ _ _
  exact (matches_currentDatabase matching).bind fun _ _ _ => Step.matches_pure trivial

theorem matches_quit (matching : B.Matching C handles) :
    OperateAlike handles Eq (@quit B) (@quit C) := by
  apply matches_requireConnected.bind
  intro _ _ _ session other start
  unfold Alike at start
  unfold disconnect
  generalize connected : session.handle = handle at start ⊢
  generalize connectedToo : other.handle = handleToo at start ⊢
  cases start with
  | none => exact .ok rfl (by rw [Alike, connected, connectedToo]; exact .none)
  | some related =>
    rename_i handle handleToo
    obtain ⟨host, released⟩ := matching.release handle session.host
    obtain ⟨hostToo, releasedToo⟩ := matching.releaseToo handleToo other.host
    simp only [released, releasedToo]
    exact .ok rfl .none

end Session

end KeyConsole
