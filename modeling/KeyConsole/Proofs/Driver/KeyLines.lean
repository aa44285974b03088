import KeyConsole.Proofs.CommandLine.Lines
import KeyConsole.Proofs.Driver.Script
import KeyConsole.Proofs.Session.Transcript
import KeyConsole.Registry

/-!
# Requests about keys as lines

A request about keys has a line that asks for the same.  Whatever bytes the keys are, the
line is cut into the tokens that were meant, which call the built-in command that runs
the same operation of the session.  So a script of such lines does what the requests do
one by one, and replies what they respond.
-/

namespace KeyConsole

variable {B : Backend}

/-! ## Lines of requests -/

/-- A key as an argument of a line. -/
def Key.argument (key : Key) : String :=
  Value.render " " .command key.toValue

namespace KeyRequest

/-- The command that a request asks for, and its arguments as they are written. -/
def words : KeyRequest → List String
  | load key => ["GET", key.argument]
  | create item => ["SET", item.key.argument, Value.render " " .command item.value]
  | delete keys => "DEL" :: keys.map Key.argument
  | rename key newKey => ["RENAME", key.argument, newKey.argument]
  | changeTtl key seconds => ["EXPIRE", key.argument, Text.natural seconds]

/-- The line that asks for the same as a request. -/
def line (request : KeyRequest) : String :=
  Text.join " " request.words

/-- A request can be asked for by a line: a list of keys is not empty, the numbers are
words, and what is stored is a text, or bytes that are none. -/
def HasLine : KeyRequest → Prop
  | create item =>
    (∃ text, item.value = .string text) ∨
      ∃ bytes, item.value = .byteArray bytes ∧ Text.decode? bytes = none
  | delete keys => keys ≠ [] ∧ keys.length < Text.wordBound
  | changeTtl _ seconds => seconds < Text.wordBound
  | load _ | rename _ _ => True

/-- The built-in command that a request asks for. -/
def builtin : KeyRequest → Builtin
  | load _ => .get
  | create _ => .set
  | delete _ => .del
  | rename _ _ => .rename
  | changeTtl _ _ => .expire

/-- What the built-in command is asked for. -/
def invocation : (request : KeyRequest) → request.builtin.Invocation
  | load key => .get key
  | create item => .set item
  | delete keys => .del keys
  | rename key newKey => .rename key newKey
  | changeTtl key seconds => .expire key seconds

/-- The arguments of the call that a request asks for. -/
def arguments : KeyRequest → List Bytes
  | load key => [key]
  | create item => item.key :: item.value.leaves
  | delete keys => keys
  | rename key newKey => [key, newKey]
  | changeTtl key seconds => [key, Text.encode (Text.natural seconds)]

/-- The call that a request asks for. -/
def argv (request : KeyRequest) : List Bytes :=
  Text.encode request.builtin.description.name :: request.arguments

end KeyRequest

/-- What a line replies that asks for the same as a request with this response. -/
def Response.replies : Response → List Value
  | loaded item => [item.value]
  | created _ | renamed _ _ => [.ok]
  | deleted keys => [.integer (Int64.ofNat keys.length)]
  | ttlChanged _ applied => [.integer (Int64.ofNat (if applied then 1 else 0))]
  | _ => []

/-- The result of a line that asks for the same as a request with this response. -/
def KeyRequest.result (request : KeyRequest) (response : Response) : CommandResult :=
  ⟨request.line, response.replies⟩

/-! ## From the line to the call -/

namespace KeyRequest

open CommandLine

variable {request : KeyRequest}

theorem writes_argument (key : Key) : Writes key.argument key :=
  writes_ofBytes key

/-- A value that can be asked for by a line is read back from the bytes of its token. -/
theorem exists_token {value : Value}
    (hasLine : (∃ text, value = .string text) ∨
      ∃ bytes, value = .byteArray bytes ∧ Text.decode? bytes = none) :
    ∃ token, value.leaves = [token] ∧ Value.ofBytes token = value := by
  obtain ⟨text, rfl⟩ | ⟨bytes, rfl, malformed⟩ := hasLine
  · refine ⟨_, rfl, ?_⟩
    rw [Value.ofBytes, Text.decode?_encode]
  · refine ⟨bytes, rfl, ?_⟩
    rw [Value.ofBytes, malformed]

/-- The words of a line write the call. -/
theorem writes_words (hasLine : request.HasLine) :
    List.Forall₂ Writes request.words request.argv := by
  have name (builtin : Builtin) (bare : builtin.description.name.toList.all
      (fun c => !Text.isBlank c && c != '"' && c != '\'') = true)
      (nonempty : builtin.description.name.toList ≠ []) :
      Writes builtin.description.name (Text.encode builtin.description.name) :=
    writes_word nonempty fun c mem => Value.isBare_of_mem mem bare
  cases request with
  | load key => exact .cons (name .get (by decide) (by decide)) (.cons (writes_argument key) .nil)
  | create item =>
    obtain ⟨token, isLeaf, isValue⟩ := exists_token hasLine
    refine .cons (name .set (by decide) (by decide)) (.cons (writes_argument item.key) ?_)
    rw [isLeaf, ← isValue]
    exact .cons (writes_ofBytes token) .nil
  | delete keys =>
    refine .cons (name .del (by decide) (by decide)) ?_
    rw [arguments, List.forall₂_map_left_iff]
    exact List.forall₂_same.2 fun key _ => writes_argument key
  | rename key newKey =>
    exact .cons (name .rename (by decide) (by decide))
      (.cons (writes_argument key) (.cons (writes_argument newKey) .nil))
  | changeTtl key seconds =>
    exact .cons (name .expire (by decide) (by decide))
      (.cons (writes_argument key) (.cons (writes_natural seconds) .nil))

theorem tokens_line (hasLine : request.HasLine) : tokens request.line = .ok request.argv :=
  tokens_join (writes_words hasLine) (by cases request <;> exact List.cons_ne_nil _ _)

/-- The line of a request is found in a script as it stands. -/
theorem isLine_line (hasLine : request.HasLine) : IsLine request.line := by
  have written := writes_words hasLine
  cases request with
  | load | create | delete | rename | changeTtl =>
    exact isLine_join ⟨_, _, rfl, by decide, by decide⟩ written

end KeyRequest

/-! ## From the call to the command -/

namespace CommandInfo

/-- A call does not mean a command whose name begins with another word. -/
theorem matchLength_eq_none {info : CommandInfo} {token : Bytes} {rest : List Bytes}
    (word : Text.asciiWords token = [token])
    (different : ∀ first ∈ info.nameWords.head?, Text.sameLettersBytes token first = false) :
    info.matchLength (token :: rest) = none := by
  rw [matchLength, spelled, word]
  cases expected : info.nameWords with
  | nil => rfl
  | cons first expected =>
    rw [expected] at different
    simp [dropWords?, different first rfl]

/-- Things that a call does not mean leave the best match so far. -/
theorem foldl_better_of_none {α : Type} {info : α → CommandInfo} {argv : List Bytes}
    {things : List α} (none : ∀ thing ∈ things, (info thing).matchLength argv = none)
    (best : Option (α × Nat)) :
    things.foldl (fun best thing => better best thing ((info thing).matchLength argv)) best
      = best := by
  induction things with
  | nil => rfl
  | cons thing things ih =>
    obtain ⟨noneFirst, noneRest⟩ := List.forall_mem_cons.1 none
    have kept : better best thing ((info thing).matchLength argv) = best := by
      rw [noneFirst]
      rfl
    rw [List.foldl_cons, kept, ih noneRest]

end CommandInfo

/-- A call means what it means among the built-in commands if it means no other. -/
theorem Backend.find_of_forall_none {argv : List Bytes}
    (none : ∀ command ∈ B.extraCommands, command.info.matchLength argv = none) :
    B.find argv = (Builtin.find argv).map (Prod.map Entry.builtin id) := by
  rw [find_eq_foldl]
  apply CommandInfo.foldl_better_of_none
  intro entry mem
  obtain ⟨command, _, rfl⟩ := List.mem_map.1 mem
  exact none command.1 command.2

/-- The first token of a call means a built-in command: no command that only this backend
has takes the call over. -/
abbrev Backend.Means (B : Backend) (argv : List Bytes) (builtin : Builtin) : Prop :=
  B.find argv = some (Entry.builtin builtin, 1)

/-- The one command that only one kind has takes over no call that begins with another
word. -/
theorem BackendKind.means_backend (kind : BackendKind) {token : Bytes} {rest : List Bytes}
    {builtin : Builtin} (word : Text.asciiWords token = [token])
    (other : Text.sameLettersBytes token (Text.encode "PURGE") = false)
    (found : Builtin.find (token :: rest) = some (builtin, 1)) :
    kind.backend.Means (token :: rest) builtin := by
  have none : ∀ command ∈ kind.backend.extraCommands,
      command.info.matchLength (token :: rest) = none := by
    cases kind with
    | memory =>
      have name : Memory.purgeCommand.info.nameWords.head? = some (Text.encode "PURGE") := by
        decide +kernel
      intro command own
      apply CommandInfo.matchLength_eq_none word
      intro first isFirst
      rw [List.mem_singleton.1 own, name] at isFirst
      cases isFirst
      exact other
    | tableFile =>
      intro command own
      cases own
  rw [Backend.Means, Backend.find_of_forall_none none, found]
  rfl

namespace CommandLine

theorem argumentText_encode (name text : String) :
    argumentText name (Text.encode text) = .ok text := by
  rw [argumentText, Text.decode?_encode]

theorem argumentWord_natural (name : String) {n : Nat} (fits : n < Text.wordBound) :
    argumentWord name (Text.encode (Text.natural n)) = .ok n := by
  rw [argumentWord, argumentText_encode]
  simp only [bind, Except.bind, Text.word?_natural fits]

end CommandLine

namespace KeyRequest

theorem means_argv (kind : BackendKind) (request : KeyRequest) :
    kind.backend.Means request.argv request.builtin := by
  cases request <;> exact kind.means_backend (by rfl) (by rfl) (by rfl)

/-- The arguments of the call are read as what is asked for. -/
theorem invocation?_arguments {request : KeyRequest} (hasLine : request.HasLine) :
    request.builtin.invocation? request.arguments = some (.ok request.invocation) := by
  cases request with
  | load | delete | rename => rfl
  | create item =>
    obtain ⟨token, isLeaf, isValue⟩ := exists_token hasLine
    change Builtin.set.invocation? (item.key :: item.value.leaves) = some (.ok (.set item))
    rw [isLeaf, Builtin.invocation?, isValue]
  | changeTtl key seconds =>
    change Builtin.expire.invocation? [key, Text.encode (Text.natural seconds)]
      = some (.ok (.expire key seconds))
    rw [Builtin.invocation?, CommandLine.argumentWord_natural _ hasLine]
    rfl

theorem accepts_arguments {request : KeyRequest} (hasLine : request.HasLine) :
    request.builtin.description.accepts request.arguments.length = true := by
  cases request with
  | load | rename | changeTtl => rfl
  | create item =>
    obtain ⟨token, isLeaf, _⟩ := exists_token hasLine
    rw [arguments, isLeaf]
    rfl
  | delete keys =>
    obtain ⟨nonempty, few⟩ := hasLine
    have some : 1 ≤ keys.length := List.length_pos_iff.2 nonempty
    have fits : keys.length ≤ CommandInfo.unlimited := Nat.le_sub_one_of_lt few
    have most : (Builtin.del.description).maxArgs = CommandInfo.unlimited := rfl
    rw [builtin, CommandInfo.accepts, most, Bool.and_eq_true, decide_eq_true_eq, decide_eq_true_eq]
    exact ⟨some, fits⟩

end KeyRequest

/-! ## From the command to the operation -/

namespace Session

variable {now : Instant} {α : Type}

/-- A call of a built-in command that runs one operation and replies one value. -/
theorem runCall_of_builtin {first : Bytes} {args : List Bytes} {builtin : Builtin}
    {invocation : builtin.Invocation} {operation : Action B α} {reply : α → Value}
    (means : B.Means (first :: args) builtin)
    (accepted : builtin.description.accepts args.length = true)
    (read : builtin.invocation? args = some (.ok invocation))
    (runs : invocation.steps now
      = Builtin.inSession operation >>= fun result => Handler.reply (reply result))
    (line : String) :
    runCall now line (first :: args)
      = (fun result => CommandResult.mk line [reply result]) <$> operation := by
  have executed : B.commands.execute now (first :: args)
      = Builtin.inSession operation >>= fun result => Handler.reply (reply result) := by
    have took : builtin.run now args = invocation.steps (B := B) now := by
      rw [Builtin.run, Builtin.runOr, read]
      rfl
    rw [CommandTable.execute, Backend.find_commands, means]
    exact (if_pos accepted).trans (took.trans runs)
  funext session
  rw [runCall, executed]
  change _ = EStateM.map _ _ _
  cases ran : operation session with
  | ok result after =>
    have inside : Builtin.inSession operation ⟨session, []⟩ = .ok result ⟨after, []⟩ := by
      rw [Builtin.inSession, Handler.onContext, ran]
    rw [Step.bind_of_ok inside, EStateM.map, ran]
    rfl
  | error halt after =>
    have inside : Builtin.inSession operation ⟨session, []⟩ = .error halt ⟨after, []⟩ := by
      rw [Builtin.inSession, Handler.onContext, ran]
    rw [Step.bind_of_error inside, EStateM.map, ran]

/-- The call that lets a key expire does so, and replies whether the key is there. -/
theorem runCall_expire {key : Key} {seconds : Nat}
    (means : B.Means (KeyRequest.changeTtl key seconds).argv .expire)
    (fits : seconds < Text.wordBound) (line : String) :
    runCall now line (KeyRequest.changeTtl key seconds).argv
      = (fun found => CommandResult.mk line [.integer (Int64.ofNat (if found then 1 else 0))])
          <$> expire (B := B) now key seconds :=
  have hasLine : (KeyRequest.changeTtl key seconds).HasLine := fits
  runCall_of_builtin means (KeyRequest.accepts_arguments hasLine)
    (KeyRequest.invocation?_arguments hasLine) rfl line

/-- The line of a request does what the request does. -/
theorem runLine_line {request : KeyRequest} (means : B.Means request.argv request.builtin)
    (hasLine : request.HasLine) (now : Instant) :
    runLine now request.line = request.result <$> handleKey (B := B) now request := by
  have accepted := request.accepts_arguments hasLine
  have read := request.invocation?_arguments hasLine
  rw [runLine, request.tokens_line hasLine, Step.ofExcept_ok_bind]
  cases request with
  | load | create | delete | rename | changeTtl =>
    refine (runCall_of_builtin means accepted read rfl _).trans ?_
    simp [handleKey, KeyRequest.result, Response.replies]

theorem ignoresFlag_handleKey (now : Instant) (request : KeyRequest) :
    IgnoresFlag (handleKey (B := B) now request) := by
  intro raised
  cases request with
  | load key => exact (ignoresFlag_get now key raised).bind fun _ => Step.respects_pure _
  | create item => exact (ignoresFlag_set now item raised).bind fun _ => Step.respects_pure _
  | delete keys => exact (ignoresFlag_delete now keys raised).bind fun _ => Step.respects_pure _
  | rename key newKey =>
    exact (ignoresFlag_rename now key newKey raised).bind fun _ => Step.respects_pure _
  | changeTtl key seconds =>
    exact (ignoresFlag_expire now key seconds raised).bind fun _ => Step.respects_pure _

/-! ## Requests one by one -/

/-- Handle a request about keys by itself at an instant, without an interrupt. -/
def handleAlone (now : Instant) (request : KeyRequest) : Action B Response := fun session =>
  match session.handleRequest (fun _ => now) (fun _ => false) (.key request) with
  | .ok response running => .ok response running.session
  | .error halt running => .error halt running.session

theorem handleAlone_eq (now : Instant) (request : KeyRequest) :
    handleAlone (B := B) now request = handleKey now request := by
  funext session
  have handled : session.handleRequest (fun _ => now) (fun _ => false) (.key request)
      = Running.inSession (handleKey now request) ⟨session, []⟩ := rfl
  rw [handleAlone, handled, Running.inSession]
  cases handleKey now request session <;> rfl

/-- The lines of requests do, one by one, what the requests do, whether the flag is up or
down. -/
theorem runEach_lines {requests : List KeyRequest}
    (haveLines : ∀ request ∈ requests, request.HasLine)
    (means : ∀ request ∈ requests, B.Means request.argv request.builtin) (clock : Nat → Instant)
    (raised : Bool) (session : Session B) :
    let typed := Step.inTurn (fun n => handleAlone (clock n)) 0 requests session
    runEach clock 0 (requests.map KeyRequest.line) (session.withFlag raised)
      = (List.zipWith KeyRequest.result requests typed.1,
          Step.mapState (withFlag raised) typed.2) := by
  intro typed
  have same (n : Nat) (request : KeyRequest) (mem : request ∈ requests) :
      runLine (clock n) request.line = request.result <$> handleAlone (B := B) (clock n) request := by
    rw [handleAlone_eq]
    exact runLine_line (means request mem) (haveLines request mem) (clock n)
  have ignored (n : Nat) (request : KeyRequest) :
      Step.Respects (withFlag raised) (handleAlone (B := B) (clock n) request) := by
    rw [handleAlone_eq]
    exact ignoresFlag_handleKey (clock n) request raised
  rw [runEach, Step.inTurn_map same, Step.inTurn_respects ignored]

/-- A script of the lines of requests does what the requests do one by one up to the
first that fails, apart from lowering the flag: it reaches the same session, fails with
the same error, and replies what the requests respond.  This holds for every backend
whose own commands do not take over the calls of these requests, and so for every kind. -/
theorem execute_lines :
    (∀ (kind : BackendKind) (request : KeyRequest),
      kind.backend.Means request.argv request.builtin) ∧
      ∀ {B : Backend} (session : Session B) (clock : Nat → Instant)
        (requests : List KeyRequest), requests ≠ [] →
        (∀ request ∈ requests, request.HasLine) →
        (∀ request ∈ requests, B.Means request.argv request.builtin) →
        let script := Text.join "\n" (requests.map KeyRequest.line)
        let typed := Step.inTurn (fun n => handleAlone (clock n)) 0 requests session
        let results := List.zipWith KeyRequest.result requests typed.1
        let events := Running.lineEvents requests.length 0 results
        session.handleRequest clock (fun _ => false) (.execute script)
          = match typed.2 with
            | .ok _ last => .ok (.executed requests.length) ⟨last.withFlag false, events⟩
            | .error halt last => .error halt ⟨last.withFlag false, events⟩ := by
  refine ⟨fun kind request => request.means_argv kind, ?_⟩
  intro B session clock requests nonempty haveLines means script typed results events
  have areLines : CommandLine.commands script = requests.map KeyRequest.line := by
    apply CommandLine.commands_join
    intro line mem
    obtain ⟨request, isRequest, rfl⟩ := List.mem_map.1 mem
    exact KeyRequest.isLine_line (haveLines request isRequest)
  have some : requests.map KeyRequest.line ≠ [] := by simpa using nonempty
  have length : (requests.map KeyRequest.line).length = requests.length := List.length_map _
  have ran := runEach_lines haveLines means clock false session
  apply Running.ScriptEnds.execute_eq
  rw [areLines]
  dsimp only at ran
  cases ended : typed.2 with
  | ok _ last =>
    rw [ended] at ran
    have ends := @Running.ScriptEnds.finished B clock (fun _ => false) _ _ _ _ some ran
      fun _ _ _ => rfl
    rwa [length] at ends
  | error halt last =>
    rw [ended] at ran
    have ends := @Running.ScriptEnds.failed B clock (fun _ => false) _ _ _ _ _ ran fun _ _ _ => rfl
    rwa [length] at ends

/-- A key with a comment sign, a line feed and a byte that is no text is stored, read and
removed along with the empty key. -/
theorem execute_lines_odd_key :
    let key : Key := [0x23, 0x0A, 0xFF]
    let item : Item := ⟨key, .string "#\n"⟩
    let requests : List KeyRequest := [.create item, .load key, .delete [key, []]]
    let responses : List Response := [.created item, .loaded item, .deleted [key]]
    let file : TableFile.OpenFile :=
      ⟨"/items", ["items"], OrderedMap.singleton "default" OrderedMap.empty, "default",
        fun _ => none⟩
    let session : Session TableFile.backend :=
      ⟨Config.forDatabase "/items", ⟨none, FileTree.ofDirectories [] [], fun _ _ => none⟩,
        some file, true⟩
    session.handleRequest id (fun _ => false)
        (.execute (Text.join "\n" (requests.map KeyRequest.line)))
      = .ok (.executed 3) ⟨session.withFlag false,
          Running.lineEvents 3 0 (List.zipWith KeyRequest.result requests responses)⟩ := by
  refine Eq.trans (execute_lines.2 _ id _ (List.cons_ne_nil _ _) ?_
    fun request _ => request.means_argv .tableFile) ?_
  · simp only [List.forall_mem_cons]
    exact ⟨.inl ⟨_, rfl⟩, trivial, ⟨List.cons_ne_nil _ _, by decide⟩, by simp⟩
  · rfl

end Session

end KeyConsole
