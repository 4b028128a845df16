import ModelStore.Cli.Run
import ModelStore.Proofs.Json.Documents
import ModelStore.Proofs.Operation.Envelopes

/-!
# Answering lines

The peer of a session writes its calls on lines and knows the answers by their places: the first
answer is to the first line that asks for something, and so on.  So each such line is answered by
one line, blank lines are answered by none, and a line that is no call is answered as well, by an
envelope, and is passed over otherwise.

## Main definitions

* `Session.handleAll`: calls handled one after another.
* `Cli.requests`: the lines that ask for something.
* `Cli.Serves`: answers to some lines that are those of their calls.

## Main results

* `Cli.serve_run`: what is answered to lines, from any session.
-/

namespace ModelStore

/-- Calls handled one after another: their answers, and the session behind the last. -/
def Session.handleAll (world : World) : List Call → Session → List Json × Session
  | [], session => ([], session)
  | call :: calls, session =>
    let (answer, session) := session.answer builtIn world (.ok call)
    let (answers, session) := handleAll world calls session
    (answer :: answers, session)

namespace Text

/-! ## Lines of a text -/

/-- What stands in front of a line break, and holds none, is a line. -/
theorem splitLines_append {line : List Char} (hLine : '\n' ∉ line) (rest : List Char) :
    splitLines (line ++ '\n' :: rest) = line :: splitLines rest := by
  induction line with
  | nil => rfl
  | cons c line ih =>
      rw [List.mem_cons, not_or] at hLine
      have hBreak : ¬c = '\n' := fun hSame => hLine.1 hSame.symm
      rw [List.cons_append, splitLines, if_neg hBreak, ih hLine.2]

/-- Lines that are written one after another are the lines that are read, with an empty one behind
the last line break. -/
theorem linesOf_join {lines : List String} (hLines : ∀ line ∈ lines, '\n' ∉ line.toList) :
    linesOf (String.join (lines.map (· ++ "\n"))) = lines ++ [""] := by
  rw [linesOf, String.toList_join, List.flatMap_map]
  induction lines with
  | nil => rfl
  | cons line lines ih =>
      obtain ⟨hLine, hRest⟩ := List.forall_mem_cons.mp hLines
      have hText : (line :: lines).flatMap (fun line => (line ++ "\n").toList) =
          line.toList ++ '\n' :: lines.flatMap fun line => (line ++ "\n").toList := by
        simp
      rw [hText, splitLines_append hLine, List.map_cons, ih hRest, String.ofList_toList]
      rfl

end Text

namespace Cli

/-! ## Lines -/

/-- The lines that ask for something, without the blanks around them. -/
def requests (lines : List String) : List String :=
  (lines.map Text.trim).filter fun line => !line.isEmpty

/-- The call that a line is read as. -/
def callOf? (line : String) : Option Call := (decodeText callShape line).toOption

/-- Answers to some lines, and the session that they leave: each request has one answer, in its
place; those that are calls are handled one after another, the others answer an envelope and count
for nothing else. -/
structure Serves (world : World) (lines : List String) (before : Session)
    (answers : List Json) (after : Session) : Prop where
  each : answers.length = (requests lines).length
  handled : Session.handleAll world ((requests lines).filterMap callOf?) before =
    ((((requests lines).zip answers).filter fun entry => (callOf? entry.1).isSome).map Prod.snd,
      after)
  refused : ∀ entry ∈ (requests lines).zip answers, ∀ failure,
    decodeText callShape entry.1 = .error failure →
      entry.2 = ErrorKind.envelope .validation (Error.invalidArguments failure).message

variable {world : World} {line : String} {lines : List String} {before after : Session}
  {answers : List Json}

theorem requests_cons_blank (hBlank : (Text.trim line).isEmpty = true) :
    requests (line :: lines) = requests lines := by
  simp [requests, hBlank]

theorem requests_cons (hAsks : (Text.trim line).isEmpty = false) :
    requests (line :: lines) = Text.trim line :: requests lines := by
  simp [requests, hAsks]

/-- No lines have no answers. -/
theorem Serves.nil (session : Session) : Serves world [] session [] session :=
  ⟨rfl, rfl, nofun⟩

/-- A blank line is passed over. -/
theorem Serves.blank (hBlank : (Text.trim line).isEmpty = true)
    (hRest : Serves world lines before answers after) :
    Serves world (line :: lines) before answers after := by
  obtain ⟨hEach, hHandled, hRefused⟩ := hRest
  rw [← requests_cons_blank hBlank] at hEach hHandled hRefused
  exact ⟨hEach, hHandled, hRefused⟩

/-- A line that is a call answers what the call does, and the call counts for the rest. -/
theorem Serves.call (hAsks : (Text.trim line).isEmpty = false) {call : Call}
    (hCall : decodeText callShape (Text.trim line) = .ok call)
    (hRest : Serves world lines (before.answer builtIn world (.ok call)).2 answers after) :
    Serves world (line :: lines) before
      ((before.answer builtIn world (.ok call)).1 :: answers) after := by
  have hSome : callOf? (Text.trim line) = some call := by
    rw [callOf?, hCall]
    rfl
  refine ⟨?_, ?_, ?_⟩ <;> rw [requests_cons hAsks]
  · simp [hRest.each]
  · rw [List.filterMap_cons_some hSome, Session.handleAll]
    simp [hRest.handled, hSome]
  · intro entry hEntry failure hFailure
    rcases List.mem_cons.mp hEntry with rfl | hOther
    · cases hCall.symm.trans hFailure
    · exact hRest.refused entry hOther failure hFailure

/-- A line that is no call answers an envelope, and counts for nothing else. -/
theorem Serves.refuse (hAsks : (Text.trim line).isEmpty = false) {failure : Json.Failure}
    (hFailure : decodeText callShape (Text.trim line) = .error failure)
    (hRest : Serves world lines before answers after) :
    Serves world (line :: lines) before
      (ErrorKind.envelope .validation (Error.invalidArguments failure).message :: answers)
      after := by
  have hNone : callOf? (Text.trim line) = none := by
    rw [callOf?, hFailure]
    rfl
  refine ⟨?_, ?_, ?_⟩ <;> rw [requests_cons hAsks]
  · simp [hRest.each]
  · rw [List.filterMap_cons_none hNone]
    simp [hRest.handled, hNone]
  · intro entry hEntry other hOther
    rcases List.mem_cons.mp hEntry with rfl | hBehind
    · cases hFailure.symm.trans hOther
      rfl
    · exact hRest.refused entry hBehind other hOther

/-! ## One line -/

/-- A line that is a call answers what handling the call answers. -/
theorem answerLine_call {call : Call} (session : Session)
    (hCall : decodeText callShape line = .ok call) :
    ∃ entries, answerLine world line session =
      ((session.answer builtIn world (.ok call)).1, entries,
        (session.answer builtIn world (.ok call)).2) := by
  simp only [answerLine, hCall, Session.answer]
  exact ⟨_, rfl⟩

/-- A line that is no call answers an envelope and leaves the session as it is. -/
theorem answerLine_failure {failure : Json.Failure} (session : Session)
    (hFailure : decodeText callShape line = .error failure) :
    ∃ entries, answerLine world line session =
      (ErrorKind.envelope .validation (Error.invalidArguments failure).message, entries,
        session) := by
  simp only [answerLine, hFailure, Session.attempt]
  exact ⟨_, rfl⟩

/-! ## The run -/

/-- The console behind some entries and some output. -/
def Console.write (console : Console) (entries : List Entry) (text : String) : Console :=
  ⟨console.tree, console.output ++ text, console.entries ++ entries⟩

theorem Console.write_write (console : Console) (entries others : List Entry)
    (text more : String) :
    (console.write entries text).write others more =
      console.write (entries ++ others) (text ++ more) := by
  simp [write, String.append_assoc]

/-- The lines that write some answers. -/
def written (answers : List Json) : String :=
  String.join ((answers.map Json.compact).map (· ++ "\n"))

theorem written_cons (answer : Json) (answers : List Json) :
    written (answer :: answers) = answer.compact ++ "\n" ++ written answers := by
  simp [written, String.join_cons]

/-- A blank line writes nothing. -/
theorem serve_cons_blank (hBlank : (Text.trim line).isEmpty = true) (session : Session) :
    serve world (line :: lines) session = serve world lines session := by
  rw [serve]
  simp only [hBlank, if_true]

/-- Any other line writes its answer on one line. -/
theorem serve_cons {session : Session} {answer : Json} {entries : List Entry}
    (hAsks : (Text.trim line).isEmpty = false)
    (hAnswer : answerLine world (Text.trim line) session = (answer, entries, after))
    (console : Console) :
    (serve world (line :: lines) session).run.run console =
      (serve world lines after).run.run (console.write entries (answer.compact ++ "\n")) := by
  rw [serve]
  simp only [hAsks, hAnswer, Bool.false_eq_true, if_false]
  rw [Console.write, ← String.append_assoc]
  rfl

/-- **The run**: lines are served from any session and on any console. -/
theorem serve_run (lines : List String) (session : Session) (console : Console) :
    ∃ answers entries after, Serves world lines session answers after ∧
      (serve world lines session).run.run console =
        (.ok after, console.write entries (written answers)) := by
  induction lines generalizing session console with
  | nil =>
      have hNothing : console.write [] (written []) = console := by
        simp [Console.write, written]
      exact ⟨[], [], session, .nil session, congrArg _ hNothing.symm⟩
  | cons line lines ih =>
      cases hBlank : (Text.trim line).isEmpty with
      | true =>
          obtain ⟨answers, entries, after, hServes, hRun⟩ := ih session console
          refine ⟨answers, entries, after, hServes.blank hBlank, ?_⟩
          rw [serve_cons_blank hBlank, hRun]
      | false =>
          -- the rest is served from the session that the line leaves
          have hStep : ∀ {answer entries left},
              answerLine world (Text.trim line) session = (answer, entries, left) →
              (∀ {answers after}, Serves world lines left answers after →
                Serves world (line :: lines) session (answer :: answers) after) →
              ∃ answers entries after, Serves world (line :: lines) session answers after ∧
                (serve world (line :: lines) session).run.run console =
                  (.ok after, console.write entries (written answers)) := by
            intro answer entries left hAnswer hServed
            obtain ⟨answers, others, after, hServes, hRun⟩ :=
              ih left (console.write entries (answer.compact ++ "\n"))
            refine ⟨answer :: answers, entries ++ others, after, hServed hServes, ?_⟩
            rw [serve_cons hBlank hAnswer, hRun, Console.write_write, written_cons]
          cases hCall : decodeText callShape (Text.trim line) with
          | ok call =>
              obtain ⟨entries, hAnswer⟩ := answerLine_call session hCall
              exact hStep hAnswer (.call hBlank hCall)
          | error failure =>
              obtain ⟨entries, hAnswer⟩ := answerLine_failure session hCall
              exact hStep hAnswer (.refuse hBlank hCall)

/-- **Serving**: from any session, lines are answered on as many lines as ask for something, each of
them a document of its own, and the session is left as their calls leave it. -/
theorem serve_lines (world : World) (lines : List String) (session : Session)
    (console : Console) :
    ∃ answers entries after,
      (serve world lines session).run.run console =
        (.ok after, console.write entries (written answers)) ∧
      Serves world lines session answers after ∧
      Text.linesOf (written answers) = answers.map Json.compact ++ [""] ∧
      ∀ answer ∈ answers, Json.Document answer.compact.toList ∧ '\n' ∉ answer.compact.toList := by
  obtain ⟨answers, entries, after, hServes, hRun⟩ := serve_run lines session console
  have hLine : ∀ answer : Json, '\n' ∉ answer.compact.toList := fun answer hBreak =>
    absurd ((Json.document_compact answer).printable _ hBreak) (by decide)
  refine ⟨answers, entries, after, hRun, hServes, ?_, fun answer _ => ?_⟩
  · apply Text.linesOf_join
    intro line hMem
    obtain ⟨answer, -, rfl⟩ := List.mem_map.mp hMem
    exact hLine answer
  · exact ⟨Json.document_compact answer, hLine answer⟩

/-- What follows a step that succeeds goes on from its console. -/
theorem run_bind_ok {α β : Type} {step : Step α} {next : α → Step β} {console left : Console}
    {a : α} (hStep : step.run.run console = (.ok a, left)) :
    (step >>= next).run.run console = (next a).run.run left := by
  rw [ExceptT.run_bind, StateT.run_bind, hStep]
  rfl

/-- The command serves the lines of its input from the store that it opened, and closes the store
behind them. -/
theorem runStdio_run {host : Host} {path : Path} {config : Config} {opened : Opened}
    {console loaded ready : Console}
    (hLoad : (loadConfig host path).run.run console = (.ok config, loaded))
    (hOpen : (openStore host config).run.run loaded = (.ok opened, ready)) :
    ∃ answers entries after,
      Serves host.world (Text.linesOf host.input) (opened.session config.bulkPolicy) answers after ∧
      (runStdio host path).run.run console =
        (.ok (), { ready.write entries (written answers) with
          tree := opened.close after.store ready.tree }) := by
  obtain ⟨answers, entries, after, hServes, hRun⟩ :=
    serve_run (Text.linesOf host.input) (opened.session config.bulkPolicy) ready
  refine ⟨answers, entries, after, hServes, ?_⟩
  rw [runStdio, run_bind_ok hLoad, run_bind_ok hOpen, run_bind_ok hRun]
  rfl

end Cli

end ModelStore
