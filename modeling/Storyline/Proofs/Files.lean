import Storyline.Proofs.Polling
import Storyline.Proofs.Verdicts

/-!
# The file of a run

A run of a path is known by the resolved path, and its script is loaded by that path, which is
resolved once more on the way. Since a resolved path needs no resolving any more, the run is known
by the path of the very file that is opened, and if the file cannot be read, this is the path that
the fault names (`Interpreter.opens_resolved`). No step and no check can end in such a fault, so
there is no other one in the log.
-/

namespace Storyline

variable {σ : Type}

/-- The path and the reason, if a fault is that of a file that cannot be read. -/
def Fault.unread? : Fault → Option (String × String)
  | unreadable path cause => some (path, cause)
  | _ => none

/-- The path and the reason, if an event is the fault of a file that cannot be read. -/
def Event.unread? (event : Event) : Option (String × String) := event.fault?.bind Fault.unread?

/-- The paths of the files that could not be read, with the reasons. -/
def Log.unread (log : Log) : List (String × String) := log.faults.filterMap Fault.unread?

theorem Log.unread_eq_filterMap (log : Log) : log.unread = log.filterMap Event.unread? := by
  rw [unread, faults_eq_filterMap, List.filterMap_filterMap]
  rfl

/-! ## Performances -/

theorem Event.unread?_of_attempt (event : Event) (origin : event.IsOfAttempt) :
    event.unread? = none := by
  cases origin with
  | called | asked | note | told => rfl
  | @fault f kind indent => cases f <;> first | rfl | cases kind

namespace Stage

variable (stage : Stage σ) (cast : Cast σ) (label : Label) {cue : Cue} {cues : List Cue}

theorem unread_perform (plain : cue.isPlain = true) :
    (stage.perform cast label cue).1.filterMap Event.unread? = [] := by
  rw [perform_eq_finish]
  cases cue with
  | visit | tell => rfl
  | flaw indent flaw => rfl
  | write entry =>
      have faultless : entry.fault? = none := Option.isNone_iff_eq_none.mp plain
      have unseen : (Event.wrote entry).unread? = none := by
        rw [Event.unread?, Event.fault?, faultless]
        rfl
      exact List.filterMap_cons_none unseen
  | attempt attempt => exact filterMap_attempt Event.unread?_of_attempt stage cast label attempt

/-- To perform the cues of a walk is to read no file. -/
theorem unread_complete (plain : ∀ cue ∈ cues, cue.isPlain = true) :
    (stage.complete cast label cues).1.filterMap Event.unread? = [] := by
  have perform (stage : Stage σ) (cue : Cue) (among : cue ∈ cues) :
      (stage.perform cast label cue).1.filterMap Event.unread? = (none : Option _).toList :=
    unread_perform stage cast label (plain cue among)
  rw [filterMap_complete perform, List.filterMap_none]

end Stage

/-! ## Runs -/

namespace Interpreter

theorem unread_text (i : Interpreter σ) (label : Label) (mode : Mode) (host : σ)
    (read : String → Except String String) (text : String) :
    (i.run label mode host read (.text text)).log.unread = [] := by
  have part : (i.runScript label mode host (i.script text)).log.filterMap Event.unread? <+:
      (({ host } : Stage σ).complete i.cast label (i.cues label text)).1.filterMap Event.unread? :=
    filterMap_runScript_prefix rfl
  rw [Stage.unread_complete _ _ _ (List.all_eq_true.mp (i.plain_cues label text))] at part
  rw [Log.unread_eq_filterMap]
  exact List.prefix_nil.mp part

/-- Whether the file at a path is the one that a run goes by. -/
structure Opens (i : Interpreter σ) (label : Label) (mode : Mode) (host : σ)
    (read : String → Except String String) (path opened : String) : Prop where
  /-- The run is known by the path of the file. -/
  known : (i.run label mode host read (.path path)).path = some opened
  /-- What the run does depends on no other file. -/
  alone : ∀ read' : String → Except String String, read' opened = read opened →
    i.run label mode host read' (.path path) = i.run label mode host read (.path path)
  /-- If the file cannot be read, its path is named in a fault, and no other path ever is. -/
  unread : (i.run label mode host read (.path path)).log.unread =
    match isBegun mode, read opened with
    | true, .error cause => [(opened, cause)]
    | _, _ => []
  /-- If it can be read, the run writes what a run of its text writes. -/
  entries : isBegun mode = true → ∀ text, read opened = .ok text →
    (i.run label mode host read (.path path)).log.entries =
      (i.run label mode host read (.text text)).log.entries

theorem opens_resolve (i : Interpreter σ) (label : Label) (mode : Mode) (host : σ)
    (read : String → Except String String) (path : String) :
    i.Opens label mode host read path (Path.resolve path) := by
  cases begun : isBegun mode with
  | false =>
      have idle (read : String → Except String String) :=
        i.run_path_of_not_begun label host read path begun
      constructor
      · rw [idle]
      · intro read' _
        rw [idle, idle]
      · rw [idle, begun]
        rfl
      · rw [begun]
        exact nofun
  | true =>
      cases content : read (Path.resolve path) with
      | error cause =>
          have failed := i.run_path_of_error label host begun content
          constructor
          · rw [failed]
          · intro read' same
            rw [failed, i.run_path_of_error label host begun (same.trans content)]
          · rw [failed, begun, content]
            rfl
          · rw [content]
            exact nofun
      | ok text =>
          have loaded := i.run_path_of_ok label host begun content
          have entries : (i.run label mode host read (.path path)).log.entries =
              (i.run label mode host read (.text text)).log.entries := by
            rw [loaded, Log.entries_append]
            split <;> exact List.append_nil _
          constructor
          · rw [loaded]
          · intro read' same
            rw [loaded, i.run_path_of_ok label host begun (same.trans content)]
            rfl
          · rw [Log.unread, Log.faults, entries, begun, content]
            exact i.unread_text label mode host read text
          · rw [content]
            rintro - text' same
            cases same
            exact entries

/-- **A run goes by one path.** Resolving a path again changes nothing; resolving it changes it only
by an extension for a last name that has none; and the path by which a run is known is that of the
file that it opens, and the only path that is named in a fault. -/
theorem opens_resolved (i : Interpreter σ) (label : Label) (mode : Mode) (host : σ)
    (read : String → Except String String) (path : String) :
    Path.Resolves path (Path.resolve path) ∧
      i.Opens label mode host read path (Path.resolve path) :=
  ⟨Path.resolves_resolve path, i.opens_resolve label mode host read path⟩

/-- No file can be read. -/
def noFile (_ : String) : Except String String := .error "gone"

/-- The last name of this path begins with its only dot, so it has no extension. It stands behind
two slashes and in front of an idle piece. -/
theorem opens_resolved_hidden :
    Path.components "./a//.b/." = [.here, .named ['a'], .named ['.', 'b']] ∧
      (¬∃ stem extension, Path.HasParts ['.', 'b'] stem extension) ∧
      Path.resolve "./a//.b/." = "./a//.b.feature" ∧
      Path.components "./a//.b.feature" =
        [.here, .named ['a'], .named ['.', 'b', '.', 'f', 'e', 'a', 't', 'u', 'r', 'e']] ∧
      ((answering true).run ⟨""⟩ .blocking {} noFile (.path "./a//.b/.")).log.unread =
        [("./a//.b.feature", "gone")] := by
  have components : Path.components "./a//.b/." = [.here, .named ['a'], .named ['.', 'b']] := by
    decide
  have bare : ¬∃ stem extension, Path.HasParts ['.', 'b'] stem extension := by
    rw [← Path.hasExtension_iff]
    decide
  have resolved : Path.resolve "./a//.b/." = "./a//.b.feature" := by decide
  obtain ⟨resolves, opens⟩ :=
    opens_resolved (answering true) ⟨""⟩ .blocking {} noFile "./a//.b/."
  rw [resolved] at resolves opens
  refine ⟨components, bare, resolved, ?_, opens.unread⟩
  exact resolves.extended [.here, .named ['a']] ['.', 'b'] components bare

end Interpreter

end Storyline
