import Storyline.Proofs.Resolving
import Storyline.Proofs.Waiting

/-!
# Polling

A session that is polled without a limit logs what a performance with pauses logs
(`Session.drive_eq_paced`). A limited session stops at the pending poll with the number of its
limit, and up to there it has done the same (`Session.drive_some`); it comes to its end if it is
polled more often than it is pending. So a run of a text, or of a file, is pending for what it
awaits and for nothing else (`Interpreter.isPaced`).
-/

namespace Storyline

variable {σ : Type}

namespace Log

/-- The part of a log up to the pending poll with this number, counted from one. -/
def untilPending : Nat → Log → Log
  | 0, _ => []
  | _ + 1, [] => []
  | polls + 1, .pending :: log => .pending :: untilPending polls log
  | polls + 1, event :: log => event :: untilPending (polls + 1) log

example : untilPending 1 [.visited 0, .pending, .visited 1, .pending] = [.visited 0, .pending] :=
  rfl

variable {log : Log}

@[simp] theorem untilPending_zero (log : Log) : log.untilPending 0 = [] := by
  cases log <;> rfl

@[simp] theorem untilPending_nil (polls : Nat) : untilPending polls [] = [] := by
  cases polls <;> rfl

theorem untilPending_cons_pending (polls : Nat) (log : Log) :
    untilPending (polls + 1) (.pending :: log) = .pending :: log.untilPending polls := rfl

/-- What comes before the next pending poll is kept. -/
theorem untilPending_append (unpolled : .pending ∉ log) (polls : Nat) (log' : Log) :
    untilPending (polls + 1) (log ++ log') = log ++ untilPending (polls + 1) log' := by
  induction log with
  | nil => rfl
  | cons event log ih =>
      rw [List.mem_cons, not_or] at unpolled
      have kept : untilPending (polls + 1) (event :: (log ++ log')) =
          event :: untilPending (polls + 1) (log ++ log') := by
        cases event with
        | pending => exact absurd rfl unpolled.1
        | _ => rfl
      rw [List.cons_append, kept, ih unpolled.2]
      rfl

/-- If there are that many pending polls, nothing behind them matters. -/
theorem untilPending_append_of_le {log : Log} {polls : Nat} (enough : polls ≤ log.count .pending)
    (log' : Log) : untilPending polls (log ++ log') = untilPending polls log := by
  induction log generalizing polls with
  | nil =>
      obtain rfl : polls = 0 := Nat.le_zero.mp enough
      rw [untilPending_zero, untilPending_zero]
  | cons event log ih =>
      cases polls with
      | zero => rw [untilPending_zero, untilPending_zero]
      | succ polls =>
          cases event with
          | pending =>
              rw [List.count_cons_self, Nat.add_le_add_iff_right] at enough
              rw [List.cons_append, untilPending_cons_pending, untilPending_cons_pending,
                ih enough]
          | visited | wrote | called | asked | told =>
              rw [List.count_cons_of_ne (by simp)] at enough
              exact congrArg (_ :: ·) (ih enough)

/-- If there are fewer pending polls, nothing is cut off. -/
theorem untilPending_of_lt {log : Log} {polls : Nat} (few : log.count .pending < polls) :
    log.untilPending polls = log := by
  induction log generalizing polls with
  | nil => exact untilPending_nil polls
  | cons event log ih =>
      obtain ⟨polls, rfl⟩ := Nat.exists_eq_succ_of_ne_zero (Nat.ne_zero_of_lt few)
      cases event with
      | pending =>
          rw [List.count_cons_self, Nat.succ_eq_add_one, Nat.add_lt_add_iff_right] at few
          rw [untilPending_cons_pending, ih few]
      | visited | wrote | called | asked | told =>
          rw [List.count_cons_of_ne (by simp)] at few
          exact congrArg (_ :: ·) (ih few)

theorem untilPending_append_singleton {event : Event} (steady : event.isPause = false) (log : Log)
    (polls : Nat) :
    untilPending polls (log ++ [event]) =
      if log.count .pending < polls then log ++ [event] else log.untilPending polls := by
  have same : (log ++ [event]).count .pending = log.count .pending := by
    rw [List.count_append, List.count_singleton, if_neg, Nat.add_zero]
    intro pending
    rw [eq_of_beq pending] at steady
    cases steady
  split
  · rename_i few
    rw [untilPending_of_lt (same.trans_lt few)]
  · rename_i enough
    rw [untilPending_append_of_le (not_lt.mp enough)]

end Log

/-! ## Sessions -/

namespace Session

variable {session next : Session σ} {cast : Cast σ} {label : Label} {log : Log}

/-- What is done from here to the end of a session, with the pauses. -/
def paced (session : Session σ) (cast : Cast σ) (label : Label) : Log :=
  let begun : Begun σ := { stage := session.stage, awaited := session.awaited }
  begun.paced ++ begun.finish.2.paced cast label session.todo

/-- One step does the first part of what is left to do. -/
theorem next?_paced (h : session.next? cast label = some (log, next)) :
    session.paced cast label = log ++ next.paced cast label := by
  obtain ⟨stage, awaited, todo⟩ := session
  rcases awaited with _ | ⟨attempt, _ | polls, outcome⟩
  · cases todo with
    | nil => cases h
    | cons cue todo =>
        cases h
        -- The pause of the cue, if there is one, belongs to the next session.
        have begun : (stage.begin cast label cue).paced =
            (stage.begin cast label cue).log ++
              Begun.paced { (stage.begin cast label cue) with log := [] } := by
          rcases stage.begin cast label cue with ⟨log, mid, awaited | _⟩
          · exact (List.append_nil _).symm
          · rfl
        have stage_eq : (stage.perform cast label cue).2 =
            (Begun.finish { (stage.begin cast label cue) with log := [] }).2 := by
          rw [Stage.perform_eq_finish, Begun.finish_eq]
        change (stage.begin cast label cue).paced ++
          (stage.perform cast label cue).2.paced cast label todo = _
        rw [begun, stage_eq, List.append_assoc]
        rfl
  · cases h
    rfl
  · cases h
    rfl

/-- The log of a step that finds the session pending is that poll, and no other step logs a
pending poll. -/
theorem next?_pending (plain : session.todo.all Cue.isPlain = true)
    (h : session.next? cast label = some (log, next)) :
    (if session.isPending then log = [.pending] else .pending ∉ log) ∧
      next.todo.all Cue.isPlain = true := by
  obtain ⟨stage, awaited, todo⟩ := session
  rcases awaited with _ | ⟨attempt, _ | polls, outcome⟩
  · cases todo with
    | nil => cases h
    | cons cue todo =>
        cases h
        rw [List.all_cons, Bool.and_eq_true] at plain
        refine ⟨?_, plain.2⟩
        obtain ⟨before, steady, begun⟩ := stage.isAnnounced_begin cast label plain.1
        rw [if_neg (by simp [isPending]), begun, List.mem_append, not_or]
        exact ⟨steady.not_mem_pending, by simp⟩
  · cases h
    exact ⟨stage.not_mem_pending_settle _, plain⟩
  · cases h
    exact ⟨rfl, plain⟩

theorem isFinished_of_pending (h : session.next? cast label = some (log, next))
    (pending : session.isPending = true) : next.isFinished = false := by
  obtain ⟨stage, awaited, todo⟩ := session
  rcases awaited with _ | ⟨attempt, _ | polls, outcome⟩
  · cases pending
  · cases pending
  · cases h
    rfl

theorem drive_zero (session : Session σ) (cast : Cast σ) (label : Label) :
    session.drive cast label (some 0) = ([], session) := by
  rw [drive, if_pos rfl]

theorem drive_of_none (polls : Option Nat) (ended : session.next? cast label = none) :
    session.drive cast label polls = ([], session) := by
  rw [drive]
  split
  · rfl
  · split
    · rfl
    · rename_i h
      rw [ended] at h
      cases h

/-- Polled without a limit, a session does all that is left to do, with the pauses. -/
theorem drive_eq_paced (session : Session σ) (cast : Cast σ) (label : Label) :
    (session.drive cast label none).1 = session.paced cast label := by
  generalize hpolls : (none : Option Nat) = polls
  fun_induction drive session cast label polls with
  | case1 => cases hpolls
  | case2 session polls hpolls' ended =>
      have finished := next?_eq_none_iff.mp ended
      obtain ⟨stage, awaited, todo⟩ := session
      rw [isFinished, Bool.and_eq_true, Option.isNone_iff_eq_none, List.isEmpty_iff] at finished
      obtain ⟨rfl, rfl⟩ := finished
      rfl
  | case3 session polls hpolls' log next h left rest last hdrive ih =>
      rw [hdrive] at ih
      subst hpolls
      rw [next?_paced h, ← ih (by simp [left])]

/-- Polled up to a limit, a session does what it would do up to the pending poll with the number
of the limit. -/
theorem drive_some (session : Session σ) (cast : Cast σ) (label : Label)
    (plain : session.todo.all Cue.isPlain = true) (n : Nat) :
    (session.drive cast label (some n)).1 =
      (session.drive cast label none).1.untilPending n := by
  rw [drive_eq_paced]
  generalize hpolls : some n = polls
  fun_induction drive session cast label polls generalizing n with
  | case1 session =>
      rw [Option.some_inj] at hpolls
      rw [hpolls, Log.untilPending_zero]
  | case2 session polls limit ended =>
      rw [← drive_eq_paced, drive_of_none none ended, Log.untilPending_nil]
  | case3 session polls limit log next h left rest last hdrive ih =>
      rw [hdrive] at ih
      obtain ⟨pending, plain_next⟩ := next?_pending plain h
      obtain ⟨m, rfl⟩ : ∃ m, n = m + 1 := by
        refine Nat.exists_eq_succ_of_ne_zero ?_
        rintro rfl
        exact limit hpolls.symm
      subst hpolls
      rw [next?_paced h]
      cases waiting : session.isPending with
      | true =>
          rw [waiting, if_pos rfl] at pending
          have rest_eq : rest = (next.paced cast label).untilPending m :=
            ih plain_next m (by simp [left, waiting])
          rw [pending, rest_eq]
          rfl
      | false =>
          rw [waiting, if_neg Bool.false_ne_true] at pending
          have rest_eq : rest = (next.paced cast label).untilPending (m + 1) :=
            ih plain_next (m + 1) (by simp [left, waiting])
          rw [Log.untilPending_append pending, rest_eq]

/-- A limited session comes to its end if it is polled more often than it is pending. -/
theorem isFinished_drive_some (session : Session σ) (cast : Cast σ) (label : Label)
    (plain : session.todo.all Cue.isPlain = true) (n : Nat) :
    ((session.drive cast label (some n)).2.isFinished && n != 0) = true ↔
      (session.drive cast label none).1.count .pending < n := by
  rw [drive_eq_paced]
  generalize hpolls : some n = polls
  fun_induction drive session cast label polls generalizing n with
  | case1 session =>
      rw [Option.some_inj] at hpolls
      simp [hpolls]
  | case2 session polls limit ended =>
      have positive : n ≠ 0 := by
        rintro rfl
        exact limit hpolls.symm
      rw [← drive_eq_paced, drive_of_none none ended, next?_eq_none_iff.mp ended]
      simp [Nat.pos_iff_ne_zero, positive]
  | case3 session polls limit log next h left rest last hdrive ih =>
      rw [hdrive] at ih
      obtain ⟨pending, plain_next⟩ := next?_pending plain h
      obtain ⟨m, rfl⟩ : ∃ m, n = m + 1 := by
        refine Nat.exists_eq_succ_of_ne_zero ?_
        rintro rfl
        exact limit hpolls.symm
      subst hpolls
      rw [next?_paced h, List.count_append]
      cases waiting : session.isPending with
      | true =>
          rw [waiting, if_pos rfl] at pending
          have ended := ih plain_next m (by simp [left, waiting])
          -- At the last poll the session is left while it is still waiting.
          have unfinished : m = 0 → last.isFinished = false := by
            rintro rfl
            have dropped : next.drive cast label left = ([], next) := by
              rw [show left = some 0 by simp [left, waiting], drive_zero]
            rw [hdrive] at dropped
            rw [(Prod.mk.inj dropped).2]
            exact isFinished_of_pending h waiting
          rw [pending, List.count_singleton_self]
          cases m with
          | zero => simp [unfinished rfl]
          | succ m =>
              simp only [Nat.add_one_ne_zero, bne_iff_ne, ne_eq, not_false_eq_true,
                Bool.and_eq_true, and_true] at ended ⊢
              rw [ended]
              omega
      | false =>
          rw [waiting, if_neg Bool.false_ne_true] at pending
          have ended := ih plain_next (m + 1) (by simp [left, waiting])
          rw [List.count_eq_zero.mpr pending, Nat.zero_add]
          exact ended

end Session

/-! ## Runs -/

namespace Interpreter

variable (i : Interpreter σ) (label : Label) (host : σ) (read : String → Except String String)

/-- What a run of a source has to wait for, in order. -/
def awaits (i : Interpreter σ) (label : Label) (host : σ)
    (read : String → Except String String) : Source → List Awaited
  | .text text => i.cast.awaits label host (Itinerary.demands label (i.script text))
  | .path path =>
      match read (Path.resolve path) with
      | .error _ => []
      | .ok text => i.cast.awaits label host (Itinerary.demands label (i.script text))

/-- How polling a run of a source goes. -/
structure IsPaced (source : Source) : Prop where
  /-- Polled without a limit it comes to its end. -/
  finished : (i.run label (.polled none) host read source).finished = true
  /-- It pauses for what it awaits, in this order, and for nothing else. -/
  paced : Log.Paced (i.awaits label host read source)
    (i.run label (.polled none) host read source).log
  /-- It is pending as often as all that it awaits, taken together. -/
  pending : (i.run label (.polled none) host read source).log.count .pending =
    ((i.awaits label host read source).map Awaited.polls).sum
  /-- However it is carried to its end, it tells of these pauses, and of no other ones. -/
  pauses : ∀ mode, (i.run label mode host read source).finished = true →
    (i.run label mode host read source).log.pauses =
      (i.awaits label host read source).flatMap Awaited.pauses
  /-- If it is dropped after some polls, it has done what it would have done up to that pending
  poll. -/
  dropped : ∀ n, (i.run label (.polled (some n)) host read source).log =
    (i.run label (.polled none) host read source).log.untilPending n
  /-- With a limit it comes to its end if it is polled more often than it is pending. -/
  ended : ∀ n, (i.run label (.polled (some n)) host read source).finished = true ↔
    ((i.awaits label host read source).map Awaited.polls).sum < n

section Ended

variable {i label host read} {mode : Mode} {text : String} {source : Source}

/-- A run that has come to its end has done what performing its cues does. -/
theorem runCues_of_finished {cues : List Cue} (plain : cues.all Cue.isPlain = true)
    (finished : (i.runCues label mode host cues).finished = true) :
    (i.runCues label mode host cues).log.unpolled =
        (({ host } : Stage σ).complete i.cast label cues).1 ∧
      (i.runCues label mode host cues).host =
        (({ host } : Stage σ).complete i.cast label cues).2.host := by
  have unpolled := Stage.unpolled_complete { host } i.cast label plain
  obtain ⟨rest, same, ended⟩ := i.unpolled_runCues label mode host cues
  rw [ended finished, List.append_nil, unpolled] at same
  refine ⟨same, ?_⟩
  cases mode with
  | blocking => rfl
  | polled polls =>
      obtain ⟨-, stage⟩ :=
        Session.drive_finish { stage := { host }, todo := cues } i.cast label polls
      have last := (Bool.and_eq_true_iff.mp finished).1
      rw [Session.finish_of_isFinished last] at stage
      exact congrArg Stage.host stage

/-- A run of a text that has come to its end has done what performing its cues does. -/
theorem complete_of_finished (finished : (i.runText label mode host text).finished = true) :
    (i.runText label mode host text).log.unpolled =
        (({ host } : Stage σ).complete i.cast label (i.cues label text)).1 ∧
      (i.runText label mode host text).host =
        (({ host } : Stage σ).complete i.cast label (i.cues label text)).2.host :=
  runCues_of_finished (i.plain_cues label text) finished

/-- The polls and the pauses of a run, from what it awaits. -/
theorem IsPaced.of_awaits (paced : i.IsPaced label host read source)
    {awaited : List (Nat × List Trace)}
    (same : (i.awaits label host read source).map (fun a => (a.polls, a.pauses)) = awaited) :
    (i.run label (.polled none) host read source).log.count .pending =
        (awaited.map Prod.fst).sum ∧
      ∀ mode, (i.run label mode host read source).finished = true →
        (i.run label mode host read source).log.pauses = (awaited.map Prod.snd).flatten := by
  subst same
  constructor
  · rw [paced.pending, List.map_map]
    rfl
  · intro mode finished
    rw [paced.pauses mode finished, List.map_map]
    rfl

end Ended

theorem isPaced_text (text : String) : i.IsPaced label host read (.text text) := by
  have plain : (i.cues label text).all Cue.isPlain = true := i.plain_cues label text
  have paced : Log.Paced (i.awaits label host read (.text text))
      (i.runText label (.polled none) host text).log := by
    have driven := Session.drive_eq_paced { stage := { host }, todo := i.cues label text }
      i.cast label
    have unfailed : ({ host } : Stage σ).failed = false := rfl
    have awaited := Stage.awaits_eq unfailed i.cast label (i.cues label text)
    rw [cues, Walk.demands_cues] at awaited
    change Log.Paced (i.cast.awaits label host (Itinerary.demands label (i.script text)))
      (Session.drive _ i.cast label none).1
    rw [driven, script, ← awaited]
    exact Stage.paced_paced plain
  have pending := paced.count_pending
  have whole : (i.runText label (.polled none) host text).finished = true :=
    (i.finished_runCues label host _).2
  constructor
  case finished => exact whole
  case paced => exact paced
  case pending => exact pending
  case pauses =>
    intro mode finished
    have finished : (i.runText label mode host text).finished = true := finished
    have same : (i.runText label mode host text).log.unpolled =
        (i.runText label (.polled none) host text).log.unpolled := by
      rw [(complete_of_finished finished).1, (complete_of_finished whole).1]
    rw [run, ← Log.pauses_unpolled, same, Log.pauses_unpolled]
    exact paced.pauses_eq
  case dropped =>
    intro n
    exact Session.drive_some { stage := { host }, todo := i.cues label text } i.cast label plain n
  case ended =>
    intro n
    rw [← pending]
    have ended := Session.isFinished_drive_some { stage := { host }, todo := i.cues label text }
      i.cast label plain n
    simpa [run, runText, runCues] using ended

section Paths

variable {mode : Mode} {read : String → Except String String} {path : String}

theorem isBegun_zero : isBegun (.polled (some 0)) = false := rfl

theorem isBegun_some (n : Nat) : isBegun (.polled (some (n + 1))) = true := rfl

theorem isBegun_none : isBegun (.polled none) = true := rfl

theorem run_path_of_not_begun (read : String → Except String String) (path : String)
    (idle : isBegun mode = false) :
    i.run label mode host read (.path path) =
      { path := Path.resolve path, log := [], finished := false, host } := by
  rw [run, runPath, idle]
  rfl

theorem isBegun_of_finished
    (finished : (i.run label mode host read (.path path)).finished = true) :
    isBegun mode = true := by
  by_contra idle
  rw [i.run_path_of_not_begun label host read path (Bool.eq_false_iff.mpr idle)] at finished
  cases finished

theorem run_path_of_error (begun : isBegun mode = true) {cause : String}
    (unreadable : read (Path.resolve path) = .error cause) :
    i.run label mode host read (.path path) =
      { path := Path.resolve path
        log := [.wrote (.fault "" (.unreadable (Path.resolve path) cause)), .told (.finished false)]
        finished := true
        host } := by
  rw [run, runPath, begun, Script.load_resolve, Script.load_of_error unreadable]
  rfl

/-- A readable file is run like its text, and at the end its verdict is told. -/
theorem run_path_of_ok (begun : isBegun mode = true) {text : String}
    (readable : read (Path.resolve path) = .ok text) :
    i.run label mode host read (.path path) =
      { path := Path.resolve path
        log := (i.run label mode host read (.text text)).log ++
          if (i.run label mode host read (.text text)).finished then
            [.told (.finished !(i.run label mode host read (.text text)).log.isFailed)]
          else []
        finished := (i.run label mode host read (.text text)).finished
        host := (i.run label mode host read (.text text)).host } := by
  simp only [run, runPath, begun, Script.load_resolve, Script.load_of_ok readable]
  rfl

end Paths

theorem isPaced_path_of_error {path cause : String}
    (unreadable : read (Path.resolve path) = .error cause) :
    i.IsPaced label host read (.path path) := by
  have nothing : i.awaits label host read (.path path) = [] := by
    rw [awaits, unreadable]
  have whole := i.run_path_of_error label host isBegun_none unreadable
  have limited (n : Nat) := i.run_path_of_error label host (isBegun_some n) unreadable
  have dropped := i.run_path_of_not_begun label host read path isBegun_zero
  constructor
  case finished => rw [whole]
  case paced =>
    rw [whole, nothing]
    exact .event rfl (.event rfl .nil)
  case pending =>
    rw [whole, nothing]
    rfl
  case pauses =>
    intro mode finished
    have begun := i.isBegun_of_finished label host finished
    rw [i.run_path_of_error label host begun unreadable, nothing]
    rfl
  case dropped =>
    rintro (_ | n)
    · rw [dropped, Log.untilPending_zero]
    · rw [limited, whole]
      rfl
  case ended =>
    rintro (_ | n)
    · simp [dropped]
    · simp [limited, nothing]

theorem isPaced_path_of_ok {path text : String} (readable : read (Path.resolve path) = .ok text) :
    i.IsPaced label host read (.path path) := by
  have textual := i.isPaced_text label host read text
  have same : i.awaits label host read (.path path) = i.awaits label host read (.text text) := by
    simp only [awaits, readable]
  have whole := i.run_path_of_ok label host isBegun_none readable
  have limited (n : Nat) := i.run_path_of_ok label host (isBegun_some n) readable
  have dropped := i.run_path_of_not_begun label host read path isBegun_zero
  rw [textual.finished, if_pos rfl] at whole
  constructor
  case finished => rw [whole]
  case paced =>
    rw [whole, same, ← List.append_nil (i.awaits label host read _)]
    exact textual.paced.append (.event rfl .nil)
  case pending =>
    rw [whole, same, ← textual.pending, List.count_append]
    rfl
  case pauses =>
    intro mode finished
    have begun := i.isBegun_of_finished label host finished
    rw [i.run_path_of_ok label host begun readable] at finished ⊢
    rw [Log.pauses_append, if_pos finished, textual.pauses mode finished, same]
    exact List.append_nil _
  case dropped =>
    rintro (_ | n)
    · rw [dropped, Log.untilPending_zero]
    · have ended := textual.ended (n + 1)
      rw [← textual.pending] at ended
      -- The verdict is told in a dropped run only if there was nothing left to cut off.
      rw [limited, whole, Log.untilPending_append_singleton rfl]
      by_cases few :
          (i.run label (.polled none) host read (.text text)).log.count .pending < n + 1
      · rw [if_pos (ended.mpr few), if_pos few, textual.dropped, Log.untilPending_of_lt few]
      · rw [if_neg fun complete => few (ended.mp complete), if_neg few, textual.dropped,
          List.append_nil]
  case ended =>
    rintro (_ | n)
    · simp [dropped]
    · rw [limited, same]
      exact textual.ended (n + 1)

/-- A run of a source is pending for what it awaits, and for nothing else. -/
theorem isPaced (source : Source) : i.IsPaced label host read source := by
  cases source with
  | text text => exact i.isPaced_text label host read text
  | path path =>
      cases hread : read (Path.resolve path) with
      | error cause => exact i.isPaced_path_of_error label host read hread
      | ok text => exact i.isPaced_path_of_ok label host read hread

end Interpreter

end Storyline
