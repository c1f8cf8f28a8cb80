import Storyline.Proofs.Demands
import Storyline.Proofs.Pauses

/-!
# What a run has to wait for

What a run has to wait for is laid down by the demands of its script and by its cast: the signals
that the steps return and the answers of the prompt, in the order of the demands, up to the first
demand that is not met (`Cast.awaits`). This is read off the definitions and the prompt alone.
Performing the cues of a walk waits for just that (`Stage.awaits_eq`).
-/

namespace Storyline

variable {σ : Type}

/-- What is awaited if an attempt comes out so. -/
def Completion.awaited? (attempt : Attempt) : Completion → Option Awaited
  | now _ => none
  | later polls verdict => some { attempt, polls, outcome := .signal verdict }

namespace Cast

/-- What is awaited for a demand, and the host that is left if the demand is met. -/
def meet (cast : Cast σ) (label : Label) (host : σ) : Demand → Option Awaited × Option σ
  | .flaw _ => (none, none)
  | .attempt a =>
      if a.statement.kind = .ask then
        match cast.prompt with
        | none => (none, none)
        | some prompt =>
            let (answer, next) := prompt.ask a.text host
            (some { attempt := a, polls := answer.polls, outcome := .answer answer.confirmed },
              if answer.confirmed then some next else none)
      else
        match Definition.find? cast.definitions a.text with
        | none => (none, none)
        | some found =>
            let (reply, next) := found.definition.call (found.args label a) host
            (reply.completion.awaited? a,
              if reply.completion.verdict = .done then some next else none)

/-- What is awaited for some demands, up to the first one that is not met. -/
def awaits (cast : Cast σ) (label : Label) (host : σ) : List Demand → List Awaited
  | [] => []
  | demand :: demands =>
      (cast.meet label host demand).1.toList ++
        match (cast.meet label host demand).2 with
        | none => []
        | some next => cast.awaits label next demands

end Cast

/-! ## Performing waits for this -/

namespace Stage

variable {stage : Stage σ} {cast : Cast σ} {label : Label} {cues : List Cue}

/-- The stage that a demand leads to: there is a fault unless it is met. -/
def MetBy (next? : Option σ) (last : Stage σ) : Prop :=
  match next? with
  | none => last.failed = true
  | some next => last = { host := next }

theorem metBy_judge (host : σ) (indent : String) (verdict : Verdict) :
    MetBy (if verdict = .done then some host else none)
      (({ host } : Stage σ).judge indent verdict).2 := by
  cases verdict <;> rfl

/-- An attempt is made as the cast says. -/
theorem meet_attempt (unfailed : stage.failed = false) (cast : Cast σ) (label : Label)
    (a : Attempt) :
    (stage.begin cast label (.attempt a)).awaited =
        (cast.meet label stage.host (.attempt a)).1 ∧
      MetBy (cast.meet label stage.host (.attempt a)).2
        (stage.perform cast label (.attempt a)).2 := by
  obtain ⟨host, failed⟩ := stage
  subst unfailed
  rw [perform_eq_finish]
  have attempts := attempts_begin { host } cast label a
  generalize ({ host } : Stage σ).begin cast label (.attempt a) = begun at attempts ⊢
  cases attempts with
  | idle failed => cases failed
  | unprompted _ kind nobody =>
      have met : cast.meet label host (.attempt a) = (none, none) := by
        simp only [Cast.meet, if_pos kind, nobody]
      rw [met]
      exact ⟨rfl, rfl⟩
  | unmatched _ kind none_found =>
      have met : cast.meet label host (.attempt a) = (none, none) := by
        simp only [Cast.meet, if_neg kind, none_found]
      rw [met]
      exact ⟨rfl, rfl⟩
  | @asked prompt answer next _ kind there asked =>
      have met : cast.meet label host (.attempt a) =
          (some { attempt := a, polls := answer.polls, outcome := .answer answer.confirmed },
            if answer.confirmed then some next else none) := by
        simp only [Cast.meet, if_pos kind, there, asked]
      rw [met]
      obtain ⟨polls, _ | _⟩ := answer <;> exact ⟨rfl, rfl⟩
  | @replied found reply next verdict _ kind first called now =>
      have handed : found.definition.call (found.args label a) host = (reply, next) := called
      have met : cast.meet label host (.attempt a) =
          (none, if verdict = .done then some next else none) := by
        simp only [Cast.meet, if_neg kind, first, handed, now]
        rfl
      rw [met]
      exact ⟨rfl, metBy_judge next _ verdict⟩
  | @suspended found reply next polls verdict _ kind first called later =>
      have handed : found.definition.call (found.args label a) host = (reply, next) := called
      have met : cast.meet label host (.attempt a) =
          (some { attempt := a, polls, outcome := .signal verdict },
            if verdict = .done then some next else none) := by
        simp only [Cast.meet, if_neg kind, first, handed, later]
        rfl
      rw [met]
      exact ⟨rfl, metBy_judge next _ verdict⟩

/-- After a fault nothing is awaited. -/
theorem awaits_of_failed (failed : stage.failed = true) (cast : Cast σ) (label : Label)
    (cues : List Cue) : stage.awaits cast label cues = [] := by
  induction cues generalizing stage with
  | nil => rfl
  | cons cue cues ih =>
      rw [awaits, List.append_eq_nil_iff]
      cases cue with
      | visit | write | tell => exact ⟨rfl, ih failed⟩
      | flaw => exact ⟨rfl, ih rfl⟩
      | attempt a =>
          have idle : stage.begin cast label (.attempt a) = { stage } := by
            rw [begin, if_pos failed]
          rw [perform_eq_finish, idle]
          exact ⟨rfl, ih failed⟩

/-- To perform cues is to wait for what their demands ask of the cast. -/
theorem awaits_eq (unfailed : stage.failed = false) (cast : Cast σ) (label : Label)
    (cues : List Cue) :
    stage.awaits cast label cues =
      cast.awaits label stage.host (cues.filterMap Cue.demand?) := by
  induction cues generalizing stage with
  | nil => rfl
  | cons cue cues ih =>
      cases cue with
      | visit | write | tell => exact ih unfailed
      | flaw => exact awaits_of_failed rfl cast label cues
      | attempt a =>
          obtain ⟨awaited, met⟩ := meet_attempt unfailed cast label a
          have asked : (Cue.attempt a :: cues).filterMap Cue.demand? =
              .attempt a :: cues.filterMap Cue.demand? := rfl
          rw [awaits, awaited, asked, Cast.awaits]
          congr 1
          generalize (cast.meet label stage.host (.attempt a)).2 = next? at met
          cases next? with
          | none => exact awaits_of_failed met cast label cues
          | some next =>
              have stage_eq : (stage.perform cast label (.attempt a)).2 = { host := next } := met
              rw [stage_eq]
              exact ih rfl

end Stage

end Storyline
